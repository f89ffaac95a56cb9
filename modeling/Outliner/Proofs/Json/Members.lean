import Outliner.Json.Canonical

/-!
Members by their keys: the data under a key, in order, and the first of it. Sorting members leaves the last
of what stands under each key.
-/
set_option autoImplicit false

namespace Outliner.Json

variable {δ : Type}

theorem lookup_eq_some_iff_mem {entries : List (String × δ)} (nodup : (entries.map (·.1)).Nodup)
    {key : String} {data : δ} : entries.lookup key = some data ↔ (key, data) ∈ entries := by
  induction entries with
  | nil => simp
  | cons entry rest ih =>
    obtain ⟨name, first⟩ := entry
    obtain ⟨unrepeated, nodup⟩ := List.nodup_cons.mp nodup
    by_cases same : key = name
    · subst same
      have absent : (key, data) ∉ rest := fun member =>
        unrepeated (List.mem_map.mpr ⟨_, member, rfl⟩)
      simp [absent, eq_comm]
    · have differs : (key == name) = false := beq_eq_false_iff_ne.mpr same
      simp [List.lookup_cons, differs, same, ih nodup]

theorem lookup_map {ε : Type} (make : δ → ε) (entries : List (String × δ)) (key : String) :
    (entries.map fun entry => (entry.1, make entry.2)).lookup key = (entries.lookup key).map make := by
  induction entries with
  | nil => rfl
  | cons entry rest ih =>
    rw [List.map_cons, List.lookup_cons, List.lookup_cons, ih]
    cases key == entry.1 <;> rfl

theorem mem_of_lookup {entries : List (String × δ)} {key : String} {data : δ}
    (found : entries.lookup key = some data) : (key, data) ∈ entries := by
  obtain ⟨before, after, rfl, _⟩ := List.lookup_eq_some_iff.mp found
  simp

/-- The data under a key, in order. -/
def under (entries : List (String × δ)) (key : String) : List δ :=
  entries.filterMap fun entry => if entry.1 = key then some entry.2 else none

theorem under_cons_self (key : String) (data : δ) (rest : List (String × δ)) :
    under ((key, data) :: rest) key = data :: under rest key := by
  simp [under]

theorem under_cons_of_ne {key name : String} (other : key ≠ name) (data : δ) (rest : List (String × δ)) :
    under ((key, data) :: rest) name = under rest name := by
  simp [under, other]

private theorem under_append (entries others : List (String × δ)) (key : String) :
    under (entries ++ others) key = under entries key ++ under others key :=
  List.filterMap_append

theorem under_map {ε : Type} (make : δ → ε) (entries : List (String × δ)) (key : String) :
    under (entries.map fun entry => (entry.1, make entry.2)) key = (under entries key).map make := by
  induction entries with
  | nil => rfl
  | cons entry rest ih =>
    obtain ⟨name, data⟩ := entry
    rw [List.map_cons]
    by_cases same : name = key
    · subst same
      rw [under_cons_self, under_cons_self, ih, List.map_cons]
    · rw [under_cons_of_ne same, under_cons_of_ne same, ih]

theorem under_eq_nil_iff {entries : List (String × δ)} {key : String} :
    under entries key = [] ↔ key ∉ entries.map (·.1) := by
  induction entries with
  | nil => simp [under]
  | cons entry rest ih =>
    obtain ⟨name, data⟩ := entry
    by_cases same : name = key
    · subst same
      simp [under_cons_self]
    · simp [under_cons_of_ne same, ih, Ne.symm same]

theorem mem_under_iff {entries : List (String × δ)} {key : String} {data : δ} :
    data ∈ under entries key ↔ (key, data) ∈ entries := by
  simp only [under, List.mem_filterMap, Option.ite_none_right_eq_some, Option.some.injEq]
  constructor
  · rintro ⟨⟨_, _⟩, inside, rfl, rfl⟩
    exact inside
  · intro inside
    exact ⟨_, inside, rfl, rfl⟩

theorem lookup_eq_head?_under (entries : List (String × δ)) (key : String) :
    entries.lookup key = (under entries key).head? := by
  induction entries with
  | nil => rfl
  | cons entry rest ih =>
    obtain ⟨name, data⟩ := entry
    by_cases same : name = key
    · subst same
      simp [under_cons_self]
    · rw [List.lookup_cons, beq_eq_false_iff_ne.mpr (Ne.symm same), under_cons_of_ne same]
      exact ih

theorem length_under_le_one {entries : List (String × δ)} (nodup : (entries.map (·.1)).Nodup)
    (key : String) : (under entries key).length ≤ 1 := by
  induction entries with
  | nil => exact Nat.zero_le 1
  | cons entry rest ih =>
    obtain ⟨name, data⟩ := entry
    obtain ⟨unrepeated, nodup⟩ := List.nodup_cons.mp nodup
    by_cases same : name = key
    · subst same
      rw [under_cons_self, under_eq_nil_iff.mpr unrepeated]
      exact Nat.le_refl 1
    · rw [under_cons_of_ne same]
      exact ih nodup

theorem under_perm_of_foreign {entries own further : List (String × δ)} {key : String}
    (perm : entries.Perm (own ++ further)) (foreign : ∀ entry ∈ further, entry.1 ≠ key) :
    (under entries key).Perm (under own key) := by
  have alone : under further key = [] := by
    rw [under_eq_nil_iff]
    intro repeated
    obtain ⟨entry, inside, same⟩ := List.mem_map.mp repeated
    exact foreign entry inside same
  have all : (under entries key).Perm (under (own ++ further) key) := perm.filterMap _
  rwa [under_append, alone, List.append_nil] at all

theorem eq_of_perm_of_length_le_one {first second : List δ} (perm : first.Perm second)
    (single : second.length ≤ 1) : first = second := by
  match second, single with
  | [], _ => exact perm.eq_nil
  | [_], _ => exact List.perm_singleton.mp perm

theorem under_filter_of_ne {tag key : String} (other : tag ≠ key) (entries : List (String × δ)) :
    under (entries.filter fun entry => entry.1 ≠ tag) key = under entries key := by
  induction entries with
  | nil => rfl
  | cons entry rest ih =>
    obtain ⟨name, data⟩ := entry
    by_cases left_out : name = tag
    · subst left_out
      rw [List.filter_cons_of_neg (by simp), under_cons_of_ne other, ih]
    · rw [List.filter_cons_of_pos (by simpa using left_out)]
      by_cases same : name = key
      · subst same
        rw [under_cons_self, under_cons_self, ih]
      · rw [under_cons_of_ne same, under_cons_of_ne same, ih]

private theorem under_eq_nil_of_lt {key : String} {members : List (String × Json)}
    (above : ∀ name ∈ members.map (·.1), key < name) : under members key = [] :=
  under_eq_nil_iff.mpr fun inside => String.lt_irrefl key (above key inside)

private theorem under_insertMember_self (key : String) (value : Json) {members : List (String × Json)}
    (ascending : Ascending members) : under (insertMember key value members) key = [value] := by
  induction members with
  | nil => exact under_cons_self key value []
  | cons member rest ih =>
    obtain ⟨name, other⟩ := member
    obtain ⟨above, rest_ascending⟩ := List.pairwise_cons.mp ascending
    rw [insertMember]
    split
    · rename_i below
      have all_above : ∀ k ∈ ((name, other) :: rest).map (·.1), key < k :=
        List.forall_mem_cons.mpr ⟨below, fun k inside => String.lt_trans below (above k inside)⟩
      rw [under_cons_self, under_eq_nil_of_lt all_above]
    · split
      · rename_i same
        subst same
        rw [under_cons_self, under_eq_nil_of_lt above]
      · rename_i differs
        rw [under_cons_of_ne (Ne.symm differs)]
        exact ih rest_ascending

private theorem under_insertMember_of_ne {key name : String} (other : key ≠ name) (value : Json)
    (members : List (String × Json)) :
    under (insertMember key value members) name = under members name := by
  induction members with
  | nil => exact under_cons_of_ne other value []
  | cons member rest ih =>
    obtain ⟨first, found⟩ := member
    rw [insertMember]
    split
    · exact under_cons_of_ne other value _
    · split
      · rename_i same
        subst same
        rw [under_cons_of_ne other, under_cons_of_ne other]
      · by_cases same : first = name
        · subst same
          rw [under_cons_self, under_cons_self, ih]
        · rw [under_cons_of_ne same, under_cons_of_ne same, ih]

private theorem under_foldl_insertMember {members sorted : List (String × Json)}
    (ascending : Ascending sorted) (key : String) :
    under (members.foldl (fun sorted member => insertMember member.1 member.2 sorted) sorted) key =
      ((under members key).getLast?.map ([·])).getD (under sorted key) := by
  induction members generalizing sorted with
  | nil => rfl
  | cons member rest ih =>
    obtain ⟨name, value⟩ := member
    rw [List.foldl_cons, ih (ascending_insertMember name value ascending)]
    by_cases same : name = key
    · subst same
      rw [under_insertMember_self name value ascending, under_cons_self]
      rw [List.getLast?_cons]
      cases (under rest name).getLast? <;> rfl
    · rw [under_insertMember_of_ne same, under_cons_of_ne same]

theorem under_sortMembers (members : List (String × Json)) (key : String) :
    under (sortMembers members) key = (under members key).getLast?.toList := by
  rw [sortMembers, under_foldl_insertMember (show Ascending [] from List.Pairwise.nil)]
  cases (under members key).getLast? <;> rfl

end Outliner.Json
