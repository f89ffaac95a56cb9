import Outliner.Json.Canonical

/-!
Canonical forms. Sorting adds no members, and members with distinct keys are only reordered, at every
depth. A canonical value is its own canonical form.
-/
set_option autoImplicit false

namespace Outliner.Json

theorem canonicalItems_eq_map (items : List Json) : canonicalItems items = items.map canonical := by
  induction items with
  | nil => rfl
  | cons item rest ih => rw [canonicalItems, ih, List.map_cons]

theorem canonicalMembers_eq_map (members : List (String × Json)) :
    canonicalMembers members = members.map fun member => (member.1, member.2.canonical) := by
  induction members with
  | nil => rfl
  | cons member rest ih => rw [canonicalMembers, ih, List.map_cons]

private theorem mem_insertMember {key : String} {value : Json} {members : List (String × Json)}
    {member : String × Json} (inside : member ∈ insertMember key value members) :
    member = (key, value) ∨ member ∈ members := by
  induction members with
  | nil => exact .inl (List.mem_singleton.mp inside)
  | cons first rest ih =>
    rw [insertMember] at inside
    split at inside
    · exact List.mem_cons.mp inside
    · split at inside
      · exact (List.mem_cons.mp inside).imp_right (List.mem_cons_of_mem first)
      · rcases List.mem_cons.mp inside with rfl | inside
        · exact .inr List.mem_cons_self
        · exact (ih inside).imp_right (List.mem_cons_of_mem first)

private theorem mem_foldl_insertMember {members sorted : List (String × Json)}
    {member : String × Json}
    (inside : member ∈ members.foldl (fun sorted member => insertMember member.1 member.2 sorted)
      sorted) : member ∈ members ∨ member ∈ sorted := by
  induction members generalizing sorted with
  | nil => exact .inr inside
  | cons first rest ih =>
    rcases ih inside with inside | inside
    · exact .inl (List.mem_cons_of_mem first inside)
    · rcases mem_insertMember inside with rfl | inside
      · exact .inl List.mem_cons_self
      · exact .inr inside

theorem mem_of_mem_sortMembers {members : List (String × Json)} {member : String × Json}
    (inside : member ∈ sortMembers members) : member ∈ members :=
  (mem_foldl_insertMember inside).resolve_right List.not_mem_nil

private theorem perm_insertMember {key : String} (value : Json) {members : List (String × Json)}
    (fresh : key ∉ members.map (·.1)) :
    (insertMember key value members).Perm ((key, value) :: members) := by
  induction members with
  | nil => exact List.Perm.refl _
  | cons member rest ih =>
    obtain ⟨other, fresh⟩ := List.ne_and_not_mem_of_not_mem_cons fresh
    rw [insertMember]
    by_cases below : key < member.1
    · rw [if_pos below]
    · rw [if_neg below, if_neg other]
      exact ((ih fresh).cons member).trans (List.Perm.swap _ _ _)

private theorem perm_foldl_insertMember {members sorted : List (String × Json)}
    (nodup : ((members ++ sorted).map (·.1)).Nodup) :
    (members.foldl (fun sorted member => insertMember member.1 member.2 sorted) sorted).Perm
      (members ++ sorted) := by
  induction members generalizing sorted with
  | nil => exact List.Perm.refl _
  | cons member rest ih =>
    -- The member is taken from the front of the one list into the other.
    have moved : (rest ++ member :: sorted).Perm (member :: rest ++ sorted) := List.perm_middle
    have fresh : member.1 ∉ sorted.map (·.1) := by
      intro repeated
      obtain ⟨other, inside, same⟩ := List.mem_map.mp repeated
      exact (List.nodup_cons.mp nodup).1
        (List.mem_map.mpr ⟨other, List.mem_append_right rest inside, same⟩)
    have inserted := (perm_insertMember member.2 fresh).append_left rest
    refine (ih ?_).trans (inserted.trans moved)
    exact ((inserted.trans moved).map _).nodup_iff.mpr nodup

theorem perm_sortMembers {members : List (String × Json)} (nodup : (members.map (·.1)).Nodup) :
    (sortMembers members).Perm members := by
  have distinct : (List.map Prod.fst (members ++ [])).Nodup := by rwa [List.append_nil]
  have sorted := perm_foldl_insertMember distinct
  rwa [List.append_nil] at sorted

mutual

/-- The keys of every object within the value are distinct. -/
def DistinctKeys : Json → Prop
  | .arr items => DistinctKeysItems items
  | .obj members => (members.map (·.1)).Nodup ∧ DistinctKeysMembers members
  | _ => True

def DistinctKeysItems : List Json → Prop
  | [] => True
  | item :: rest => item.DistinctKeys ∧ DistinctKeysItems rest

def DistinctKeysMembers : List (String × Json) → Prop
  | [] => True
  | (_, value) :: rest => value.DistinctKeys ∧ DistinctKeysMembers rest

end

theorem distinctKeysItems_iff {items : List Json} :
    DistinctKeysItems items ↔ ∀ item ∈ items, item.DistinctKeys := by
  induction items with
  | nil => simp [DistinctKeysItems]
  | cons item rest ih => simp [DistinctKeysItems, ih]

theorem distinctKeysMembers_iff {members : List (String × Json)} :
    DistinctKeysMembers members ↔ ∀ member ∈ members, member.2.DistinctKeys := by
  induction members with
  | nil => simp [DistinctKeysMembers]
  | cons member rest ih => simp [DistinctKeysMembers, ih]

mutual

/-- The second value is the first one, with the members of each object maybe in another order. -/
def Reordered : Json → Json → Prop
  | .arr items, other => ∃ others, other = .arr others ∧ ReorderedItems items others
  | .obj members, other => ∃ moved others, other = .obj others ∧ ReorderedMembers members moved ∧
      moved.Perm others
  | value, other => other = value

def ReorderedItems : List Json → List Json → Prop
  | [], others => others = []
  | item :: rest, others => ∃ first more, others = first :: more ∧ item.Reordered first ∧
      ReorderedItems rest more

def ReorderedMembers : List (String × Json) → List (String × Json) → Prop
  | [], others => others = []
  | (key, value) :: rest, others => ∃ first more, others = (key, first) :: more ∧
      value.Reordered first ∧ ReorderedMembers rest more

end

mutual

theorem reordered_canonical : (value : Json) → value.DistinctKeys → value.Reordered value.canonical
  | .null, _ | .bool _, _ | .num _, _ | .str _, _ => rfl
  | .arr items, distinct => ⟨_, rfl, reordered_canonicalItems items distinct⟩
  | .obj members, distinct => by
    refine ⟨_, _, rfl, reordered_canonicalMembers members distinct.2, (perm_sortMembers ?_).symm⟩
    rw [canonicalMembers_eq_map, List.map_map]
    exact distinct.1

private theorem reordered_canonicalItems : (items : List Json) → DistinctKeysItems items →
    ReorderedItems items (canonicalItems items)
  | [], _ => rfl
  | item :: rest, distinct =>
    ⟨_, _, rfl, reordered_canonical item distinct.1, reordered_canonicalItems rest distinct.2⟩

private theorem reordered_canonicalMembers : (members : List (String × Json)) → DistinctKeysMembers members →
    ReorderedMembers members (canonicalMembers members)
  | [], _ => rfl
  | (_, value) :: rest, distinct =>
    ⟨_, _, rfl, reordered_canonical value distinct.1, reordered_canonicalMembers rest distinct.2⟩

end

private theorem insertMember_of_above {key : String} (value : Json) {members : List (String × Json)}
    (above : ∀ member ∈ members, member.1 < key) :
    insertMember key value members = members ++ [(key, value)] := by
  induction members with
  | nil => rfl
  | cons member rest ih =>
    have less : member.1 < key := above member List.mem_cons_self
    rw [insertMember, if_neg (Std.not_gt_of_lt less), if_neg (Std.ne_of_lt less).symm]
    rw [ih fun other inside => above other (List.mem_cons_of_mem _ inside)]
    rfl

private theorem foldl_insertMember_of_ascending {members sorted : List (String × Json)}
    (ascending : Ascending (sorted ++ members)) :
    members.foldl (fun sorted member => insertMember member.1 member.2 sorted) sorted =
      sorted ++ members := by
  induction members generalizing sorted with
  | nil => rw [List.append_nil]; rfl
  | cons member rest ih =>
    have above : ∀ other ∈ sorted, other.1 < member.1 := by
      intro other inside
      rw [Ascending, List.map_append, List.pairwise_append] at ascending
      exact ascending.2.2 other.1 (List.mem_map_of_mem inside) member.1 List.mem_cons_self
    rw [List.foldl_cons, insertMember_of_above member.2 above, ih (by simpa using ascending)]
    simp

private theorem sortMembers_of_ascending {members : List (String × Json)} (ascending : Ascending members) :
    sortMembers members = members :=
  foldl_insertMember_of_ascending ascending

mutual

theorem canonical_of_canonical : (value : Json) → value.Canonical → value.canonical = value
  | .null, _ | .bool _, _ | .num _, _ | .str _, _ => rfl
  | .arr items, canonical => by rw [Json.canonical, canonicalItems_of_canonical items canonical]
  | .obj members, canonical => by
    rw [Json.canonical, canonicalMembers_of_canonical members canonical.2,
      sortMembers_of_ascending canonical.1]

private theorem canonicalItems_of_canonical : (items : List Json) → CanonicalItems items →
    canonicalItems items = items
  | [], _ => rfl
  | item :: rest, canonical => by
    rw [canonicalItems, canonical_of_canonical item canonical.1,
      canonicalItems_of_canonical rest canonical.2]

private theorem canonicalMembers_of_canonical : (members : List (String × Json)) →
    CanonicalMembers members → canonicalMembers members = members
  | [], _ => rfl
  | (_, value) :: rest, canonical => by
    rw [canonicalMembers, canonical_of_canonical value canonical.1,
      canonicalMembers_of_canonical rest canonical.2]

end

end Outliner.Json
