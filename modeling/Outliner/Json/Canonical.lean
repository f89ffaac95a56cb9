import Outliner.Json.Value

/-!
Canonical values: the keys of every object ascend strictly, so that no key is repeated. Every value
has a canonical form, in which the last of several members with the same key stays.
-/
set_option autoImplicit false

namespace Outliner.Json

def Ascending (members : List (String × Json)) : Prop :=
  (members.map (·.1)).Pairwise (· < ·)

mutual

/-- The keys of every object within the value ascend strictly. -/
def Canonical : Json → Prop
  | .arr items => CanonicalItems items
  | .obj members => Ascending members ∧ CanonicalMembers members
  | _ => True

def CanonicalItems : List Json → Prop
  | [] => True
  | item :: rest => item.Canonical ∧ CanonicalItems rest

def CanonicalMembers : List (String × Json) → Prop
  | [] => True
  | (_, value) :: rest => value.Canonical ∧ CanonicalMembers rest

end

/-- Puts a member at its place among members with ascending keys, in the place of a member with the
same key if there is one. -/
def insertMember (key : String) (value : Json) : List (String × Json) → List (String × Json)
  | [] => [(key, value)]
  | (k, v) :: rest =>
    if key < k then (key, value) :: (k, v) :: rest
    else if key = k then (key, value) :: rest
    else (k, v) :: insertMember key value rest

/-- Brings members into ascending order; of members with the same key the last one stays. -/
def sortMembers (members : List (String × Json)) : List (String × Json) :=
  members.foldl (fun sorted member => insertMember member.1 member.2 sorted) []

mutual

/-- The canonical form: the members of every object within the value in ascending order, and of
members with the same key the last one. -/
def canonical : Json → Json
  | .arr items => .arr (canonicalItems items)
  | .obj members => .obj (sortMembers (canonicalMembers members))
  | value => value

def canonicalItems : List Json → List Json
  | [] => []
  | item :: rest => item.canonical :: canonicalItems rest

def canonicalMembers : List (String × Json) → List (String × Json)
  | [] => []
  | (key, value) :: rest => (key, value.canonical) :: canonicalMembers rest

end

private theorem keys_insertMember {key : String} {value : Json} {members : List (String × Json)} {k : String}
    (h : k ∈ (insertMember key value members).map (·.1)) : k = key ∨ k ∈ members.map (·.1) := by
  induction members with
  | nil => simpa [insertMember] using h
  | cons member rest ih =>
    obtain ⟨l, v⟩ := member
    simp only [insertMember] at h
    split at h
    · simpa using h
    · split at h
      · rename_i equal
        simp only [List.map_cons, List.mem_cons] at h ⊢
        exact h.imp id Or.inr
      · simp only [List.map_cons, List.mem_cons] at h ⊢
        rcases h with h | h
        · exact .inr (.inl h)
        · exact (ih h).imp id Or.inr

theorem ascending_insertMember (key : String) (value : Json) {members : List (String × Json)}
    (h : Ascending members) : Ascending (insertMember key value members) := by
  induction members with
  | nil => simp [insertMember, Ascending]
  | cons member rest ih =>
    obtain ⟨l, v⟩ := member
    obtain ⟨above, ascending⟩ := List.pairwise_cons.mp h
    simp only [insertMember]
    split
    · rename_i below
      refine List.pairwise_cons.mpr ⟨?_, h⟩
      intro k hk
      rcases List.mem_cons.mp hk with rfl | hk
      · exact below
      · exact String.lt_trans below (above k hk)
    · rename_i notBelow
      split
      · rename_i equal
        exact List.pairwise_cons.mpr ⟨fun k hk => equal ▸ above k hk, ascending⟩
      · rename_i differs
        refine List.pairwise_cons.mpr ⟨?_, ih ascending⟩
        intro k hk
        rcases keys_insertMember hk with rfl | hk
        · exact Std.lt_of_le_of_ne (String.not_lt.mp notBelow) (Ne.symm differs)
        · exact above k hk

private theorem canonicalMembers_insertMember {key : String} {value : Json} (hv : value.Canonical)
    {members : List (String × Json)} (h : CanonicalMembers members) :
    CanonicalMembers (insertMember key value members) := by
  induction members with
  | nil => exact ⟨hv, trivial⟩
  | cons member rest ih =>
    obtain ⟨l, v⟩ := member
    simp only [insertMember]
    split
    · exact ⟨hv, h⟩
    · split
      · exact ⟨hv, h.2⟩
      · exact ⟨h.1, ih h.2⟩

private theorem canonical_foldl_insertMember {members sorted : List (String × Json)}
    (h : CanonicalMembers members) (hs : (Json.obj sorted).Canonical) :
    (Json.obj (members.foldl (fun sorted member => insertMember member.1 member.2 sorted)
      sorted)).Canonical := by
  induction members generalizing sorted with
  | nil => exact hs
  | cons member rest ih =>
    obtain ⟨key, value⟩ := member
    exact ih h.2 ⟨ascending_insertMember key value hs.1, canonicalMembers_insertMember h.1 hs.2⟩

mutual

theorem canonical_canonical : (value : Json) → value.canonical.Canonical
  | .null | .bool _ | .num _ | .str _ => trivial
  | .arr items => canonicalItems_canonicalItems items
  | .obj members =>
    canonical_foldl_insertMember (canonicalMembers_canonicalMembers members)
      ⟨List.Pairwise.nil, trivial⟩

private theorem canonicalItems_canonicalItems :
    (items : List Json) → CanonicalItems (canonicalItems items)
  | [] => trivial
  | item :: rest => ⟨canonical_canonical item, canonicalItems_canonicalItems rest⟩

private theorem canonicalMembers_canonicalMembers :
    (members : List (String × Json)) → CanonicalMembers (canonicalMembers members)
  | [] => trivial
  | (_, value) :: rest => ⟨canonical_canonical value, canonicalMembers_canonicalMembers rest⟩

end

end Outliner.Json
