import Outliner.Proofs.Outline.Descent

/-!
Depth: the number of entries on a longest path from a tree down to an entry without children.

The walk that finds the depth keeps pending entries with their depths. However it chooses the next one, the
greatest depth met so far and the greatest depth that the pending trees reach give the same maximum after
every visit. Main statement: the depth of a tree is one more than the greatest depth right below it, and a
walk finds it in whatever order it visits the entries.
-/
set_option autoImplicit false

namespace Outliner.Entry

/-- The path leads down from the tree to an entry without children. -/
def IsBranch (tree : Entry) (path : List Entry) : Prop :=
  tree.LeadsDown path ∧ ∀ last ∈ path.getLast?, last.children = []

/-- A walk that has met a depth and visits the pending entries in any order, and the children of each of
them after it, ends with the result. -/
inductive Drains : Nat → List (Entry × Nat) → Nat → Prop
  | done (met : Nat) : Drains met [] met
  | visit {met depth result : Nat} {entry : Entry} {pending rest : List (Entry × Nat)}
      (chosen : pending.Perm ((entry, depth) :: rest))
      (later : Drains (max met depth) (atDepth (depth + 1) entry.children ++ rest) result) :
      Drains met pending result

private theorem leadsDown_cons_iff {tree child : Entry} {path : List Entry} :
    tree.LeadsDown (tree :: child :: path) ↔ child ∈ tree.children ∧ child.LeadsDown (child :: path) := by
  simp only [LeadsDown, List.head?_cons, true_and, List.isChain_cons_cons]

private theorem length_le_height {tree : Entry} {path : List Entry} (down : tree.LeadsDown path) :
    path.length ≤ tree.height := by
  obtain ⟨rest, rfl⟩ := List.head?_eq_some_iff.mp down.1
  induction rest generalizing tree with
  | nil =>
    rw [height_eq]
    exact Nat.le_add_left 1 _
  | cons child rest ih =>
    obtain ⟨below, down⟩ := leadsDown_cons_iff.mp down
    have shorter := ih down
    have lower : child.height ≤ heightAll tree.children :=
      heightAll_le_iff.mp (Nat.le_refl _) child below
    rw [height_eq]
    simp only [List.length_cons] at shorter ⊢
    omega

private theorem exists_height_eq_heightAll {entries : List Entry} (nonempty : entries ≠ []) :
    ∃ entry ∈ entries, entry.height = heightAll entries := by
  induction entries with
  | nil => exact absurd rfl nonempty
  | cons first rest ih =>
    by_cases last : rest = []
    · refine ⟨first, List.mem_cons_self, ?_⟩
      rw [last, heightAll, heightAll, Nat.max_zero]
    · obtain ⟨entry, member, highest⟩ := ih last
      rcases Nat.le_total first.height (heightAll rest) with lower | higher
      · refine ⟨entry, List.mem_cons_of_mem first member, ?_⟩
        rw [heightAll, Nat.max_eq_right lower, highest]
      · refine ⟨first, List.mem_cons_self, ?_⟩
        rw [heightAll, Nat.max_eq_left higher]

private theorem isBranch_singleton {tree : Entry} (childless : tree.children = []) :
    tree.IsBranch [tree] := by
  refine ⟨⟨rfl, List.isChain_singleton tree⟩, ?_⟩
  intro last same
  obtain rfl := Option.some.inj same
  exact childless

private theorem IsBranch.cons {tree child : Entry} {path : List Entry} (below : child ∈ tree.children)
    (branch : child.IsBranch path) : tree.IsBranch (tree :: path) := by
  obtain ⟨down, ends⟩ := branch
  obtain ⟨rest, rfl⟩ := List.head?_eq_some_iff.mp down.1
  refine ⟨leadsDown_cons_iff.mpr ⟨below, down⟩, ?_⟩
  rw [List.getLast?_cons_cons]
  exact ends

private theorem exists_branch (tree : Entry) : ∃ path, tree.IsBranch path ∧ path.length = tree.height := by
  by_cases childless : tree.children = []
  · refine ⟨[tree], isBranch_singleton childless, ?_⟩
    rw [height_eq, childless]
    rfl
  · obtain ⟨child, below, highest⟩ := exists_height_eq_heightAll childless
    have lower : child.height < tree.height := by
      rw [height_eq tree]
      omega
    obtain ⟨path, branch, long⟩ := exists_branch child
    refine ⟨tree :: path, branch.cons below, ?_⟩
    rw [List.length_cons, long, highest, height_eq tree]
termination_by tree.height

private theorem reach_perm {first second : List (Entry × Nat)} (same : first.Perm second) :
    reach first = reach second := by
  induction same with
  | nil => rfl
  | cons pair _ ih => rw [reach, reach, ih]
  | swap a b rest =>
    simp only [reach]
    omega
  | trans _ _ before behind => rw [before, behind]

private theorem eq_of_drains {met result : Nat} {pending : List (Entry × Nat)}
    (drains : Drains met pending result) : result = max met (reach pending) := by
  induction drains with
  | done met => simp [reach]
  | @visit met depth result entry pending rest chosen _ ih =>
    rw [ih, max_reach_visit, reach_perm chosen]

private theorem drains_deepest (met : Nat) (stack : List (Entry × Nat)) :
    Drains met stack (deepest met stack) := by
  fun_induction deepest met stack with
  | case1 met => exact .done met
  | case2 met entry depth rest ih => exact .visit (.refl _) ih

private theorem heightAll_eq_max (entries : List Entry) :
    heightAll entries = (entries.map depth).max?.getD 0 := by
  induction entries with
  | nil => rfl
  | cons entry rest ih =>
    rw [heightAll, ih, List.map_cons, List.max?_cons, depth_eq_height, Option.getD_some]
    cases (rest.map depth).max? with
    | none => exact Nat.max_zero _
    | some greatest => rfl

/-- The depth of a tree is one more than the greatest depth right below it, or one if there is nothing below
it. That is the number of entries on a longest path down to an entry without children, and a walk comes to
it in whatever order it visits the entries. -/
theorem depth_eq_one_add_max (tree : Entry) :
    tree.depth = 1 + (tree.children.map depth).max?.getD 0 ∧
    (∃ path, tree.IsBranch path ∧ path.length = tree.depth) ∧
    (∀ path, tree.IsBranch path → path.length ≤ tree.depth) ∧
    ∀ result, Drains 0 [(tree, 1)] result ↔ result = tree.depth := by
  refine ⟨?_, ?_, ?_, ?_⟩
  · rw [depth_eq_height, height_eq, heightAll_eq_max, Nat.add_comm]
  · rw [depth_eq_height]
    exact exists_branch tree
  · intro path branch
    rw [depth_eq_height]
    exact length_le_height branch.1
  · have found : Drains 0 [(tree, 1)] tree.depth := drains_deepest 0 [(tree, 1)]
    intro result
    constructor
    · intro drains
      rw [eq_of_drains drains, eq_of_drains found]
    · rintro rfl
      exact found

def lopsided : Entry :=
  { label := "top", category := .module, children := [path 0, path 1] }

theorem depth_lopsided :
    lopsided.IsBranch [lopsided, path 0] ∧ [lopsided, path 0].length ≤ lopsided.depth ∧
      lopsided.depth = 3 := by
  obtain ⟨recursive, _, longest, _⟩ := depth_eq_one_add_max lopsided
  have short : lopsided.IsBranch [lopsided, path 0] :=
    (isBranch_singleton rfl).cons List.mem_cons_self
  have depths : lopsided.children.map depth = [1, 2] := by
    simp [lopsided, depth_path]
  refine ⟨short, longest _ short, ?_⟩
  rw [recursive, depths]
  rfl

end Outliner.Entry
