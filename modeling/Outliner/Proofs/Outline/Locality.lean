import Outliner.Proofs.Outline.Faults

/-!
Locality: outlines and validations look at nothing but the nodes that the roots lead to.

Two snapshots with the same roots that agree on these nodes have the same outline and the same verdict,
whatever else they store. An outline does not look at the members of product types either.
-/
set_option autoImplicit false

namespace Outliner

open Relation (ReflTransGen)

namespace Node

variable {node other : Node}

private theorem shown_eq_of_withoutMembers (alike : node.withoutMembers = other.withoutMembers) :
    node.shown = other.shown := by
  rw [← children_withoutMembers, alike, children_withoutMembers]

private theorem entry_withoutMembers (id : NodeId) (node : Node) :
    node.withoutMembers.entry id = node.entry id := by
  cases node <;> rfl

private theorem entry_eq_of_withoutMembers (alike : node.withoutMembers = other.withoutMembers)
    (id : NodeId) : node.entry id = other.entry id := by
  rw [← entry_withoutMembers, alike, entry_withoutMembers]

private theorem unshown_withoutMembers (id : NodeId) (node : Node) :
    node.withoutMembers.unshown id = node.unshown id := by
  cases node <;> rfl

private theorem unshown_eq_of_withoutMembers (alike : node.withoutMembers = other.withoutMembers)
    (id : NodeId) : node.unshown id = other.unshown id := by
  rw [← unshown_withoutMembers, alike, unshown_withoutMembers]

end Node

namespace Snapshot

variable {first second : Snapshot}

/-- Both snapshots store a node under the id, the same one but for the members of a product type. -/
def StoreAlike (first second : Snapshot) (id : NodeId) : Prop :=
  ∃ node other, first.resolve id = .ok node ∧ second.resolve id = .ok other ∧
    node.withoutMembers = other.withoutMembers

private theorem trees_congr {ancestors ids : List NodeId}
    (same : ∀ id ∈ ids, first.tree ancestors id = second.tree ancestors id) :
    first.trees ancestors ids = second.trees ancestors ids := by
  induction ids with
  | nil => rw [trees, trees]
  | cons id rest ih =>
    obtain ⟨head, others⟩ := List.forall_mem_cons.mp same
    rw [trees, trees, head, ih others]

private theorem treesUnshown_congr {ancestors ids : List NodeId}
    (same : ∀ id ∈ ids, first.tree ancestors id = second.tree ancestors id ∧
      first.treeUnshown ancestors id = second.treeUnshown ancestors id) :
    first.treesUnshown ancestors ids = second.treesUnshown ancestors ids := by
  induction ids with
  | nil => rw [treesUnshown, treesUnshown]
  | cons id rest ih =>
    obtain ⟨⟨made, met⟩, others⟩ := List.forall_mem_cons.mp same
    rw [treesUnshown, treesUnshown, made, met, ih others]

/-- The tree of a node, and what cannot be shown in it, depend on nothing but the nodes that it leads
to. -/
theorem tree_congr (ancestors : List NodeId) (id : NodeId)
    (alike : ∀ x, ReflTransGen (first.Refers Node.shown) id x → first.StoreAlike second x) :
    first.tree ancestors id = second.tree ancestors id ∧
      first.treeUnshown ancestors id = second.treeUnshown ancestors id := by
  obtain ⟨node, other, resolved, resolved', same⟩ := alike id .refl
  by_cases closed : id ∈ ancestors
  · rw [tree_of_mem resolved closed, tree_of_mem resolved' closed, treeUnshown_of_mem closed,
      treeUnshown_of_mem closed]
    exact ⟨rfl, rfl⟩
  · -- Both go on with the same ids below the same ancestors.
    have shown : node.shown = other.shown := Node.shown_eq_of_withoutMembers same
    have below : ∀ child ∈ node.shown,
        first.tree (id :: ancestors) child = second.tree (id :: ancestors) child ∧
          first.treeUnshown (id :: ancestors) child = second.treeUnshown (id :: ancestors) child := by
      intro child member
      have refers : first.Refers Node.shown id child := ⟨node, resolved, member⟩
      exact tree_congr (id :: ancestors) child fun x leads => alike x (leads.head refers)
    have made := trees_congr fun child member => (below child member).1
    have met := treesUnshown_congr below
    constructor
    · rw [tree_of_fresh resolved closed, tree_of_fresh resolved' closed, ← shown, made,
        Node.entry_eq_of_withoutMembers same]
    · rw [treeUnshown_of_fresh resolved closed, treeUnshown_of_fresh resolved' closed, ← shown, met,
        Node.unshown_eq_of_withoutMembers same]
termination_by first.room ancestors.contains
decreasing_by exact room_cons_lt resolved closed

/-- Two snapshots with the same roots have the same outline, or none because of the same cycle, if they
store the same nodes, but for members of product types, wherever the references that are shown lead from
the roots. They have the same verdict if they store the same nodes wherever any references lead. -/
theorem project_eq_and_validate_eq (first second : Snapshot) (roots : first.roots = second.roots) :
    ((∀ id, first.Reachable Node.shown id → first.StoreAlike second id) →
      first.project = second.project ∧
        ∀ fault, first.project.result = .error fault → ∃ id, fault = .cycle id) ∧
    ((∀ id, first.Reachable Node.children id →
        ∃ node, first.resolve id = .ok node ∧ second.resolve id = .ok node) →
      first.validate = second.validate) := by
  refine ⟨fun alike => ⟨?_, fun fault failed => ?_⟩, fun alike => ?_⟩
  · have each : ∀ root ∈ first.roots, first.tree [] root = second.tree [] root ∧
        first.treeUnshown [] root = second.treeUnshown [] root := by
      intro root listed
      exact tree_congr [] root fun x leads => alike x ⟨root, listed, leads⟩
    have made := trees_congr fun root listed => (each root listed).1
    have met := treesUnshown_congr each
    rw [project_eq, project_eq, ← roots, made, met]
  · -- An id out of range would be one that the roots lead to.
    have verdict := first.map_project_eq_checkAll
    rw [failed] at verdict
    have bears := bears_of_checkAll verdict.symm
    cases fault with
    | cycle id => exact ⟨id, rfl⟩
    | outOfRange id count length =>
      obtain ⟨reachable, unresolved, _⟩ := bears
      obtain ⟨node, _, resolved, _⟩ := alike id reachable
      rw [resolved] at unresolved
      cases unresolved
  · rw [validate_eq_checkAll, validate_eq_checkAll, ← roots]
    refine checkAll_congr fun root listed => check_congr [] root fun x leads => ?_
    obtain ⟨node, resolved, resolved'⟩ := alike x ⟨root, listed, leads⟩
    rw [resolved, resolved']

/-- A module with a product type that has the module among its members. -/
def looped : Snapshot where
  roots := [⟨0, 0⟩]
  groups := #[#[.moduleDecl ⟨"core", [⟨0, 1⟩]⟩, .productTypeDecl ⟨default, "Pair", [⟨0, 0⟩]⟩]]

def loopedElsewhere : Snapshot where
  roots := [⟨0, 0⟩]
  groups := #[#[.moduleDecl ⟨"core", [⟨0, 1⟩]⟩, .productTypeDecl ⟨default, "Pair", [⟨8, 8⟩]⟩]]

def loopedAmongOthers : Snapshot where
  roots := [⟨0, 0⟩]
  groups := #[#[.moduleDecl ⟨"core", [⟨0, 1⟩]⟩, .productTypeDecl ⟨default, "Pair", [⟨0, 0⟩]⟩, .missing],
    #[.moduleDecl ⟨"spare", [⟨1, 0⟩, ⟨8, 8⟩]⟩]]

theorem project_eq_and_validate_eq_looped :
    (looped.project = loopedElsewhere.project ∧
      ∀ fault, looped.project.result = .error fault → ∃ id, fault = .cycle id) ∧
    looped.validate = loopedAmongOthers.validate := by
  have followed : ∀ id, looped.Reachable Node.children id → id ∈ [(⟨0, 0⟩ : NodeId), ⟨0, 1⟩] := by
    refine fun id => mem_of_reachable (by decide) ?_
    rintro x listed y ⟨node, resolved, member⟩
    simp only [List.mem_cons, List.not_mem_nil, or_false] at listed
    rcases listed with rfl | rfl
    · obtain rfl := Except.ok.inj resolved
      exact List.mem_cons_of_mem _ member
    · obtain rfl := Except.ok.inj resolved
      exact List.mem_cons.mpr (.inl (List.mem_singleton.mp member))
  refine ⟨(project_eq_and_validate_eq looped loopedElsewhere rfl).1 fun id reachable => ?_,
    (project_eq_and_validate_eq looped loopedAmongOthers rfl).2 fun id reachable => ?_⟩
  · have listed := followed id (reachable_of_fewer Node.shown_subset_children reachable)
    simp only [List.mem_cons, List.not_mem_nil, or_false] at listed
    rcases listed with rfl | rfl <;> exact ⟨_, _, rfl, rfl, rfl⟩
  · have listed := followed id reachable
    simp only [List.mem_cons, List.not_mem_nil, or_false] at listed
    rcases listed with rfl | rfl <;> exact ⟨_, rfl, rfl⟩

end Snapshot

end Outliner
