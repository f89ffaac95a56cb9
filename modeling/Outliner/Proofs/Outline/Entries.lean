import Mathlib.Logic.Relation
import Outliner.Proofs.Outline.Projection

/-!
Entries: what stands anywhere in the trees of an outline.

Every entry with a node is made from the stored node with that id. Every other entry groups the
parameters of a function, as the only entry right below that of the function. Both facts are carried up
from the trees below a node to the tree of the node. In preorder the trees list just the entries that stand
in them.
-/
set_option autoImplicit false

namespace Outliner

open Projection (parametersEntry)

namespace Entry

/-- The second entry is the first one, or stands below it at any depth. -/
def Contains : Entry → Entry → Prop :=
  Relation.ReflTransGen fun parent child => child ∈ parent.children

def StandsIn (trees : List Entry) (entry : Entry) : Prop :=
  ∃ tree ∈ trees, tree.Contains entry

private theorem contains_iff {tree entry : Entry} :
    tree.Contains entry ↔ tree = entry ∨ ∃ child ∈ tree.children, child.Contains entry :=
  Relation.ReflTransGen.cases_head_iff

theorem not_standsIn_nil {entry : Entry} : ¬ entry.StandsIn [] := by
  rintro ⟨tree, member, _⟩
  cases member

mutual

/-- All entries of a tree in preorder: the entry itself, and then the trees right below it from left to
right. -/
def preorder : Entry → List Entry
  | ⟨label, category, node, tooltip, diagnostic, children, actions⟩ =>
    ⟨label, category, node, tooltip, diagnostic, children, actions⟩ :: preorderAll children

def preorderAll : List Entry → List Entry
  | [] => []
  | entry :: rest => entry.preorder ++ preorderAll rest

end

theorem preorder_eq (entry : Entry) : entry.preorder = entry :: preorderAll entry.children := by
  cases entry
  rw [preorder]

mutual

theorem mem_preorder_iff {entry : Entry} : (tree : Entry) →
    (entry ∈ tree.preorder ↔ tree.Contains entry)
  | ⟨_, _, _, _, _, children, _⟩ => by
    rw [preorder_eq, List.mem_cons, contains_iff, mem_preorderAll_iff children, eq_comm]
    rfl

theorem mem_preorderAll_iff {entry : Entry} : (trees : List Entry) →
    (entry ∈ preorderAll trees ↔ entry.StandsIn trees)
  | [] => by
    rw [preorderAll]
    exact iff_of_false List.not_mem_nil not_standsIn_nil
  | tree :: rest => by
    rw [preorderAll, List.mem_append, mem_preorder_iff tree, mem_preorderAll_iff rest]
    exact (List.exists_mem_cons_iff (fun tree => tree.Contains entry) tree rest).symm

end

/-- What an entry of the outline of a snapshot is made from. -/
structure Faithful (snapshot : Snapshot) (entry : Entry) : Prop where
  ofNode : ∀ id, entry.node = some id →
    ∃ node children, snapshot.resolve id = .ok node ∧ entry = node.entry id children
  ofGrouping : entry.node = none → ∃ children, entry = parametersEntry.withChildren children
  grouped : ∀ child ∈ entry.children, child.node = none →
    entry.category = .function ∧ entry.children = [child]

/-- The entries without node in some trees are the groupings of parameters, and wherever one of them
stands, it is the only entry right below a function. -/
structure GroupParameters (trees : List Entry) : Prop where
  nodeless : ∀ entry, StandsIn trees entry → (entry.node = none ↔ entry.category = .parameters)
  label : ∀ entry, StandsIn trees entry → entry.node = none → entry.label = parametersLabel
  root : ∀ root ∈ trees, root.node ≠ none
  parent : ∀ parent, StandsIn trees parent → ∀ child ∈ parent.children, child.node = none →
    parent.category = .function ∧ parent.children = [child]

theorem GroupParameters.nil : GroupParameters [] where
  nodeless _ inside := absurd inside not_standsIn_nil
  label _ inside := absurd inside not_standsIn_nil
  root _ member := by cases member
  parent _ inside := absurd inside not_standsIn_nil

end Entry

namespace Node

private theorem category_entry_ne_parameters (id : NodeId) (node : Node) (children : List Entry) :
    (node.entry id children).category ≠ .parameters := by
  cases node <;> nofun

private theorem children_entry_cases (id : NodeId) (node : Node) (children : List Entry)
    (length : children.length = node.shown.length) :
    (node.entry id children).children = children ∨
      (node.entry id children).category = .function ∧
        (node.entry id children).children = [parametersEntry.withChildren children] := by
  have leaf : node.shown = [] → children = [] := by
    intro empty
    rw [empty] at length
    exact List.eq_nil_of_length_eq_zero length
  cases node with
  | moduleDecl | translationUnit => exact .inl rfl
  | functionDecl => exact .inr ⟨rfl, rfl⟩
  | productTypeDecl | parameterDecl | missing | unrecognized => exact .inl (leaf rfl).symm

end Node

namespace Snapshot

section

variable {snapshot : Snapshot} {id : NodeId} {node : Node} {children : List Entry}

private theorem faithful_entry (resolved : snapshot.resolve id = .ok node)
    (length : children.length = node.shown.length) (below : ∀ child ∈ children, child.node ≠ none) :
    (node.entry id children).Faithful snapshot where
  ofNode x same := by
    rw [node.node_entry, Option.some.injEq] at same
    subst same
    exact ⟨node, children, resolved, rfl⟩
  ofGrouping absent := by
    rw [node.node_entry] at absent
    cases absent
  grouped child member absent := by
    rcases node.children_entry_cases id children length with plain | ⟨category, grouping⟩
    · rw [plain] at member
      exact absurd absent (below child member)
    · rw [grouping, List.mem_singleton] at member
      subst member
      exact ⟨category, grouping⟩

private theorem faithful_grouping (below : ∀ child ∈ children, child.node ≠ none) :
    (parametersEntry.withChildren children).Faithful snapshot where
  ofNode _ same := by cases same
  ofGrouping _ := ⟨children, rfl⟩
  grouped child member absent := absurd absent (below child member)

private theorem faithful_of_below (resolved : snapshot.resolve id = .ok node)
    (length : children.length = node.shown.length)
    (below : ∀ child ∈ children, child.node ≠ none ∧
      ∀ entry, child.Contains entry → entry.Faithful snapshot)
    {entry : Entry} (inside : (node.entry id children).Contains entry) :
    entry.Faithful snapshot := by
  have nodes : ∀ child ∈ children, child.node ≠ none := fun child member => (below child member).1
  rcases Entry.contains_iff.mp inside with rfl | ⟨child, member, inside⟩
  · exact faithful_entry resolved length nodes
  rcases node.children_entry_cases id children length with plain | ⟨_, grouping⟩
  · rw [plain] at member
    exact (below child member).2 entry inside
  · rw [grouping, List.mem_singleton] at member
    subst member
    rcases Entry.contains_iff.mp inside with rfl | ⟨child, member, inside⟩
    · exact faithful_grouping nodes
    · exact (below child member).2 entry inside

end

private theorem faithful_of_tree {snapshot : Snapshot} {ancestors : List NodeId} {id : NodeId}
    {tree entry : Entry} (made : snapshot.tree ancestors id = .ok tree) (inside : tree.Contains entry) :
    entry.Faithful snapshot := by
  suffices ∀ entry, tree.Contains entry → entry.Faithful snapshot from this entry inside
  refine (tree_induction
    (motive := fun _ id tree => tree.node = some id ∧
      ∀ entry, tree.Contains entry → entry.Faithful snapshot) ?_ ancestors id tree made).2
  intro ancestors id node children resolved _ below
  refine ⟨node.node_entry id children, fun entry inside => ?_⟩
  refine faithful_of_below resolved below.length_eq.symm ?_ inside
  intro child member
  obtain ⟨x, _, same, faithful⟩ := exists_of_mem_right below member
  exact ⟨by simp [same], faithful⟩

theorem faithful_of_project {snapshot : Snapshot} {trees : List Entry} {entry : Entry}
    (made : snapshot.project.result = .ok trees) (inside : entry.StandsIn trees) :
    entry.Faithful snapshot := by
  rw [project_eq] at made
  obtain ⟨tree, member, inside⟩ := inside
  obtain ⟨root, _, made⟩ := exists_of_mem_right (trees_eq_ok_iff.mp made) member
  exact faithful_of_tree made inside

theorem groupParameters_of_project {snapshot : Snapshot} {trees : List Entry}
    (made : snapshot.project.result = .ok trees) : Entry.GroupParameters trees where
  nodeless entry inside := by
    have faithful := faithful_of_project made inside
    constructor
    · intro absent
      obtain ⟨children, rfl⟩ := faithful.ofGrouping absent
      rfl
    · intro category
      cases same : entry.node with
      | none => rfl
      | some id =>
        obtain ⟨node, children, _, rfl⟩ := faithful.ofNode id same
        exact absurd category (node.category_entry_ne_parameters id children)
  label entry inside absent := by
    obtain ⟨children, rfl⟩ := (faithful_of_project made inside).ofGrouping absent
    rfl
  root root member := by
    have same : root.node ∈ trees.map Entry.node := List.mem_map_of_mem member
    rw [map_node_of_project made] at same
    obtain ⟨id, _, same⟩ := List.mem_map.mp same
    simp [← same]
  parent parent inside := (faithful_of_project made inside).grouped

end Snapshot

end Outliner
