import Outliner.Proofs.Outline.Projection
import Outliner.Proofs.Snapshot.Looks

/-!
Faults of outlines: making the tree of a node meets the fault that checking the node would meet, if the
check follows only what is shown.

Outlines follow all references but the members of product types. So a snapshot has an outline exactly if
it is valid once these members are left out, and the fault is the same in both. A valid snapshot always
has an outline, since fewer references cannot be worse. Whatever fault a validation or an outline reports,
the snapshot has it.
-/
set_option autoImplicit false

namespace Outliner

/-- The node, with no members if it is a product type. -/
def Node.withoutMembers : Node → Node
  | .productTypeDecl decl => .productTypeDecl { decl with members := [] }
  | node => node

theorem Node.children_withoutMembers (node : Node) : node.withoutMembers.children = node.shown := by
  cases node <;> rfl

theorem Node.shown_subset_children (node : Node) : node.shown ⊆ node.children := by
  intro id member
  cases node with
  | moduleDecl | translationUnit | functionDecl => exact member
  | productTypeDecl | parameterDecl | missing | unrecognized => cases member

namespace Snapshot

def withoutMembers (snapshot : Snapshot) : Snapshot :=
  { snapshot with groups := snapshot.groups.map fun group => group.map Node.withoutMembers }

private theorem resolve_withoutMembers (snapshot : Snapshot) (id : NodeId) :
    snapshot.withoutMembers.resolve id = (snapshot.resolve id).map Node.withoutMembers := by
  simp only [resolve, withoutMembers, Array.getElem?_map, Array.size_map]
  cases snapshot.groups[id.group.toNat]? with
  | none => rfl
  | some group =>
    simp only [Option.map_some, Array.getElem?_map, Array.size_map]
    cases group[id.offset.toNat]? <;> rfl

private theorem check_withoutMembers (snapshot : Snapshot) (path : List NodeId) (id : NodeId) :
    snapshot.withoutMembers.check Node.children path id = snapshot.check Node.shown path id := by
  symm
  refine check_congr path id fun x _ => ?_
  rw [resolve_withoutMembers]
  cases snapshot.resolve x with
  | error fault => rfl
  | ok node => exact congrArg Except.ok node.children_withoutMembers.symm

private theorem map_trees_eq_checkAll {snapshot : Snapshot} {path ids : List NodeId}
    (each : ∀ id ∈ ids,
      (snapshot.tree path id).map (fun _ => ()) = snapshot.check Node.shown path id) :
    (snapshot.trees path ids).map (fun _ => ()) = snapshot.checkAll Node.shown path ids := by
  induction ids with
  | nil =>
    rw [trees, checkAll]
    rfl
  | cons id rest ih =>
    obtain ⟨first, others⟩ := List.forall_mem_cons.mp each
    cases made : snapshot.tree path id with
    | error fault =>
      rw [made] at first
      rw [trees_cons_of_error made, checkAll_cons_of_error first.symm]
      rfl
    | ok entry =>
      rw [made] at first
      rw [trees_cons_of_ok made, checkAll_cons_of_ok first.symm, ← ih others]
      cases snapshot.trees path rest <;> rfl

/-- Making the tree of a node gives the verdict of the check on what is shown, although the two look for
the node on the path and in the snapshot in opposite order. -/
theorem map_tree_eq_check {snapshot : Snapshot} (path : List NodeId) (id : NodeId)
    (stored : ∀ x ∈ path, ∃ node, snapshot.resolve x = .ok node) :
    (snapshot.tree path id).map (fun _ => ()) = snapshot.check Node.shown path id := by
  cases resolved : snapshot.resolve id with
  | error fault =>
    -- Only one of the two tests can fail, since the nodes of the path are stored.
    have fresh : id ∉ path := by
      intro onPath
      obtain ⟨node, again⟩ := stored id onPath
      rw [resolved] at again
      cases again
    rw [tree_of_error resolved, check_of_error fresh resolved]
    rfl
  | ok node =>
    by_cases closed : id ∈ path
    · rw [tree_of_mem resolved closed, check_of_mem closed]
      rfl
    · have stored' : ∀ x ∈ id :: path, ∃ node, snapshot.resolve x = .ok node :=
        List.forall_mem_cons.mpr ⟨⟨node, resolved⟩, stored⟩
      have below := map_trees_eq_checkAll fun child (_ : child ∈ node.shown) =>
        map_tree_eq_check (id :: path) child stored'
      rw [tree_of_fresh resolved closed, check_of_fresh closed resolved, ← below]
      cases snapshot.trees (id :: path) node.shown <;> rfl
termination_by snapshot.room path.contains
decreasing_by exact room_cons_lt resolved closed

theorem map_project_eq_checkAll (snapshot : Snapshot) :
    snapshot.project.result.map (fun _ => ()) =
      snapshot.checkAll Node.shown [] snapshot.roots := by
  rw [project_eq]
  refine map_trees_eq_checkAll fun id _ => map_tree_eq_check [] id ?_
  intro x onPath
  cases onPath

/-- A snapshot has an outline exactly if it is valid without the members of its product types, and
otherwise both fail with the same fault. -/
theorem map_project_eq_validate_withoutMembers (snapshot : Snapshot) :
    snapshot.project.result.map (fun _ => ()) = snapshot.withoutMembers.validate := by
  rw [map_project_eq_checkAll, validate_eq_checkAll]
  symm
  exact checkAll_congr fun id _ => check_withoutMembers snapshot [] id

theorem project_of_validate {snapshot : Snapshot} (valid : snapshot.validate = .ok ()) :
    ∃ trees, snapshot.project.result = .ok trees := by
  have passed : snapshot.checkAll Node.shown [] snapshot.roots = .ok () := by
    rw [validate_eq_checkAll, checkAll_eq_ok_iff] at valid
    rw [checkAll_eq_ok_iff]
    intro root member
    exact check_of_fewer Node.shown_subset_children (valid root member)
  have verdict := snapshot.map_project_eq_checkAll
  rw [passed] at verdict
  cases made : snapshot.project.result with
  | error fault =>
    rw [made] at verdict
    cases verdict
  | ok trees => exact ⟨trees, rfl⟩

/-- The fault that a validation reports is there, and so is the fault of an outline if only what is shown
is followed: a node of a cycle leads back to itself, and an id that is out of range is refused with the
number of groups and the length of its group, if it has one. -/
theorem bears_of_validate_of_project (snapshot : Snapshot) :
    (∀ fault, snapshot.validate = .error fault → snapshot.Bears Node.children fault) ∧
    (∀ fault, snapshot.project.result = .error fault → snapshot.Bears Node.shown fault) := by
  constructor
  · intro fault failed
    rw [validate_eq_checkAll] at failed
    exact bears_of_checkAll failed
  · intro fault failed
    have verdict := snapshot.map_project_eq_checkAll
    rw [failed] at verdict
    exact bears_of_checkAll verdict.symm

/-- A module whose file has a product type with the module among its members, and a root that lies
outside. -/
def selfMember : Snapshot where
  roots := [⟨0, 0⟩, ⟨0, 7⟩]
  groups := #[#[.moduleDecl ⟨"core", [⟨0, 1⟩]⟩, .translationUnit ⟨default, [⟨0, 2⟩, ⟨0, 2⟩]⟩,
    .productTypeDecl ⟨default, "Pair", [⟨0, 0⟩]⟩]]

theorem bears_selfMember :
    (selfMember.validate = .error (.cycle ⟨0, 0⟩) ∧
      selfMember.Bears Node.children (.cycle ⟨0, 0⟩)) ∧
    (selfMember.project.result = .error (.outOfRange ⟨0, 7⟩ 1 (some 3)) ∧
      selfMember.Bears Node.shown (.outOfRange ⟨0, 7⟩ 1 (some 3))) := by
  have invalid : selfMember.validate = .error (.cycle ⟨0, 0⟩) := by
    rw [validate_eq_checkAll]
    simp [selfMember, checkAll, check, resolve, Node.children, bind, Except.bind]
  have unshown : selfMember.project.result = .error (.outOfRange ⟨0, 7⟩ 1 (some 3)) := by
    rw [project_eq]
    simp [selfMember, trees, tree, resolve, Node.shown, bind, Except.bind, Except.map, pure,
      Except.pure]
  exact ⟨⟨invalid, (bears_of_validate_of_project selfMember).1 _ invalid⟩,
    unshown, (bears_of_validate_of_project selfMember).2 _ unshown⟩

end Snapshot

end Outliner
