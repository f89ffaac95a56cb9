import Mathlib.Data.List.Forall2
import Outliner.Outline.Projector
import Outliner.Proofs.Snapshot.Path

/-!
Trees: the outline of a snapshot by plain recursion.

The tree of a node is made from the trees of the nodes that it shows, each with the node added to its
ancestors. A node among its own ancestors has no tree, so the recursion goes no deeper than there are
stored nodes. Beside the trees, the nodes that no entry can show are listed in the order in which they
are met.
-/
set_option autoImplicit false

namespace Outliner

open Projection (Unshown)

namespace Node

/-- The ids of the nodes that are shown below a node, in order. -/
def shown : Node → List NodeId
  | .moduleDecl decl => decl.sources
  | .translationUnit decl => decl.decls
  | .functionDecl decl => decl.parameters
  | .productTypeDecl _ | .parameterDecl _ | .missing | .unrecognized .. => []

/-- The entry of a node, with the trees of the nodes that are shown below it. -/
def entry (id : NodeId) : Node → List Entry → Entry
  | .moduleDecl decl, children =>
    { label := decl.baseName, category := .module, node := some id, children }
  | .translationUnit decl, children =>
    { label := decl.site.fileName, category := .sourceFile, node := some id
      tooltip := some decl.site.fileUrl, children
      actions := [.openSourceFile, .highlightDeclaration] }
  | .functionDecl decl, children =>
    { label := decl.identifier, category := .function, node := some id
      children := [{ label := "parameters", category := .parameters, children }]
      actions := [.highlightDeclaration] }
  | .productTypeDecl decl, _ =>
    { label := decl.identifier, category := .productType, node := some id
      actions := [.highlightDeclaration] }
  | .parameterDecl decl, _ =>
    { label := decl.label.getD "_" ++ " " ++ decl.identifier, category := .parameter
      node := some id, actions := [.highlightDeclaration] }
  | .missing, _ =>
    { label := "Unknown", category := .unknown, node := some id
      diagnostic := some "unsupported node kind `missing`" }
  | .unrecognized kind _, _ =>
    { label := "Unknown", category := .unknown, node := some id
      diagnostic := some s!"unsupported node kind `{kind}`" }

def unshown (id : NodeId) : Node → List Unshown
  | .missing => [⟨id, "missing"⟩]
  | .unrecognized kind _ => [⟨id, kind⟩]
  | _ => []

theorem node_entry (id : NodeId) (node : Node) (children : List Entry) :
    (node.entry id children).node = some id := by
  cases node <;> rfl

end Node

namespace Snapshot

set_option linter.unusedVariables false in
mutual

/-- The tree of a node with these ancestors, or the first fault met depth first. -/
def tree (snapshot : Snapshot) (ancestors : List NodeId) (id : NodeId) :
    Except StructureFault Entry :=
  match resolved : snapshot.resolve id with
  | .error fault => .error fault
  | .ok node =>
    if fresh : id ∈ ancestors then .error (.cycle id)
    else (snapshot.trees (id :: ancestors) node.shown).map (node.entry id)
termination_by (snapshot.room ancestors.contains, 0)
decreasing_by exact Prod.Lex.left _ _ (room_cons_lt resolved fresh)

def trees (snapshot : Snapshot) (ancestors : List NodeId) :
    List NodeId → Except StructureFault (List Entry)
  | [] => .ok []
  | id :: rest => do
    let first ← snapshot.tree ancestors id
    let others ← snapshot.trees ancestors rest
    return first :: others
termination_by ids => (snapshot.room ancestors.contains, ids.length)
decreasing_by
  · exact Prod.Lex.right _ (Nat.succ_pos _)
  · exact Prod.Lex.right _ (Nat.lt_succ_self _)

end

set_option linter.unusedVariables false in
mutual

/-- The nodes that no entry can show, as they are met while the tree of a node is made. -/
def treeUnshown (snapshot : Snapshot) (ancestors : List NodeId) (id : NodeId) : List Unshown :=
  match resolved : snapshot.resolve id with
  | .error _ => []
  | .ok node =>
    if fresh : id ∈ ancestors then []
    else node.unshown id ++ snapshot.treesUnshown (id :: ancestors) node.shown
termination_by (snapshot.room ancestors.contains, 0)
decreasing_by exact Prod.Lex.left _ _ (room_cons_lt resolved fresh)

def treesUnshown (snapshot : Snapshot) (ancestors : List NodeId) : List NodeId → List Unshown
  | [] => []
  | id :: rest =>
    snapshot.treeUnshown ancestors id ++
      match snapshot.tree ancestors id with
      | .ok _ => snapshot.treesUnshown ancestors rest
      | .error _ => []
termination_by ids => (snapshot.room ancestors.contains, ids.length)
decreasing_by
  · exact Prod.Lex.right _ (Nat.succ_pos _)
  · exact Prod.Lex.right _ (Nat.lt_succ_self _)

end

theorem trees_eq_mapM (snapshot : Snapshot) (ancestors ids : List NodeId) :
    snapshot.trees ancestors ids = ids.mapM (snapshot.tree ancestors) := by
  induction ids with
  | nil =>
    rw [trees, List.mapM_nil]
    rfl
  | cons id rest ih => rw [trees, List.mapM_cons, ih]

theorem tree_eq (snapshot : Snapshot) (ancestors : List NodeId) (id : NodeId) :
    snapshot.tree ancestors id = do
      let node ← snapshot.resolve id
      if id ∈ ancestors then throw (.cycle id)
      let children ← node.shown.mapM (snapshot.tree (id :: ancestors))
      return node.entry id children := by
  rw [tree]
  split
  · rename_i fault unresolved
    rw [unresolved]
    rfl
  · rename_i node resolved
    rw [resolved, trees_eq_mapM]
    by_cases closed : id ∈ ancestors
    · simp only [closed, dite_true]
      rfl
    · simp only [closed, dite_false]
      cases made : node.shown.mapM (snapshot.tree (id :: ancestors)) <;>
        simp [made, Except.map, bind, Except.bind, pure, Except.pure]

section

variable {snapshot : Snapshot} {ancestors : List NodeId} {id : NodeId} {node : Node}

theorem tree_of_error {fault : StructureFault} (unresolved : snapshot.resolve id = .error fault) :
    snapshot.tree ancestors id = .error fault := by
  rw [tree_eq, unresolved]
  rfl

theorem tree_of_mem (resolved : snapshot.resolve id = .ok node) (closed : id ∈ ancestors) :
    snapshot.tree ancestors id = .error (.cycle id) := by
  rw [tree]
  split <;> simp_all

theorem tree_of_fresh (resolved : snapshot.resolve id = .ok node) (fresh : id ∉ ancestors) :
    snapshot.tree ancestors id =
      (snapshot.trees (id :: ancestors) node.shown).map (node.entry id) := by
  rw [tree]
  split <;> simp_all

theorem treeUnshown_of_error {fault : StructureFault}
    (unresolved : snapshot.resolve id = .error fault) : snapshot.treeUnshown ancestors id = [] := by
  rw [treeUnshown]
  split <;> simp_all

theorem treeUnshown_of_mem (closed : id ∈ ancestors) : snapshot.treeUnshown ancestors id = [] := by
  rw [treeUnshown]
  split <;> simp_all

theorem treeUnshown_of_fresh (resolved : snapshot.resolve id = .ok node) (fresh : id ∉ ancestors) :
    snapshot.treeUnshown ancestors id =
      node.unshown id ++ snapshot.treesUnshown (id :: ancestors) node.shown := by
  rw [treeUnshown]
  split <;> simp_all

theorem trees_cons_of_error {fault : StructureFault}
    (failed : snapshot.tree ancestors id = .error fault) (rest : List NodeId) :
    snapshot.trees ancestors (id :: rest) = .error fault := by
  rw [trees, failed]
  rfl

theorem trees_cons_of_ok {entry : Entry} (made : snapshot.tree ancestors id = .ok entry)
    (rest : List NodeId) :
    snapshot.trees ancestors (id :: rest) =
      (snapshot.trees ancestors rest).map (entry :: ·) := by
  rw [trees, made]
  cases snapshot.trees ancestors rest <;> rfl

theorem treesUnshown_cons_of_error {fault : StructureFault}
    (failed : snapshot.tree ancestors id = .error fault) (rest : List NodeId) :
    snapshot.treesUnshown ancestors (id :: rest) = snapshot.treeUnshown ancestors id := by
  rw [treesUnshown, failed, List.append_nil]

theorem treesUnshown_cons_of_ok {entry : Entry} (made : snapshot.tree ancestors id = .ok entry)
    (rest : List NodeId) :
    snapshot.treesUnshown ancestors (id :: rest) =
      snapshot.treeUnshown ancestors id ++ snapshot.treesUnshown ancestors rest := by
  rw [treesUnshown, made]

end

theorem exists_of_mem_right {α β : Type} {R : α → β → Prop} {as : List α} {bs : List β}
    (each : List.Forall₂ R as bs) {b : β} (member : b ∈ bs) : ∃ a ∈ as, R a b := by
  induction each with
  | nil => cases member
  | @cons a _ as _ related _ ih =>
    rcases List.mem_cons.mp member with rfl | member
    · exact ⟨a, List.mem_cons_self, related⟩
    · obtain ⟨x, listed, related⟩ := ih member
      exact ⟨x, List.mem_cons_of_mem a listed, related⟩

section

variable {snapshot : Snapshot} {ancestors : List NodeId}

theorem tree_eq_ok_iff {id : NodeId} {entry : Entry} :
    snapshot.tree ancestors id = .ok entry ↔
      ∃ node children, snapshot.resolve id = .ok node ∧ id ∉ ancestors ∧
        snapshot.trees (id :: ancestors) node.shown = .ok children ∧ node.entry id children = entry := by
  constructor
  · intro made
    cases resolved : snapshot.resolve id with
    | error fault =>
      rw [tree_of_error resolved] at made
      cases made
    | ok node =>
      by_cases closed : id ∈ ancestors
      · rw [tree_of_mem resolved closed] at made
        cases made
      · rw [tree_of_fresh resolved closed] at made
        cases below : snapshot.trees (id :: ancestors) node.shown with
        | error fault =>
          rw [below] at made
          cases made
        | ok children =>
          rw [below] at made
          exact ⟨node, children, rfl, closed, below, Except.ok.inj made⟩
  · rintro ⟨node, children, resolved, fresh, below, rfl⟩
    rw [tree_of_fresh resolved fresh, below]
    rfl

theorem trees_eq_ok_iff {ids : List NodeId} {entries : List Entry} :
    snapshot.trees ancestors ids = .ok entries ↔
      List.Forall₂ (fun id entry => snapshot.tree ancestors id = .ok entry) ids entries := by
  induction ids generalizing entries with
  | nil =>
    rw [trees, List.forall₂_nil_left_iff]
    constructor
    · intro made
      exact (Except.ok.inj made).symm
    · rintro rfl
      rfl
  | cons id rest ih =>
    rw [List.forall₂_cons_left_iff]
    cases first : snapshot.tree ancestors id with
    | error fault => simp [trees_cons_of_error first]
    | ok entry =>
      rw [trees_cons_of_ok first]
      constructor
      · intro made
        cases others : snapshot.trees ancestors rest with
        | error fault =>
          rw [others] at made
          cases made
        | ok made' =>
          rw [others] at made
          exact ⟨entry, made', rfl, ih.mp others, (Except.ok.inj made).symm⟩
      · rintro ⟨entry', made', same, others, rfl⟩
        cases same
        rw [ih.mpr others]
        rfl

theorem length_trees {ids : List NodeId} {entries : List Entry}
    (made : snapshot.trees ancestors ids = .ok entries) : entries.length = ids.length :=
  (trees_eq_ok_iff.mp made).length_eq.symm

/-- What holds of the entry of a node whenever it holds of the entries that are made for the nodes
below it, holds of every tree. -/
theorem tree_induction {motive : List NodeId → NodeId → Entry → Prop}
    (step : ∀ ancestors id node children, snapshot.resolve id = .ok node → id ∉ ancestors →
      List.Forall₂ (motive (id :: ancestors)) node.shown children →
      motive ancestors id (node.entry id children))
    (ancestors : List NodeId) (id : NodeId) (entry : Entry)
    (made : snapshot.tree ancestors id = .ok entry) : motive ancestors id entry := by
  obtain ⟨node, children, resolved, fresh, below, rfl⟩ := tree_eq_ok_iff.mp made
  refine step ancestors id node children resolved fresh ?_
  refine (trees_eq_ok_iff.mp below).imp fun child entry made => ?_
  exact tree_induction step (id :: ancestors) child entry made
termination_by snapshot.room ancestors.contains
decreasing_by exact room_cons_lt resolved fresh

end

theorem node_of_tree {snapshot : Snapshot} {ancestors : List NodeId} {id : NodeId} {entry : Entry}
    (made : snapshot.tree ancestors id = .ok entry) : entry.node = some id := by
  obtain ⟨node, children, _, _, _, rfl⟩ := tree_eq_ok_iff.mp made
  exact node.node_entry id children

theorem map_node_of_trees {snapshot : Snapshot} {ancestors ids : List NodeId} {entries : List Entry}
    (made : snapshot.trees ancestors ids = .ok entries) : entries.map Entry.node = ids.map some := by
  have each : List.Forall₂ (fun id (entry : Entry) => some id = entry.node) ids entries :=
    (trees_eq_ok_iff.mp made).imp fun _ _ made => (node_of_tree made).symm
  have equal : List.Forall₂ Eq (ids.map some) (entries.map Entry.node) :=
    List.forall₂_map_left_iff.mpr (List.forall₂_map_right_iff.mpr each)
  rw [List.forall₂_eq_eq_eq] at equal
  exact equal.symm

end Snapshot

end Outliner
