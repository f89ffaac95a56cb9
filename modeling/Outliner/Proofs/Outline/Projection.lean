import Mathlib.Logic.Relation
import Outliner.Outline.Projection
import Outliner.Proofs.Outline.Tree

/-!
The projector agrees with the recursion.

The pending nodes of the innermost frame, or of the roots if there is no frame, are taken one by one.
Going into one of them leads, after some steps, to its tree handed over and to the frames, the roots and the
path as they were, or to its fault. The two statements are proved together, along the recursion of the trees.
-/
set_option autoImplicit false

namespace Outliner

namespace Projection

def Progress.finish (snapshot : Snapshot) : Progress → Outcome
  | .more projector => projector.run snapshot
  | .done outcome => outcome

/-- One state of a projection leads to another one, after some steps or none. -/
def Progress.Leads (snapshot : Snapshot) : Progress → Progress → Prop :=
  Relation.ReflTransGen fun first second =>
    ∃ projector, first = .more projector ∧ projector.step snapshot = second

namespace Projector

/-- The projector with these nodes pending where the next one is taken from. -/
def await (projector : Projector) (ids : List NodeId) : Projector :=
  match projector.frames with
  | [] => { projector with roots := ids }
  | frame :: frames => { projector with frames := { frame with pending := ids } :: frames }

/-- The projector after the entries of all pending nodes have been handed over. -/
def collect (projector : Projector) (entries : List Entry) : Projector :=
  match projector.frames with
  | [] => { projector with roots := [], trees := entries.reverse ++ projector.trees }
  | frame :: frames =>
    { projector with
      frames := { frame with done := entries.reverse ++ frame.done, pending := [] } :: frames }

def after (projector : Projector) (ancestors : Std.HashSet NodeId) (unshown : List Unshown) :
    Projector :=
  { projector with ancestors, unshown := unshown.reverse ++ projector.unshown }

private theorem run_eq_finish (snapshot : Snapshot) (projector : Projector) :
    projector.run snapshot = (projector.step snapshot).finish snapshot := by
  rw [run]
  split <;> simp_all [Progress.finish]

theorem leads_step (snapshot : Snapshot) (projector : Projector) :
    Progress.Leads snapshot (.more projector) (projector.step snapshot) :=
  .single ⟨projector, rfl, rfl⟩

private theorem finish_eq_of_leads {snapshot : Snapshot} {first last : Progress}
    (leads : Progress.Leads snapshot first last) : first.finish snapshot = last.finish snapshot := by
  induction leads with
  | refl => rfl
  | tail _ step ih =>
    obtain ⟨projector, rfl, rfl⟩ := step
    rw [ih]
    exact run_eq_finish snapshot projector

private theorem step_await_cons (snapshot : Snapshot) (projector : Projector) (id : NodeId)
    (rest : List NodeId) :
    (projector.await (id :: rest)).step snapshot = (projector.await rest).enter snapshot id := by
  obtain ⟨frames, ancestors, roots, trees, unshown⟩ := projector
  cases frames <;> rfl

private theorem await_ancestors (projector : Projector) (ids : List NodeId) :
    (projector.await ids).ancestors = projector.ancestors := by
  unfold await
  split <;> rfl

private theorem await_unshown (projector : Projector) (ids : List NodeId) :
    (projector.await ids).unshown = projector.unshown := by
  unfold await
  split <;> rfl

private theorem deliver_ancestors (projector : Projector) (entry : Entry) :
    (projector.deliver entry).ancestors = projector.ancestors := by
  unfold deliver
  split <;> rfl

private theorem deliver_unshown (projector : Projector) (entry : Entry) :
    (projector.deliver entry).unshown = projector.unshown := by
  unfold deliver
  split <;> rfl

private theorem after_await_deliver (projector : Projector) (ids : List NodeId)
    (ancestors : Std.HashSet NodeId) (unshown : List Unshown) (entry : Entry) :
    ((projector.await ids).after ancestors unshown).deliver entry =
      ((projector.after ancestors unshown).deliver entry).await ids := by
  obtain ⟨frames, _, roots, trees, _⟩ := projector
  cases frames <;> rfl

private theorem after_collect_deliver (projector : Projector) (entry : Entry) (entries : List Entry)
    (first second : Std.HashSet NodeId) (before behind : List Unshown) :
    (((projector.after first before).deliver entry).after second behind).collect entries =
      (projector.after second (before ++ behind)).collect (entry :: entries) := by
  obtain ⟨frames, _, roots, trees, _⟩ := projector
  cases frames <;> simp [after, deliver, collect, Frame.add]

/-- A projection with these nodes on the path comes to a result: either it goes on with that result
and with the same nodes on the path, or it ends with the fault. In between, some nodes are met
that no entry can show. -/
def Yields {α : Type} (snapshot : Snapshot) (path : List NodeId) (projector : Projector)
    (result : Except StructureFault α) (unshown : List Unshown) (next : Projector → α → Projector)
    (progress : Progress) : Prop :=
  match result with
  | .ok value => ∃ ancestors, Snapshot.Tracks ancestors path ∧
      progress.Leads snapshot (.more (next (projector.after ancestors unshown) value))
  | .error fault => progress.Leads snapshot (.done ⟨.error fault, projector.unshown.reverse ++ unshown⟩)

private theorem close_frame {snapshot : Snapshot} (projector : Projector) (id : NodeId) (entry : Entry)
    (children : List Entry) (ancestors : Std.HashSet NodeId) (unshown : List Unshown) :
    Progress.Leads snapshot
      (.more (((projector.push id [⟨some id, entry, [], []⟩]).after ancestors unshown).collect children))
      (.more ((projector.after (ancestors.erase id) unshown).deliver (entry.withChildren children))) := by
  refine .single ⟨_, rfl, ?_⟩
  simp only [push, after, collect, List.singleton_append, step, leave, Frame.close, List.append_nil,
    List.reverse_reverse]

private theorem close_functionFrames {snapshot : Snapshot} (projector : Projector) (id : NodeId)
    (decl : FunctionDecl) (children : List Entry) (ancestors : Std.HashSet NodeId)
    (unshown : List Unshown) :
    Progress.Leads snapshot
      (.more (((projector.push id [⟨none, parametersEntry, [], []⟩,
        ⟨some id, functionEntry id decl, [], []⟩]).after ancestors unshown).collect children))
      (.more ((projector.after (ancestors.erase id) unshown).deliver
        ((Node.functionDecl decl).entry id children))) := by
  refine .head ⟨_, rfl, rfl⟩ (.single ⟨_, rfl, ?_⟩)
  simp only [push, after, leave, deliver, Frame.close, Frame.add, List.cons_append, List.nil_append,
    List.append_nil, List.reverse_reverse]
  rfl

private theorem yields_below {snapshot : Snapshot} {path : List NodeId} {id : NodeId} {node : Node}
    {projector : Projector} {frames : List Frame} {progress : Progress}
    (resolved : snapshot.resolve id = .ok node) (fresh : id ∉ path) (shown : node.unshown id = [])
    (close : ∀ children ancestors unshown, Progress.Leads snapshot
      (.more (((projector.push id frames).after ancestors unshown).collect children))
      (.more ((projector.after (ancestors.erase id) unshown).deliver (node.entry id children))))
    (below : Yields snapshot (id :: path) (projector.push id frames)
      (snapshot.trees (id :: path) node.shown) (snapshot.treesUnshown (id :: path) node.shown)
      collect progress) :
    Yields snapshot path projector (snapshot.tree path id) (snapshot.treeUnshown path id) deliver
      progress := by
  rw [Snapshot.tree_of_fresh resolved fresh, Snapshot.treeUnshown_of_fresh resolved fresh, shown,
    List.nil_append]
  cases result : snapshot.trees (id :: path) node.shown with
  | error fault =>
    rw [result] at below
    exact below
  | ok children =>
    rw [result] at below
    obtain ⟨ancestors, tracked, ended⟩ := below
    exact ⟨ancestors.erase id, tracked.erase fresh, ended.trans (close children ancestors _)⟩

private theorem yields_leaf {snapshot : Snapshot} {path : List NodeId} {id : NodeId} {node : Node}
    {projector : Projector} (tracked : Snapshot.Tracks projector.ancestors path)
    (resolved : snapshot.resolve id = .ok node) (fresh : id ∉ path) (leaf : node.shown = []) :
    Yields snapshot path projector (snapshot.tree path id) (snapshot.treeUnshown path id) deliver
      (.more ((projector.after projector.ancestors (node.unshown id)).deliver (node.entry id []))) := by
  rw [Snapshot.tree_of_fresh resolved fresh, Snapshot.treeUnshown_of_fresh resolved fresh, leaf,
    Snapshot.trees, Snapshot.treesUnshown, List.append_nil]
  exact ⟨projector.ancestors, tracked, .refl⟩

private theorem enter_yields_of_below {snapshot : Snapshot} {path : List NodeId} {id : NodeId}
    {projector : Projector} (tracked : Snapshot.Tracks projector.ancestors path)
    (below : ∀ node, snapshot.resolve id = .ok node → id ∉ path → ∀ opened : Projector,
      Snapshot.Tracks opened.ancestors (id :: path) →
      Yields snapshot (id :: path) opened (snapshot.trees (id :: path) node.shown)
        (snapshot.treesUnshown (id :: path) node.shown)
        collect (.more (opened.await node.shown))) :
    Yields snapshot path projector (snapshot.tree path id) (snapshot.treeUnshown path id) deliver
      (projector.enter snapshot id) := by
  unfold enter
  split
  · rename_i fault unresolved
    rw [Snapshot.tree_of_error unresolved, Snapshot.treeUnshown_of_error unresolved]
    simp only [Yields, fail, List.append_nil]
    exact .refl
  · rename_i node resolved
    split
    · rename_i met
      have closed : id ∈ path := (tracked id).mp (Std.HashSet.contains_iff_mem.mp met)
      rw [Snapshot.tree_of_mem resolved closed, Snapshot.treeUnshown_of_mem closed]
      simp only [Yields, fail, List.append_nil]
      exact .refl
    · rename_i unmet
      have fresh : id ∉ path := fun onPath =>
        unmet (Std.HashSet.contains_iff_mem.mpr ((tracked id).mpr onPath))
      have pushed : ∀ frames, Snapshot.Tracks (projector.push id frames).ancestors (id :: path) :=
        fun _ => tracked.insert id
      -- Nodes with others below them are opened in one frame, a function in two; leaves in none.
      cases node with
      | moduleDecl decl =>
        exact yields_below resolved fresh rfl (close_frame projector id (moduleEntry id decl))
          (below _ resolved fresh _ (pushed _))
      | translationUnit decl =>
        exact yields_below resolved fresh rfl (close_frame projector id (unitEntry id decl))
          (below _ resolved fresh _ (pushed _))
      | functionDecl decl =>
        exact yields_below resolved fresh rfl (close_functionFrames projector id decl)
          (below _ resolved fresh _ (pushed _))
      | productTypeDecl decl => exact yields_leaf tracked resolved fresh rfl
      | parameterDecl decl => exact yields_leaf tracked resolved fresh rfl
      | missing => exact yields_leaf tracked resolved fresh rfl
      | unrecognized kind payload => exact yields_leaf tracked resolved fresh rfl

mutual

/-- Going into a node makes its tree. -/
theorem enter_yields (snapshot : Snapshot) (path : List NodeId) (id : NodeId) (projector : Projector)
    (tracked : Snapshot.Tracks projector.ancestors path) :
    Yields snapshot path projector (snapshot.tree path id) (snapshot.treeUnshown path id) deliver
      (projector.enter snapshot id) := by
  refine enter_yields_of_below tracked fun node resolved fresh opened pushed => ?_
  exact await_yields snapshot (id :: path) node.shown opened pushed
termination_by (snapshot.room path.contains, 0)
decreasing_by exact Prod.Lex.left _ _ (Snapshot.room_cons_lt resolved fresh)

private theorem await_yields (snapshot : Snapshot) (path ids : List NodeId) (projector : Projector)
    (tracked : Snapshot.Tracks projector.ancestors path) :
    Yields snapshot path projector (snapshot.trees path ids) (snapshot.treesUnshown path ids)
      collect (.more (projector.await ids)) := by
  match ids with
  | [] =>
    rw [Snapshot.trees, Snapshot.treesUnshown]
    refine ⟨projector.ancestors, tracked, ?_⟩
    obtain ⟨frames, ancestors, roots, trees, unshown⟩ := projector
    cases frames <;> exact .refl
  | id :: rest =>
    have taken := leads_step snapshot (projector.await (id :: rest))
    rw [step_await_cons] at taken
    have first := enter_yields snapshot path id (projector.await rest) (by rwa [await_ancestors])
    cases made : snapshot.tree path id with
    | error fault =>
      rw [made] at first
      rw [Snapshot.trees_cons_of_error made, Snapshot.treesUnshown_cons_of_error made]
      simp only [Yields, await_unshown] at first
      exact taken.trans first
    | ok entry =>
      rw [made] at first
      obtain ⟨ancestors, kept, handed⟩ := first
      -- The other nodes are taken with the first tree already handed over.
      have others := await_yields snapshot path rest
        ((projector.after ancestors (snapshot.treeUnshown path id)).deliver entry)
        (by rwa [deliver_ancestors])
      rw [after_await_deliver] at handed
      rw [Snapshot.trees_cons_of_ok made, Snapshot.treesUnshown_cons_of_ok made]
      cases results : snapshot.trees path rest with
      | error fault =>
        rw [results] at others
        have failed : Progress.Leads snapshot _ _ := (taken.trans handed).trans others
        simpa [Yields, Except.map, deliver_unshown, after] using failed
      | ok entries =>
        rw [results] at others
        obtain ⟨last, keptAgain, handedAgain⟩ := others
        refine ⟨last, keptAgain, ?_⟩
        rw [after_collect_deliver] at handedAgain
        exact (taken.trans handed).trans handedAgain
termination_by (snapshot.room path.contains, ids.length)
decreasing_by
  · exact Prod.Lex.right _ (Nat.succ_pos _)
  · exact Prod.Lex.right _ (Nat.lt_succ_self _)

end

end Projector

end Projection

namespace Snapshot

/-- The outline is made as the recursion makes it. -/
theorem project_eq (snapshot : Snapshot) :
    snapshot.project = ⟨snapshot.trees [] snapshot.roots, snapshot.treesUnshown [] snapshot.roots⟩ := by
  have yields := Projection.Projector.await_yields snapshot [] snapshot.roots ⟨[], ∅, [], [], []⟩
    tracks_empty
  unfold project
  cases result : snapshot.trees [] snapshot.roots with
  | error fault =>
    rw [result] at yields
    exact Projection.Projector.finish_eq_of_leads yields
  | ok entries =>
    rw [result] at yields
    obtain ⟨ancestors, _, collected⟩ := yields
    refine (Projection.Projector.finish_eq_of_leads collected).trans ?_
    rw [Projection.Progress.finish]
    rw [Projection.Projector.run_eq_finish]
    simp [Projection.Projector.collect, Projection.Projector.after, Projection.Projector.step,
      Projection.Progress.finish]

theorem length_of_project {snapshot : Snapshot} {entries : List Entry}
    (made : snapshot.project.result = .ok entries) : entries.length = snapshot.roots.length := by
  rw [project_eq] at made
  exact length_trees made

theorem map_node_of_project {snapshot : Snapshot} {trees : List Entry}
    (made : snapshot.project.result = .ok trees) : trees.map Entry.node = snapshot.roots.map some := by
  rw [project_eq] at made
  exact map_node_of_trees made

/-- The trees of a snapshot are those of its roots one by one, with no ancestors. The tree of a node
is made by recursion: the node is resolved, looked for among its ancestors, and shown with the trees of
the nodes below it, which have it as one ancestor more. The first fault met depth first is the fault of
the whole. -/
theorem project_result_eq_mapM_tree (snapshot : Snapshot) :
    snapshot.project.result = snapshot.roots.mapM (snapshot.tree []) ∧
      ∀ ancestors id, snapshot.tree ancestors id = do
        let node ← snapshot.resolve id
        if id ∈ ancestors then throw (.cycle id)
        let children ← node.shown.mapM (snapshot.tree (id :: ancestors))
        return node.entry id children :=
  ⟨by rw [project_eq, trees_eq_mapM], snapshot.tree_eq⟩

end Snapshot

end Outliner
