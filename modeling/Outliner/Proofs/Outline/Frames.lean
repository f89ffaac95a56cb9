import Mathlib.Data.List.Chain
import Outliner.Proofs.Outline.Projection
import Outliner.Proofs.Snapshot.Check
import Outliner.Proofs.Snapshot.Storage

/-!
Frames: what the projector keeps at every step.

Every frame with an id stands for a stored node that no frame below it stands for and that the node below it
refers to; a frame without id is that of the parameters of a function and lies on the frame of the function.
Entering a node and leaving a frame keep this, so a stack of frames is never longer than twice the number
of stored nodes. Main statement: this holds in every state, from one root to the next no ancestor is left,
and showing a root ends, with the same tree or fault whatever was shown before.
-/
set_option autoImplicit false

namespace Outliner.Projection

def idsOf (frames : List Frame) : List NodeId :=
  frames.filterMap Frame.id?

private theorem idsOf_cons_of_some {frame : Frame} {id : NodeId} (same : frame.id? = some id)
    (frames : List Frame) : idsOf (frame :: frames) = id :: idsOf frames :=
  List.filterMap_cons_some same

private theorem idsOf_cons_of_none {frame : Frame} (absent : frame.id? = none) (frames : List Frame) :
    idsOf (frame :: frames) = idsOf frames :=
  List.filterMap_cons_none absent

/-- The frames are stacked as the projector stacks them: each is that of a stored node that is new to the
frames below it and that the node below it refers to, or the grouping of a function right on its frame. The
nodes that a frame has still to show are among those that its node refers to. -/
inductive Stacked (snapshot : Snapshot) : List Frame → Prop
  | nil : Stacked snapshot []
  | node {frame : Frame} {frames : List Frame} {id : NodeId} {node : Node}
      (outer : Stacked snapshot frames) (same : frame.id? = some id)
      (resolved : snapshot.resolve id = .ok node) (fresh : id ∉ idsOf frames)
      (refers : ∀ above ∈ (idsOf frames).head?, snapshot.Refers Node.shown above id)
      (pending : frame.pending ⊆ node.shown) : Stacked snapshot (frame :: frames)
  | grouping {frame function : Frame} {frames : List Frame} {id : NodeId} {decl : FunctionDecl}
      (outer : Stacked snapshot (function :: frames)) (absent : frame.id? = none)
      (same : function.id? = some id) (resolved : snapshot.resolve id = .ok (.functionDecl decl))
      (pending : frame.pending ⊆ decl.parameters) : Stacked snapshot (frame :: function :: frames)

namespace Stacked

variable {snapshot : Snapshot} {frame : Frame} {frames : List Frame}

private theorem tail (stacked : Stacked snapshot (frame :: frames)) : Stacked snapshot frames := by
  cases stacked with
  | node outer => exact outer
  | grouping outer => exact outer

private theorem of_head {frame' : Frame} (stacked : Stacked snapshot (frame :: frames))
    (same : frame'.id? = frame.id?) (fewer : frame'.pending ⊆ frame.pending) :
    Stacked snapshot (frame' :: frames) := by
  cases stacked with
  | node outer own resolved fresh refers pending =>
    exact .node outer (same.trans own) resolved fresh refers (List.Subset.trans fewer pending)
  | grouping outer absent function resolved pending =>
    exact .grouping outer (same.trans absent) function resolved (List.Subset.trans fewer pending)

private theorem refers_pending (stacked : Stacked snapshot (frame :: frames)) {id : NodeId}
    (listed : id ∈ frame.pending) :
    ∀ above ∈ (idsOf (frame :: frames)).head?, snapshot.Refers Node.shown above id := by
  intro above innermost
  cases stacked with
  | @node _ _ own node outer same resolved fresh refers pending =>
    rw [idsOf_cons_of_some same] at innermost
    obtain rfl := Option.some.inj innermost
    exact ⟨node, resolved, pending listed⟩
  | @grouping _ _ _ own decl outer absent same resolved pending =>
    rw [idsOf_cons_of_none absent, idsOf_cons_of_some same] at innermost
    obtain rfl := Option.some.inj innermost
    exact ⟨.functionDecl decl, resolved, pending listed⟩

private theorem not_mem_idsOf (stacked : Stacked snapshot (frame :: frames)) {id : NodeId}
    (same : frame.id? = some id) : id ∉ idsOf frames := by
  cases stacked with
  | node _ own _ fresh =>
    rw [same] at own
    obtain rfl := Option.some.inj own
    exact fresh
  | grouping _ absent =>
    rw [same] at absent
    cases absent

private theorem nodup_idsOf (stacked : Stacked snapshot frames) : (idsOf frames).Nodup := by
  induction stacked with
  | nil => exact List.nodup_nil
  | node _ same _ fresh _ _ ih =>
    rw [idsOf_cons_of_some same]
    exact List.nodup_cons.mpr ⟨fresh, ih⟩
  | grouping _ absent _ _ _ ih =>
    rw [idsOf_cons_of_none absent]
    exact ih

private theorem idsOf_subset_ids (stacked : Stacked snapshot frames) : idsOf frames ⊆ snapshot.ids := by
  induction stacked with
  | nil => exact List.nil_subset _
  | node _ same resolved _ _ _ ih =>
    rw [idsOf_cons_of_some same]
    exact List.cons_subset.mpr ⟨Snapshot.mem_ids_of_resolve resolved, ih⟩
  | grouping _ absent _ _ _ ih =>
    rw [idsOf_cons_of_none absent]
    exact ih

private theorem isChain_idsOf (stacked : Stacked snapshot frames) :
    (idsOf frames).IsChain fun inner outer => snapshot.Refers Node.shown outer inner := by
  induction stacked with
  | nil => exact List.isChain_nil
  | node _ same _ _ refers _ ih =>
    rw [idsOf_cons_of_some same]
    exact List.isChain_cons.mpr ⟨refers, ih⟩
  | grouping _ absent _ _ _ ih =>
    rw [idsOf_cons_of_none absent]
    exact ih

/-- There are at most two frames for every id, and fewer if no grouping lies on top. -/
theorem length_le_two_mul (stacked : Stacked snapshot frames) :
    frames.length ≤ 2 * (idsOf frames).length ∧
      ∀ top ∈ frames.head?, top.id? ≠ none → frames.length < 2 * (idsOf frames).length := by
  induction stacked with
  | nil => simp
  | @node frame frames id _ _ same _ _ _ _ ih =>
    have lengths : (frame :: frames).length < 2 * (idsOf (frame :: frames)).length := by
      rw [idsOf_cons_of_some same, List.length_cons, List.length_cons]
      omega
    exact ⟨Nat.le_of_lt lengths, fun _ _ _ => lengths⟩
  | @grouping frame function frames id _ _ absent same _ _ ih =>
    have below := ih.2 function rfl (by simp [same])
    rw [idsOf_cons_of_none absent, List.length_cons]
    refine ⟨below, ?_⟩
    intro top first present
    obtain rfl := Option.some.inj first
    exact absurd absent present

private theorem length_le_nodeCount (stacked : Stacked snapshot frames) :
    frames.length ≤ 2 * snapshot.nodeCount := by
  have few := stacked.nodup_idsOf.length_le_of_subset stacked.idsOf_subset_ids
  have stored := snapshot.length_ids_le_nodeCount
  have pairs := stacked.length_le_two_mul.1
  omega

private theorem exists_function (stacked : Stacked snapshot frames) {grouping : Frame} {outer : List Frame}
    (inside : grouping :: outer <:+ frames) (absent : grouping.id? = none) :
    ∃ function rest id decl, outer = function :: rest ∧ function.id? = some id ∧
      snapshot.resolve id = .ok (.functionDecl decl) ∧ grouping.pending ⊆ decl.parameters := by
  induction stacked with
  | nil => cases List.eq_nil_of_suffix_nil inside
  | node _ same _ _ _ _ ih =>
    rcases List.suffix_cons_iff.mp inside with whole | inside
    · obtain ⟨rfl, rfl⟩ := List.cons.inj whole
      rw [absent] at same
      cases same
    · exact ih inside
  | @grouping frame function frames id decl _ _ same resolved pending ih =>
    rcases List.suffix_cons_iff.mp inside with whole | inside
    · obtain ⟨rfl, rfl⟩ := List.cons.inj whole
      exact ⟨function, frames, id, decl, rfl, same, resolved, pending⟩
    · exact ih inside

end Stacked

/-- What the projector keeps at every step: the ancestors are the nodes of the frames, each of these refers
to the next one from the outermost on, and a grouping lies right on the frame of a function, with parameters
of it to show. -/
structure Consistent (snapshot : Snapshot) (projector : Projector) : Prop where
  tracked : ∀ id, id ∈ projector.ancestors ↔ id ∈ idsOf projector.frames
  distinct : (idsOf projector.frames).Nodup
  refers : (idsOf projector.frames).reverse.IsChain (snapshot.Refers Node.shown)
  grouped : ∀ grouping outer, grouping :: outer <:+ projector.frames → grouping.id? = none →
    ∃ function rest id decl, outer = function :: rest ∧ function.id? = some id ∧
      snapshot.resolve id = .ok (.functionDecl decl) ∧ grouping.pending ⊆ decl.parameters
  bounded : projector.frames.length ≤ 2 * snapshot.nodeCount

namespace Projector

structure Ordered (snapshot : Snapshot) (projector : Projector) : Prop where
  tracked : Snapshot.Tracks projector.ancestors (idsOf projector.frames)
  stacked : Stacked snapshot projector.frames

variable {snapshot : Snapshot} {projector : Projector}

private theorem Ordered.consistent (ordered : Ordered snapshot projector) :
    Consistent snapshot projector where
  tracked := ordered.tracked
  distinct := ordered.stacked.nodup_idsOf
  refers := List.isChain_reverse.mpr ordered.stacked.isChain_idsOf
  grouped _ _ := ordered.stacked.exists_function
  bounded := ordered.stacked.length_le_nodeCount

/-- A step leaves the innermost frame, or goes into the next pending node. -/
theorem step_cases {next : Projector} (taken : projector.step snapshot = .more next) :
    (∃ frame frames, projector.frames = frame :: frames ∧
      next = leave { projector with frames } frame) ∨
    ∃ (waiting : Projector) (id : NodeId) (rest : List NodeId) (node : Node),
      projector = waiting.await (id :: rest) ∧ snapshot.resolve id = .ok node ∧
      id ∉ (waiting.await rest).ancestors ∧ next = (waiting.await rest).showNode id node := by
  obtain ⟨frames, ancestors, roots, trees, unshown⟩ := projector
  match frames, roots with
  | [], [] => cases taken
  | [], root :: roots =>
    obtain ⟨node, resolved, fresh, same⟩ := enter_cases taken
    have unmet := Std.HashSet.contains_eq_false_iff_not_mem.mp fresh
    exact .inr ⟨⟨[], ancestors, [], trees, unshown⟩, root, roots, node, rfl, resolved, unmet, same⟩
  | ⟨id?, entry, done, []⟩ :: frames, roots =>
    exact .inl ⟨⟨id?, entry, done, []⟩, frames, rfl, (Progress.more.inj taken).symm⟩
  | ⟨id?, entry, done, child :: pending⟩ :: frames, roots =>
    obtain ⟨node, resolved, fresh, same⟩ := enter_cases taken
    have unmet := Std.HashSet.contains_eq_false_iff_not_mem.mp fresh
    exact .inr ⟨⟨⟨id?, entry, done, []⟩ :: frames, ancestors, roots, trees, unshown⟩, child, pending,
      node, rfl, resolved, unmet, same⟩

private theorem Ordered.deliver (ordered : Ordered snapshot projector) (entry : Entry) :
    Ordered snapshot (projector.deliver entry) := by
  obtain ⟨frames, ancestors, roots, trees, unshown⟩ := projector
  cases frames with
  | nil => exact ⟨ordered.tracked, ordered.stacked⟩
  | cons frame frames =>
    have stacked : Stacked snapshot (frame.add entry :: frames) :=
      ordered.stacked.of_head rfl (List.Subset.refl _)
    exact ⟨ordered.tracked, stacked⟩

private theorem Ordered.deliverUnknown (ordered : Ordered snapshot projector) (id : NodeId) (kind : String) :
    Ordered snapshot (projector.deliverUnknown id kind) := by
  have noted : Ordered snapshot { projector with unshown := ⟨id, kind⟩ :: projector.unshown } :=
    ⟨ordered.tracked, ordered.stacked⟩
  exact noted.deliver _

private theorem Ordered.await {id : NodeId} {rest : List NodeId}
    (ordered : Ordered snapshot (projector.await (id :: rest))) :
    Ordered snapshot (projector.await rest) ∧
      ∀ above ∈ (idsOf (projector.await rest).frames).head?, snapshot.Refers Node.shown above id := by
  obtain ⟨frames, ancestors, roots, trees, unshown⟩ := projector
  cases frames with
  | nil => exact ⟨⟨ordered.tracked, ordered.stacked⟩, by simp [Projector.await, idsOf]⟩
  | cons frame frames =>
    have stacked : Stacked snapshot ({ frame with pending := rest } :: frames) :=
      ordered.stacked.of_head rfl (List.subset_cons_self id rest)
    exact ⟨⟨ordered.tracked, stacked⟩, ordered.stacked.refers_pending List.mem_cons_self⟩

private theorem Ordered.showNode {id : NodeId} {node : Node} (ordered : Ordered snapshot projector)
    (resolved : snapshot.resolve id = .ok node) (unmet : id ∉ projector.ancestors)
    (refers : ∀ above ∈ (idsOf projector.frames).head?, snapshot.Refers Node.shown above id) :
    Ordered snapshot (projector.showNode id node) := by
  have fresh : id ∉ idsOf projector.frames := fun onStack => unmet ((ordered.tracked id).mpr onStack)
  have tracked := ordered.tracked.insert id
  have own (entry : Entry) {pending : List NodeId} (shown : pending ⊆ node.shown) :
      Stacked snapshot (⟨some id, entry, [], pending⟩ :: projector.frames) :=
    .node ordered.stacked rfl resolved fresh refers shown
  cases node with
  | moduleDecl decl => exact ⟨tracked, own (moduleEntry id decl) (List.Subset.refl _)⟩
  | translationUnit decl => exact ⟨tracked, own (unitEntry id decl) (List.Subset.refl _)⟩
  | functionDecl decl =>
    have function := own (functionEntry id decl) (List.nil_subset _)
    exact ⟨tracked, .grouping function rfl rfl resolved (List.Subset.refl _)⟩
  | productTypeDecl decl => exact ordered.deliver _
  | parameterDecl decl => exact ordered.deliver _
  | missing => exact ordered.deliverUnknown id _
  | unrecognized kind payload => exact ordered.deliverUnknown id kind

private theorem Ordered.leave {frame : Frame} {frames : List Frame} (ordered : Ordered snapshot projector)
    (open? : projector.frames = frame :: frames) :
    Ordered snapshot (leave { projector with frames } frame) := by
  obtain ⟨tracked, stacked⟩ := ordered
  rw [open?] at tracked stacked
  unfold Projector.leave
  split
  · rename_i absent
    rw [idsOf_cons_of_none absent] at tracked
    exact Ordered.deliver ⟨tracked, stacked.tail⟩ _
  · rename_i id same
    rw [idsOf_cons_of_some same] at tracked
    exact Ordered.deliver ⟨tracked.erase (stacked.not_mem_idsOf same), stacked.tail⟩ _

private theorem Ordered.step {next : Projector} (ordered : Ordered snapshot projector)
    (taken : projector.step snapshot = .more next) : Ordered snapshot next := by
  rcases step_cases taken with ⟨frame, frames, open?, rfl⟩ |
    ⟨waiting, id, rest, node, rfl, resolved, fresh, rfl⟩
  · exact ordered.leave open?
  · obtain ⟨ordered, refers⟩ := ordered.await
    exact ordered.showNode resolved fresh refers

def start (snapshot : Snapshot) : Projector :=
  ⟨[], ∅, snapshot.roots, [], []⟩

private theorem ordered_start (snapshot : Snapshot) : Ordered snapshot (start snapshot) :=
  ⟨Snapshot.tracks_empty, .nil⟩

private theorem Ordered.leads {last : Progress} (ordered : Ordered snapshot projector)
    (leads : Progress.Leads snapshot (.more projector) last) :
    ∀ next, last = .more next → Ordered snapshot next := by
  induction leads with
  | refl =>
    rintro next ⟨⟩
    exact ordered
  | tail _ step ih =>
    rintro next rfl
    obtain ⟨before, rfl, taken⟩ := step
    exact (ih before rfl).step taken

private theorem Ordered.tracks_nil (ordered : Ordered snapshot projector) (between : projector.frames = []) :
    Snapshot.Tracks projector.ancestors [] := by
  have tracked := ordered.tracked
  rw [between] at tracked
  exact tracked

private theorem yields_root (snapshot : Snapshot) {root : NodeId} {rest : List NodeId}
    (between : projector.frames = [])
    (next : projector.roots = root :: rest) (tracked : Snapshot.Tracks projector.ancestors []) :
    Yields snapshot [] (projector.await rest) (snapshot.tree [] root) (snapshot.treeUnshown [] root)
      deliver (.more projector) := by
  obtain ⟨frames, ancestors, roots, trees, unshown⟩ := projector
  obtain rfl : frames = [] := between
  obtain rfl : roots = root :: rest := next
  have taken := leads_step snapshot ⟨[], ancestors, root :: rest, trees, unshown⟩
  have yields := enter_yields snapshot [] root ⟨[], ancestors, rest, trees, unshown⟩ tracked
  cases made : snapshot.tree [] root with
  | error fault =>
    rw [made] at yields
    exact taken.trans yields
  | ok entry =>
    rw [made] at yields
    obtain ⟨ancestors, kept, handed⟩ := yields
    exact ⟨ancestors, kept, taken.trans handed⟩

/-- In every state of a projection the frames and the ancestors are consistent. Whenever no frame is open,
the next root comes in finitely many steps either to its tree, with no ancestor left and the roots after it
still to be shown, or to its fault; and which of them depends on nothing that was shown before. -/
theorem consistent_of_leads (snapshot : Snapshot) (projector : Projector)
    (reached : Progress.Leads snapshot (.more (start snapshot)) (.more projector)) :
    Consistent snapshot projector ∧
    ∀ root rest, projector.frames = [] → projector.roots = root :: rest →
      (∀ entry, snapshot.tree [] root = .ok entry →
        ∃ next, Progress.Leads snapshot (.more projector) (.more next) ∧ next.frames = [] ∧
          next.roots = rest ∧ next.trees = entry :: projector.trees ∧ next.ancestors.isEmpty = true) ∧
      ∀ fault, snapshot.tree [] root = .error fault →
        ∃ unshown, Progress.Leads snapshot (.more projector) (.done ⟨.error fault, unshown⟩) := by
  have ordered := (ordered_start snapshot).leads reached projector rfl
  refine ⟨ordered.consistent, ?_⟩
  intro root rest between first
  have yields := yields_root snapshot between first (ordered.tracks_nil between)
  constructor
  · intro entry made
    rw [made] at yields
    obtain ⟨ancestors, tracked, handed⟩ := yields
    have empty : ancestors.isEmpty = true := by
      rw [Std.HashSet.isEmpty_iff_forall_not_mem]
      intro id member
      exact List.not_mem_nil ((tracked id).mp member)
    refine ⟨_, handed, ?_⟩
    simp [Projector.await, between, after, Projector.deliver, empty]
  · intro fault failed
    rw [failed] at yields
    exact ⟨_, yields⟩

def loopBehind : Snapshot where
  roots := [⟨0, 0⟩, ⟨0, 1⟩]
  groups := #[#[.functionDecl ⟨default, "f", []⟩, .moduleDecl ⟨"m", [⟨0, 1⟩]⟩]]

theorem consistent_loopBehind :
    ∃ between unshown, Progress.Leads loopBehind (.more (start loopBehind)) (.more between) ∧
      Consistent loopBehind between ∧ between.frames = [] ∧ between.roots = [⟨0, 1⟩] ∧
      between.ancestors.isEmpty = true ∧
      Progress.Leads loopBehind (.more between) (.done ⟨.error (.cycle ⟨0, 1⟩), unshown⟩) := by
  have made : ∃ entry, loopBehind.tree [] ⟨0, 0⟩ = .ok entry := by
    simp [loopBehind, Snapshot.tree, Snapshot.trees, Snapshot.resolve, Node.shown, Except.map]
  have failed : loopBehind.tree [] ⟨0, 1⟩ = .error (.cycle ⟨0, 1⟩) := by
    simp [loopBehind, Snapshot.tree, Snapshot.trees, Snapshot.resolve, Node.shown, Except.map, bind,
      Except.bind]
  obtain ⟨entry, made⟩ := made
  obtain ⟨_, first⟩ := consistent_of_leads loopBehind (start loopBehind) .refl
  obtain ⟨between, leads, closed, roots, _, empty⟩ := (first ⟨0, 0⟩ [⟨0, 1⟩] rfl rfl).1 entry made
  obtain ⟨consistent, second⟩ := consistent_of_leads loopBehind between leads
  obtain ⟨unshown, ended⟩ := (second ⟨0, 1⟩ [] closed roots).2 _ failed
  exact ⟨between, unshown, leads, consistent, closed, roots, empty, ended⟩

end Projector

end Outliner.Projection
