import Outliner.Proofs.Outline.Entries
import Outliner.Proofs.Outline.Faults
import Outliner.Proofs.Session.History

/-!
Notes: what is noted while an outline is made.

A node that no entry can show is noted when it is met, long before the trees around it are finished. Still,
the notes on an outline follow the preorder of its trees, one for each entry of an unknown kind, since a
node is met when the entry for it begins. If there is no outline, the notes are those on the nodes at which
a walk along what is shown looks before it comes to the fault.
-/
set_option autoImplicit false

namespace Outliner

open Projection (Unshown parametersEntry)

namespace Projection

def Unshown.note (unshown : Unshown) : LogEvent :=
  .noRenderer unshown.id unshown.kind

private theorem Outcome.events_of_ok {outcome : Outcome} {trees : List Entry}
    (made : outcome.result = .ok trees) : outcome.events =
      outcome.unshown.map Unshown.note ++ [.projected trees.length outcome.unshown.length] := by
  rw [events, made]
  rfl

private theorem Outcome.events_of_error {outcome : Outcome} {fault : StructureFault}
    (failed : outcome.result = .error fault) : outcome.events = outcome.unshown.map Unshown.note := by
  rw [events, failed]
  rfl

end Projection

namespace Entry

def unknowns (trees : List Entry) : List Entry :=
  (preorderAll trees).filter fun entry => entry.category = .unknown

private theorem unknowns_cons (tree : Entry) (rest : List Entry) :
    unknowns (tree :: rest) = unknowns [tree] ++ unknowns rest := by
  simp only [unknowns, preorderAll, List.filter_append, List.append_nil]

def StandsFor (snapshot : Snapshot) (unshown : Unshown) (entry : Entry) : Prop :=
  ∃ node, entry.node = some unshown.id ∧ snapshot.resolve unshown.id = .ok node ∧
    unshown.kind = node.rawKind

end Entry

namespace Snapshot

section

variable {snapshot : Snapshot} {ancestors : List NodeId} {id : NodeId} {node : Node}
  {children : List Entry}

private theorem unknowns_entry (length : children.length = node.shown.length) :
    Entry.unknowns [node.entry id children] =
      (if node.unshown id = [] then [] else [node.entry id children]) ++ Entry.unknowns children := by
  have leaf : node.shown = [] → children = [] := by
    intro empty
    rw [empty] at length
    exact List.eq_nil_of_length_eq_zero length
  cases node with
  | moduleDecl | translationUnit | functionDecl =>
    simp [Entry.unknowns, Entry.preorderAll, Entry.preorder, Node.entry, Node.unshown]
  | productTypeDecl | parameterDecl | missing | unrecognized =>
    rw [leaf rfl]
    simp [Entry.unknowns, Entry.preorderAll, Entry.preorder, Node.entry, Node.unshown]

private theorem standsFor_entry (resolved : snapshot.resolve id = .ok node) (children : List Entry) :
    List.Forall₂ (Entry.StandsFor snapshot) (node.unshown id)
      (if node.unshown id = [] then [] else [node.entry id children]) := by
  cases node with
  | missing => exact .cons ⟨_, rfl, resolved, rfl⟩ .nil
  | unrecognized kind payload => exact .cons ⟨_, rfl, resolved, rfl⟩ .nil
  | _ => exact .nil

private theorem standsFor_of_each {ids : List NodeId} {entries : List Entry}
    (each : List.Forall₂ (fun id entry => snapshot.tree ancestors id = .ok entry ∧
      List.Forall₂ (Entry.StandsFor snapshot) (snapshot.treeUnshown ancestors id)
        (Entry.unknowns [entry])) ids entries) :
    List.Forall₂ (Entry.StandsFor snapshot) (snapshot.treesUnshown ancestors ids)
      (Entry.unknowns entries) := by
  induction each with
  | nil =>
    rw [treesUnshown]
    exact .nil
  | @cons id entry ids entries first _ ih =>
    obtain ⟨made, notes⟩ := first
    rw [treesUnshown_cons_of_ok made, Entry.unknowns_cons]
    exact List.rel_append notes ih

private theorem standsFor_of_tree {entry : Entry} (made : snapshot.tree ancestors id = .ok entry) :
    List.Forall₂ (Entry.StandsFor snapshot) (snapshot.treeUnshown ancestors id)
      (Entry.unknowns [entry]) := by
  refine (tree_induction (motive := fun ancestors id entry =>
    snapshot.tree ancestors id = .ok entry ∧ List.Forall₂ (Entry.StandsFor snapshot)
      (snapshot.treeUnshown ancestors id) (Entry.unknowns [entry])) ?_ ancestors id entry made).2
  intro ancestors id node children resolved fresh below
  have trees := trees_eq_ok_iff.mpr (below.imp fun _ _ made => made.1)
  refine ⟨tree_eq_ok_iff.mpr ⟨node, children, resolved, fresh, trees, rfl⟩, ?_⟩
  rw [treeUnshown_of_fresh resolved fresh, unknowns_entry below.length_eq.symm]
  exact List.rel_append (standsFor_entry resolved children) (standsFor_of_each below)

end

private theorem standsFor_of_project {snapshot : Snapshot} {trees : List Entry}
    (made : snapshot.project.result = .ok trees) :
    List.Forall₂ (Entry.StandsFor snapshot) snapshot.project.unshown (Entry.unknowns trees) := by
  rw [project_eq] at made ⊢
  refine standsFor_of_each ((trees_eq_ok_iff.mp made).imp fun id entry made => ?_)
  exact ⟨made, standsFor_of_tree made⟩

/-- What is noted at a look that finds nothing wrong: the node, if no entry can show it. -/
def unshownAt (snapshot : Snapshot) (look : Look) : List Unshown :=
  match snapshot.resolve look.id with
  | .ok node => node.unshown look.id
  | .error _ => []

/-- The looks before the first one that finds a fault. -/
def untilFault (snapshot : Snapshot) (looks : List Look) : List Look :=
  looks.takeWhile fun look => (snapshot.faultAt? look).isNone

section

variable {snapshot : Snapshot} {path : List NodeId} {id : NodeId}

private theorem untilFault_append_of_ok {looks : List Look} (passed : snapshot.firstFault looks = .ok ())
    (others : List Look) :
    snapshot.untilFault (looks ++ others) = looks ++ snapshot.untilFault others := by
  unfold firstFault at passed
  split at passed
  · cases passed
  · rename_i none
    refine List.takeWhile_append_of_pos fun look listed => ?_
    rw [List.findSome?_eq_none_iff.mp none look listed]
    rfl

private theorem untilFault_of_ok {looks : List Look} (passed : snapshot.firstFault looks = .ok ()) :
    snapshot.untilFault looks = looks := by
  have whole := untilFault_append_of_ok passed []
  rw [List.append_nil] at whole
  exact whole.trans (List.append_nil looks)

private theorem untilFault_of_split {before later : List Look} {look : Look} {fault : StructureFault}
    (sound : ∀ earlier ∈ before, snapshot.faultAt? earlier = none)
    (atLook : snapshot.faultAt? look = some fault) :
    snapshot.untilFault (before ++ look :: later) = before := by
  have all : ∀ earlier ∈ before, (snapshot.faultAt? earlier).isNone = true := by
    intro earlier listed
    rw [sound earlier listed]
    rfl
  rw [untilFault, List.takeWhile_append_of_pos all, List.takeWhile_cons, atLook]
  simp

private theorem exists_of_firstFault {looks : List Look} {fault : StructureFault}
    (failed : snapshot.firstFault looks = .error fault) :
    ∃ before look later, looks = before ++ look :: later ∧
      (∀ earlier ∈ before, snapshot.faultAt? earlier = none) ∧ snapshot.faultAt? look = some fault := by
  unfold firstFault at failed
  split at failed
  · rename_i found some
    obtain rfl := Except.error.inj failed
    obtain ⟨before, look, later, split, atLook, sound⟩ := List.findSome?_eq_some_iff.mp some
    exact ⟨before, look, later, split, sound, atLook⟩
  · cases failed

private theorem treesUnshown_eq_of_each {ids : List NodeId}
    (each : ∀ id ∈ ids, (snapshot.tree path id).map (fun _ => ()) =
        snapshot.firstFault (snapshot.looks Node.shown path id) ∧
      snapshot.treeUnshown path id =
        (snapshot.untilFault (snapshot.looks Node.shown path id)).flatMap snapshot.unshownAt) :
    snapshot.treesUnshown path ids =
      (snapshot.untilFault (snapshot.looksAll Node.shown path ids)).flatMap snapshot.unshownAt := by
  induction ids with
  | nil =>
    rw [treesUnshown, looksAll]
    rfl
  | cons id rest ih =>
    obtain ⟨⟨verdict, notes⟩, others⟩ := List.forall_mem_cons.mp each
    rw [looksAll]
    cases made : snapshot.tree path id with
    | error fault =>
      -- Nothing is noted after the fault, and no look after it counts.
      rw [made] at verdict
      obtain ⟨before, look, later, split, sound, atLook⟩ := exists_of_firstFault verdict.symm
      rw [treesUnshown_cons_of_error made, notes, split, List.append_assoc, List.cons_append,
        untilFault_of_split sound atLook, untilFault_of_split sound atLook]
    | ok entry =>
      rw [made] at verdict
      rw [treesUnshown_cons_of_ok made, notes, ih others, untilFault_of_ok verdict.symm,
        untilFault_append_of_ok verdict.symm, List.flatMap_append]

/-- While a tree is made, the nodes are noted at which a walk looks before it comes to a fault. -/
theorem treeUnshown_eq_untilFault (path : List NodeId) (id : NodeId)
    (stored : ∀ x ∈ path, ∃ node, snapshot.resolve x = .ok node) :
    (snapshot.tree path id).map (fun _ => ()) =
        snapshot.firstFault (snapshot.looks Node.shown path id) ∧
      snapshot.treeUnshown path id =
        (snapshot.untilFault (snapshot.looks Node.shown path id)).flatMap snapshot.unshownAt := by
  have verdict := (map_tree_eq_check path id stored).trans (check_eq_firstFault path id)
  refine ⟨verdict, ?_⟩
  by_cases closed : id ∈ path
  · rw [treeUnshown_of_mem closed, looks_of_mem closed]
    simp [untilFault, faultAt?, closed]
  · cases resolved : snapshot.resolve id with
    | error fault =>
      rw [treeUnshown_of_error resolved, looks_of_error closed resolved]
      simp [untilFault, faultAt?, closed, resolved]
    | ok node =>
      have stored' : ∀ x ∈ id :: path, ∃ node, snapshot.resolve x = .ok node :=
        List.forall_mem_cons.mpr ⟨⟨node, resolved⟩, stored⟩
      have below := treesUnshown_eq_of_each fun child (_ : child ∈ node.shown) =>
        treeUnshown_eq_untilFault (id :: path) child stored'
      have here : snapshot.unshownAt ⟨path, id⟩ = node.unshown id := by
        simp only [unshownAt, resolved]
      have sound : snapshot.firstFault [⟨path, id⟩] = .ok () := by
        simp [firstFault, faultAt?_of_fresh closed resolved]
      have first := untilFault_append_of_ok sound (snapshot.looksAll Node.shown (id :: path) node.shown)
      rw [List.singleton_append] at first
      rw [treeUnshown_of_fresh resolved closed, looks_of_fresh closed resolved, below, first,
        List.flatMap_append, List.flatMap_singleton, here]
termination_by snapshot.room path.contains
decreasing_by exact room_cons_lt resolved closed

end

private theorem unshown_of_failed {snapshot : Snapshot} {fault : StructureFault}
    (failed : snapshot.project.result = .error fault) :
    ∃ before look later, snapshot.looksAll Node.shown [] snapshot.roots = before ++ look :: later ∧
      (∀ earlier ∈ before, snapshot.faultAt? earlier = none) ∧ snapshot.faultAt? look = some fault ∧
      snapshot.project.unshown = before.flatMap snapshot.unshownAt := by
  have verdict := snapshot.map_project_eq_checkAll
  rw [failed, checkAll_eq_firstFault] at verdict
  obtain ⟨before, look, later, split, sound, atLook⟩ := exists_of_firstFault verdict.symm
  have notes : snapshot.treesUnshown [] snapshot.roots =
      (snapshot.untilFault (snapshot.looksAll Node.shown [] snapshot.roots)).flatMap snapshot.unshownAt :=
    treesUnshown_eq_of_each fun root _ => treeUnshown_eq_untilFault [] root (by simp)
  rw [split, untilFault_of_split sound atLook] at notes
  refine ⟨before, look, later, split, sound, atLook, ?_⟩
  rw [project_eq]
  exact notes

private theorem unknown_of_project {snapshot : Snapshot} {trees : List Entry} {entry : Entry}
    (made : snapshot.project.result = .ok trees) (listed : entry ∈ Entry.preorderAll trees) :
    (entry.diagnostic.isSome = true ↔ entry.category = .unknown) ∧
      (entry.category = .unknown ↔ ∃ id node, entry.node = some id ∧ snapshot.resolve id = .ok node ∧
        (node = .missing ∨ ∃ kind payload, node = .unrecognized kind payload)) := by
  have faithful := faithful_of_project made ((Entry.mem_preorderAll_iff trees).mp listed)
  cases same : entry.node with
  | none =>
    obtain ⟨children, rfl⟩ := faithful.ofGrouping same
    simp [parametersEntry, Entry.withChildren, Entry.new]
  | some id =>
    obtain ⟨node, children, resolved, rfl⟩ := faithful.ofNode id same
    have stored : ∀ other, snapshot.resolve id = .ok other ↔ other = node := by
      intro other
      rw [resolved, Except.ok.injEq, eq_comm]
    cases node <;> simp [Node.entry, stored]

/-- If a snapshot has an outline, the events of making it are one note for every unknown entry, in preorder,
with the id and the kind of its node, and then the numbers of roots and of these entries. The entries with a
diagnostic are the unknown ones, which stand for the nodes that are missing or not recognized. If there is no
outline, the events are the notes on the nodes that a walk along what is shown looks at before it comes to the
fault. -/
theorem events_project (snapshot : Snapshot) :
    (∀ trees, snapshot.project.result = .ok trees →
      (∃ notes,
        List.Forall₂ (fun event (entry : Entry) => ∃ id node, entry.node = some id ∧
          snapshot.resolve id = .ok node ∧ event = .noRenderer id node.rawKind)
          notes (Entry.unknowns trees) ∧
        snapshot.project.events =
          notes ++ [.projected snapshot.roots.length (Entry.unknowns trees).length]) ∧
      ∀ entry ∈ Entry.preorderAll trees,
        (entry.diagnostic.isSome = true ↔ entry.category = .unknown) ∧
        (entry.category = .unknown ↔ ∃ id node, entry.node = some id ∧ snapshot.resolve id = .ok node ∧
          (node = .missing ∨ ∃ kind payload, node = .unrecognized kind payload))) ∧
    ∀ fault, snapshot.project.result = .error fault →
      (∀ event ∈ snapshot.project.events, ∀ roots unknown, event ≠ .projected roots unknown) ∧
      ∃ before look later, snapshot.looksAll Node.shown [] snapshot.roots = before ++ look :: later ∧
        (∀ earlier ∈ before, snapshot.faultAt? earlier = none) ∧ snapshot.faultAt? look = some fault ∧
        snapshot.project.events =
          (before.flatMap snapshot.unshownAt).map Unshown.note := by
  constructor
  · intro trees made
    refine ⟨⟨snapshot.project.unshown.map Unshown.note, ?_, ?_⟩, fun entry => unknown_of_project made⟩
    · rw [List.forall₂_map_left_iff]
      refine (standsFor_of_project made).imp ?_
      rintro unshown entry ⟨node, same, resolved, kind⟩
      exact ⟨unshown.id, node, same, resolved, by rw [Unshown.note, kind]⟩
    · rw [Projection.Outcome.events_of_ok made, length_of_project made,
        (standsFor_of_project made).length_eq]
  · intro fault failed
    have events := Projection.Outcome.events_of_error failed
    obtain ⟨before, look, later, split, sound, atLook, notes⟩ := unshown_of_failed failed
    refine ⟨?_, before, look, later, split, sound, atLook, by rw [events, notes]⟩
    rw [events]
    intro event noted roots unknown
    obtain ⟨unshown, _, rfl⟩ := List.mem_map.mp noted
    simp [Unshown.note]

/-- A module that shows a missing node twice before a source that is out of range, and once after it. -/
def cutShort : Snapshot where
  roots := [⟨0, 0⟩]
  groups := #[#[.moduleDecl ⟨"core", [⟨0, 1⟩, ⟨0, 1⟩, ⟨0, 7⟩, ⟨0, 1⟩]⟩, .missing]]

theorem events_project_cutShort :
    (∃ trees, Session.sharedFile.project.result = .ok trees ∧
      Session.sharedFile.project.events =
        List.replicate 4 (.noRenderer ⟨2, 4⟩ "missing") ++ [.projected 3 4]) ∧
    cutShort.project.result = .error (.outOfRange ⟨0, 7⟩ 1 (some 2)) ∧
      cutShort.project.events = [.noRenderer ⟨0, 1⟩ "missing", .noRenderer ⟨0, 1⟩ "missing"] := by
  have made : ∃ trees, Session.sharedFile.project.result = .ok trees ∧
      (Entry.unknowns trees).map Entry.node = List.replicate 4 (some ⟨2, 4⟩) := by
    rw [project_eq]
    simp [trees, tree, resolve, Session.sharedFile, Node.shown, Node.entry, bind, Except.bind, Except.map,
      pure, Except.pure, Entry.unknowns, Entry.preorderAll, Entry.preorder]
  have failed : cutShort.project.result = .error (.outOfRange ⟨0, 7⟩ 1 (some 2)) := by
    rw [project_eq]
    simp [cutShort, trees, tree, resolve, Node.shown, bind, Except.bind, Except.map]
  refine ⟨?_, failed, ?_⟩
  · obtain ⟨trees, made, nodes⟩ := made
    refine ⟨trees, made, ?_⟩
    obtain ⟨notes, each, events⟩ := ((events_project Session.sharedFile).1 trees made).1
    have four : (Entry.unknowns trees).length = 4 := by
      rw [← List.length_map, nodes, List.length_replicate]
    have alike : notes = List.replicate 4 (.noRenderer ⟨2, 4⟩ "missing") := by
      refine List.eq_replicate_iff.mpr ⟨each.length_eq.trans four, fun note listed => ?_⟩
      obtain ⟨entry, unknown, id, node, same, resolved, rfl⟩ := exists_of_mem_right each.flip listed
      have listed' : some id ∈ List.replicate 4 (some (⟨2, 4⟩ : NodeId)) := by
        rw [← nodes, ← same]
        exact List.mem_map_of_mem unknown
      obtain rfl := Option.some.inj (List.eq_of_mem_replicate listed')
      obtain rfl := Except.ok.inj resolved
      rfl
    rw [events, alike, four]
    rfl
  · obtain ⟨before, look, later, split, sound, atLook, events⟩ := ((events_project cutShort).2 _ failed).2
    have cut : cutShort.untilFault (before ++ look :: later) = before := untilFault_of_split sound atLook
    rw [← split] at cut
    rw [events, ← cut]
    simp [looksAll, looks, cutShort, resolve, Node.shown, untilFault, faultAt?, unshownAt, Node.unshown,
      Unshown.note]

end Snapshot

end Outliner
