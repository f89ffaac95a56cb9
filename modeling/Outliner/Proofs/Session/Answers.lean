import Outliner.Proofs.Outline.Entries
import Outliner.Proofs.Session.History

/-!
Answers: what a session gives back on the gestures that its outline invites.

What an entry offers is decided when the outline is made, and where a gesture leads when it is answered.
The two agree on every node, and whatever was done with a session, its entries are made from the nodes of
its snapshot. So an action is offered exactly if it is answered.
-/
set_option autoImplicit false

namespace Outliner

namespace Node

variable (node : Node) (id : NodeId) (children : List Entry)

private theorem navigation?_selected :
    node.navigation? (.selected id) = (node.entry id children).tooltip.map .openSourceFile := by
  cases node <;> rfl

private theorem navigation?_openSourceFile :
    node.navigation? (.invoked id .openSourceFile) =
      (node.entry id children).tooltip.map .openSourceFile := by
  cases node <;> rfl

private theorem hasAction_openSourceFile_entry :
    (node.entry id children).hasAction .openSourceFile =
      (node.entry id children).tooltip.isSome := by
  cases node <;> rfl

private theorem hasAction_highlightDeclaration_entry :
    (node.entry id children).hasAction .highlightDeclaration = node.site?.isSome := by
  cases node <;> rfl

end Node

namespace Session

def answer (session : Session) (gesture : Gesture) : Option Navigation :=
  (session.handle gesture).2.1

def notes (session : Session) (gesture : Gesture) : List LogEvent :=
  (session.handle gesture).2.2

/-- The answer to a gesture by the nodes of a snapshot. -/
def answerBy (current : Option Snapshot) (gesture : Gesture) : Option Navigation := do
  let snapshot ← current
  let node ← (snapshot.resolve gesture.node).toOption
  node.navigation? gesture

private theorem answer_eq_navigation? (session : Session) (gesture : Gesture) :
    session.answer gesture = (session.navigation? gesture).1 := by
  unfold answer handle
  split
  · rename_i found
    rw [found]
  · rename_i found
    rw [found]
    split <;> rfl

/-- Nothing but the current snapshot decides on an answer. -/
theorem answer_eq_answerBy (session : Session) (gesture : Gesture) :
    session.answer gesture = answerBy session.snapshot gesture := by
  rw [answer_eq_navigation?, navigation?, resolve, answerBy]
  cases session.snapshot with
  | none => rfl
  | some snapshot => cases resolved : snapshot.resolve gesture.node <;> simp [resolved, Except.toOption]

section

variable {session : Session} {snapshot : Snapshot} {gesture : Gesture} {node : Node}

private theorem answer_of_resolve (current : session.snapshot = some snapshot)
    (resolved : snapshot.resolve gesture.node = .ok node) :
    session.answer gesture = node.navigation? gesture := by
  rw [answer_eq_answerBy, current]
  simp [answerBy, resolved, Except.toOption]

private theorem notes_of_resolve (current : session.snapshot = some snapshot)
    (resolved : snapshot.resolve gesture.node = .ok node) :
    ∀ event ∈ session.notes gesture,
      ∃ navigation, session.answer gesture = some navigation ∧ event = .channelClosed navigation := by
  have found : session.navigation? gesture = (node.navigation? gesture, []) := by
    simp [navigation?, resolve, current, resolved]
  rw [answer_of_resolve current resolved]
  unfold notes handle
  rw [found]
  cases node.navigation? gesture <;> cases session.channel <;> simp

end

/-- The gestures on the entry of a node are answered as the entry offers it. -/
structure Answered (session : Session) (entry : Entry) (id : NodeId) (node : Node) : Prop where
  noted : ∀ gesture : Gesture, gesture.node = id →
    ∀ event ∈ session.notes gesture,
      ∃ navigation, session.answer gesture = some navigation ∧ event = .channelClosed navigation
  opens : entry.hasAction .openSourceFile = true ↔
    (session.answer (.invoked id .openSourceFile)).isSome = true
  selects : entry.hasAction .openSourceFile = true ↔
    (session.answer (.selected id)).isSome = true
  file : ∀ navigation, session.answer (.invoked id .openSourceFile) = some navigation ∨
      session.answer (.selected id) = some navigation →
    ∃ url, entry.tooltip = some url ∧ navigation = .openSourceFile url
  highlights : entry.hasAction .highlightDeclaration = true ↔
    (session.answer (.invoked id .highlightDeclaration)).isSome = true
  site : ∀ navigation, session.answer (.invoked id .highlightDeclaration) = some navigation →
    ∃ range, node.site? = some range ∧ navigation = .highlightFullDeclaration range

private theorem answered_entry {session : Session} {snapshot : Snapshot} {id : NodeId} {node : Node}
    (children : List Entry) (current : session.snapshot = some snapshot)
    (resolved : snapshot.resolve id = .ok node) :
    session.Answered (node.entry id children) id node := by
  have answer : ∀ gesture : Gesture, gesture.node = id →
      session.answer gesture = node.navigation? gesture := by
    rintro gesture rfl
    exact answer_of_resolve current resolved
  have opened := (answer (.invoked id .openSourceFile) rfl).trans
    (node.navigation?_openSourceFile id children)
  have selected := (answer (.selected id) rfl).trans (node.navigation?_selected id children)
  have highlighted : session.answer (.invoked id .highlightDeclaration) =
      node.site?.map .highlightFullDeclaration := answer _ rfl
  constructor
  · rintro gesture rfl
    exact notes_of_resolve current resolved
  · rw [opened, node.hasAction_openSourceFile_entry, Option.isSome_map]
  · rw [selected, node.hasAction_openSourceFile_entry, Option.isSome_map]
  · intro navigation found
    rw [opened, selected, or_self] at found
    obtain ⟨url, tooltip, rfl⟩ := Option.map_eq_some_iff.mp found
    exact ⟨url, tooltip, rfl⟩
  · rw [highlighted, node.hasAction_highlightDeclaration_entry, Option.isSome_map]
  · intro navigation found
    rw [highlighted] at found
    obtain ⟨range, site, rfl⟩ := Option.map_eq_some_iff.mp found
    exact ⟨range, site, rfl⟩

/-- Whatever was done with a session, every entry with a node in its outline stands for a node of the
current snapshot, and gestures on it are answered as the entry offers it. The other entries are the
groupings of parameters. -/
theorem answered_after (operations : List Operation) :
    (∀ entry id, entry.StandsIn (after operations).tree → entry.node = some id →
      ∃ snapshot node, (after operations).snapshot = some snapshot ∧
        snapshot.resolve id = .ok node ∧ (after operations).Answered entry id node) ∧
    Entry.GroupParameters (after operations).tree := by
  -- A session without snapshot has no entries, and any other one shows the outline of its snapshot.
  rcases view_after_cases operations with empty | ⟨snapshot, trees, shown, made, _⟩
  · obtain ⟨_, tree⟩ := Prod.mk.inj empty
    rw [tree]
    refine ⟨?_, .nil⟩
    intro entry id inside
    exact absurd inside Entry.not_standsIn_nil
  · obtain ⟨current, tree⟩ := Prod.mk.inj shown
    rw [tree]
    refine ⟨?_, Snapshot.groupParameters_of_project made⟩
    intro entry id inside same
    obtain ⟨node, children, resolved, rfl⟩ :=
      (Snapshot.faithful_of_project made inside).ofNode id same
    exact ⟨snapshot, node, current, resolved, answered_entry children current resolved⟩

theorem answered_after_sharedFile :
    ∃ file : Entry, file.StandsIn (after [.replace sharedFile]).tree ∧ file.node = some ⟨2, 0⟩ ∧
      file.hasAction .openSourceFile = true ∧
      ((after [.replace sharedFile]).answer (.selected ⟨2, 0⟩)).isSome = true := by
  obtain ⟨first, file, rest, made, children, same, offered⟩ := project_sharedFile
  have tree : (after [.replace sharedFile]).tree = first :: rest := by
    have shown := view_replace new sharedFile
    rw [viewOf, made] at shown
    exact (Prod.mk.inj shown).2
  have inside : file.StandsIn (after [.replace sharedFile]).tree := by
    rw [tree]
    refine ⟨first, List.mem_cons_self, .single ?_⟩
    rw [children]
    exact List.mem_cons_self
  obtain ⟨_, node, _, _, answered⟩ :=
    (answered_after [.replace sharedFile]).1 file ⟨2, 0⟩ inside same
  exact ⟨file, inside, same, offered, answered.selects.mp offered⟩

end Session

end Outliner
