import Mathlib.Data.List.TakeWhile
import Outliner.Proofs.Session.Answers

/-!
Messages: what goes over the channel of a session while anything is done with it.

A channel hands on what was put on it, in order. So what was put on it is what has been received and then
what is still waiting. Each operation adds to this the message that it gives back, if it gives one back,
and nothing else; and what it gives back depends on what the session shows, but not on the channel.
-/
set_option autoImplicit false

namespace Outliner

def Channel.waiting : Channel → List Navigation
  | .listening waiting => waiting.reverse
  | .closed => []

namespace Session

def Operation.closes : Operation → Bool
  | .close => true
  | .load _ | .replace _ | .handle _ | .drain => false

private theorem Operation.eq_close_of_closes {operation : Operation} (closes : operation.closes = true) :
    operation = .close := by
  cases operation with
  | close => rfl
  | load | replace | handle | drain => cases closes

inductive Reply where
  | outline (trees : List Entry)
  | answer (navigation : Option Navigation)

def Reply.message? : Reply → Option Navigation
  | .outline _ => none
  | .answer navigation => navigation

/-- What an operation gives back: loading and replacing the outline, and a gesture its answer. -/
def reply (session : Session) : Operation → List Reply
  | .load text => [.outline (session.load text).1.tree]
  | .replace snapshot => [.outline (session.replace snapshot).1.tree]
  | .handle gesture => [.answer (session.answer gesture)]
  | .drain | .close => []

def receive (session : Session) : Operation → List Navigation
  | .drain => session.drain.2
  | .load _ | .replace _ | .handle _ | .close => []

def replies (session : Session) : List Operation → List Reply
  | [] => []
  | operation :: rest => session.reply operation ++ (session.apply operation).replies rest

def received (session : Session) : List Operation → List Navigation
  | [] => []
  | operation :: rest => session.receive operation ++ (session.apply operation).received rest

def whileOpen (operations : List Operation) : List Operation :=
  operations.takeWhile fun operation => !operation.closes

def withoutClose (operations : List Operation) : List Operation :=
  operations.filter fun operation => !operation.closes

/-- What the operations put on the channel of a new session while someone listens: what they receive
from it, and what is left waiting. -/
def sent (operations : List Operation) : List Navigation :=
  new.received (whileOpen operations) ++ (after (whileOpen operations)).channel.waiting

/-- The snapshot that the last loading or replacing has left, if it could be read and shown. -/
def installed? (operations : List Operation) : Option Snapshot :=
  (((lastInstall? operations).bind Operation.snapshot?).elim (none, []) viewOf).1

private theorem channel_replace (session : Session) (snapshot : Snapshot) :
    (session.replace snapshot).1.channel = session.channel := by
  simp only [replace]
  cases snapshot.project.result <;> rfl

theorem channel_load (session : Session) (text : String) :
    (session.load text).1.channel = session.channel := by
  unfold load
  split
  · rfl
  · exact channel_replace session _

private theorem handle_of_unresolved {session : Session} {gesture : Gesture}
    (unresolved : ∀ snapshot, session.snapshot = some snapshot →
      ∃ fault, snapshot.resolve gesture.node = .error fault) :
    ∃ event, event.level = .warn ∧ session.handle gesture = (session, none, [event]) := by
  cases current : session.snapshot with
  | none =>
    refine ⟨.noSnapshot gesture.node, rfl, ?_⟩
    simp [handle, navigation?, resolve, current]
  | some snapshot =>
    obtain ⟨fault, failed⟩ := unresolved snapshot current
    refine ⟨.staleReference gesture.node fault.message, rfl, ?_⟩
    simp [handle, navigation?, resolve, current, failed]

private theorem channel_handle {session : Session} {waiting : List Navigation}
    (listening : session.channel = .listening waiting) (gesture : Gesture) :
    (session.handle gesture).1.channel =
      .listening ((session.answer gesture).toList ++ waiting) := by
  unfold answer handle
  rw [listening]
  split
  · exact listening
  · rfl

private theorem listening_apply {session : Session} {waiting : List Navigation}
    (listening : session.channel = .listening waiting) {operation : Operation}
    (goesOn : operation.closes = false) :
    ∃ waiting', (session.apply operation).channel = .listening waiting' ∧
      session.receive operation ++ waiting'.reverse =
        waiting.reverse ++ (session.reply operation).filterMap Reply.message? := by
  cases operation with
  | load text =>
    refine ⟨waiting, (channel_load session text).trans listening, ?_⟩
    simp [receive, reply, Reply.message?]
  | replace snapshot =>
    refine ⟨waiting, (channel_replace session snapshot).trans listening, ?_⟩
    simp [receive, reply, Reply.message?]
  | handle gesture =>
    refine ⟨(session.answer gesture).toList ++ waiting, channel_handle listening gesture, ?_⟩
    cases found : session.answer gesture <;> simp [receive, reply, Reply.message?, found]
  | drain =>
    refine ⟨[], ?_, ?_⟩
    · simp [apply, drain, listening]
    · simp [receive, reply, drain, listening]
  | close => cases goesOn

private theorem closed_apply {session : Session} (closed : session.channel = .closed)
    (operation : Operation) :
    (session.apply operation).channel = .closed ∧ session.receive operation = [] := by
  cases operation with
  | load text => exact ⟨(channel_load session text).trans closed, rfl⟩
  | replace snapshot => exact ⟨(channel_replace session snapshot).trans closed, rfl⟩
  | handle gesture =>
    refine ⟨?_, rfl⟩
    simp only [apply, handle, closed]
    split <;> exact closed
  | drain => simp [apply, receive, drain, closed]
  | close => exact ⟨rfl, rfl⟩

private theorem reply_congr {first second : Session} (same : first.view = second.view)
    (operation : Operation) : first.reply operation = second.reply operation := by
  cases operation with
  | load text =>
    have shown := (view_load first text).trans (view_load second text).symm
    rw [reply, reply, (Prod.mk.inj shown).2]
  | replace snapshot =>
    have shown := (view_replace first snapshot).trans (view_replace second snapshot).symm
    rw [reply, reply, (Prod.mk.inj shown).2]
  | handle gesture =>
    rw [reply, reply, answer_eq_answerBy, answer_eq_answerBy, (Prod.mk.inj same).1]
  | drain | close => rfl

private theorem replies_append (session : Session) (first second : List Operation) :
    session.replies (first ++ second) =
      session.replies first ++ (first.foldl apply session).replies second := by
  induction first generalizing session with
  | nil => rfl
  | cons operation rest ih =>
    rw [List.cons_append, replies, ih, replies, List.append_assoc]
    rfl

theorem received_append_waiting {session : Session} {waiting : List Navigation}
    (listening : session.channel = .listening waiting) {operations : List Operation}
    (goesOn : ∀ operation ∈ operations, operation.closes = false) :
    session.received operations ++ (operations.foldl apply session).channel.waiting =
      waiting.reverse ++ (session.replies operations).filterMap Reply.message? := by
  -- The messages that are waiting now are those which the operations still to come start from.
  induction operations generalizing session waiting with
  | nil => simp [received, replies, listening, Channel.waiting]
  | cons operation rest ih =>
    obtain ⟨first, others⟩ := List.forall_mem_cons.mp goesOn
    obtain ⟨waiting', listening', added⟩ := listening_apply listening first
    calc session.received (operation :: rest) ++
          ((operation :: rest).foldl apply session).channel.waiting
      _ = session.receive operation ++ ((session.apply operation).received rest ++
            (rest.foldl apply (session.apply operation)).channel.waiting) := by
          rw [received, List.append_assoc]
          rfl
      _ = session.receive operation ++ (waiting'.reverse ++
            ((session.apply operation).replies rest).filterMap Reply.message?) := by
          rw [ih listening' others]
      _ = waiting.reverse ++ (session.replies (operation :: rest)).filterMap Reply.message? := by
          rw [← List.append_assoc, added, replies, List.filterMap_append, List.append_assoc]

private theorem closed_foldl {session : Session} (closed : session.channel = .closed)
    (operations : List Operation) :
    (operations.foldl apply session).channel = .closed ∧ session.received operations = [] := by
  induction operations generalizing session with
  | nil => exact ⟨closed, rfl⟩
  | cons operation rest ih =>
    obtain ⟨closed', nothing⟩ := closed_apply closed operation
    obtain ⟨atEnd, later⟩ := ih closed'
    refine ⟨atEnd, ?_⟩
    rw [received, nothing, later, List.append_nil]

private theorem replies_withoutClose {first second : Session} (same : first.view = second.view)
    (operations : List Operation) :
    first.replies (withoutClose operations) = second.replies operations ∧
      ((withoutClose operations).foldl apply first).view = (operations.foldl apply second).view := by
  -- The two sessions go on with different channels, but always show the same.
  induction operations generalizing first second with
  | nil => exact ⟨rfl, same⟩
  | cons operation rest ih =>
    have next : (first.apply operation).view = (second.apply operation).view := by
      rw [view_apply, view_apply, same]
    cases closes : operation.closes with
    | true =>
      obtain rfl := Operation.eq_close_of_closes closes
      have unchanged : first.view = second.close.view := same
      exact ih unchanged
    | false =>
      have kept : withoutClose (operation :: rest) = operation :: withoutClose rest := by
        simp [withoutClose, closes]
      obtain ⟨given, shown⟩ := ih next
      rw [kept]
      refine ⟨?_, shown⟩
      rw [replies, replies, reply_congr same, given]

private theorem snapshot_after (operations : List Operation) :
    (after operations).snapshot = installed? operations :=
  congrArg Prod.fst (view_after operations)

private theorem closed_of_mem {session : Session} {operations : List Operation}
    (ends : .close ∈ operations) :
    (operations.foldl apply session).channel = .closed ∧
      session.received operations = session.received (whileOpen operations) := by
  induction operations generalizing session with
  | nil => cases ends
  | cons operation rest ih =>
    cases closes : operation.closes with
    | true =>
      obtain rfl := Operation.eq_close_of_closes closes
      have closed : session.close.channel = .closed := rfl
      exact closed_foldl closed rest
    | false =>
      have later : .close ∈ rest := by
        rcases List.mem_cons.mp ends with rfl | later
        · cases closes
        · exact later
      have kept : whileOpen (operation :: rest) = operation :: whileOpen rest := by
        simp [whileOpen, closes]
      obtain ⟨closed, same⟩ := @ih (session.apply operation) later
      refine ⟨closed, ?_⟩
      rw [kept, received, received, same]

private theorem sent_eq_messages (operations : List Operation) :
    sent operations = (new.replies (whileOpen operations)).filterMap Reply.message? := by
  have goesOn : ∀ operation ∈ whileOpen operations, operation.closes = false := by
    intro operation member
    simpa using List.mem_takeWhile_imp member
  have listening : new.channel = .listening [] := rfl
  exact received_append_waiting listening goesOn

private theorem replies_handle (before : List Operation) (gesture : Gesture) (later : List Operation) :
    new.replies (before ++ .handle gesture :: later) =
      new.replies before ++ .answer (answerBy (installed? before) gesture) ::
        (after (before ++ [.handle gesture])).replies later := by
  rw [replies_append, ← snapshot_after, ← answer_eq_answerBy, after_append_singleton]
  rfl

/-- Whatever is done with a new session, the messages that go over its channel while someone listens are
the answers that were given back until then, in order, and none goes over it afterwards. Each answer is
that of the snapshot which the last loading or replacing before the gesture has left. Loading and
replacing leave the channel alone, and so does a gesture on a node that is not there, which is noted as
one warning. That listening ends changes neither what is given back nor what is shown. -/
theorem sent_eq_answers (operations : List Operation) :
    sent operations = (new.replies (whileOpen operations)).filterMap Reply.message? ∧
    (.close ∈ operations → (after operations).channel = .closed ∧
      new.received operations = new.received (whileOpen operations)) ∧
    (∀ before gesture later, operations = before ++ .handle gesture :: later →
      new.replies operations =
        new.replies before ++ .answer (answerBy (installed? before) gesture) ::
          (after (before ++ [.handle gesture])).replies later) ∧
    (∀ text, ((after operations).load text).1.channel = (after operations).channel) ∧
    (∀ snapshot, ((after operations).replace snapshot).1.channel = (after operations).channel) ∧
    (∀ gesture, (∀ snapshot, (after operations).snapshot = some snapshot →
        ∃ fault, snapshot.resolve gesture.node = .error fault) →
      ∃ event, event.level = .warn ∧
        (after operations).handle gesture = (after operations, none, [event])) ∧
    new.replies (withoutClose operations) = new.replies operations ∧
    (after (withoutClose operations)).view = (after operations).view := by
  refine ⟨sent_eq_messages operations, closed_of_mem, ?_, channel_load _, channel_replace _,
    fun gesture => handle_of_unresolved, replies_withoutClose rfl operations⟩
  rintro before gesture later rfl
  exact replies_handle before gesture later

/-- A history with a snapshot that cannot be shown in the middle, and with the end of all listening. -/
def interrupted : List Operation :=
  [.handle (.selected ⟨2, 0⟩), .replace sharedFile, .handle (.selected ⟨2, 0⟩), .drain,
    .replace ⟨[⟨2, 0⟩], #[]⟩, .handle (.selected ⟨2, 0⟩), .replace sharedFile,
    .handle (.invoked ⟨2, 1⟩ .highlightDeclaration), .close, .handle (.selected ⟨2, 0⟩)]

theorem sent_interrupted :
    .close ∈ interrupted ∧ (after interrupted).channel = .closed ∧
      sent interrupted = [.openSourceFile "file:///a.src",
        .highlightFullDeclaration ⟨⟨1, 1⟩, ⟨9, 2⟩, "file:///a.src"⟩] := by
  have closes : Operation.close ∈ interrupted := by simp [interrupted]
  obtain ⟨messages, closed, _⟩ := sent_eq_answers interrupted
  refine ⟨closes, (closed closes).1, ?_⟩
  obtain ⟨first, file, rest, made, _⟩ := project_sharedFile
  have broken : (Snapshot.mk [⟨2, 0⟩] #[]).project.result = .error (.outOfRange ⟨2, 0⟩ 0 none) := by
    rw [Snapshot.project_eq]
    simp [Snapshot.trees, Snapshot.tree, Snapshot.resolve, bind, Except.bind]
  have given : new.replies (whileOpen interrupted) =
      [.answer none, .outline (first :: rest), .answer (some (.openSourceFile "file:///a.src")),
        .outline [], .answer none, .outline (first :: rest),
        .answer (some (.highlightFullDeclaration ⟨⟨1, 1⟩, ⟨9, 2⟩, "file:///a.src"⟩))] := by
    have selected : answerBy (some sharedFile) (.selected ⟨2, 0⟩) =
        some (.openSourceFile "file:///a.src") := rfl
    have highlighted : answerBy (some sharedFile) (.invoked ⟨2, 1⟩ .highlightDeclaration) =
        some (.highlightFullDeclaration ⟨⟨1, 1⟩, ⟨9, 2⟩, "file:///a.src"⟩) := rfl
    have nothing : ∀ gesture, answerBy none gesture = none := fun _ => rfl
    have unchanged : ∀ (session : Session) gesture,
        (session.handle gesture).1.snapshot = session.snapshot := fun session gesture =>
      congrArg Prod.fst (view_handle session gesture)
    simp [interrupted, whileOpen, Operation.closes, replies, reply, apply, answer_eq_answerBy, replace,
      made, broken, clear, drain, new, selected, highlighted, nothing, unchanged]
  rw [messages, given]
  rfl

end Session

end Outliner
