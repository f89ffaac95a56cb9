import Mathlib.Data.List.Induction
import Outliner.Proofs.Outline.Projection
import Outliner.Session.Basic

/-!
Histories: what a session shows after any operations.

Only loading and replacing change what is shown, and neither depends on what was shown before. So a
history shows what the last of these operations alone would show.
-/
set_option autoImplicit false

namespace Outliner.Session

/-- What can be done with a session, from either side of its channel. -/
inductive Operation where
  | load (text : String)
  | replace (snapshot : Snapshot)
  | handle (gesture : Gesture)
  | drain
  | close

namespace Operation

def installs : Operation → Bool
  | .load _ | .replace _ => true
  | .handle _ | .drain | .close => false

/-- The snapshot that the operation brings, if it brings one and can read it. -/
def snapshot? : Operation → Option Snapshot
  | .load text => (Snapshot.ofText text).toOption
  | .replace snapshot => some snapshot
  | .handle _ | .drain | .close => none

end Operation

def apply (session : Session) : Operation → Session
  | .load text => (session.load text).1
  | .replace snapshot => (session.replace snapshot).1
  | .handle gesture => (session.handle gesture).1
  | .drain => session.drain.1
  | .close => session.close

def after (operations : List Operation) : Session :=
  operations.foldl apply new

/-- What a session shows: its snapshot and the outline of it. -/
def view (session : Session) : Option Snapshot × List Entry :=
  (session.snapshot, session.tree)

/-- What is shown of a snapshot: nothing at all if its structure is at fault. -/
def viewOf (snapshot : Snapshot) : Option Snapshot × List Entry :=
  match snapshot.project.result with
  | .ok tree => (some snapshot, tree)
  | .error _ => (none, [])

def lastInstall? (operations : List Operation) : Option Operation :=
  operations.reverse.find? Operation.installs

theorem view_replace (session : Session) (snapshot : Snapshot) :
    (session.replace snapshot).1.view = viewOf snapshot := by
  simp only [replace, viewOf]
  cases snapshot.project.result <;> rfl

theorem view_load (session : Session) (text : String) :
    (session.load text).1.view = (Snapshot.ofText text).toOption.elim (none, []) viewOf := by
  unfold load Snapshot.parse
  cases Snapshot.ofText text with
  | error fault => rfl
  | ok snapshot => exact view_replace session snapshot

theorem view_handle (session : Session) (gesture : Gesture) :
    (session.handle gesture).1.view = session.view := by
  unfold handle
  split
  · rfl
  · split <;> rfl

private theorem view_drain (session : Session) : session.drain.1.view = session.view := by
  unfold drain
  split <;> rfl

theorem view_apply (session : Session) (operation : Operation) :
    (session.apply operation).view =
      if operation.installs then operation.snapshot?.elim (none, []) viewOf else session.view := by
  cases operation with
  | load text => exact view_load session text
  | replace snapshot => exact view_replace session snapshot
  | handle gesture => exact view_handle session gesture
  | drain => exact view_drain session
  | close => rfl

theorem after_append_singleton (operations : List Operation) (operation : Operation) :
    after (operations ++ [operation]) = (after operations).apply operation := by
  rw [after, List.foldl_append]
  rfl

private theorem lastInstall?_append_singleton (operations : List Operation) (operation : Operation) :
    lastInstall? (operations ++ [operation]) =
      if operation.installs then some operation else lastInstall? operations := by
  simp only [lastInstall?, List.reverse_append, List.reverse_singleton, List.singleton_append,
    List.find?_cons]
  cases operation.installs <;> rfl

/-- A history shows what the last snapshot that was brought shows. -/
theorem view_after (operations : List Operation) :
    (after operations).view =
      ((lastInstall? operations).bind Operation.snapshot?).elim (none, []) viewOf := by
  induction operations using List.reverseRecOn with
  | nil => rfl
  | append_singleton operations operation ih =>
    rw [after_append_singleton, view_apply, lastInstall?_append_singleton]
    cases operation.installs with
    | false => exact ih
    | true => rfl

private theorem lastInstall?_toList (operations : List Operation) :
    lastInstall? (lastInstall? operations).toList = lastInstall? operations := by
  cases last : lastInstall? operations with
  | none => rfl
  | some operation =>
    have installs : operation.installs = true := List.find?_some last
    simp [lastInstall?, installs]

theorem view_after_cases (operations : List Operation) :
    (after operations).view = (none, []) ∨
      ∃ snapshot tree, (after operations).view = (some snapshot, tree) ∧
        snapshot.project.result = .ok tree ∧ tree.length = snapshot.roots.length := by
  rw [view_after]
  cases (lastInstall? operations).bind Operation.snapshot? with
  | none => exact .inl rfl
  | some snapshot =>
    rw [Option.elim_some, viewOf]
    cases shown : snapshot.project.result with
    | error fault => exact .inl rfl
    | ok tree => exact .inr ⟨snapshot, tree, rfl, shown, Snapshot.length_of_project shown⟩

/-- Whatever was done with a session, it shows what a new session shows after the last loading or
replacing alone: nothing if there was none, if the text was no snapshot or if the structure of the
snapshot is at fault, and the snapshot with its outline otherwise. Without snapshot the outline is
empty, and gestures change neither. -/
theorem view_after_eq_last_install (operations : List Operation) :
    (after operations).view = (after (lastInstall? operations).toList).view ∧
    (after operations).view =
      ((lastInstall? operations).bind Operation.snapshot?).elim (none, []) viewOf ∧
    (∀ snapshot, (after operations).snapshot = some snapshot →
      snapshot.project.result = .ok (after operations).tree ∧
        (after operations).tree.length = snapshot.roots.length) ∧
    ((after operations).snapshot = none → (after operations).tree = []) ∧
    ∀ gesture, ((after operations).handle gesture).1.view = (after operations).view := by
  refine ⟨?_, view_after operations, ?_, ?_, view_handle _⟩
  · rw [view_after, view_after, lastInstall?_toList]
  · intro snapshot current
    rcases view_after_cases operations with none | ⟨other, tree, view, shown, length⟩
    · rw [(Prod.mk.inj none).1] at current
      cases current
    · obtain ⟨same, outline⟩ := Prod.mk.inj view
      rw [same] at current
      cases current
      rw [outline]
      exact ⟨shown, length⟩
  · intro current
    rcases view_after_cases operations with none | ⟨other, tree, view, shown, length⟩
    · exact (Prod.mk.inj none).2
    · rw [(Prod.mk.inj view).1] at current
      cases current

/-- Two modules share a source file with a function and a product type, and these share a parameter. -/
def sharedFile : Snapshot :=
  let site : SourceRange := ⟨⟨1, 1⟩, ⟨9, 2⟩, "file:///a.src"⟩
  { roots := [⟨0, 0⟩, ⟨0, 1⟩, ⟨0, 0⟩]
    groups :=
      #[#[.moduleDecl ⟨"M", [⟨2, 0⟩]⟩, .moduleDecl ⟨"N", [⟨2, 0⟩, ⟨2, 0⟩]⟩],
        #[],
        #[.translationUnit ⟨site, [⟨2, 1⟩, ⟨2, 2⟩, ⟨2, 4⟩]⟩, .functionDecl ⟨site, "f", [⟨2, 3⟩]⟩,
          .productTypeDecl ⟨site, "P", [⟨2, 3⟩, ⟨2, 4⟩]⟩, .parameterDecl ⟨site, "x", none⟩,
          .missing]] }

theorem project_sharedFile :
    ∃ first file rest, sharedFile.project.result = .ok (first :: rest) ∧ first.children = [file] ∧
      file.node = some ⟨2, 0⟩ ∧ file.hasAction .openSourceFile = true := by
  rw [Snapshot.project_eq]
  simp [Snapshot.trees, Snapshot.tree, Snapshot.resolve, sharedFile, Node.shown, Node.entry, bind,
    Except.bind, Except.map, pure, Except.pure, Entry.hasAction]

end Outliner.Session
