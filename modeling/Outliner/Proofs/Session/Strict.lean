import Outliner.CommandLine.Run
import Outliner.Proofs.Outline.Faults
import Outliner.Proofs.Session.History

/-!
Strict opening: a snapshot that has passed validation is always shown.

Validation looks at a shared node once and at the members of product types, while an outline repeats a
shared node wherever it is referred to and leaves members out. Still, a snapshot that passes the one has
the other, with one tree for every root.
-/
set_option autoImplicit false

namespace Outliner

namespace CommandLine

/-- A strict opening shows exactly the valid snapshots. -/
theorem openSession_strict_eq_ok_iff {text : String} {session : Session} :
    openSession true text = .ok session ↔
      ∃ snapshot, Snapshot.ofText text = .ok snapshot ∧ snapshot.validate = .ok () ∧
        (Session.new.replace snapshot).1 = session := by
  simp only [openSession, if_true]
  cases Snapshot.ofText text with
  | error fault => simp
  | ok snapshot =>
    cases verdict : snapshot.validate with
    | error fault => simp [verdict]
    | ok passed => simp [verdict]

end CommandLine

namespace Session

/-- The outline of a valid snapshot has one tree for every root, which stands for that root. So whatever
a session showed before, it shows the snapshot and this outline after replacing, and so does a session
that is opened strictly. -/
theorem view_replace_of_validate {snapshot : Snapshot} (valid : snapshot.validate = .ok ()) :
    ∃ trees, snapshot.project.result = .ok trees ∧
      trees.map Entry.node = snapshot.roots.map some ∧
      (∀ session : Session, (session.replace snapshot).1.view = (some snapshot, trees)) ∧
      ∀ text, Snapshot.ofText text = .ok snapshot →
        ∃ session, CommandLine.openSession true text = .ok session ∧
          session.view = (some snapshot, trees) := by
  obtain ⟨trees, made⟩ := Snapshot.project_of_validate valid
  have shown : ∀ session : Session, (session.replace snapshot).1.view = (some snapshot, trees) := by
    intro session
    rw [view_replace, viewOf, made]
  refine ⟨trees, made, Snapshot.map_node_of_project made, shown, ?_⟩
  intro text read
  refine ⟨(new.replace snapshot).1, ?_, shown new⟩
  exact CommandLine.openSession_strict_eq_ok_iff.mpr ⟨snapshot, read, valid, rfl⟩

theorem view_replace_sharedFile :
    sharedFile.validate = .ok () ∧
      ∃ trees, sharedFile.project.result = .ok trees ∧
        trees.map Entry.node = [some ⟨0, 0⟩, some ⟨0, 1⟩, some ⟨0, 0⟩] ∧
        ∀ session : Session, (session.replace sharedFile).1.view = (some sharedFile, trees) := by
  have valid : sharedFile.validate = .ok () := by
    rw [Snapshot.validate_eq_checkAll]
    simp [Snapshot.checkAll_eq_ok_iff, Snapshot.check, Snapshot.resolve, sharedFile, Node.children]
  obtain ⟨trees, made, nodes, shown, _⟩ := view_replace_of_validate valid
  exact ⟨valid, trees, made, nodes, shown⟩

end Session

end Outliner
