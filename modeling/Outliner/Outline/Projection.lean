import Outliner.Outline.Charge

/-!
Projection: the outline of a snapshot, one tree for every root.
-/
set_option autoImplicit false

namespace Outliner

set_option linter.unusedVariables false in
def Projection.Projector.run (snapshot : Snapshot) (projector : Projector) : Outcome :=
  match h : projector.step snapshot with
  | .done outcome => outcome
  | .more projector => run snapshot projector
termination_by projector.remaining snapshot
decreasing_by exact remaining_step h

/-- The outline of a snapshot, one tree for every root. -/
def Snapshot.project (snapshot : Snapshot) : Projection.Outcome :=
  Projection.Projector.run snapshot ⟨[], ∅, snapshot.roots, [], []⟩

end Outliner
