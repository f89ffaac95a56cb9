import Outliner.Snapshot.NodeId

/-!
Entries: the lines of an outline, as trees. An entry names what it shows and what can be done with it.
-/
set_option autoImplicit false

namespace Outliner

inductive Category where
  | module
  | sourceFile
  | function
  | parameters
  | productType
  | parameter
  | unknown
  deriving DecidableEq

inductive Action where
  | openSourceFile
  | highlightDeclaration
  deriving DecidableEq

def Action.title : Action → String
  | .openSourceFile => "Open source file"
  | .highlightDeclaration => "Highlight declaration"

/-- An entry of an outline with everything below it. A grouping stands for no node. -/
structure Entry where
  label : String
  category : Category
  node : Option NodeId := none
  tooltip : Option String := none
  diagnostic : Option String := none
  children : List Entry := []
  actions : List Action := []

namespace Entry

def unknownLabel : String := "Unknown"

def parametersLabel : String := "parameters"

def new (label : String) (category : Category) : Entry :=
  { label, category }

instance : Inhabited Entry := ⟨new "" .unknown⟩

def withNode (entry : Entry) (id : NodeId) : Entry :=
  { entry with node := some id }

def withTooltip (entry : Entry) (tooltip : String) : Entry :=
  { entry with tooltip := some tooltip }

def withDiagnostic (entry : Entry) (diagnostic : String) : Entry :=
  { entry with diagnostic := some diagnostic }

def withChildren (entry : Entry) (children : List Entry) : Entry :=
  { entry with children }

def withAction (entry : Entry) (action : Action) : Entry :=
  { entry with actions := entry.actions ++ [action] }

def hasAction (entry : Entry) (action : Action) : Bool :=
  entry.actions.contains action

mutual

def size : Entry → Nat
  | ⟨_, _, _, _, _, children, _⟩ => sizeAll children + 1

def sizeAll : List Entry → Nat
  | [] => 0
  | entry :: rest => entry.size + sizeAll rest

end

private theorem size_eq (entry : Entry) : entry.size = sizeAll entry.children + 1 := by
  cases entry
  rw [size]

private theorem sizeAll_append (first second : List Entry) :
    sizeAll (first ++ second) = sizeAll first + sizeAll second := by
  induction first with
  | nil => simp [sizeAll]
  | cons entry rest ih => simp only [List.cons_append, sizeAll, ih, Nat.add_assoc]

theorem sizeAll_children_append_lt (entry : Entry) (rest : List Entry) :
    sizeAll (entry.children ++ rest) < sizeAll (entry :: rest) := by
  rw [sizeAll_append, sizeAll, size_eq]
  omega

end Entry

end Outliner
