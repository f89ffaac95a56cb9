import Outliner.Outline.Entry
import Outliner.Snapshot.Wire

/-!
Outlines as JSON. Parts of an entry that are absent or empty are not written.
-/
set_option autoImplicit false

namespace Outliner

open Json (Shape Fields)

namespace Category

def names : List (String × Category) :=
  [("module", .module), ("sourceFile", .sourceFile), ("function", .function),
    ("parameters", .parameters), ("productType", .productType), ("parameter", .parameter),
    ("unknown", .unknown)]

def name : Category → String
  | .module => "module"
  | .sourceFile => "sourceFile"
  | .function => "function"
  | .parameters => "parameters"
  | .productType => "productType"
  | .parameter => "parameter"
  | .unknown => "unknown"

def toJson (category : Category) : Json :=
  .str category.name

def shape : Shape Category :=
  .choice names

end Category

namespace Action

def names : List (String × Action) :=
  [("openSourceFile", .openSourceFile), ("highlightDeclaration", .highlightDeclaration)]

def name : Action → String
  | .openSourceFile => "openSourceFile"
  | .highlightDeclaration => "highlightDeclaration"

def toJson (action : Action) : Json :=
  .str action.name

def shape : Shape Action :=
  .choice names

end Action

namespace Entry

def memberIf {α : Type} (key : String) (toJson : α → Json) : Option α → List (String × Json)
  | none => []
  | some value => [(key, toJson value)]

def memberUnlessEmpty (key : String) : List Json → List (String × Json)
  | [] => []
  | items => [(key, .arr items)]

mutual

def toJson : Entry → Json
  | ⟨label, category, node, tooltip, diagnostic, children, actions⟩ =>
    .obj ([("label", .str label), ("category", category.toJson)]
      ++ memberIf "node" NodeId.toJson node
      ++ memberIf "tooltip" Json.str tooltip
      ++ memberIf "diagnostic" Json.str diagnostic
      ++ memberUnlessEmpty "children" (allToJson children)
      ++ memberUnlessEmpty "actions" (actions.map Action.toJson))

def allToJson : List Entry → List Json
  | [] => []
  | entry :: rest => entry.toJson :: allToJson rest

end

def listToJson (entries : List Entry) : Json :=
  .arr (allToJson entries)

/-- The shape of trees at most so many entries deep. -/
def shapeTo : Nat → Shape Entry
  | 0 => .tooDeep
  | depth + 1 =>
    .record "struct DisplayNode"
      (Fields.make Entry.mk
        |>.required "label" .text
        |>.required "category" Category.shape
        |>.orElse "node" (.optional NodeId.shape) none
        |>.orElse "tooltip" (.optional .text) none
        |>.orElse "diagnostic" (.optional .text) none
        |>.orElse "children" (.list (shapeTo depth)) []
        |>.orElse "actions" (.list Action.shape) [])

/-- The shape of trees that a text can hold: every entry takes two of the levels that may be nested,
one for itself and one for the list it is in. -/
def shape : Shape Entry :=
  shapeTo (Json.Draft.maxLevels / 2 + 1)

end Entry

end Outliner
