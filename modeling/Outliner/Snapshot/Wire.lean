import Outliner.Json.Decode
import Outliner.Json.Text
import Outliner.Snapshot.Basic

/-!
Snapshots as JSON: how each part is written, the shape in which it is read, and texts as snapshots.

A node is an object whose only key names its kind. It is read as a value first, so its members are
met in the order of their keys.
-/
set_option autoImplicit false

namespace Outliner

open Json (Shape Fields Fault)

namespace NodeId

def toJson (id : NodeId) : Json :=
  .obj [("group", .ofUInt32 id.group), ("offset", .ofUInt32 id.offset)]

def shape : Shape NodeId :=
  .record "struct NodeId"
    (Fields.make NodeId.mk |>.required "group" .word |>.required "offset" .word)

def listToJson (ids : List NodeId) : Json :=
  .arr (ids.map toJson)

end NodeId

namespace SourcePosition

def toJson (position : SourcePosition) : Json :=
  .obj [("line", .ofUInt32 position.line), ("column", .ofUInt32 position.column)]

def shape : Shape SourcePosition :=
  .record "struct SourcePosition"
    (Fields.make SourcePosition.mk |>.required "line" .word |>.required "column" .word)

end SourcePosition

namespace SourceRange

def toJson (range : SourceRange) : Json :=
  .obj [("start", range.start.toJson), ("end", range.stop.toJson), ("fileUrl", .str range.fileUrl)]

def shape : Shape SourceRange :=
  .record "struct SourceRange"
    (Fields.make SourceRange.mk
      |>.required "start" SourcePosition.shape
      |>.required "end" SourcePosition.shape
      |>.required "fileUrl" .text)

end SourceRange

namespace ModuleDecl

def toJson (decl : ModuleDecl) : Json :=
  .obj [("baseName", .str decl.baseName), ("sources", NodeId.listToJson decl.sources)]

def shape : Shape ModuleDecl :=
  .record "struct ModuleDecl"
    (Fields.make ModuleDecl.mk
      |>.required "baseName" .text
      |>.orElse "sources" (.list NodeId.shape) [])

end ModuleDecl

namespace TranslationUnit

def toJson (decl : TranslationUnit) : Json :=
  .obj [("site", decl.site.toJson), ("decls", NodeId.listToJson decl.decls)]

def shape : Shape TranslationUnit :=
  .record "struct TranslationUnit"
    (Fields.make TranslationUnit.mk
      |>.required "site" SourceRange.shape
      |>.orElse "decls" (.list NodeId.shape) [])

end TranslationUnit

namespace FunctionDecl

def toJson (decl : FunctionDecl) : Json :=
  .obj [("site", decl.site.toJson), ("identifier", .str decl.identifier),
    ("parameters", NodeId.listToJson decl.parameters)]

def shape : Shape FunctionDecl :=
  .record "struct FunctionDecl"
    (Fields.make FunctionDecl.mk
      |>.required "site" SourceRange.shape
      |>.required "identifier" .text
      |>.orElse "parameters" (.list NodeId.shape) [])

end FunctionDecl

namespace ProductTypeDecl

def toJson (decl : ProductTypeDecl) : Json :=
  .obj [("site", decl.site.toJson), ("identifier", .str decl.identifier),
    ("members", NodeId.listToJson decl.members)]

def shape : Shape ProductTypeDecl :=
  .record "struct ProductTypeDecl"
    (Fields.make ProductTypeDecl.mk
      |>.required "site" SourceRange.shape
      |>.required "identifier" .text
      |>.orElse "members" (.list NodeId.shape) [])

end ProductTypeDecl

namespace ParameterDecl

def toJson (decl : ParameterDecl) : Json :=
  .obj [("site", decl.site.toJson), ("identifier", .str decl.identifier),
    ("label", (decl.label.map Json.str).getD .null)]

def shape : Shape ParameterDecl :=
  .record "struct ParameterDecl"
    (Fields.make ParameterDecl.mk
      |>.required "site" SourceRange.shape
      |>.required "identifier" .text
      |>.orElse "label" (.optional .text) none)

end ParameterDecl

namespace Node

def missingToJson : Json := .obj []

def missingShape : Shape Unit :=
  .record "struct MissingNode" (Fields.make ())

def payload : Node → Json
  | .missing => missingToJson
  | .functionDecl decl => decl.toJson
  | .moduleDecl decl => decl.toJson
  | .translationUnit decl => decl.toJson
  | .productTypeDecl decl => decl.toJson
  | .parameterDecl decl => decl.toJson
  | .unrecognized _ payload => payload.value

def toJson (node : Node) : Json :=
  .obj [(node.rawKind, node.payload)]

/-- A known kind may leave its description out by giving `null`. -/
def described : Json → Json
  | .null => .obj []
  | value => value

def ofTagged (kind : String) (value : Json) : Except Fault Node :=
  match NodeKind.ofTag kind with
  | .missing => (missingShape.ofValue (described value)).map fun _ => .missing
  | .functionDecl => (FunctionDecl.shape.ofValue (described value)).map .functionDecl
  | .moduleDecl => (ModuleDecl.shape.ofValue (described value)).map .moduleDecl
  | .translationUnit => (TranslationUnit.shape.ofValue (described value)).map .translationUnit
  | .productTypeDecl => (ProductTypeDecl.shape.ofValue (described value)).map .productTypeDecl
  | .parameterDecl => (ParameterDecl.shape.ofValue (described value)).map .parameterDecl
  | .unrecognized => .ok (.unrecognized kind (.ofJson value))

def ofMembers : List (String × Json) → Except Fault Node
  | [(kind, value)] => ofTagged kind value
  | members => .error (.wrongLength members.length "a node object with exactly one kind key")

def shape : Shape Node :=
  .object ofMembers

end Node

namespace Snapshot

def toJson (snapshot : Snapshot) : Json :=
  .obj [("moduleIds", NodeId.listToJson snapshot.roots),
    ("groups", .arr (snapshot.groups.toList.map fun group => .arr (group.toList.map Node.toJson)))]

def ofLists (roots : List NodeId) (groups : List (List Node)) : Snapshot :=
  ⟨roots, (groups.map List.toArray).toArray⟩

def shape : Shape Snapshot :=
  .record "struct Ast"
    (Fields.make ofLists
      |>.required "moduleIds" (.list NodeId.shape)
      |>.required "groups" (.list (.list Node.shape)))

def ofText (text : String) : Except Fault Snapshot :=
  shape.ofText text

def malformed (fault : Fault) : String :=
  "malformed AST snapshot: " ++ fault.message

end Snapshot

end Outliner
