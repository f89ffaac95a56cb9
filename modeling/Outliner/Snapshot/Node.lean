import Outliner.Json.Canonical
import Outliner.Snapshot.NodeId
import Outliner.Snapshot.Range

/-!
Nodes: the declarations of a program, as its compiler describes them. A node refers to other nodes
by their ids. Nodes of kinds that are not known here keep their description as it came.
-/
set_option autoImplicit false

namespace Outliner

structure ModuleDecl where
  baseName : String
  sources : List NodeId
  deriving DecidableEq

structure TranslationUnit where
  site : SourceRange
  decls : List NodeId
  deriving DecidableEq

structure FunctionDecl where
  site : SourceRange
  identifier : String
  parameters : List NodeId
  deriving DecidableEq

structure ProductTypeDecl where
  site : SourceRange
  identifier : String
  members : List NodeId
  deriving DecidableEq

/-- A parameter, with the label that callers write if it has one. -/
structure ParameterDecl where
  site : SourceRange
  identifier : String
  label : Option String
  deriving DecidableEq

def ParameterDecl.noLabel : String := "_"

def ParameterDecl.shownLabel (decl : ParameterDecl) : String :=
  decl.label.getD noLabel

/-- The description of a node of an unknown kind: a canonical value. -/
structure Payload where
  value : Json
  canonical : value.Canonical

def Payload.ofJson (value : Json) : Payload :=
  ⟨value.canonical, value.canonical_canonical⟩

/-- A node of a snapshot. A missing one stands where the compiler has nothing to describe. -/
inductive Node where
  | missing
  | functionDecl (decl : FunctionDecl)
  | moduleDecl (decl : ModuleDecl)
  | translationUnit (decl : TranslationUnit)
  | productTypeDecl (decl : ProductTypeDecl)
  | parameterDecl (decl : ParameterDecl)
  | unrecognized (kind : String) (payload : Payload)

inductive NodeKind where
  | missing
  | functionDecl
  | moduleDecl
  | translationUnit
  | productTypeDecl
  | parameterDecl
  | unrecognized
  deriving DecidableEq

namespace NodeKind

def known : List NodeKind :=
  [.missing, .functionDecl, .moduleDecl, .translationUnit, .productTypeDecl, .parameterDecl]

def tag : NodeKind → String
  | .missing => "missing"
  | .functionDecl => "FunctionDecl"
  | .moduleDecl => "ModuleDecl"
  | .translationUnit => "TranslationUnit"
  | .productTypeDecl => "ProductTypeDecl"
  | .parameterDecl => "ParameterDecl"
  | .unrecognized => "unrecognized"

def ofTag : String → NodeKind
  | "missing" | "Missing" => .missing
  | "FunctionDecl" => .functionDecl
  | "ModuleDecl" => .moduleDecl
  | "TranslationUnit" => .translationUnit
  | "ProductTypeDecl" => .productTypeDecl
  | "ParameterDecl" => .parameterDecl
  | _ => .unrecognized

def isKnown (kind : NodeKind) : Bool :=
  kind != .unrecognized

end NodeKind

structure KindMismatch where
  expected : NodeKind
  actual : NodeKind

def KindMismatch.message (mismatch : KindMismatch) : String :=
  s!"expected a `{mismatch.expected.tag}` node, found `{mismatch.actual.tag}`"

namespace Node

def kind : Node → NodeKind
  | .missing => .missing
  | .functionDecl _ => .functionDecl
  | .moduleDecl _ => .moduleDecl
  | .translationUnit _ => .translationUnit
  | .productTypeDecl _ => .productTypeDecl
  | .parameterDecl _ => .parameterDecl
  | .unrecognized .. => .unrecognized

/-- The name of the kind, as the compiler gave it for an unknown kind. -/
def rawKind : Node → String
  | .unrecognized kind _ => kind
  | node => node.kind.tag

def children : Node → List NodeId
  | .moduleDecl decl => decl.sources
  | .translationUnit decl => decl.decls
  | .functionDecl decl => decl.parameters
  | .productTypeDecl decl => decl.members
  | .missing | .parameterDecl _ | .unrecognized .. => []

/-- The part of a source file that a node stands for. A module has several files and no site. -/
def site? : Node → Option SourceRange
  | .functionDecl decl => some decl.site
  | .translationUnit decl => some decl.site
  | .productTypeDecl decl => some decl.site
  | .parameterDecl decl => some decl.site
  | .moduleDecl _ | .missing | .unrecognized .. => none

def same : Node → Node → Bool
  | .missing, .missing => true
  | .functionDecl a, .functionDecl b => a == b
  | .moduleDecl a, .moduleDecl b => a == b
  | .translationUnit a, .translationUnit b => a == b
  | .productTypeDecl a, .productTypeDecl b => a == b
  | .parameterDecl a, .parameterDecl b => a == b
  | .unrecognized k a, .unrecognized l b => k == l && a.value.same b.value
  | _, _ => false

def asMissing : Node → Except KindMismatch Unit
  | .missing => .ok ()
  | node => .error ⟨.missing, node.kind⟩

def asFunctionDecl : Node → Except KindMismatch FunctionDecl
  | .functionDecl decl => .ok decl
  | node => .error ⟨.functionDecl, node.kind⟩

def asModuleDecl : Node → Except KindMismatch ModuleDecl
  | .moduleDecl decl => .ok decl
  | node => .error ⟨.moduleDecl, node.kind⟩

def asTranslationUnit : Node → Except KindMismatch TranslationUnit
  | .translationUnit decl => .ok decl
  | node => .error ⟨.translationUnit, node.kind⟩

def asProductTypeDecl : Node → Except KindMismatch ProductTypeDecl
  | .productTypeDecl decl => .ok decl
  | node => .error ⟨.productTypeDecl, node.kind⟩

def asParameterDecl : Node → Except KindMismatch ParameterDecl
  | .parameterDecl decl => .ok decl
  | node => .error ⟨.parameterDecl, node.kind⟩

end Node

end Outliner
