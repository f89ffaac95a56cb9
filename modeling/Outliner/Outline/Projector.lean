import Outliner.Outline.Entry
import Outliner.Snapshot.Basic
import Std.Data.HashSet

/-!
The projector: how the outline of a snapshot is made, one tree for every root.

Modules, source files and functions are shown with what they contain, functions with their parameters
in a grouping of their own; all other nodes are leaves. The projector keeps the entries whose children
are still being made in frames, innermost first, and takes one step at a time: into the next child,
or out of a frame that has none left.
-/
set_option autoImplicit false

namespace Outliner.Projection

/-- An entry whose children are still being made; the finished ones are in reverse. The frame of a grouping
stands for no node. -/
structure Frame where
  id? : Option NodeId
  entry : Entry
  done : List Entry
  pending : List NodeId

/-- A node that no entry can show: its id and the name of its kind. -/
structure Unshown where
  id : NodeId
  kind : String
  deriving DecidableEq

/-- The state of the projection. The ancestors are the nodes of the frames; finished trees and nodes that
could not be shown are in reverse. -/
structure Projector where
  frames : List Frame
  ancestors : Std.HashSet NodeId
  roots : List NodeId
  trees : List Entry
  unshown : List Unshown

/-- What comes of a projection: the trees or a fault, and the nodes that could not be shown before
that, in order. -/
structure Outcome where
  result : Except StructureFault (List Entry)
  unshown : List Unshown

inductive Progress where
  | more (projector : Projector)
  | done (outcome : Outcome)

def moduleEntry (id : NodeId) (decl : ModuleDecl) : Entry :=
  (Entry.new decl.baseName .module).withNode id

def unitEntry (id : NodeId) (decl : TranslationUnit) : Entry :=
  (Entry.new decl.site.fileName .sourceFile).withNode id
    |>.withTooltip decl.site.fileUrl
    |>.withAction .openSourceFile
    |>.withAction .highlightDeclaration

def functionEntry (id : NodeId) (decl : FunctionDecl) : Entry :=
  (Entry.new decl.identifier .function).withNode id |>.withAction .highlightDeclaration

def parametersEntry : Entry :=
  Entry.new Entry.parametersLabel .parameters

def productEntry (id : NodeId) (decl : ProductTypeDecl) : Entry :=
  (Entry.new decl.identifier .productType).withNode id |>.withAction .highlightDeclaration

def parameterEntry (id : NodeId) (decl : ParameterDecl) : Entry :=
  (Entry.new (decl.shownLabel ++ " " ++ decl.identifier) .parameter).withNode id
    |>.withAction .highlightDeclaration

def unknownEntry (id : NodeId) (kind : String) : Entry :=
  (Entry.new Entry.unknownLabel .unknown).withNode id
    |>.withDiagnostic s!"unsupported node kind `{kind}`"

def Frame.add (frame : Frame) (child : Entry) : Frame :=
  { frame with done := child :: frame.done }

def Frame.close (frame : Frame) : Entry :=
  frame.entry.withChildren frame.done.reverse

namespace Projector

/-- Hands a finished entry to the innermost frame, or to the trees if there is none. -/
def deliver (projector : Projector) (entry : Entry) : Projector :=
  match projector.frames with
  | [] => { projector with trees := entry :: projector.trees }
  | frame :: frames => { projector with frames := frame.add entry :: frames }

def push (projector : Projector) (id : NodeId) (frames : List Frame) : Projector :=
  { projector with
    frames := frames ++ projector.frames
    ancestors := projector.ancestors.insert id }

def deliverUnknown (projector : Projector) (id : NodeId) (kind : String) : Projector :=
  { projector with unshown := ⟨id, kind⟩ :: projector.unshown }.deliver (unknownEntry id kind)

/-- The frames of a function: the one of its parameters within its own. -/
def functionFrames (id : NodeId) (decl : FunctionDecl) : List Frame :=
  [⟨none, parametersEntry, [], decl.parameters⟩, ⟨some id, functionEntry id decl, [], []⟩]

/-- Shows a node: a leaf at once, any other node in frames. -/
def showNode (projector : Projector) (id : NodeId) : Node → Projector
  | .moduleDecl decl => projector.push id [⟨some id, moduleEntry id decl, [], decl.sources⟩]
  | .translationUnit decl => projector.push id [⟨some id, unitEntry id decl, [], decl.decls⟩]
  | .functionDecl decl => projector.push id (functionFrames id decl)
  | .productTypeDecl decl => projector.deliver (productEntry id decl)
  | .parameterDecl decl => projector.deliver (parameterEntry id decl)
  | .missing => projector.deliverUnknown id Node.missing.rawKind
  | .unrecognized kind _ => projector.deliverUnknown id kind

def fail (projector : Projector) (fault : StructureFault) : Progress :=
  .done ⟨.error fault, projector.unshown.reverse⟩

/-- Goes into a node, which has to be in the snapshot and not among its own ancestors. -/
def enter (snapshot : Snapshot) (projector : Projector) (id : NodeId) : Progress :=
  match snapshot.resolve id with
  | .error fault => projector.fail fault
  | .ok node =>
    if projector.ancestors.contains id then projector.fail (.cycle id)
    else .more (projector.showNode id node)

def leave (projector : Projector) (frame : Frame) : Projector :=
  match frame.id? with
  | none => projector.deliver frame.close
  | some id =>
    { projector with ancestors := projector.ancestors.erase id }.deliver frame.close

/-- Takes one step: into the next child of the innermost frame or into the next root, or out of the
innermost frame. -/
def step (snapshot : Snapshot) (projector : Projector) : Progress :=
  match projector with
  | ⟨[], _, [], trees, unshown⟩ => .done ⟨.ok trees.reverse, unshown.reverse⟩
  | ⟨[], ancestors, root :: roots, trees, unshown⟩ =>
    enter snapshot ⟨[], ancestors, roots, trees, unshown⟩ root
  | ⟨⟨id?, entry, done, child :: pending⟩ :: frames, ancestors, roots, trees, unshown⟩ =>
    enter snapshot
      ⟨⟨id?, entry, done, pending⟩ :: frames, ancestors, roots, trees, unshown⟩ child
  | ⟨⟨id?, entry, done, []⟩ :: frames, ancestors, roots, trees, unshown⟩ =>
    .more (leave ⟨frames, ancestors, roots, trees, unshown⟩ ⟨id?, entry, done, []⟩)

end Projector

end Outliner.Projection
