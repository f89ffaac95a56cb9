import Outliner.Json.Tagged
import Outliner.Outline.Wire

/-!
Gestures and navigation: what someone does with an outline, and where the editor goes for it.

Positions in an editor are counted from zero, those in a source range from one.
-/
set_option autoImplicit false

namespace Outliner

open Json (Shape Fields Tagged)

inductive Gesture where
  | selected (node : NodeId)
  | invoked (node : NodeId) (action : Action)
  deriving DecidableEq

namespace Gesture

def node : Gesture → NodeId
  | .selected node => node
  | .invoked node _ => node

def toJson : Gesture → Json
  | .selected node => .obj [("event", .str "Selected"), ("node", node.toJson)]
  | .invoked node action =>
    .obj [("event", .str "Invoked"), ("node", node.toJson), ("action", action.toJson)]

def tagged : Tagged Gesture where
  title := "internally tagged enum UiEvent"
  tag := "event"
  variants :=
    [("Selected", .record "struct variant UiEvent::Selected"
        (Fields.make Gesture.selected |>.required "node" NodeId.shape)),
      ("Invoked", .record "struct variant UiEvent::Invoked"
        (Fields.make Gesture.invoked
          |>.required "node" NodeId.shape
          |>.required "action" Action.shape))]

end Gesture

inductive Navigation where
  | openSourceFile (fileUrl : String)
  | highlightFullDeclaration (range : SourceRange)
  deriving DecidableEq

namespace Navigation

def toJson : Navigation → Json
  | .openSourceFile fileUrl =>
    .obj [("kind", .str "OpenSourceFile"), ("fileUrl", .str fileUrl)]
  | .highlightFullDeclaration range =>
    .obj [("kind", .str "HighlightFullDeclaration"), ("range", range.toJson)]

def tagged : Tagged Navigation where
  title := "internally tagged enum HostMessage"
  tag := "kind"
  variants :=
    [("OpenSourceFile", .record "struct variant HostMessage::OpenSourceFile"
        (Fields.make Navigation.openSourceFile |>.required "fileUrl" .text)),
      ("HighlightFullDeclaration", .record "struct variant HostMessage::HighlightFullDeclaration"
        (Fields.make Navigation.highlightFullDeclaration
          |>.required "range" SourceRange.shape))]

end Navigation

/-- A line and a character, counted from zero. -/
structure EditorPosition where
  line : UInt32
  character : UInt32
  deriving DecidableEq, Inhabited

namespace EditorPosition

/-- One less, but not less than zero. -/
def before (word : UInt32) : UInt32 :=
  if word = 0 then 0 else word - 1

def ofSource (position : SourcePosition) : EditorPosition :=
  ⟨before position.line, before position.column⟩

def toJson (position : EditorPosition) : Json :=
  .obj [("line", .ofUInt32 position.line), ("character", .ofUInt32 position.character)]

def shape : Shape EditorPosition :=
  .record "struct EditorPosition"
    (Fields.make EditorPosition.mk |>.required "line" .word |>.required "character" .word)

def text (position : EditorPosition) : String :=
  s!"{position.line.toNat.repr}:{position.character.toNat.repr}"

end EditorPosition

structure EditorSelection where
  fileUrl : String
  start : EditorPosition
  stop : EditorPosition
  deriving DecidableEq

namespace EditorSelection

def ofRange (range : SourceRange) : EditorSelection :=
  ⟨range.fileUrl, .ofSource range.start, .ofSource range.stop⟩

def toJson (selection : EditorSelection) : Json :=
  .obj [("fileUrl", .str selection.fileUrl), ("start", selection.start.toJson),
    ("end", selection.stop.toJson)]

def shape : Shape EditorSelection :=
  .record "struct EditorSelection"
    (Fields.make EditorSelection.mk
      |>.required "fileUrl" .text
      |>.required "start" EditorPosition.shape
      |>.required "end" EditorPosition.shape)

end EditorSelection

def Navigation.selection? : Navigation → Option EditorSelection
  | .openSourceFile _ => none
  | .highlightFullDeclaration range => some (.ofRange range)

end Outliner
