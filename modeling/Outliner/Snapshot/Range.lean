/-!
Places in source files: positions, and ranges between two positions of a file.
-/
set_option autoImplicit false

namespace Outliner

/-- A line and a column, counted from one. -/
structure SourcePosition where
  line : UInt32
  column : UInt32
  deriving DecidableEq, Inhabited

structure SourceRange where
  start : SourcePosition
  stop : SourcePosition
  fileUrl : String
  deriving DecidableEq, Inhabited

def SourcePosition.text (position : SourcePosition) : String :=
  s!"{position.line.toNat.repr}:{position.column.toNat.repr}"

namespace SourceRange

def text (range : SourceRange) : String :=
  s!"{range.fileUrl}:{range.start.text}-{range.stop.text}"

/-- The part of an address before its query and its fragment. -/
def pathPart (url : List Char) : List Char :=
  url.takeWhile fun c => c != '?' && c != '#'

def lastSegment (path : List Char) : List Char :=
  (path.reverse.takeWhile (· != '/')).reverse

/-- The name of the file: the last segment of the path of its address, or the whole address if that
segment is empty. -/
def fileName (range : SourceRange) : String :=
  match lastSegment (pathPart range.fileUrl.toList) with
  | [] => range.fileUrl
  | segment => String.ofList segment

end SourceRange

end Outliner
