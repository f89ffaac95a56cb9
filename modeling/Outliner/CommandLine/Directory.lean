/-!
Directories: reading a file by its path, among files with given names.
-/
set_option autoImplicit false

namespace Outliner.CommandLine

/-- Why a file cannot be read. A name on the path can be too long, and so can the path as a whole. -/
inductive ReadFault where
  | noSuchFile
  | isDirectory
  | notDirectory
  | nameTooLong
  | notText
  | other (message : String)

def ReadFault.message : ReadFault → String
  | .noSuchFile => "No such file or directory (os error 2)"
  | .isDirectory => "Is a directory (os error 21)"
  | .notDirectory => "Not a directory (os error 20)"
  | .nameTooLong => "File name too long (os error 36)"
  | .notText => "stream did not contain valid UTF-8"
  | .other message => message

def segments (path : String) : List String :=
  path.splitOn "/"

def staysInPlace (segment : String) : Bool :=
  segment = "" || segment = "."

def maxNameBytes : Nat := 255

def maxPathBytes : Nat := 4095

structure Directory where
  files : List (String × ByteArray)

namespace Directory

/-- Where a path leads: to a directory, by the segments from the top, to a file, or to a directory above or
beside the top. -/
inductive Place where
  | directory (segments : List String)
  | file (content : ByteArray)
  | outside

def child (directory : Directory) (path : List String) : Except ReadFault Place :=
  let file := directory.files.find? fun file => segments file.1 = path
  match file with
  | some file => .ok (.file file.2)
  | none =>
    if directory.files.any fun file => path.isPrefixOf (segments file.1) then
      .ok (.directory path)
    else .error .noSuchFile

def follow (directory : Directory) (segment : String) : Place → Except ReadFault Place
  | .file _ => .error .notDirectory
  | .directory path =>
    if staysInPlace segment then .ok (.directory path)
    else if segment = ".." then
      .ok (if path.isEmpty then .outside else .directory path.dropLast)
    else if maxNameBytes < segment.utf8ByteSize then .error .nameTooLong
    else directory.child (path ++ [segment])
  | .outside =>
    if staysInPlace segment || segment = ".." then .ok .outside
    else if maxNameBytes < segment.utf8ByteSize then .error .nameTooLong
    else .error .noSuchFile

def read (directory : Directory) (path : String) : Except ReadFault ByteArray := do
  if maxPathBytes < path.utf8ByteSize then throw .nameTooLong
  let start : Place := if path.startsWith "/" then .outside else .directory []
  match ← (segments path).foldlM (fun place segment => directory.follow segment place) start with
  | .file content => return content
  | .directory _ | .outside => throw .isDirectory

end Directory

end Outliner.CommandLine
