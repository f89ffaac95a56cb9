import Outliner.CommandLine.Directory
import Outliner.CommandLine.Options
import Outliner.Outline.Walk
import Outliner.Session.Basic
import Outliner.Snapshot.Validate

/-!
What the command line does: it reads a snapshot, prints its outline, replays gestures, and prints the
navigation that they lead to.

Some wording is left out: the help, complaints about arguments, and what is said when a tree is too deep to
be printed. Of such runs the exit code is told, and no text in the place of what is left out.
-/
set_option autoImplicit false

namespace Outliner.CommandLine

structure Outcome where
  code : Nat
  stdout : String
  stderr : String

def versionText : String := "ast-explorer 0.0.1\n"

/-- What was attempted, and the causes of the failure, the outermost first. -/
structure Failure where
  context : String
  causes : List String

/-- Several causes are numbered. -/
def Failure.report (failure : Failure) : String :=
  let lines := match failure.causes with
    | [cause] => ["    " ++ cause]
    | causes => causes.zipIdx.map fun (cause, number) => s!"    {number.repr}: {cause}"
  "Error: " ++ failure.context ++ "\n\nCaused by:\n" ++ "\n".intercalate lines ++ "\n"

inductive Input where
  | standardInput
  | file (path : String)

/-- A single dash stands for standard input, whatever slashes follow it. -/
def Options.input (options : Options) : Input :=
  match segments options.path with
  | "-" :: rest => if rest.all staysInPlace then .standardInput else .file options.path
  | _ => .file options.path

def Input.describe : Input → String
  | .standardInput => "failed to read AST snapshot from stdin"
  | .file path => s!"failed to read AST snapshot {path}"

def Input.text (input : Input) (bytes : Except ReadFault ByteArray) : Except Failure String :=
  match bytes with
  | .error fault => .error ⟨input.describe, [fault.message]⟩
  | .ok bytes =>
    match String.fromUTF8? bytes with
    | none => .error ⟨input.describe, [ReadFault.notText.message]⟩
    | some text => .ok text

/-- Shows the snapshot that a text is. If that is strict, a malformed snapshot and one with bad
references are refused; otherwise they leave nothing to show. -/
def openSession (strict : Bool) (text : String) : Except Failure Session :=
  if strict then
    match Snapshot.ofText text with
    | .error fault => .error ⟨"rejected AST snapshot", [Snapshot.malformed fault, fault.message]⟩
    | .ok snapshot =>
      match snapshot.validate with
      | .error fault => .error ⟨"rejected AST snapshot", [fault.message]⟩
      | .ok () => .ok (Session.new.replace snapshot).1
  else .ok (Session.new.load text).1

/-- Prints trees as indented text until one has to be indented too far, and tells whether none
had to. -/
def printTrees (out : String) : List Entry → String × Bool
  | [] => (out, true)
  | tree :: rest =>
    match tree.text? with
    | none => (out, false)
    | some text => printTrees (out ++ text) rest

def printOutline (format : Format) (trees : List Entry) : String × Bool :=
  match format with
  | .text => printTrees "" trees
  | .json => ((Entry.listToJson trees).pretty ++ "\n", true)

def printNavigation (format : Format) (navigation : Navigation) : String :=
  match format, navigation with
  | .json, navigation => navigation.toJson.compact ++ "\n"
  | .text, .openSourceFile fileUrl => s!"open {fileUrl}\n"
  | .text, .highlightFullDeclaration range =>
    let selection := EditorSelection.ofRange range
    s!"select {selection.fileUrl} {selection.start.text}-{selection.stop.text}\n"

/-- The gestures to replay: all selections, then all highlights. -/
def Options.gestures (options : Options) : List Gesture :=
  options.select.map .selected ++ options.highlight.map (.invoked · .highlightDeclaration)

def replay (session : Session) (gestures : List Gesture) : List Navigation :=
  (gestures.foldl (fun session gesture => (session.handle gesture).1) session).drain.2

def Options.run (options : Options) (text : String) : Except Failure Outcome := do
  let session ← openSession options.strict text
  let (outline, complete) := printOutline options.format session.tree
  if complete then
    let navigation := replay session options.gestures
    let lines := navigation.map (printNavigation options.format)
    return ⟨0, lines.foldl (· ++ ·) outline, ""⟩
  else return ⟨101, outline, ""⟩

def Outcome.ofResult : Except Failure Outcome → Outcome
  | .ok outcome => outcome
  | .error failure => ⟨1, "", failure.report⟩

def Options.execute (options : Options) (bytes : Except ReadFault ByteArray) : Outcome :=
  .ofResult (options.input.text bytes >>= options.run)

def Request.outcome (read : Input → Except ReadFault ByteArray) : Request → Outcome
  | .version => ⟨0, versionText, ""⟩
  | .help => ⟨0, "", ""⟩
  | .usage => ⟨2, "", ""⟩
  | .run options => options.execute (read options.input)

/-- Runs the command line with the bytes of standard input and the files of a directory. -/
def run (arguments : List String) (standardInput : ByteArray) (directory : Directory) : Outcome :=
  (parse arguments).outcome fun
    | .standardInput => .ok standardInput
    | .file path => directory.read path

end Outliner.CommandLine
