import Outliner.Json.Literal
import Outliner.Json.Value

/-!
The text of a value, in one line or, for reading by people, with one item or member to a line.
-/
set_option autoImplicit false

namespace Outliner.Json

mutual

/-- Writes a value in one line after what is already written. -/
def write (out : String) : Json → String
  | .null => out ++ "null"
  | .bool true => out ++ "true"
  | .bool false => out ++ "false"
  | .num value => out ++ value.text
  | .str value => writeText out value
  | .arr [] => out ++ "[]"
  | .arr (item :: rest) => (writeItems (write (out ++ "[") item) rest) ++ "]"
  | .obj [] => out ++ "\x7b\x7d"
  | .obj ((key, value) :: rest) =>
    (writeMembers (write (writeText (out ++ "\x7b") key ++ ":") value) rest) ++ "\x7d"

def writeItems (out : String) : List Json → String
  | [] => out
  | item :: rest => writeItems (write (out ++ ",") item) rest

def writeMembers (out : String) : List (String × Json) → String
  | [] => out
  | (key, value) :: rest => writeMembers (write (writeText (out ++ ",") key ++ ":") value) rest

end

/-- The text of a value in one line, without blanks. -/
def compact (value : Json) : String :=
  write "" value

def newLine (out : String) (depth : Nat) : String :=
  depth.repeat (fun out => out ++ "  ") (out.push '\n')

mutual

def writePretty (depth : Nat) (out : String) : Json → String
  | .arr (item :: rest) =>
    let first := writePretty (depth + 1) (newLine (out ++ "[") (depth + 1)) item
    newLine (writePrettyItems (depth + 1) first rest) depth ++ "]"
  | .obj ((key, value) :: rest) =>
    let first := writePretty (depth + 1)
      (writeText (newLine (out ++ "\x7b") (depth + 1)) key ++ ": ") value
    newLine (writePrettyMembers (depth + 1) first rest) depth ++ "\x7d"
  | value => write out value

def writePrettyItems (depth : Nat) (out : String) : List Json → String
  | [] => out
  | item :: rest => writePrettyItems depth (writePretty depth (newLine (out ++ ",") depth) item) rest

def writePrettyMembers (depth : Nat) (out : String) : List (String × Json) → String
  | [] => out
  | (key, value) :: rest =>
    writePrettyMembers depth
      (writePretty depth (writeText (newLine (out ++ ",") depth) key ++ ": ") value) rest

end

/-- The text of a value with one item or member to a line. -/
def pretty (value : Json) : String :=
  writePretty 0 "" value

end Outliner.Json
