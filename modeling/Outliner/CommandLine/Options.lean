import Outliner.Snapshot.NodeId

/-!
Arguments of the command line.

One path is given, and options before or after it. The value of an option follows it or stands after
an equals sign; a value that begins with a dash has to stand after the sign. Two dashes end the
options.
-/
set_option autoImplicit false

namespace Outliner.CommandLine

inductive Format where
  | text
  | json
  deriving DecidableEq

def Format.ofName? : String → Option Format
  | "text" => some .text
  | "json" => some .json
  | _ => none

/-- What the arguments ask for. If strict, a snapshot that is malformed or badly structured is an error. -/
structure Options where
  path : String
  format : Format
  select : List NodeId
  highlight : List NodeId
  strict : Bool

/-- What is to be done, if the arguments make sense at all. -/
inductive Request where
  | run (options : Options)
  | version
  | help
  | usage

/-- The arguments met so far; nodes are in reverse. -/
structure Given where
  path : Option String := none
  format : Option Format := none
  select : List NodeId := []
  highlight : List NodeId := []
  strict : Bool := false

namespace Given

def finish (given : Given) : Request :=
  match given.path with
  | none => .usage
  | some path =>
    .run {
      path
      format := given.format.getD .text
      select := given.select.reverse
      highlight := given.highlight.reverse
      strict := given.strict }

/-- Takes the path: it is not empty, and there is only one. -/
def setPath? (given : Given) (path : String) : Option Given :=
  if given.path.isSome || path.isEmpty then none else some { given with path := some path }

/-- Takes the value of an option: a format at most once, nodes any number of times. -/
def setOption? (given : Given) (name value : String) : Option Given :=
  match name with
  | "format" => do
    if given.format.isSome then none
    else return { given with format := some (← Format.ofName? value) }
  | "select" => do return { given with select := (← NodeId.ofText? value) :: given.select }
  | "highlight" => do
    return { given with highlight := (← NodeId.ofText? value) :: given.highlight }
  | _ => none

def takePaths (given : Given) : List String → Request
  | [] => given.finish
  | path :: rest =>
    match given.setPath? path with
    | none => .usage
    | some given => given.takePaths rest

end Given

/-- The form of an argument: two dashes, two dashes and a name with maybe a value after an equals sign, a dash
and letters, or anything else. -/
inductive Argument where
  | endOfOptions
  | option (name : String) (value : Option String)
  | letters (first : Char)
  | plain (text : String)

/-- A single dash is plain text. -/
def Argument.ofText (text : String) : Argument :=
  match text.toList with
  | ['-', '-'] => .endOfOptions
  | '-' :: '-' :: rest =>
    let name := String.ofList (rest.takeWhile (· != '='))
    match rest.dropWhile (· != '=') with
    | [] => .option name none
    | _ :: value => .option name (some (String.ofList value))
  | '-' :: letter :: _ => .letters letter
  | _ => .plain text

def take (given : Given) : List String → Request
  | [] => given.finish
  | argument :: rest =>
    match Argument.ofText argument with
    | .endOfOptions => given.takePaths rest
    | .letters 'V' => .version
    | .letters 'h' => .help
    | .letters _ => .usage
    | .plain path =>
      match given.setPath? path with
      | none => .usage
      | some given => take given rest
    | .option "version" none => .version
    | .option "help" none => .help
    | .option "strict" none =>
      if given.strict then .usage else take { given with strict := true } rest
    | .option name (some value) =>
      match given.setOption? name value with
      | none => .usage
      | some given => take given rest
    | .option name none =>
      match rest with
      | [] => .usage
      | value :: rest =>
        match Argument.ofText value, given.setOption? name value with
        | .plain _, some given => take given rest
        | _, _ => .usage

def parse (arguments : List String) : Request :=
  take {} arguments

end Outliner.CommandLine
