import Outliner.CommandLine.Run

/-!
The command line program.
-/
set_option autoImplicit false

namespace Outliner.CommandLine

/-- The number of a system error, whichever sign it is reported with. -/
def errorNumber (code : UInt32) : UInt32 :=
  if code ≤ 0 - code then code else 0 - code

def ReadFault.ofSystem : IO.Error → ReadFault
  | .noFileOrDirectory .. => .noSuchFile
  | .inappropriateType _ code _ => if errorNumber code = 21 then .isDirectory else .notDirectory
  | error@(.invalidArgument _ code _) =>
    if errorNumber code = 36 then .nameTooLong else .other error.toString
  | error => .other error.toString

def Input.read : Input → IO (Except ReadFault ByteArray)
  | .standardInput => do
    let stdin ← IO.getStdin
    try return .ok (← stdin.readBinToEnd)
    catch error => return .error (.ofSystem error)
  | .file path => do
    try return .ok (← IO.FS.readBinFile path)
    catch error => return .error (.ofSystem error)

end Outliner.CommandLine

open Outliner.CommandLine in
def main (arguments : List String) : IO UInt32 := do
  let request := parse arguments
  let bytes ← match request with
    | .run options => options.input.read
    | _ => pure (.ok .empty)
  let outcome := request.outcome fun _ => bytes
  IO.print outcome.stdout
  (← IO.getStderr).putStr outcome.stderr
  return outcome.code.toUInt32
