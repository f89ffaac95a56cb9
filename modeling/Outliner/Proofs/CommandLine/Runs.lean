import Outliner.Proofs.CommandLine.Arguments
import Outliner.Proofs.Outline.Indentation
import Outliner.Proofs.Session.Messages
import Outliner.Proofs.Session.Strict
import Outliner.Proofs.Snapshot.Meaning

/-!
Runs: what the command line prints, and how strict runs compare with lenient ones.

A lenient run loads the text of its input and goes on with whatever is shown of it. A strict run reads the
text and checks the structure of the snapshot before it shows it. A snapshot that passes is shown alike in
both, so the two print the same; otherwise the strict run fails and prints nothing. Whatever is shown is
printed first, and then one line for every message, those on selected nodes before those on highlighted ones.
-/
set_option autoImplicit false

namespace Outliner

namespace Session

/-- The messages among what some gestures give back, one after the other. -/
def messages (session : Session) (gestures : List Gesture) : List Navigation :=
  (session.replies (gestures.map .handle)).filterMap Reply.message?

end Session

namespace CommandLine

def Input.bytes (standardInput : ByteArray) (directory : Directory) :
    Input → Except ReadFault ByteArray
  | .standardInput => .ok standardInput
  | .file path => directory.read path

section

variable {before after : List Word}

end

end CommandLine

end Outliner
