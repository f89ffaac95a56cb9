import Outliner.Json.Draft
import Outliner.Json.Value

/-!
Reading a draft: as a value whatever its form, or passing over it.

A value is read to a limited depth. A part that is passed over is looked at less closely: its depth,
the size of its numbers and the surrogates in its strings do not matter.
-/
set_option autoImplicit false

namespace Outliner.Json.Draft

def cutFault (textEnds : Bool) (other : Fault) : Fault :=
  if textEnds then .endInValue else other

def readNumber (numeral : Numeral) : Except Fault Number :=
  match numeral.value? with
  | some value => .ok value
  | none => .error .numberTooLarge

/-- The fault of a draft that is not of the expected form. A scalar is read first. -/
def mismatch (expected : String) : Draft → Fault
  | .null => .wrongType .null expected
  | .bool value => .wrongType (.bool value) expected
  | .number numeral =>
    match readNumber numeral with
    | .ok value => .wrongType (.number value) expected
    | .error fault => fault
  | .text literal =>
    match literal.value with
    | .ok value => .wrongType (.text value) expected
    | .error fault => fault
  | .list .. => .wrongType .sequence expected
  | .object .. => .wrongType .map expected
  | .missing => .endInValue
  | .stray => .valueDue
  | .cutWord textEnds => cutFault textEnds .wordDue
  | .cutNumber textEnds => cutFault textEnds .badNumber
  | .noColon textEnds => if textEnds then .endInObject else .colonDue

/-- The verdict on a list of which another item is asked for after its last one. -/
def ListEnd.more : ListEnd → Except Fault Unit
  | .closed => .ok ()
  | .textEnds => .error .endInList
  | .noComma => .error .listCommaDue
  | .commaClose => .error .trailingComma
  | .commaFirst _ | .broken => .error .valueDue

/-- The verdict on a list that should be over after its last item. -/
def ListEnd.close : ListEnd → Except Fault Unit
  | .closed => .ok ()
  | .textEnds => .error .endInList
  | .commaClose | .commaFirst true => .error .trailingComma
  | .noComma | .commaFirst false | .broken => .error .trailingText

def ListEnd.skip : ListEnd → Except Fault Unit
  | .closed => .ok ()
  | .textEnds => .error .endInList
  | .noComma => .error .listCommaDue
  | .commaClose | .commaFirst _ | .broken => .error .valueDue

def ObjectEnd.close : ObjectEnd → Except Fault Unit
  | .closed => .ok ()
  | .textEnds => .error .endInObject
  | .noComma => .error .objectCommaDue
  | .noKey | .broken => .error .keyDue
  | .commaClose => .error .trailingComma
  | .commaEnd => .error .endInValue

def ObjectEnd.skip : ObjectEnd → Except Fault Unit
  | .closed => .ok ()
  | .textEnds | .commaEnd => .error .endInObject
  | .noComma => .error .objectCommaDue
  | .noKey | .commaClose | .broken => .error .keyDue

mutual

def skip : Draft → Except Fault Unit
  | .null | .bool _ | .number _ => .ok ()
  | .text literal => literal.skip
  | .list items ending => skipItems ending items
  | .object members ending => skipMembers ending members
  | .missing => .error .endInValue
  | .stray => .error .valueDue
  | .cutWord textEnds => .error (cutFault textEnds .wordDue)
  | .cutNumber _ => .error .badNumber
  | .noColon textEnds => .error (if textEnds then .endInObject else .colonDue)

def skipItems (ending : ListEnd) : List Draft → Except Fault Unit
  | [] => ending.skip
  | item :: rest =>
    match skip item with
    | .ok () => skipItems ending rest
    | .error fault => .error fault

def skipMembers (ending : ObjectEnd) : List (Literal × Draft) → Except Fault Unit
  | [] => ending.skip
  | (key, value) :: rest =>
    match key.skip with
    | .error fault => .error fault
    | .ok () =>
      match skip value with
      | .ok () => skipMembers ending rest
      | .error fault => .error fault

end

mutual

/-- Reads a draft as a value in which at most `levels` lists and objects are nested. -/
def read (levels : Nat) : Draft → Except Fault Json
  | .null => .ok .null
  | .bool value => .ok (.bool value)
  | .number numeral => (readNumber numeral).map .num
  | .text literal => literal.value.map .str
  | .list items ending =>
    match levels with
    | 0 => .error .tooDeep
    | levels + 1 => (readItems levels ending [] items).map .arr
  | .object members ending =>
    match levels with
    | 0 => .error .tooDeep
    | levels + 1 => (readMembers levels ending [] members).map .obj
  | .missing => .error .endInValue
  | .stray => .error .valueDue
  | .cutWord textEnds => .error (cutFault textEnds .wordDue)
  | .cutNumber textEnds => .error (cutFault textEnds .badNumber)
  | .noColon textEnds => .error (if textEnds then .endInObject else .colonDue)

def readItems (levels : Nat) (ending : ListEnd) (done : List Json) :
    List Draft → Except Fault (List Json)
  | [] => ending.more.map fun _ => done.reverse
  | item :: rest =>
    match read levels item with
    | .ok value => readItems levels ending (value :: done) rest
    | .error fault => .error fault

def readMembers (levels : Nat) (ending : ObjectEnd) (done : List (String × Json)) :
    List (Literal × Draft) → Except Fault (List (String × Json))
  | [] => ending.close.map fun _ => done.reverse
  | (key, value) :: rest =>
    match key.value with
    | .error fault => .error fault
    | .ok key =>
      match read levels value with
      | .ok value => readMembers levels ending ((key, value) :: done) rest
      | .error fault => .error fault

end

def maxLevels : Nat := 127

end Outliner.Json.Draft
