import Outliner.Json.Canonical
import Outliner.Json.Reading
import Outliner.Json.Shape

/-!
Decoding: drafts and values as sources of data, and texts read as data of a shape.

From a draft the first fault in the order of the text is the one reported. From a value nothing but
its form can be wrong.
-/
set_option autoImplicit false

namespace Outliner.Json

def Number.word (number : Number) : Except Fault UInt32 :=
  match number with
  | .int value _ =>
    if 0 ≤ value ∧ value < UInt32.size then .ok (UInt32.ofNat value.toNat)
    else .error (.wrongValue (.number number) "u32")
  | .float _ => .error (.wrongType (.number number) "u32")

namespace Draft

/-- A draft, and how many lists and objects may still be nested in it. -/
structure Limited where
  levels : Nat
  draft : Draft

def word : Draft → Except Fault UInt32
  | .number numeral => do (← readNumber numeral).word
  | draft => .error (draft.mismatch "u32")

def textValue : Draft → Except Fault String
  | .text literal => literal.value
  | draft => .error (draft.mismatch "a string")

def isNull : Draft → Bool
  | .null => true
  | _ => false

def descend : Nat → Except Fault Nat
  | 0 => .error .tooDeep
  | levels + 1 => .ok levels

def itemsOf (levels : Nat) (items : List Draft) (ending : ListEnd) :
    Except Fault (Items Limited) := do
  let below ← descend levels
  return {
    elements := items.map fun item => ⟨below, item⟩
    more := ending.more
    close := fun taken => if taken < items.length then .error .trailingText else ending.close }

def membersOf (levels : Nat) (members : List (Literal × Draft)) (ending : ObjectEnd) :
    Except Fault (Members Limited) := do
  let below ← descend levels
  return {
    entries := members.map fun member => (member.1.value, ⟨below, member.2⟩)
    close := ending.close }

/-- The verdict on what stands beside a name that is written as the key of an object: `null`, and
no further member. -/
def besideName (value : Draft) (others : List (Literal × Draft)) (ending : ObjectEnd) :
    Except Fault Unit :=
  if value.isNull then
    match others, ending with
    | [], .closed => .ok ()
    | [], .textEnds => .error .endInObject
    | _, _ => .error .valueDue
  else .error (value.mismatch "unit")

/-- A name, as a string or as the only key of an object. -/
def name (levels : Nat) : Draft → Except Fault (String × Except Fault Unit)
  | .text literal => literal.value.map fun name => (name, .ok ())
  | .object members ending => do
    let _ ← descend levels
    match members, ending with
    | (key, value) :: others, ending => return (← key.value, besideName value others ending)
    | [], .closed => throw .valueDue
    | [], .textEnds => throw .endInObject
    | [], _ => throw .keyDue
  | .missing => .error .endInValue
  | .noColon textEnds => .error (if textEnds then .endInObject else .colonDue)
  | _ => .error .valueDue

def source : Source Limited where
  word data := data.draft.word
  text data := data.draft.textValue
  isNull data := data.draft.isNull
  items data :=
    match data.draft with
    | .list items ending => itemsOf data.levels items ending
    | draft => .error (draft.mismatch "a sequence")
  name data := data.draft.name data.levels
  parts title data :=
    match data.draft with
    | .list items ending => (itemsOf data.levels items ending).map .items
    | .object members ending => (membersOf data.levels members ending).map .members
    | draft => .error (draft.mismatch title)
  object data :=
    match data.draft with
    | .object members ending => do
      let below ← descend data.levels
      let members ← readMembers below ending [] members
      return sortMembers (canonicalMembers members)
    | draft => .error (draft.mismatch "a map")
  skip data := data.draft.skip

end Draft

/-- Values as a source of data, with the fault of a list that is too long by its length and the
number of items that were asked for. -/
def source (tooLong : Nat → Nat → Fault) : Source Json where
  word
    | .num number => number.word
    | value => .error (.wrongType value.found "u32")
  text
    | .str text => .ok text
    | value => .error (.wrongType value.found "a string")
  isNull
    | .null => true
    | _ => false
  items
    | .arr items => .ok (itemsOf items)
    | value => .error (.wrongType value.found "a sequence")
  name
    | .str name => .ok (name, .ok ())
    | .obj [(name, .null)] => .ok (name, .ok ())
    | .obj [(name, .obj [])] => .ok (name, .ok ())
    | .obj [(name, value)] => .ok (name, .error (.wrongType value.found "unit"))
    | .obj _ => .error (.wrongValue .map "map with a single key")
    | value => .error (.wrongType value.found "string or map")
  parts title
    | .arr items => .ok (.items (itemsOf items))
    | .obj members => .ok (.members ⟨members.map fun member => (.ok member.1, member.2), .ok ()⟩)
    | value => .error (.wrongType value.found title)
  object
    | .obj members => .ok (sortMembers (canonicalMembers members))
    | value => .error (.wrongType value.found "a map")
  skip _ := .ok ()
where
  itemsOf (items : List Json) : Items Json := {
    elements := items
    more := .ok ()
    close := fun taken =>
      if taken < items.length then .error (tooLong items.length taken) else .ok () }

/-- Reads a shape off a canonical value. -/
def Shape.ofValue {α : Type} (shape : Shape α) (value : Json) : Except Fault α :=
  shape.read (source fun length _ => .wrongLength length "fewer elements in array") value

/-- Reads a shape off a value that was set aside while a text was read. -/
def Shape.ofBuffer {α : Type} (shape : Shape α) (value : Json) : Except Fault α :=
  shape.read
    (source fun length taken =>
      let elements := if taken = 1 then "element" else "elements"
      .wrongLength length s!"{taken} {elements} in sequence")
    value

def readText {α : Type} (text : String) (read : Draft → Except Fault α) : Except Fault α := do
  let (draft, trailing) := Draft.ofText text
  let value ← read draft
  if trailing then throw .trailingText
  return value

def Shape.ofText {α : Type} (shape : Shape α) (text : String) : Except Fault α :=
  readText text fun draft => shape.read Draft.source ⟨Draft.maxLevels, draft⟩

end Outliner.Json
