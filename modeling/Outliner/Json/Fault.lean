import Outliner.Json.Number
import Outliner.Text.Quoted

/-!
Why JSON text is refused: it is not JSON, it ends too early, or it is JSON of another form than the
one asked for.

Where in the text a fault lies is not kept. So no wording that is made of a fault ends with a line and a column,
neither its own nor that of a refused snapshot or of a report about it.
-/
set_option autoImplicit false

namespace Outliner.Json

inductive Found where
  | null
  | bool (value : Bool)
  | number (value : Number)
  | text (value : String)
  | sequence
  | map

def Found.describe : Found → String
  | .null => "null"
  | .bool value => s!"boolean `{value}`"
  | .number (.int value _) => s!"integer `{showInt value}`"
  | .number (.float value) => s!"floating point `{Decimal.showFloat value}`"
  | .text value => s!"string {Text.quote value}"
  | .sequence => "sequence"
  | .map => "map"

inductive Fault where
  | endInValue
  | endInList
  | endInObject
  | endInString
  | valueDue
  -- A word that begins like `null`, `true` or `false` goes on differently.
  | wordDue
  | colonDue
  | listCommaDue
  | objectCommaDue
  | keyDue
  | trailingComma
  | trailingText
  | badNumber
  | numberTooLarge
  | badEscape
  | controlCharacter
  | loneSurrogate
  -- A leading surrogate is not followed by another escape.
  | cutSurrogate
  | tooDeep
  | wrongType (found : Found) (expected : String)
  | wrongValue (found : Found) (expected : String)
  | wrongLength (length : Nat) (expected : String)
  | missingField (name : String)
  | duplicateField (name : String)
  | unknownVariant (name : String) (known : List String)

namespace Fault

/-- The text is not JSON, it ends too early, or it is JSON of another form. -/
inductive Kind where
  | malformed
  | cutShort
  | mismatch
  deriving DecidableEq

def kind : Fault → Kind
  | .endInValue | .endInList | .endInObject | .endInString => .cutShort
  | .wrongType .. | .wrongValue .. | .wrongLength .. | .missingField .. | .duplicateField ..
  | .unknownVariant .. => .mismatch
  | _ => .malformed

def listNames : List String → String
  | [] => "there are no variants"
  | [name] => s!"expected `{name}`"
  | [first, second] => s!"expected `{first}` or `{second}`"
  | names => "expected one of " ++ ", ".intercalate (names.map fun name => s!"`{name}`")

def message : Fault → String
  | .endInValue => "EOF while parsing a value"
  | .endInList => "EOF while parsing a list"
  | .endInObject => "EOF while parsing an object"
  | .endInString => "EOF while parsing a string"
  | .valueDue => "expected value"
  | .wordDue => "expected ident"
  | .colonDue => "expected `:`"
  | .listCommaDue => "expected `,` or `]`"
  | .objectCommaDue => "expected `,` or `\x7d`"
  | .keyDue => "key must be a string"
  | .trailingComma => "trailing comma"
  | .trailingText => "trailing characters"
  | .badNumber => "invalid number"
  | .numberTooLarge => "number out of range"
  | .badEscape => "invalid escape"
  | .controlCharacter => "control character (\\u0000-\\u001F) found while parsing a string"
  | .loneSurrogate => "lone leading surrogate in hex escape"
  | .cutSurrogate => "unexpected end of hex escape"
  | .tooDeep => "recursion limit exceeded"
  | .wrongType found expected => s!"invalid type: {found.describe}, expected {expected}"
  | .wrongValue found expected => s!"invalid value: {found.describe}, expected {expected}"
  | .wrongLength length expected => s!"invalid length {length}, expected {expected}"
  | .missingField name => s!"missing field `{name}`"
  | .duplicateField name => s!"duplicate field `{name}`"
  | .unknownVariant name known => s!"unknown variant `{name}`, {listNames known}"

end Fault

end Outliner.Json
