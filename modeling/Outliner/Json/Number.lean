import Outliner.Decimal.Layout

/-!
Numbers of a JSON value: integers of 64 bits are kept exactly, all others as doubles.
-/
set_option autoImplicit false

namespace Outliner.Json

/-- The integers that are kept exactly: those of 64 bits, signed or unsigned. -/
def Number.InRange (value : Int) : Prop :=
  -0x8000000000000000 ≤ value ∧ value < 0x10000000000000000

instance Number.decidableInRange (value : Int) : Decidable (Number.InRange value) :=
  inferInstanceAs (Decidable (_ ∧ _))

inductive Number where
  | int (value : Int) (inRange : Number.InRange value)
  | float (value : Float)

namespace Number

def ofUInt32 (word : UInt32) : Number :=
  .int word.toNat (by have := word.toNat_lt; constructor <;> omega)

/-- Integers agree by value and doubles as reals; an integer never agrees with a double. -/
def same : Number → Number → Bool
  | .int a _, .int b _ => a == b
  | .float a, .float b => a == b
  | _, _ => false

end Number

def showInt (value : Int) : String :=
  (if value < 0 then "-" else "") ++ value.natAbs.repr

def Number.text : Number → String
  | .int value _ => showInt value
  | .float value => Decimal.showFloat value

end Outliner.Json
