import Outliner.Json.Number

/-!
Numerals: numbers as they are written, and the number that a numeral stands for.

A numeral without fraction and exponent is an integer if 64 bits hold it. Any other numeral is a
double: the digits are taken into a significand of 64 bits for as long as they fit, and the
significand is scaled by a power of ten in double arithmetic.
-/
set_option autoImplicit false

namespace Outliner.Json

/-- A number as written: the digits before and after the point, and the exponent. -/
structure Numeral where
  negative : Bool
  whole : List Nat
  fraction : List Nat
  exponent : Option Int

namespace Numeral

def isDigit (c : Char) : Bool :=
  '0' ≤ c && c ≤ '9'

def leadingDigits (s : List Char) : List Nat :=
  (s.takeWhile isDigit).map fun c => c.toNat - '0'.toNat

def ofDigits (digits : List Nat) : Nat :=
  digits.foldl (fun value digit => value * 10 + digit) 0

/-- What a text that begins like a number turns out to be. A number is cut at the end of the text or before
it. -/
inductive Scanned where
  | whole (numeral : Numeral) (rest : List Char)
  | cut (textEnds : Bool)

def scanExponent (numeral : Numeral) (sign : Int) (s : List Char) : Scanned :=
  match leadingDigits s with
  | [] => .cut s.isEmpty
  | digits =>
    .whole { numeral with exponent := some (sign * ofDigits digits) } (s.dropWhile isDigit)

def scanScale (numeral : Numeral) : List Char → Scanned
  | 'e' :: '+' :: rest | 'E' :: '+' :: rest => scanExponent numeral 1 rest
  | 'e' :: '-' :: rest | 'E' :: '-' :: rest => scanExponent numeral (-1) rest
  | 'e' :: rest | 'E' :: rest => scanExponent numeral 1 rest
  | s => .whole numeral s

def scanFraction (numeral : Numeral) : List Char → Scanned
  | '.' :: rest =>
    match leadingDigits rest with
    | [] => .cut rest.isEmpty
    | digits => scanScale { numeral with fraction := digits } (rest.dropWhile isDigit)
  | s => scanScale numeral s

/-- Reads a number after its sign. A leading zero stands alone. -/
def scan (negative : Bool) (s : List Char) : Scanned :=
  match leadingDigits s with
  | [] => .cut s.isEmpty
  | 0 :: _ :: _ => .cut false
  | digits => scanFraction ⟨negative, digits, [], none⟩ (s.dropWhile isDigit)

private theorem length_dropWhile_lt {s : List Char} (h : leadingDigits s ≠ []) :
    (s.dropWhile isDigit).length < s.length := by
  cases s with
  | nil => exact absurd rfl h
  | cons c rest =>
    cases hc : isDigit c with
    | false => simp [leadingDigits, hc] at h
    | true =>
      have := (List.dropWhile_suffix isDigit (l := rest)).length_le
      simpa [List.dropWhile_cons, hc] using Nat.lt_succ_of_le this

private theorem length_scanExponent {numeral result : Numeral} {sign : Int} {s rest : List Char}
    (h : scanExponent numeral sign s = .whole result rest) : rest.length ≤ s.length := by
  unfold scanExponent at h
  split at h
  · cases h
  · cases h
    exact (List.dropWhile_suffix isDigit).length_le

private theorem length_scanScale {numeral result : Numeral} {s rest : List Char}
    (h : scanScale numeral s = .whole result rest) : rest.length ≤ s.length := by
  unfold scanScale at h
  split at h
  all_goals try
    exact Nat.le_trans (length_scanExponent h) (by simp only [List.length_cons]; omega)
  cases h
  exact Nat.le_refl _

private theorem length_scanFraction {numeral result : Numeral} {s rest : List Char}
    (h : scanFraction numeral s = .whole result rest) : rest.length ≤ s.length := by
  unfold scanFraction at h
  split at h
  · split at h
    · cases h
    · rename_i tail _ _
      have := length_scanScale h
      have := (List.dropWhile_suffix isDigit (l := tail)).length_le
      simp only [List.length_cons]
      omega
  · exact length_scanScale h

theorem length_scan {negative : Bool} {result : Numeral} {s rest : List Char}
    (h : scan negative s = .whole result rest) : rest.length < s.length := by
  unfold scan at h
  split at h
  · cases h
  · cases h
  · rename_i some_digits _
    exact Nat.lt_of_le_of_lt (length_scanFraction h) (length_dropWhile_lt some_digits)

/-- Adds digits to a significand for as long as 64 bits hold it; the second part is what is left. -/
def absorb (significand : Nat) : List Nat → Nat × List Nat
  | [] => (significand, [])
  | digit :: rest =>
    if significand * 10 + digit < UInt64.size then absorb (significand * 10 + digit) rest
    else (significand, digit :: rest)

def tenPower (n : Nat) : Float :=
  Float.ofScientific 1 false n

/-- Divides by `10 ^ n` in steps of the largest power that is a double. -/
def divideByTenPower (x : Float) (n : Nat) : Float :=
  if n ≤ 308 then x / tenPower n
  else if x == 0 then x
  else divideByTenPower (x / tenPower 308) (n - 308)
termination_by n

/-- Scales by a power of ten; no result if it is too large for a double. -/
def scale? (x : Float) (exponent : Int) : Option Float :=
  if exponent < 0 then some (divideByTenPower x (-exponent).toNat)
  else if exponent ≤ 308 then
    let scaled := x * tenPower exponent.toNat
    if scaled.isInf then none else some scaled
  else if x == 0 then some x
  else none

def float? (numeral : Numeral) : Option Float := do
  let (whole, wholeLeft) := absorb 0 numeral.whole
  let (significand, fractionLeft) := absorb whole numeral.fraction
  let shift : Int := wholeLeft.length - (numeral.fraction.length - fractionLeft.length : Int)
  let magnitude ← scale? significand.toUInt64.toFloat (shift + numeral.exponent.getD 0)
  return if numeral.negative then -magnitude else magnitude

/-- The number that a numeral stands for, if it is not too large. Zero with a minus sign is not an
integer. -/
def value? (numeral : Numeral) : Option Number :=
  let magnitude := ofDigits numeral.whole
  let value : Int := if numeral.negative then -magnitude else magnitude
  if numeral.fraction.isEmpty && numeral.exponent.isNone &&
      !(numeral.negative && magnitude == 0) then
    if inRange : Number.InRange value then some (.int value inRange)
    else numeral.float?.map .float
  else numeral.float?.map .float

end Numeral

end Outliner.Json
