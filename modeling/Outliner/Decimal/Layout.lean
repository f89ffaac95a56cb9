import Outliner.Decimal.Shortest

/-!
How a double is written: its shortest digits, either in positional notation or with an exponent.
-/
set_option autoImplicit false

namespace Outliner.Decimal

def stripZeros (digits : List Char) : List Char :=
  (digits.reverse.dropWhile (· == '0')).reverse

/-- Lays out the significant digits of the number `0.digits * 10 ^ point`. The point stands among or
next to the digits while at most sixteen digits precede it and at most four zeros follow it;
otherwise the first digit stands alone before the point and a signed exponent follows. -/
def layout (digits : List Char) (point : Int) : String :=
  let count : Int := digits.length
  if 0 < point ∧ point ≤ 16 then
    if count ≤ point then
      String.ofList (digits ++ List.replicate (point - count).toNat '0') ++ ".0"
    else
      String.ofList (digits.take point.toNat) ++ "." ++ String.ofList (digits.drop point.toNat)
  else if -5 < point ∧ point ≤ 0 then
    "0." ++ String.ofList (List.replicate (-point).toNat '0' ++ digits)
  else
    let exponent := point - 1
    let sign := if exponent < 0 then "-" else "+"
    let tail := if digits.length ≤ 1 then "" else "." ++ String.ofList (digits.drop 1)
    String.ofList (digits.take 1) ++ tail ++ "e" ++ sign ++ exponent.natAbs.repr

/-- The shortest text that reads back as the finite double `x`. -/
def showFloat (x : Float) : String :=
  let bits := x.toBits
  let sign := if bits.toNat / 0x8000000000000000 = 1 then "-" else ""
  let binary := Binary.ofBits bits
  if binary.significand = 0 then sign ++ "0.0"
  else
    let shortest := binary.shortest
    let all := Nat.toDigits 10 shortest.digits
    sign ++ layout (stripZeros all) (shortest.exponent + all.length)

end Outliner.Decimal
