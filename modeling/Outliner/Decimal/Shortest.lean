/-!
The shortest decimal that reads back as a given double.

A double stands for an interval of reals that round to it, with the ends included when its
significand is even. Grids of powers of ten are tried from the coarsest on, and on each grid the two
neighbours of the value: the first grid with a neighbour inside the interval gives the digits.
-/
set_option autoImplicit false

namespace Outliner.Decimal

/-- The number `digits * 10 ^ exponent`. -/
structure Scaled where
  digits : Nat
  exponent : Int

/-- The positive number `significand * 2 ^ exponent`, as a double holds it. It is near below if the next
smaller double is only half as far away as the next larger one. -/
structure Binary where
  significand : Nat
  exponent : Int
  nearBelow : Bool

def Binary.ofBits (bits : UInt64) : Binary :=
  let fraction : Nat := bits.toNat % 0x10000000000000
  let biased : Nat := bits.toNat / 0x10000000000000 % 0x800
  if biased = 0 then ⟨fraction, -1074, false⟩
  else ⟨0x10000000000000 + fraction, (biased : Int) - 1075, fraction == 0 && biased != 1⟩

/-- Compares `d * 10 ^ k` with `n * 2 ^ p`. -/
def compareScaled (d : Nat) (k : Int) (n : Nat) (p : Int) : Ordering :=
  compare (d * (Nat.pow 10 k.toNat <<< (-p).toNat)) ((n <<< p.toNat) * Nat.pow 10 (-k).toNat)

/-- The largest `d` with `d * 10 ^ k` at most `n * 2 ^ p`. -/
def floorScaled (k : Int) (n : Nat) (p : Int) : Nat :=
  (n <<< p.toNat * Nat.pow 10 (-k).toNat) / (Nat.pow 10 k.toNat <<< (-p).toNat)

/-- Whether `d * 10 ^ k` rounds to `x`. The bounds are counted in quarters of the last place. -/
def Binary.readsBack (x : Binary) (d : Nat) (k : Int) : Bool :=
  let closed := x.significand % 2 == 0
  let low := 4 * x.significand - (if x.nearBelow then 1 else 2)
  let high := 4 * x.significand + 2
  let aboveLow := match compareScaled d k low (x.exponent - 2) with
    | .gt => true
    | .eq => closed
    | .lt => false
  let belowHigh := match compareScaled d k high (x.exponent - 2) with
    | .lt => true
    | .eq => closed
    | .gt => false
  aboveLow && belowHigh

/-- The neighbour of `x` on the grid of `10 ^ k` that rounds to `x`: the nearer one if both do, the
even one if both are equally near. -/
def Binary.onGrid? (x : Binary) (k : Int) : Option Scaled :=
  let d := floorScaled k x.significand x.exponent
  match x.readsBack d k, x.readsBack (d + 1) k with
  | true, true =>
    match compareScaled (2 * d + 1) k (2 * x.significand) x.exponent with
    | .gt => some ⟨d, k⟩
    | .lt => some ⟨d + 1, k⟩
    | .eq => some ⟨d + d % 2, k⟩
  | true, false => some ⟨d, k⟩
  | false, true => some ⟨d + 1, k⟩
  | false, false => none

/-- The exponent of the leading decimal digit of a positive `x`. -/
def Binary.leading (x : Binary) : Int :=
  let estimate := (x.exponent + x.significand.log2) * 30103 / 100000
  let reached := [estimate + 1, estimate].find? fun k =>
    compareScaled 1 k x.significand x.exponent != .gt
  reached.getD (estimate - 1)

def Binary.exact (x : Binary) : Scaled :=
  if 0 ≤ x.exponent then ⟨x.significand <<< x.exponent.toNat, 0⟩
  else ⟨x.significand * Nat.pow 5 (-x.exponent).toNat, x.exponent⟩

/-- The decimal with the fewest digits that rounds to the positive `x`, and the nearest of those. -/
def Binary.shortest (x : Binary) : Scaled :=
  let top := x.leading
  ((List.range 18).findSome? fun (i : Nat) => x.onGrid? (top - (i : Int))).getD x.exact

end Outliner.Decimal
