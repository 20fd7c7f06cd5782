import Abacus.Binary64.Basic
import Abacus.Decimal.Basic

/-! # Decimals and doubles

  Functions and powers are computed in binary floating point. A decimal enters as a double next to
  it, and a finite double leaves as the decimal equal to it, with every digit that this takes.

  - `Decimal.ofFloat?` is exact, and its decimals have no avoidable place after the point.
  - `Decimal.toFloat` first cuts blocks of final digits off a long coefficient. What is left is
    rounded correctly if it has places after the point. An integer is rounded as `Binary64.ofNat`
    does, and the zeros that a negative scale appends are multiplied on in floating point.
-/

namespace Abacus

/-! ### From a double -/

/-- The decimal equal to `m / 2 ^ k`, with as few places after the point as possible:
    `m / 2 ^ k = m · 5 ^ k / 10 ^ k`, and halving an even `m` saves a place. -/
def Decimal.ofDyadic (m : Nat) : Nat → Decimal
  | 0 => ⟨m, 0⟩
  | k + 1 =>
    if m % 2 = 0 then ofDyadic (m / 2) k else ⟨(m * Nat.pow 5 (k + 1) : Nat), (k + 1 : Nat)⟩

/-- The decimal equal to a finite double. -/
def Binary64.toDecimal (x : Binary64) : Decimal :=
  let magnitude := Decimal.ofDyadic (x.significand * Nat.pow 2 x.exponent.toNat)
    (-x.exponent).toNat
  if x.negative then ⟨-magnitude.coeff, magnitude.scale⟩ else magnitude

/-- The decimal equal to a double, if it is finite. Both zeros become zero. -/
def Decimal.ofFloat? (x : Float) : Option Decimal :=
  (Binary64.ofFloat? x).map Binary64.toDecimal

namespace Decimal

/-! ### To a double -/

/-- The digits of a coefficient that are never cut off. -/
def keptDigits : Nat := 25

/-- The number of digits that are cut off at a time. -/
def cutBlock : Nat := 19

/-- An estimate of the number of digits of a positive number, from its number of bits. -/
def estimatedDigits (n : Nat) : Nat :=
  (n.log2 + 2) * 30102999566398119521 / 100000000000000000000

/-- The number of final digits that are cut off a coefficient: whole blocks that leave at least
    `keptDigits`. -/
def cutDigits (n : Nat) : Nat :=
  (estimatedDigits n - keptDigits) / cutBlock * cutBlock

/-- The product of `acc` and the `n`-th power of `base`, by repeated squaring. -/
def scalePower (acc base : Float) (n : Nat) : Float :=
  let acc := if n % 2 = 1 then acc * base else acc
  if n < 2 then acc else scalePower acc (base * base) (n / 2)

/-- The double for the positive number `n / 10 ^ scale`. -/
def magnitudeToFloat (n : Nat) (scale : Int) : Float :=
  if scale = 0 then Binary64.ofNat n
  else
    let head := n / Nat.pow 10 (cutDigits n)
    let places := scale - cutDigits n
    if places ≤ 0 then Binary64.ofNat head * scalePower 1 10 (-places).toNat
    else Binary64.nearest head (Nat.pow 10 places.toNat)

/-- The double for a decimal; infinite if the decimal is too large. -/
def toFloat (x : Decimal) : Float :=
  if x.coeff = 0 then 0
  else
    let magnitude := magnitudeToFloat x.coeff.natAbs x.scale
    if x.coeff < 0 then -magnitude else magnitude

end Decimal

end Abacus
