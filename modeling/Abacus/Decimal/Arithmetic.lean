import Abacus.Decimal.Basic
import Abacus.Rounding

/-! # Arithmetic of decimals

  Sums, differences and products are exact; what needs a rule is the scale of the result.

  - A sum or difference has the larger of the two scales.
  - Adding zero keeps the other number, with up to `largestPadding` more places if zero has more.
  - A product has the sum of the scales, but a factor recognised as one yields the other factor
    normalized.

  A quotient is found by long division on the magnitudes of the coefficients and is then rounded.

  - `align` scales the dividend up until it is no smaller than the divisor.
  - `LongDivision.extend` brings down digit after digit, until nothing remains or the quotient has
    `longestQuotient` digits.
  - `LongDivision.rounded` looks at the next digit, and at that digit alone.
  - `Decimal.div` keeps `divisionPrecision` significant digits, a half going to the even neighbour.
-/

namespace Abacus.Decimal

/-! ### Sums, differences and products -/

/-- The most places that a sum takes over from a zero. -/
def largestPadding : Nat := 15

/-- The sum of `x` and a zero of scale `s`. -/
def addZero (x : Decimal) (s : Int) : Decimal :=
  x.extend (min (s - x.scale).toNat largestPadding)

/-- The sum, exact. -/
def add (x y : Decimal) : Decimal :=
  if y.coeff = 0 then x.addZero y.scale
  else if x.coeff = 0 then y.addZero x.scale
  else
    let s := max x.scale y.scale
    ⟨x.coeffAt s + y.coeffAt s, s⟩

/-- The difference, exact, a zero operand included. -/
def sub (x y : Decimal) : Decimal :=
  let s := max x.scale y.scale
  ⟨x.coeffAt s - y.coeffAt s, s⟩

/-- The product, exact. -/
def mul (x y : Decimal) : Decimal :=
  if x.isOne then y.normalized
  else if y.isOne then x.normalized
  else ⟨x.coeff * y.coeff, x.scale + y.scale⟩

instance : Add Decimal := ⟨add⟩
instance : Sub Decimal := ⟨sub⟩
instance : Mul Decimal := ⟨mul⟩

/-! ### Quotients -/

/-- The number of digits at which a long division stops. -/
def longestQuotient : Nat := 100

/-- The number of significant digits that a quotient keeps. -/
def divisionPrecision : Nat := 28

/-- The first of `n`, `10 n`, `100 n`, … that is no smaller than `d`, and how many zeros it took. -/
def align (n d : Nat) : Nat × Nat :=
  if 0 < n ∧ n < d then
    let (m, zeros) := align (10 * n) d
    (m, zeros + 1)
  else (n, 0)
termination_by d - n

/-- Alignment multiplies by the power of ten that it reports. -/
theorem align_fst (n d : Nat) : (align n d).1 = n * Nat.pow 10 (align n d).2 := by
  fun_induction align n d with
  | case1 n h m zeros heq ih =>
    simp only [heq] at ih
    rw [ih, Nat.mul_assoc, Nat.mul_left_comm]
    exact congrArg (n * ·) (Nat.mul_comm 10 _)
  | case2 n h => exact (Nat.mul_one n).symm

/-- An aligned dividend is no smaller than the divisor. -/
theorem le_align_fst {n d : Nat} (hn : 0 < n) : d ≤ (align n d).1 := by
  fun_induction align n d with
  | case1 n h m zeros heq ih =>
    simp only [heq] at ih
    exact ih (by omega)
  | case2 n h => exact Nat.le_of_not_lt fun hlt => h ⟨hn, hlt⟩

/-- A long division under way. -/
structure LongDivision where
  /-- The digits found so far, as one number. -/
  quotient : Nat
  /-- What is left of the dividend. -/
  remainder : Nat
  /-- How many of the digits stand after the point. -/
  places : Nat

namespace LongDivision

/-- The integer part of `n / d`. -/
def start (n d : Nat) : LongDivision :=
  ⟨n / d, n % d, 0⟩

/-- Brings down a zero and finds the next digit. -/
def bringDown (d : Nat) (s : LongDivision) : LongDivision :=
  ⟨10 * s.quotient + 10 * s.remainder / d, 10 * s.remainder % d, s.places + 1⟩

/-- Bringing down a zero keeps the dividend, ten times as large. -/
theorem bringDown_eq (d : Nat) (s : LongDivision) :
    d * (s.bringDown d).quotient + (s.bringDown d).remainder =
      10 * (d * s.quotient + s.remainder) := by
  have h := Nat.div_add_mod (10 * s.remainder) d
  simp only [bringDown, Nat.mul_add, Nat.mul_left_comm d 10]
  omega

/-- Finds at most `room` further digits, and none once nothing remains. -/
def extend (d : Nat) : Nat → LongDivision → LongDivision
  | 0, s => s
  | room + 1, s => if s.remainder = 0 then s else extend d room (s.bringDown d)

/-- The quotient, one more if the next digit is at least five. -/
def rounded (d : Nat) (s : LongDivision) : Nat :=
  if 5 ≤ 10 * s.remainder / d then s.quotient + 1 else s.quotient

end LongDivision

/-- The quotient of two magnitudes as a coefficient and a scale, to `longestQuotient` digits. -/
def quotientOfMagnitudes (n d : Nat) : Nat × Nat :=
  let (m, zeros) := align n d
  let s := (LongDivision.start m d).extend d (longestQuotient - digitCount (m / d))
  (s.rounded d, zeros + s.places)

/-- The quotient to `longestQuotient` digits. Zero divided, a division by one and one of equal
    coefficients need no long division. -/
def quotient (x y : Decimal) : Decimal :=
  if x.coeff = 0 || y.isOne then x
  else if x.coeff = y.coeff then ⟨1, x.scale - y.scale⟩
  else
    let (q, places) := quotientOfMagnitudes x.coeff.natAbs y.coeff.natAbs
    ⟨x.coeff.sign * y.coeff.sign * q, x.scale - y.scale + places⟩

/-- The decimal with its last `k` digits rounded away, a half going to the even neighbour. -/
def dropDigits (x : Decimal) (k : Nat) : Decimal :=
  ⟨x.coeff.sign * roundHalfEven x.coeff.natAbs (Nat.pow 10 k), x.scale - k⟩

/-- The decimal rounded to `n` significant digits; a carry out of all nines leaves one digit more. -/
def roundToDigits (x : Decimal) (n : Nat) : Decimal :=
  if n < digitCount x.coeff.natAbs then x.dropDigits (digitCount x.coeff.natAbs - n) else x

/-- The quotient to `divisionPrecision` significant digits; the divisor must not be zero. -/
def div (x y : Decimal) : Decimal :=
  (x.quotient y).roundToDigits divisionPrecision

instance : Div Decimal := ⟨div⟩

end Abacus.Decimal
