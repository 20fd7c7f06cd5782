/-! # Decimals

  A decimal is an integer coefficient and a scale, and means `coefficient / 10 ^ scale`. The scale
  may be negative, and equal numbers may be held in many ways (`1.5` as `15 / 10` or `150 / 100`).
  The way a number is held is part of the result: it decides how many zeros the text shows.

  Powers are written with `Nat.pow`, so that every definition stands on core arithmetic alone.
-/

namespace Abacus

/-- The number `coeff / 10 ^ scale`. -/
structure Decimal where
  /-- The digits of the number, read as one signed integer. -/
  coeff : Int
  /-- The number of those digits after the point; a negative scale appends zeros. -/
  scale : Int
deriving DecidableEq, Repr, Inhabited

namespace Decimal

/-- The number zero without places after the point. -/
def zero : Decimal := ⟨0, 0⟩

/-- The coefficient of the same number at the scale `s`, which must not be below its own. -/
def coeffAt (x : Decimal) (s : Int) : Int :=
  x.coeff * (Nat.pow 10 (s - x.scale).toNat : Nat)

/-- The same number with `places` more places after the point. -/
def extend (x : Decimal) (places : Nat) : Decimal :=
  ⟨x.coeff * (Nat.pow 10 places : Nat), x.scale + places⟩

/-- The same number without trailing zeros in its coefficient; zero gets the scale zero. -/
def normalized (x : Decimal) : Decimal :=
  if x.coeff = 0 then zero
  else if x.coeff % 10 = 0 then normalized ⟨x.coeff / 10, x.scale - 1⟩
  else x
termination_by x.coeff.natAbs
decreasing_by omega

/-- The largest scale at which the number one is recognised. -/
def largestUnitScale : Int := 38

/-- Whether the decimal is recognised as the number one. -/
def isOne (x : Decimal) : Bool :=
  0 ≤ x.scale && x.scale ≤ largestUnitScale && x.coeff = (Nat.pow 10 x.scale.toNat : Nat)

/-- The decimal digits of a natural number, most significant first. -/
def digits (n : Nat) : List Char :=
  Nat.toDigits 10 n

/-- The number of decimal digits of a natural number; zero has one. -/
def digitCount (n : Nat) : Nat :=
  (digits n).length

end Decimal

end Abacus
