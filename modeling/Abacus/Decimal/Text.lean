import Abacus.Decimal.Basic

/-! # The text of a decimal

  A decimal shows all digits of its coefficient, with the point where its scale says. Only a number with
  many zeros between the point and its digits is shown otherwise.

  - `Layout.plain`: `-1.500`, `0.00012`, `1200`.
  - `Layout.scientific`: `1.5E-9`, when more than `zerosAfterPoint` zeros would follow the point.
  - `Layout.scaled`: `15e+20`, when more than `zerosBeforePoint` zeros would be appended.

  Only the plain layout is read back: an optional sign, digits, and optionally a point with digits after
  it, whose number is the scale. A number in an expression may also begin or end with its point
  (`ofLiteral?`).
-/

namespace Abacus.Decimal

/-! ### Writing -/

/-- The most zeros that the text shows between the point and the first digit of the coefficient. -/
def zerosAfterPoint : Int := 5

/-- The most zeros that the text appends to the digits of the coefficient. -/
def zerosBeforePoint : Int := 15

/-- The ways to lay out the digits of a decimal. -/
inductive Layout where
  /-- All digits, with zeros up to the point. -/
  | plain
  /-- A point after the first digit, and the exponent that this calls for. -/
  | scientific
  /-- The coefficient as it stands, and the number of zeros to append. -/
  | scaled
deriving DecidableEq, Repr

/-- The layout that fits the number of zeros around the digits. -/
def layout (x : Decimal) : Layout :=
  if zerosAfterPoint < x.scale - digitCount x.coeff.natAbs then .scientific
  else if zerosBeforePoint < -x.scale then .scaled
  else .plain

/-- The digits `ds` with a point before the last `places` of them, and zeros in front as needed. -/
def withPoint (ds : List Char) (places : Nat) : List Char :=
  let padded := List.replicate (places + 1 - ds.length) '0' ++ ds
  let whole := padded.length - places
  padded.take whole ++ '.' :: padded.drop whole

/-- All digits of a magnitude, zeros on either side included. -/
def plainDigits (n : Nat) (scale : Int) : List Char :=
  if scale ≤ 0 then digits n ++ List.replicate (-scale).toNat '0'
  else withPoint (digits n) scale.toNat

/-- The digits of a magnitude with a point after the first one, unless it is the only one. -/
def leadingDigits (n : Nat) : List Char :=
  match digits n with
  | d :: e :: rest => d :: '.' :: e :: rest
  | ds => ds

/-- An exponent, always with its sign. -/
def signedExponent (e : Int) : List Char :=
  (if e < 0 then '-' else '+') :: digits e.natAbs

/-- The text of the magnitude of a decimal. -/
def magnitudeText (x : Decimal) : List Char :=
  let n := x.coeff.natAbs
  match x.layout with
  | .plain => plainDigits n x.scale
  | .scientific => leadingDigits n ++ 'E' :: signedExponent (digitCount n - x.scale - 1)
  | .scaled => digits n ++ 'e' :: signedExponent (-x.scale)

/-- The text of a decimal. Zero is `0` at every scale. -/
def text (x : Decimal) : String :=
  if x.coeff = 0 then "0"
  else if x.coeff < 0 then String.ofList ('-' :: x.magnitudeText)
  else String.ofList x.magnitudeText

instance : ToString Decimal := ⟨text⟩

/-! ### Reading -/

/-- The number that a list of decimal digits spells. -/
def ofDigits (ds : List Char) : Nat :=
  Nat.ofDigitChars 10 ds 0

/-- Reads digits, and optionally a point and more digits. -/
def readMagnitude? (cs : List Char) : Option Decimal :=
  let whole := cs.takeWhile Char.isDigit
  if whole = [] then none
  else
    match cs.dropWhile Char.isDigit with
    | [] => some ⟨ofDigits whole, 0⟩
    | '.' :: places =>
      if places ≠ [] && places.all Char.isDigit then
        some ⟨ofDigits (whole ++ places), places.length⟩
      else none
    | _ => none

/-- Reads a decimal with an optional sign. -/
def read? (cs : List Char) : Option Decimal :=
  match cs with
  | '-' :: rest => (readMagnitude? rest).map fun x => ⟨-x.coeff, x.scale⟩
  | '+' :: rest => readMagnitude? rest
  | _ => readMagnitude? cs

/-- The text without the point that it ends with, if it does. -/
def dropFinalPoint (cs : List Char) : List Char :=
  if cs.getLast? = some '.' then cs.dropLast else cs

/-- The text with a zero before the point that it begins with, if it does. -/
def padLeadingPoint (cs : List Char) : List Char :=
  if cs.head? = some '.' then '0' :: cs else cs

/-- Reads a number of an expression, such as `12`, `3.50`, `.5` or `7.`.

    Not read are an exponent, underscores between digits, and a sign before a leading point. No token has
    such a text: a scanned number is a run of digits and points, a constant is replaced by a text that has
    no exponent and begins with a digit after its sign, and what is put in front of a minus is `0`. -/
def ofLiteral? (lexeme : String) : Option Decimal :=
  read? (padLeadingPoint (dropFinalPoint lexeme.toList))

/-- The digits of a number spell that number. -/
@[simp] theorem ofDigits_digits (n : Nat) : ofDigits (digits n) = n :=
  Nat.ofDigitChars_ten_toDigits

end Abacus.Decimal
