import Abacus.Binary64.Basic
import Abacus.Decimal.Text

/-! # The shortest text of a double

  A double is written with the fewest digits that read back as the same double, and among those with
  the digits nearest to its value; a tie goes away from zero. Exponents are never used.

  The reals that read back as `m · 2 ^ e` form an interval around it, which reaches half-way to the
  two neighbouring doubles and holds its ends exactly when `m` is even. `Interval` is that interval
  as integers over a common power of ten. The fewest digits are found by leaving off as many as
  possible: `Interval.shortest` tries the two neighbours of the value on coarser grids before it
  tries those on finer ones, and the finest grid holds the value itself.
-/

namespace Abacus.Binary64

/-- The reals that read back as one double, as integers over `10 ^ scale`. -/
structure Interval where
  /-- The lower end. -/
  lower : Nat
  /-- The value of the double. -/
  value : Nat
  /-- The upper end. -/
  upper : Nat
  /-- Whether the ends read back as the double. -/
  closed : Bool
  /-- The power of ten that divides all three. -/
  scale : Nat

/-- Whether a neighbouring double below lies at half the distance of the one above. -/
def atBinadeStart (x : Binary64) : Bool :=
  x.significand = Nat.pow 2 fractionBits && leastExponent < x.exponent

/-- The interval of the magnitude of a double. In units of a quarter of `2 ^ exponent`, the ends are
    two units away, or one at the start of a binade. -/
def interval (x : Binary64) : Interval :=
  let quarter := x.exponent - 2
  let unit := Nat.pow 2 quarter.toNat * Nat.pow 5 (-quarter).toNat
  let m := 4 * x.significand
  { lower := (m - if x.atBinadeStart then 1 else 2) * unit
    value := m * unit
    upper := (m + 2) * unit
    closed := x.significand % 2 = 0
    scale := (-quarter).toNat }

namespace Interval

/-- Whether the number `n / 10 ^ scale` reads back as the double. -/
def holds (i : Interval) (n : Nat) : Bool :=
  if i.closed then i.lower ≤ n && n ≤ i.upper else i.lower < n && n < i.upper

/-- The multiple of `unit` next to the value that reads back, as the number of units; of two, the
    nearer, and of two equally near ones, the larger. -/
def candidate? (i : Interval) (unit : Nat) : Option Nat :=
  let below := i.value / unit
  match i.holds (below * unit), i.holds ((below + 1) * unit) with
  | true, true => some (if 2 * (i.value % unit) < unit then below else below + 1)
  | true, false => some below
  | false, true => some (below + 1)
  | false, false => none

/-- The shortest decimal that reads back and leaves off at most `dropped` digits of the value. -/
def shortest (i : Interval) : Nat → Decimal
  | 0 => ⟨i.value, i.scale⟩
  | dropped + 1 =>
    match i.candidate? (Nat.pow 10 (dropped + 1)) with
    | some n => ⟨n, (i.scale : Int) - (dropped + 1 : Nat)⟩
    | none => i.shortest dropped

end Interval

/-- The shortest decimal that reads back as the magnitude of the double. -/
def shortest (x : Binary64) : Decimal :=
  if x.significand = 0 then Decimal.zero
  else (x.interval.shortest (Decimal.digitCount x.interval.value)).normalized

/-- The text of a finite double. -/
def text (x : Binary64) : String :=
  let shown := Decimal.plainDigits x.shortest.coeff.natAbs x.shortest.scale
  String.ofList (if x.negative then '-' :: shown else shown)

/-- The text of a double, finite or not. -/
def textOfFloat (x : Float) : String :=
  match ofFloat? x with
  | some b => b.text
  | none => if x.isNaN then "NaN" else if x < 0 then "-inf" else "inf"

end Abacus.Binary64
