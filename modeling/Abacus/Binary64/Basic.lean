import Abacus.Rounding

/-! # Binary64 numbers

  A finite double is `± significand · 2 ^ exponent` with natural significand. `ofFloat?` reads the
  three parts off the 64 bits; `nearest` finds the double next to a quotient of natural numbers, and
  `ofNat` the double for an integer, from its first 64 bits and what it sees of the others.

  - Normal numbers have a significand of 53 bits, whose first bit is not stored.
  - Subnormal numbers share the least exponent, `-1074`, with the least normal ones, so the bits of
    `m · 2 ^ e` are `(e + 1074) · 2 ^ 52 + m` for both; a significand rounded up to `2 ^ 53` carries
    into the exponent by itself, and past the largest finite number into infinity.
-/

namespace Abacus

/-- The parts of a finite double. -/
structure Binary64 where
  /-- Whether the sign bit is set. -/
  negative : Bool
  /-- The significand as an integer. -/
  significand : Nat
  /-- The power of two that the significand counts. -/
  exponent : Int
deriving DecidableEq, Repr

namespace Binary64

/-- The exponent of the subnormal numbers and of the least normal ones. -/
def leastExponent : Int := -1074

/-- The number of significand bits that are stored. -/
def fractionBits : Nat := 52

/-- The value of the exponent bits for infinities and for what is not a number. -/
def specialField : Nat := 2047

/-- The parts of a finite double, from its bits. -/
def ofBits? (bits : Nat) : Option Binary64 :=
  let negative := bits / Nat.pow 2 63 % 2 = 1
  let field := bits / Nat.pow 2 fractionBits % 2048
  let fraction := bits % Nat.pow 2 fractionBits
  if field = specialField then none
  else if field = 0 then some ⟨negative, fraction, leastExponent⟩
  else some ⟨negative, Nat.pow 2 fractionBits + fraction, leastExponent + field - 1⟩

/-- The parts of a double, if it is finite. -/
def ofFloat? (x : Float) : Option Binary64 :=
  ofBits? x.toBits.toNat

/-! ### Rounding to the nearest double -/

/-- The greatest `k` with `2 ^ k ≤ n / d`, for positive `n` and `d`. -/
def log2Quotient (n d : Nat) : Int :=
  let k : Int := n.log2 - d.log2
  if d * Nat.pow 2 k.toNat ≤ n * Nat.pow 2 (-k).toNat then k else k - 1

/-- The exponent of the doubles next to `n / d`. -/
def exponentFor (n d : Nat) : Int :=
  max (log2Quotient n d - fractionBits) leastExponent

/-- The bits of `m · 2 ^ e`, or of infinity if that is too large. -/
def bitsOf (m : Nat) (e : Int) : Nat :=
  min ((e - leastExponent).toNat * Nat.pow 2 fractionBits + m)
    (specialField * Nat.pow 2 fractionBits)

/-- The bits of the double nearest to `n / d`; of two equally near ones, the one with even
    significand. -/
def nearestBits (n d : Nat) : Nat :=
  if n = 0 then 0
  else
    let e := exponentFor n d
    bitsOf (roundHalfEven (n * Nat.pow 2 (-e).toNat) (d * Nat.pow 2 e.toNat)) e

/-- The double nearest to `n / d`, for positive `d`. -/
def nearest (n d : Nat) : Float :=
  Float.ofBits (UInt64.ofNat (nearestBits n d))

/-! ### Rounding a long integer -/

/-- The number of bits of a word. -/
def wordBits : Nat := 64

/-- The number of bits that the first word of a number uses. -/
def leadingBits (n : Nat) : Nat :=
  n.log2 % wordBits + 1

/-- Whether any word of the number has a bit set among its last `count` ones. -/
def anyLowBits (count n : Nat) : Bool :=
  if n = 0 then false
  else n % Nat.pow 2 count ≠ 0 || anyLowBits count (n / Nat.pow 2 wordBits)
termination_by n
decreasing_by exact Nat.div_lt_self (by omega) (by decide)

/-- The number with all bits after the first `wordBits` cleared. The last bit that is kept is set if
    the cleared ones show a remainder; of each cleared word, only as many final bits are looked at
    as the first word uses. -/
def condense (n : Nat) : Nat :=
  let unit := Nat.pow 2 (n.log2 + 1 - wordBits)
  let head := n / unit
  unit * if anyLowBits (leadingBits n) (n % unit) then head / 2 * 2 + 1 else head

/-- A number without further bits set is kept. -/
theorem condense_of_mod_eq_zero {n : Nat} (h : n % Nat.pow 2 (n.log2 + 1 - wordBits) = 0) :
    condense n = n := by
  have hnone : anyLowBits (leadingBits n) 0 = false := by
    rw [anyLowBits, if_pos rfl]
  unfold condense
  dsimp only
  rw [h, hnone]
  exact Nat.mul_div_cancel' (Nat.dvd_of_mod_eq_zero h)

/-- The double for an integer. A remainder that `condense` does not see counts as none, so a long
    integer just above the middle of two doubles may go to the even one. -/
def ofNat (n : Nat) : Float :=
  nearest (condense n) 1

end Binary64

end Abacus
