import Abacus.Proofs.Decimal.Quotient
import Mathlib.Algebra.Order.Round
import Mathlib.Data.Rat.Floor
import Mathlib.Data.Sign.Basic

/-! # How near quotients are

  A quotient is rounded twice, and the second rounding may be misled by the first. Even so the result
  is exact whenever it can be, and else it is off by hardly more than half a unit of its last digit
  (`div_exact_or_near`):

  - the quotient of the long division is exact if the exact one has few digits, because it is nearer to
    it than its own neighbours are (`StandsFor.toRat_eq`);
  - if it is not exact, it has so many digits that what it adds to the error of the second rounding
    counts for next to nothing (`StandsFor.near_of_isRounding`). It may be a power of ten that the exact one
    falls short of, and then the second rounding changes nothing.
-/

namespace Abacus

variable {n m : ℕ} {c e : ℤ} {q r x : ℚ}

/-! ### Roundings -/

/-- A number with `n` digits that is less than a unit away from one with more digits is this one. -/
theorem HasDigits.eq_of_near_natCast {a : ℕ} (hx : HasDigits n x) (ha : 10 ^ (n - 1) < a)
    (hnear : |x - a * (10 : ℚ) ^ e| < 10 ^ e) : x = a * (10 : ℚ) ^ e := by
  obtain ⟨hlow, hhigh⟩ := abs_lt.mp hnear
  have hpred : ((a - 1 : ℕ) : ℚ) = a - 1 := by
    rw [Nat.cast_sub (Nat.one_le_of_lt ha), Nat.cast_one]
  have habove := hx.le_or_ge ha.le e
  have hbelow := hx.le_or_ge (a := a - 1) (by omega) e
  rw [hpred] at hbelow
  -- It lies strictly between the two neighbours of `a`.
  apply le_antisymm
  · apply habove.resolve_right
    linarith
  · have hge := hbelow.resolve_left (by linarith)
    linarith

theorem HasDigits.eq_of_near (hx : HasDigits n x) (hc : 10 ^ (n - 1) < c.natAbs)
    (hnear : |x - c * (10 : ℚ) ^ e| < 10 ^ e) : x = c * (10 : ℚ) ^ e := by
  obtain ⟨a, rfl | rfl⟩ := Int.eq_nat_or_neg c
  · rw [Int.natAbs_natCast] at hc
    rw [Int.cast_natCast] at hnear ⊢
    exact hx.eq_of_near_natCast hc hnear
  · rw [Int.natAbs_neg, Int.natAbs_natCast] at hc
    have hnear' : |-x - a * (10 : ℚ) ^ e| < 10 ^ e := by
      rw [← abs_neg]
      convert hnear using 2
      push_cast
      ring
    have heq := hx.neg.eq_of_near_natCast hc hnear'
    push_cast
    linarith

/-- A number that has the digits is rounded to itself. -/
theorem IsRounding.eq_of_hasDigits (hr : IsRounding n q r) (hq : HasDigits n q) : r = q := by
  have hnearest := hr.nearest q hq
  rw [sub_self, abs_zero] at hnearest
  exact (sub_eq_zero.mp (abs_nonpos_iff.mp hnearest)).symm

theorem hasDigits_of_natAbs_le (hn : 1 ≤ n) (hc : c.natAbs ≤ 10 ^ n) (e : ℤ) :
    HasDigits n (c * (10 : ℚ) ^ e) := by
  obtain ⟨a, rfl | rfl⟩ := Int.eq_nat_or_neg c
  · rw [Int.natAbs_natCast] at hc
    rw [Int.cast_natCast]
    exact hasDigits_of_le hn hc e
  · rw [Int.natAbs_neg, Int.natAbs_natCast] at hc
    rw [Int.cast_neg, Int.cast_natCast, neg_mul]
    exact (hasDigits_of_le hn hc e).neg

/-- Among the numbers with `n` digits there is one that is half a unit away at most. -/
theorem exists_hasDigits_near (hn : 1 ≤ n) (hq : |q| ≤ 10 ^ n * 10 ^ e) :
    ∃ x, HasDigits n x ∧ 2 * |q - x| ≤ 10 ^ e := by
  have hpos : (0 : ℚ) < 10 ^ e := by positivity
  obtain ⟨w, rfl⟩ : ∃ w, q = w * 10 ^ e := ⟨q / 10 ^ e, (div_mul_cancel₀ q hpos.ne').symm⟩
  rw [abs_mul, abs_of_pos hpos] at hq
  have hw : |w| ≤ 10 ^ n := le_of_mul_le_mul_right hq hpos
  have hround := abs_sub_round w
  refine ⟨round w * (10 : ℚ) ^ e, hasDigits_of_natAbs_le hn ?_ e, ?_⟩
  · -- The nearest integer is half a unit beyond the number at most, so it is not beyond the bound.
    have hlt : |(round w : ℚ)| < 10 ^ n + 1 := by
      have htriangle := abs_sub_abs_le_abs_sub (round w : ℚ) w
      rw [abs_sub_comm] at htriangle
      linarith
    have hint : |round w| < 10 ^ n + 1 := by exact_mod_cast hlt
    rw [Int.abs_eq_natAbs] at hint
    exact_mod_cast Int.lt_add_one_iff.mp hint
  · rw [← sub_mul, abs_mul, abs_of_pos hpos]
    have hmul := mul_le_mul_of_nonneg_right hround hpos.le
    linarith

/-- A rounding is off by half a unit of the last digit at most. -/
theorem IsRounding.two_mul_abs_sub_le (hr : IsRounding n q r) (hn : 1 ≤ n)
    (hq : |q| ≤ 10 ^ n * 10 ^ e) : 2 * |q - r| ≤ 10 ^ e := by
  obtain ⟨x, hx, hnear⟩ := exists_hasDigits_near hn hq
  have hnearest := hr.nearest x hx
  linarith

/-- Between a number and one that is larger, or smaller if both are negative, lies a power of ten with
    either sign, if it lies between their absolute values. -/
theorem exists_hasDigits_between {h : ℚ} (hn : 1 ≤ n) (hq : |q| < 10 ^ e) (hh : 10 ^ e ≤ |h|) :
    ∃ x, HasDigits n x ∧ |h - x| ≤ |q - h| := by
  have hone : HasDigits n ((1 : ℤ) * (10 : ℚ) ^ e) :=
    hasDigits_of_natAbs_le hn (Nat.one_le_pow _ _ (by norm_num)) e
  rw [Int.cast_one, one_mul] at hone
  obtain ⟨hlow, hhigh⟩ := abs_lt.mp hq
  rcases le_abs'.mp hh with hneg | hpos
  · refine ⟨-10 ^ e, hone.neg, ?_⟩
    rw [abs_of_nonpos (by linarith), abs_of_nonneg (by linarith)]
    linarith
  · refine ⟨10 ^ e, hone, ?_⟩
    rw [abs_of_nonneg (by linarith), abs_of_nonpos (by linarith)]
    linarith

/-- A number that is nearer to another than zero is has its sign. -/
theorem sign_eq_of_abs_sub_lt (h : |r - q| < |q|) : SignType.sign r = SignType.sign q := by
  obtain ⟨hlow, hhigh⟩ := abs_lt.mp h
  rcases lt_trichotomy q 0 with hneg | hzero | hpos
  · rw [abs_of_neg hneg] at hhigh
    rw [sign_neg hneg, sign_neg (by linarith)]
  · rw [hzero, abs_zero] at h
    exact absurd h (abs_nonneg _).not_gt
  · rw [abs_of_pos hpos] at hlow
    rw [sign_pos hpos, sign_pos (by linarith)]

namespace Decimal

variable {y z : Decimal}

/-! ### The quotient of the long division -/

theorem abs_toRat (z : Decimal) : |z.toRat| = z.coeff.natAbs * (10 : ℚ) ^ (-z.scale) := by
  have hpos : (0 : ℚ) < 10 ^ (-z.scale) := by positivity
  rw [toRat, abs_mul, abs_of_pos hpos, ← Int.cast_abs, Int.abs_eq_natAbs, Int.cast_natCast]

/-- What stands for a number with fewer digits is this number. -/
theorem StandsFor.toRat_eq (h : StandsFor m z q) (hn : 1 ≤ n) (hm : n < m) (hq : HasDigits n q) :
    z.toRat = q := by
  rcases h with hexact | ⟨hlong, hnear⟩
  · exact hexact
  · have hpos : (0 : ℚ) < 10 ^ (-z.scale) := by positivity
    have hsize : 10 ^ (n - 1) < z.coeff.natAbs :=
      lt_of_lt_of_le (Nat.pow_lt_pow_right (by norm_num) (by omega))
        ((lt_digitCount_iff hn).mp (by omega))
    have hclose : |q - z.coeff * (10 : ℚ) ^ (-z.scale)| < 10 ^ (-z.scale) := by
      rw [toRat] at hnear
      linarith [abs_nonneg (q - z.coeff * (10 : ℚ) ^ (-z.scale))]
    exact (hq.eq_of_near hsize hclose).symm

/-- If it is not exact, it is the nearer the more digits it has. -/
theorem two_mul_abs_sub_le_of_lt {f : ℤ} (hm : 1 < m) (hlong : m ≤ digitCount z.coeff.natAbs)
    (hnear : 2 * |q - z.toRat| ≤ (10 : ℚ) ^ (-z.scale)) (hlt : |z.toRat| < 10 ^ f) :
    2 * |q - z.toRat| ≤ 10 ^ (f - m) := by
  have hsize : (10 : ℚ) ^ (m - 1) ≤ z.coeff.natAbs := by
    exact_mod_cast (lt_digitCount_iff (k := m - 1) (by omega)).mp (by omega)
  have hpow : (10 : ℚ) ^ (-z.scale + (m - 1 : ℕ)) < 10 ^ f := by
    rw [zpow_add_natCast (by norm_num)]
    refine lt_of_le_of_lt ?_ hlt
    rw [abs_toRat]
    exact mul_le_mul_of_nonneg_right hsize (by positivity)
  have hexp := (zpow_lt_zpow_iff_right₀ (by norm_num)).mp hpow
  exact hnear.trans (zpow_le_zpow_right₀ (by norm_num) (by omega))

/-- It may be larger than a power of ten that bounds the number, but not by much. -/
theorem abs_toRat_lt {f : ℤ} (hlong : 1 < digitCount z.coeff.natAbs)
    (hnear : 2 * |q - z.toRat| ≤ (10 : ℚ) ^ (-z.scale)) (hq : |q| < 10 ^ f) :
    |z.toRat| < 10 ^ (f + 1) := by
  have hpos : (0 : ℚ) < 10 ^ f := by positivity
  have hsize : (1 : ℚ) ≤ z.coeff.natAbs := by
    have hten := (lt_digitCount_iff one_pos).mp hlong
    exact_mod_cast le_trans (by norm_num) hten
  have hunit : (10 : ℚ) ^ (-z.scale) ≤ |z.toRat| := by
    rw [abs_toRat]
    exact le_mul_of_one_le_left (by positivity) hsize
  have htriangle := abs_sub_abs_le_abs_sub z.toRat q
  rw [abs_sub_comm] at htriangle
  rw [zpow_add_one₀ (by norm_num)]
  linarith

/-- If what stands for a number below `10 ^ f` is rounded to fewer digits, the result is off by hardly
    more than half a unit of its last digit. -/
theorem StandsFor.near_of_isRounding {f : ℤ} (hz : StandsFor m z q) (hr : IsRounding n z.toRat r)
    (hn : 1 ≤ n) (hm : n + 2 ≤ m) (hq : |q| < 10 ^ f) :
    |r - q| ≤ (1 / 2 + (10 : ℚ) ^ ((n : ℤ) - m)) * 10 ^ (f - n) := by
  have hdigits : (10 : ℚ) ^ f = 10 ^ n * 10 ^ (f - n) := by
    rw [← zpow_add_natCast (by norm_num)]
    congr 1
    omega
  have hrest : (10 : ℚ) ^ ((n : ℤ) - m) * 10 ^ (f - n) = 10 ^ (f - m) := by
    rw [← zpow_add₀ (by norm_num)]
    congr 1
    omega
  have hpos : (0 : ℚ) < 10 ^ (f - m) := by positivity
  rw [add_mul, hrest, abs_sub_comm]
  rcases hz with hexact | ⟨hlong, hnear⟩
  · rw [hexact] at hr
    have hround := hr.two_mul_abs_sub_le hn (hq.le.trans_eq hdigits)
    linarith
  · have htriangle := abs_sub_le q z.toRat r
    by_cases hlt : |z.toRat| < 10 ^ f
    · have hround := hr.two_mul_abs_sub_le hn (hlt.le.trans_eq hdigits)
      have hfine := two_mul_abs_sub_le_of_lt (by omega) hlong hnear hlt
      linarith
    · -- The power of ten in between is no nearer to the long quotient than the rounded one is.
      obtain ⟨x, hx, hbetween⟩ := exists_hasDigits_between hn hq (not_lt.mp hlt)
      have hround := (hr.nearest x hx).trans hbetween
      have hfine := two_mul_abs_sub_le_of_lt (by omega) hlong hnear
        (abs_toRat_lt (by omega) hnear hq)
      have hunit : (10 : ℚ) ^ 2 * 10 ^ (f - m) ≤ 10 ^ (f - n) := by
        rw [← zpow_add_natCast (by norm_num)]
        exact zpow_le_zpow_right₀ (by norm_num) (by omega)
      have hten : (10 : ℚ) ^ (f + 1 - m) = 10 * 10 ^ (f - m) := by
        rw [add_sub_right_comm, zpow_add_one₀ (by norm_num), mul_comm]
      linarith

/-! ### Quotients -/

/-- A quotient is a rounding of the one that the long division finds. -/
theorem isRounding_div_quotient (x y : Decimal) :
    IsRounding divisionPrecision (x.quotient y).toRat (x / y).toRat := by
  show IsRounding _ _ ((x.quotient y).roundToDigits divisionPrecision).toRat
  rw [isRounding_roundToDigits_iff (by decide) (.inl rfl)]
  exact not_misleads_self _ _

theorem toRat_ne_zero (hy : y.coeff ≠ 0) : y.toRat ≠ 0 :=
  mul_ne_zero (Int.cast_ne_zero.mpr hy) (zpow_pos (by norm_num) _).ne'

/-- **Accuracy.** A quotient is exact if the exact one has `divisionPrecision` digits, and only then. In
    any case it is off by no more than half a unit of its last digit and a small fraction of one, and
    has the sign of the exact one. -/
theorem div_exact_or_near (x : Decimal) (hy : y.coeff ≠ 0) :
    ((x / y).toRat * y.toRat = x.toRat ↔ HasDigits 28 (x.toRat / y.toRat)) ∧
      ∀ e : ℤ, (10 : ℚ) ^ e ≤ |x.toRat / y.toRat| → |x.toRat / y.toRat| < 10 ^ (e + 1) →
        |(x / y).toRat - x.toRat / y.toRat| ≤
            (1 / 2 + (10 : ℚ) ^ (-72 : ℤ)) * 10 ^ (e - 27) ∧
          SignType.sign (x / y).toRat = SignType.sign (x.toRat / y.toRat) := by
  have hround : IsRounding 28 (x.quotient y).toRat (x / y).toRat := isRounding_div_quotient x y
  have hlong : StandsFor 100 (x.quotient y) (x.toRat / y.toRat) := standsFor_quotient x hy
  constructor
  · rw [← eq_div_iff (toRat_ne_zero hy)]
    constructor
    · intro heq
      rw [← heq]
      exact hround.digits
    · intro hdigits
      rw [hlong.toRat_eq (by norm_num) (by norm_num) hdigits] at hround
      exact hround.eq_of_hasDigits hdigits
  · intro e hlow hhigh
    have hnear := hlong.near_of_isRounding hround (by norm_num) (by norm_num) hhigh
    have hexp : e + 1 - (28 : ℕ) = e - 27 := by
      push_cast
      ring
    have hrest : ((28 : ℕ) : ℤ) - (100 : ℕ) = -72 := by norm_num
    rw [hexp, hrest] at hnear
    refine ⟨hnear, sign_eq_of_abs_sub_lt (lt_of_le_of_lt hnear (lt_of_lt_of_le ?_ hlow))⟩
    have hfactor : 1 / 2 + (10 : ℚ) ^ (-72 : ℤ) ≤ 1 := by norm_num
    calc (1 / 2 + (10 : ℚ) ^ (-72 : ℤ)) * 10 ^ (e - 27) ≤ 1 * 10 ^ (e - 27) :=
          mul_le_mul_of_nonneg_right hfactor (by positivity)
      _ = 10 ^ (e - 27) := one_mul _
      _ < 10 ^ e := zpow_lt_zpow_right₀ (by norm_num) (by omega)

/-- Two thirds, taken negative, have no last digit, so their quotient is only near to them. -/
theorem div_exact_or_near_twoThirds :
    (⟨3, 0⟩ : Decimal).coeff ≠ 0 ∧
      (10 : ℚ) ^ (-1 : ℤ) ≤ |(⟨-20, 1⟩ : Decimal).toRat / (⟨3, 0⟩ : Decimal).toRat| ∧
      |(⟨-20, 1⟩ : Decimal).toRat / (⟨3, 0⟩ : Decimal).toRat| < 10 ^ (-1 + 1 : ℤ) ∧
      (⟨-20, 1⟩ : Decimal) / ⟨3, 0⟩ = ⟨-6666666666666666666666666667, 28⟩ ∧
      ¬ HasDigits 28 ((⟨-20, 1⟩ : Decimal).toRat / (⟨3, 0⟩ : Decimal).toRat) ∧
      |(⟨-6666666666666666666666666667, 28⟩ : Decimal).toRat -
          (⟨-20, 1⟩ : Decimal).toRat / (⟨3, 0⟩ : Decimal).toRat| ≤
        (1 / 2 + (10 : ℚ) ^ (-72 : ℤ)) * 10 ^ (-1 - 27 : ℤ) ∧
      SignType.sign (⟨-6666666666666666666666666667, 28⟩ : Decimal).toRat =
        SignType.sign ((⟨-20, 1⟩ : Decimal).toRat / (⟨3, 0⟩ : Decimal).toRat) := by
  have hy : (⟨3, 0⟩ : Decimal).coeff ≠ 0 := by decide
  have hlow : (10 : ℚ) ^ (-1 : ℤ) ≤ |(⟨-20, 1⟩ : Decimal).toRat / (⟨3, 0⟩ : Decimal).toRat| := by
    norm_num [toRat, abs_div]
  have hhigh : |(⟨-20, 1⟩ : Decimal).toRat / (⟨3, 0⟩ : Decimal).toRat| < 10 ^ (-1 + 1 : ℤ) := by
    norm_num [toRat, abs_div]
  have hdiv : (⟨-20, 1⟩ : Decimal) / ⟨3, 0⟩ = ⟨-6666666666666666666666666667, 28⟩ := by
    decide +kernel
  obtain ⟨hexact, hnear⟩ := div_exact_or_near ⟨-20, 1⟩ hy
  obtain ⟨hbound, hsign⟩ := hnear (-1) hlow hhigh
  rw [hdiv] at hexact hbound hsign
  refine ⟨hy, hlow, hhigh, hdiv, ?_, hbound, hsign⟩
  rw [← hexact]
  norm_num [toRat]

/-- Thirty nines are too many. The rounding carries, and the coefficient gets a digit more than the
    precision. -/
example : (⟨10 ^ 30 - 1, 0⟩ : Decimal) / ⟨1, 0⟩ = ⟨10 ^ 28, -2⟩ := by decide +kernel

end Decimal

end Abacus
