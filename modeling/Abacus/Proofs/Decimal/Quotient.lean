import Abacus.Decimal.Arithmetic
import Abacus.Proofs.Decimal.Rational
import Abacus.Proofs.Decimal.Significant
import Mathlib.Tactic.NormNum

/-! # How quotients are rounded

  A quotient is rounded twice: long division stops after `longestQuotient` digits and looks at the next
  one, and the result is then rounded to `divisionPrecision` digits.

  Long division keeps the dividend (`LongDivision.Divides`), so the long quotient is exact or off by
  half a unit of its last digit at most (`standsFor_quotient`). The second rounding is then right unless
  the first one has moved the quotient onto the middle of two decimals from the side of the one whose
  last digit is odd (`isRounding_div_iff`).
-/

namespace Abacus.Decimal

variable {x y z : Decimal} {n d m k p : ℕ} {q : ℚ}

/-! ### Digits -/

theorem lt_digitCount_iff (hk : 0 < k) : k < digitCount n ↔ 10 ^ k ≤ n := by
  have hle : digitCount n ≤ k ↔ n < 10 ^ k :=
    Nat.length_toDigits_le_iff (show 1 < 10 by decide) hk
  omega

/-- A number begins where its number of digits says. -/
theorem pow_digitCount_le (hn : 0 < n) : 10 ^ (digitCount n - 1) ≤ n := by
  by_cases hone : digitCount n - 1 = 0
  · rw [hone, pow_zero]
    exact hn
  · exact (lt_digitCount_iff (by omega)).mp (by omega)

theorem lt_pow_digitCount (n : ℕ) : n < 10 ^ digitCount n :=
  (Nat.length_toDigits_le_iff (show 1 < 10 by decide) Nat.length_toDigits_pos).mp le_rfl

/-! ### Long division -/

namespace LongDivision

variable {s : LongDivision}

/-- The digits found and the remainder make up the dividend, as far as it is brought down. -/
structure Divides (m d : ℕ) (s : LongDivision) : Prop where
  dividend : d * s.quotient + s.remainder = m * 10 ^ s.places
  remainder_lt : s.remainder < d

theorem divides_start (m : ℕ) (hd : 0 < d) : Divides m d (start m d) where
  dividend := by
    rw [start, pow_zero, mul_one]
    exact Nat.div_add_mod m d
  remainder_lt := Nat.mod_lt m hd

theorem Divides.bringDown (h : Divides m d s) (hd : 0 < d) : Divides m d (s.bringDown d) where
  dividend := by
    rw [bringDown_eq, h.dividend]
    show 10 * (m * 10 ^ s.places) = m * 10 ^ (s.places + 1)
    ring
  remainder_lt := Nat.mod_lt _ hd

theorem Divides.extend (hd : 0 < d) (room : ℕ) (h : Divides m d s) :
    Divides m d (s.extend d room) := by
  induction room generalizing s with
  | zero => exact h
  | succ room ih =>
    rw [LongDivision.extend]
    by_cases hzero : s.remainder = 0
    · rw [if_pos hzero]
      exact h
    · rw [if_neg hzero]
      exact ih (h.bringDown hd)

/-- A division stops when nothing remains, or else it has found a digit for each place. -/
theorem remainder_extend_or (d room : ℕ) (s : LongDivision) :
    (s.extend d room).remainder = 0 ∨ 10 ^ room * s.quotient ≤ (s.extend d room).quotient := by
  induction room generalizing s with
  | zero =>
    right
    rw [pow_zero, one_mul]
    rfl
  | succ room ih =>
    rw [LongDivision.extend]
    by_cases hzero : s.remainder = 0
    · rw [if_pos hzero]
      exact .inl hzero
    · rw [if_neg hzero]
      apply (ih (s.bringDown d)).imp_right
      intro hle
      have hstep : 10 * s.quotient ≤ (s.bringDown d).quotient := Nat.le_add_right _ _
      calc 10 ^ (room + 1) * s.quotient = 10 ^ room * (10 * s.quotient) := by ring
        _ ≤ 10 ^ room * (s.bringDown d).quotient := Nat.mul_le_mul_left _ hstep
        _ ≤ _ := hle

theorem le_rounded (d : ℕ) (s : LongDivision) : s.quotient ≤ s.rounded d := by
  unfold rounded
  split <;> omega

/-- The next digit is at least five exactly if the remainder is half the divisor or more. -/
theorem five_le_iff (hd : 0 < d) : 5 ≤ 10 * s.remainder / d ↔ d ≤ 2 * s.remainder := by
  rw [Nat.le_div_iff_mul_le hd]
  omega

theorem Divides.rounded_eq (h : Divides m d s) (hd : 0 < d) (hzero : s.remainder = 0) :
    d * s.rounded d = m * 10 ^ s.places := by
  have hnot : ¬ 5 ≤ 10 * s.remainder / d := by
    rw [five_le_iff hd]
    omega
  rw [rounded, if_neg hnot, ← h.dividend, hzero, Nat.add_zero]

/-- The rounded quotient is off by half a unit at most. -/
theorem Divides.rounded_near (h : Divides m d s) (hd : 0 < d) :
    2 * (m * 10 ^ s.places) ≤ 2 * (d * s.rounded d) + d ∧
      2 * (d * s.rounded d) ≤ 2 * (m * 10 ^ s.places) + d := by
  have hlt := h.remainder_lt
  rw [← h.dividend, rounded]
  by_cases hfive : 5 ≤ 10 * s.remainder / d
  · rw [if_pos hfive, Nat.mul_add d, Nat.mul_one]
    have hhalf := (five_le_iff hd).mp hfive
    omega
  · rw [if_neg hfive]
    have hhalf := mt (five_le_iff hd).mpr hfive
    omega

end LongDivision

open LongDivision in
/-- The quotient of two magnitudes is exact, or it has all its digits and is off by half a unit at
    most. -/
theorem quotientOfMagnitudes_near (hn : 0 < n) (hd : 0 < d)
    (heq : quotientOfMagnitudes n d = (k, p)) :
    d * k = n * 10 ^ p ∨
      longestQuotient ≤ digitCount k ∧ 2 * (n * 10 ^ p) ≤ 2 * (d * k) + d ∧
        2 * (d * k) ≤ 2 * (n * 10 ^ p) + d := by
  unfold quotientOfMagnitudes at heq
  have halign : (align n d).1 = n * 10 ^ (align n d).2 := align_fst n d
  have hle := le_align_fst (d := d) hn
  generalize align n d = aligned at heq halign hle
  obtain ⟨m, zeros⟩ := aligned
  dsimp only at heq halign hle
  have hpos : 0 < m / d := Nat.div_pos hle hd
  generalize hroom : longestQuotient - digitCount (m / d) = room at heq
  have hdiv := (divides_start m hd).extend hd room
  have hprogress := remainder_extend_or d room (start m d)
  generalize (start m d).extend d room = s at heq hdiv hprogress
  obtain ⟨rfl, rfl⟩ := Prod.mk.inj heq
  have hscale : n * 10 ^ (zeros + s.places) = m * 10 ^ s.places := by
    rw [halign, pow_add, mul_assoc]
  rw [hscale]
  apply hprogress.imp
  · exact hdiv.rounded_eq hd
  · intro hlong
    refine ⟨?_, hdiv.rounded_near hd⟩
    -- The digits of the integer part and those brought down make up the whole length.
    apply Nat.le_of_pred_lt
    rw [Nat.pred_eq_sub_one, lt_digitCount_iff (by decide)]
    calc 10 ^ (longestQuotient - 1) ≤ 10 ^ (room + (digitCount (m / d) - 1)) :=
          Nat.pow_le_pow_right (by norm_num) (by omega)
      _ = 10 ^ room * 10 ^ (digitCount (m / d) - 1) := pow_add _ _ _
      _ ≤ 10 ^ room * (m / d) := Nat.mul_le_mul_left _ (pow_digitCount_le hpos)
      _ ≤ s.quotient := hlong
      _ ≤ s.rounded d := le_rounded d s

/-! ### The long quotient as a rational number -/

/-- A decimal stands for a rational number: it is exact, or it has `n` digits and is off by half a unit
    of the last one at most. -/
def StandsFor (n : ℕ) (z : Decimal) (q : ℚ) : Prop :=
  z.toRat = q ∨ n ≤ digitCount z.coeff.natAbs ∧ 2 * |q - z.toRat| ≤ (10 : ℚ) ^ (-z.scale)

theorem sign_mul_natAbs_cast (c : ℤ) : (c : ℚ) = c.sign * c.natAbs := by
  rw [← Int.cast_natCast, ← Int.cast_mul, Int.sign_mul_natAbs]

theorem toRat_div (x y : Decimal) :
    x.toRat / y.toRat = x.coeff / y.coeff * (10 : ℚ) ^ (-(x.scale - y.scale)) := by
  have hscale : -(x.scale - y.scale) = -x.scale - -y.scale := by omega
  rw [toRat, toRat, hscale, zpow_sub₀ (by norm_num), mul_div_mul_comm]

theorem sign_mul_sign {c : ℤ} (hc : c ≠ 0) : (c.sign : ℚ) * c.sign = 1 := by
  have hsign : c.sign * c.sign = 1 := by
    rw [← Int.sign_mul, Int.sign_eq_one_of_pos (mul_self_pos.mpr hc)]
  exact_mod_cast hsign

/-- The sign of the quotient is the product of the signs. -/
theorem coeff_div_coeff (x : Decimal) (hy : y.coeff ≠ 0) :
    (x.coeff / y.coeff : ℚ) =
      x.coeff.sign * y.coeff.sign * (x.coeff.natAbs / y.coeff.natAbs) := by
  rw [sign_mul_natAbs_cast x.coeff, sign_mul_natAbs_cast y.coeff, mul_div_mul_comm,
    div_eq_mul_inv (x.coeff.sign : ℚ), inv_eq_of_mul_eq_one_right (sign_mul_sign hy)]

/-- A long quotient stands for the exact one if the quotient of the magnitudes does. -/
theorem standsFor_of_near {σ : ℚ} {s : ℤ} (hd : 0 < d) (hσ : σ * σ = 1) (hz : z.coeff.natAbs = k)
    (hq : q = σ * (n / d) * (10 : ℚ) ^ (-s)) (hval : z.toRat = σ * k * (10 : ℚ) ^ (-z.scale))
    (hs : z.scale = s + p)
    (hnear : d * k = n * 10 ^ p ∨ m ≤ digitCount k ∧ 2 * (n * 10 ^ p) ≤ 2 * (d * k) + d ∧
      2 * (d * k) ≤ 2 * (n * 10 ^ p) + d) : StandsFor m z q := by
  have hd' : (0 : ℚ) < d := by exact_mod_cast hd
  have hunit : (10 : ℚ) ^ (-s) = 10 ^ p * 10 ^ (-z.scale) := by
    rw [hs, ← zpow_add_natCast (by norm_num)]
    congr 1
    omega
  have hq' : q = σ * (n * 10 ^ p / d) * (10 : ℚ) ^ (-z.scale) := by
    rw [hq, hunit]
    ring
  apply hnear.imp
  · intro hexact
    have hexact' : (d * k : ℚ) = n * 10 ^ p := by exact_mod_cast hexact
    rw [hval, hq', ← hexact', mul_div_cancel_left₀ _ hd'.ne']
  · rintro ⟨hlong, hupper, hlower⟩
    refine ⟨hz.symm ▸ hlong, ?_⟩
    have hupper' : (2 * (n * 10 ^ p) : ℚ) ≤ 2 * (d * k) + d := by exact_mod_cast hupper
    have hlower' : (2 * (d * k) : ℚ) ≤ 2 * (n * 10 ^ p) + d := by exact_mod_cast hlower
    have hhalf : |(n * 10 ^ p / d - k : ℚ)| ≤ 1 / 2 := by
      rw [abs_le]
      constructor
      · rw [neg_le_sub_iff_le_add, ← sub_le_iff_le_add, le_div_iff₀ hd']
        linarith
      · rw [sub_le_iff_le_add, div_le_iff₀ hd']
        linarith
    have hdiff : q - z.toRat = σ * ((n * 10 ^ p / d - k) * (10 : ℚ) ^ (-z.scale)) := by
      rw [hq', hval]
      ring
    have habs : |σ| = 1 := by
      rw [abs_eq (by norm_num)]
      exact mul_self_eq_one_iff.mp hσ
    have hpos : (0 : ℚ) < 10 ^ (-z.scale) := by positivity
    rw [hdiff, abs_mul, habs, one_mul, abs_mul, abs_of_pos hpos]
    have hmul := mul_le_mul_of_nonneg_right hhalf hpos.le
    linarith

/-- The long quotient stands for the exact one. -/
theorem standsFor_quotient (x : Decimal) (hy : y.coeff ≠ 0) :
    StandsFor longestQuotient (x.quotient y) (x.toRat / y.toRat) := by
  unfold quotient
  split
  next h =>
    left
    rcases Bool.or_eq_true_iff.mp h with hx | hone
    · rw [toRat_eq_zero_of_coeff (of_decide_eq_true hx), zero_div]
    · rw [toRat_of_isOne hone, div_one]
  next h =>
    split
    next heq =>
      left
      have hne : (y.coeff : ℚ) ≠ 0 := Int.cast_ne_zero.mpr hy
      rw [toRat_div, heq, div_self hne, toRat, Int.cast_one]
    next =>
      have hx : x.coeff ≠ 0 := fun hzero => h (by simp [hzero])
      split
      next k p hkp =>
        have hnear := quotientOfMagnitudes_near (Int.natAbs_pos.mpr hx) (Int.natAbs_pos.mpr hy) hkp
        have hsign : (x.coeff.sign * y.coeff.sign : ℚ) * (x.coeff.sign * y.coeff.sign) = 1 := by
          rw [mul_mul_mul_comm, sign_mul_sign hx, sign_mul_sign hy, one_mul]
        refine standsFor_of_near (Int.natAbs_pos.mpr hy) hsign ?_ ?_ ?_ rfl hnear
        · rw [Int.natAbs_mul, Int.natAbs_mul, Int.natAbs_sign_of_ne_zero hx,
            Int.natAbs_sign_of_ne_zero hy, Int.natAbs_natCast, one_mul, one_mul]
        · rw [toRat_div, coeff_div_coeff x hy]
        · rw [toRat]
          push_cast
          rfl

/-! ### The second rounding -/

/-- A magnitude with more digits than wanted is rounded as what it stands for, unless it misleads. -/
theorem isRounding_magnitude_iff {N : ℕ} {s : ℤ} (hn : 2 ≤ n) (hlong : n < digitCount N)
    (hnear : q = N * (10 : ℚ) ^ (-s) ∨
      n + 2 ≤ digitCount N ∧ 2 * |q - N * (10 : ℚ) ^ (-s)| ≤ (10 : ℚ) ^ (-s)) :
    IsRounding n q (roundHalfEven N (10 ^ (digitCount N - n)) *
      (10 : ℚ) ^ (-(s - (digitCount N - n : ℕ)))) ↔ ¬ Misleads n (N * (10 : ℚ) ^ (-s)) q := by
  obtain ⟨j, hj⟩ : ∃ j, digitCount N = n + j := ⟨digitCount N - n, by omega⟩
  have hdrop : digitCount N - n = j := by omega
  have hpos : (0 : ℚ) < 10 ^ (-s) := by positivity
  have hN : 0 < N := by
    by_contra hzero
    obtain rfl : N = 0 := by omega
    have hone : digitCount 0 = 1 := rfl
    omega
  rw [hdrop]
  have hunit : (10 : ℚ) ^ (-(s - (j : ℕ))) = 10 ^ j * 10 ^ (-s) := by
    rw [← zpow_add_natCast (by norm_num)]
    congr 1
    omega
  apply isRounding_roundHalfEven_iff hn (by positivity)
  · exact Nat.even_pow.mpr ⟨by decide, by omega⟩
  · rw [Nat.le_div_iff_mul_le (by positivity), ← pow_add]
    have hfirst := pow_digitCount_le hN
    rwa [hj, Nat.sub_add_comm (by omega)] at hfirst
  · rw [Nat.div_lt_iff_lt_mul (by positivity), ← pow_add, ← hj]
    exact lt_pow_digitCount N
  · rw [hunit]
    push_cast
    ring
  · rw [hunit]
    push_cast
    rcases hnear with hexact | ⟨-, hclose⟩
    · rw [hexact, sub_self, abs_zero, mul_zero, mul_zero]
      positivity
    · have hmul := mul_le_mul_of_nonneg_left hclose (pow_nonneg (show (0 : ℚ) ≤ 10 by norm_num) j)
      linarith
  · rw [hunit]
    rcases hnear with hexact | ⟨hmore, hclose⟩
    · rw [hexact, sub_self, abs_zero, mul_zero]
      positivity
    · have hlarge : (10 : ℚ) ^ 2 ≤ 10 ^ j := pow_le_pow_right₀ (by norm_num) (by omega)
      have hmul := mul_le_mul_of_nonneg_right hlarge hpos.le
      linarith

theorem misleads_neg_iff {h : ℚ} : Misleads n (-h) (-q) ↔ Misleads n h q := by
  simp only [Misleads, abs_neg]

/-- A decimal with more digits than wanted is rounded as what it stands for, unless it misleads. -/
theorem isRounding_dropDigits_iff (hn : 2 ≤ n) (hlong : n < digitCount z.coeff.natAbs)
    (h : StandsFor (n + 2) z q) :
    IsRounding n q (z.dropDigits (digitCount z.coeff.natAbs - n)).toRat ↔
      ¬ Misleads n z.toRat q := by
  obtain ⟨c, s⟩ := z
  simp only [StandsFor, dropDigits, toRat, Nat.pow_eq] at h hlong ⊢
  rcases lt_trichotomy c 0 with hneg | hzero | hpos
  · obtain ⟨N, rfl⟩ : ∃ N : ℕ, c = -N := ⟨(-c).toNat, by omega⟩
    have hsign : (-(N : ℤ)).sign = -1 := Int.sign_eq_neg_one_of_neg hneg
    rw [Int.natAbs_neg, Int.natAbs_natCast] at h hlong ⊢
    rw [hsign, ← isRounding_neg_iff, ← misleads_neg_iff]
    push_cast at h ⊢
    simp only [neg_mul, one_mul, neg_neg] at h ⊢
    apply isRounding_magnitude_iff hn hlong
    apply h.imp
    · intro hexact
      rw [← hexact, neg_neg]
    · rintro ⟨hmore, hclose⟩
      have hswap : |-q - N * (10 : ℚ) ^ (-s)| = |q - -(N * (10 : ℚ) ^ (-s))| := by
        rw [← abs_neg]
        congr 1
        ring
      rw [hswap]
      exact ⟨hmore, hclose⟩
  · rw [hzero] at hlong
    have hone : digitCount (0 : ℤ).natAbs = 1 := rfl
    omega
  · obtain ⟨N, rfl⟩ : ∃ N : ℕ, c = N := ⟨c.toNat, by omega⟩
    rw [Int.natAbs_natCast] at h hlong ⊢
    rw [Int.sign_eq_one_of_pos hpos]
    push_cast at h ⊢
    rw [one_mul]
    exact isRounding_magnitude_iff hn hlong (h.imp_left Eq.symm)

theorem hasDigits_toRat (hshort : digitCount z.coeff.natAbs ≤ n) : HasDigits n z.toRat := by
  refine ⟨z.coeff, -z.scale, ?_, rfl⟩
  have hlt := (lt_pow_digitCount z.coeff.natAbs).trans_le (Nat.pow_le_pow_right (by norm_num) hshort)
  rw [Int.abs_eq_natAbs]
  exact_mod_cast hlt

theorem isRounding_roundToDigits_iff (hn : 2 ≤ n) (h : StandsFor (n + 2) z q) :
    IsRounding n q (z.roundToDigits n).toRat ↔ ¬ Misleads n z.toRat q := by
  unfold roundToDigits
  by_cases hlong : n < digitCount z.coeff.natAbs
  · rw [if_pos hlong]
    exact isRounding_dropDigits_iff hn hlong h
  · rw [if_neg hlong]
    obtain rfl : z.toRat = q := h.resolve_right fun hnear => hlong (by omega)
    have hdigits := hasDigits_toRat (not_lt.mp hlong)
    refine iff_of_true (IsRounding.of_lt hdigits ?_) (not_misleads_self n z.toRat)
    intro x _ hne
    rw [sub_self, abs_zero]
    exact abs_pos.mpr (sub_ne_zero.mpr (Ne.symm hne))

/-- **Quotients.** The quotient of two decimals is the exact one rounded to `divisionPrecision` digits,
    unless the long quotient misleads. -/
theorem isRounding_div_iff (x : Decimal) (hy : y.coeff ≠ 0) :
    IsRounding divisionPrecision (x.toRat / y.toRat) (x / y).toRat ↔
      ¬ Misleads divisionPrecision (x.quotient y).toRat (x.toRat / y.toRat) := by
  apply isRounding_roundToDigits_iff (by decide)
  apply (standsFor_quotient x hy).imp_right
  rintro ⟨hlong, hnear⟩
  exact ⟨le_trans (by decide) hlong, hnear⟩

/-- A quotient that is a middle itself goes to the even one of the two decimals. -/
theorem isRounding_div_middle :
    (⟨2, 0⟩ : Decimal).coeff ≠ 0 ∧
      (⟨2 * 10 ^ 28 + 10, 0⟩ : Decimal).quotient ⟨2, 0⟩ = ⟨10 ^ 28 + 5, 0⟩ ∧
      (⟨2 * 10 ^ 28 + 10, 0⟩ : Decimal) / ⟨2, 0⟩ = ⟨10 ^ 27, -1⟩ ∧
      IsRounding divisionPrecision
        ((⟨2 * 10 ^ 28 + 10, 0⟩ : Decimal).toRat / (⟨2, 0⟩ : Decimal).toRat)
        (⟨10 ^ 27, -1⟩ : Decimal).toRat := by
  have hy : (⟨2, 0⟩ : Decimal).coeff ≠ 0 := by decide
  have hquot : (⟨2 * 10 ^ 28 + 10, 0⟩ : Decimal).quotient ⟨2, 0⟩ = ⟨10 ^ 28 + 5, 0⟩ := by
    decide +kernel
  have hdiv : (⟨2 * 10 ^ 28 + 10, 0⟩ : Decimal) / ⟨2, 0⟩ = ⟨10 ^ 27, -1⟩ := by decide +kernel
  refine ⟨hy, hquot, hdiv, ?_⟩
  rw [← hdiv]
  apply (isRounding_div_iff _ hy).mpr
  -- The division comes out even, so the long quotient is the exact one.
  have hexact : (⟨10 ^ 28 + 5, 0⟩ : Decimal).toRat =
      (⟨2 * 10 ^ 28 + 10, 0⟩ : Decimal).toRat / (⟨2, 0⟩ : Decimal).toRat := by
    norm_num [toRat]
  rw [hquot, hexact]
  exact not_misleads_self _ _

/-- The quotient may be the wrong one of two neighbours: the long quotient of a third more than a middle
    is the middle, and that goes down. -/
theorem not_forall_isRounding_div :
    ¬ ∀ x y : Decimal, y.coeff ≠ 0 →
      IsRounding divisionPrecision (x.toRat / y.toRat) (x / y).toRat := by
  intro hall
  have hround := hall ⟨3 * 10 ^ 99 + 15 * 10 ^ 71 + 1, 0⟩ ⟨3, 0⟩ (by decide)
  have hdiv : (⟨3 * 10 ^ 99 + 15 * 10 ^ 71 + 1, 0⟩ : Decimal) / ⟨3, 0⟩ = ⟨10 ^ 27, -72⟩ := by
    decide +kernel
  have hupper : HasDigits divisionPrecision ((10 ^ 27 + 1 : ℕ) * (10 : ℚ) ^ (72 : ℤ)) :=
    hasDigits_of_le (by decide) (by decide) 72
  have hnearest := hround.nearest _ hupper
  rw [hdiv] at hnearest
  norm_num [toRat, abs_le] at hnearest

end Abacus.Decimal
