import Abacus.Proofs.Binary64.Bits
import Abacus.Proofs.Rounding

/-! # Rounding a quotient to the nearest double

  A quotient that lies at a double, or short of it by less than a quarter of a unit of its significand,
  is rounded to that double (`nearestBits_of_near`). Half a unit would be too much: below a power of two
  the doubles stand twice as close, and there a quotient may be rounded in the units of the binade
  below, to a significand that carries.
-/

namespace Abacus.Binary64

variable {n d m : ℕ} {e k : ℤ}

/-! ### The binade of a quotient -/

/-- The comparison of a quotient with a power of two, in integers. -/
theorem mul_pow_le_iff (hd : 0 < d) (k : ℤ) :
    d * Nat.pow 2 k.toNat ≤ n * Nat.pow 2 (-k).toNat ↔ (2 : ℚ) ^ k ≤ n / d := by
  have hd' : (0 : ℚ) < d := by exact_mod_cast hd
  have hpos : (0 : ℚ) < 2 ^ (-k).toNat := by positivity
  rw [le_div_iff₀ hd', ← mul_le_mul_iff_left₀ hpos, mul_right_comm, zpow_mul_pow_neg (by norm_num),
    mul_comm _ (d : ℚ)]
  simp only [Nat.pow_eq]
  exact_mod_cast Iff.rfl

/-- A quotient lies between the powers of two that the lengths of its terms suggest. -/
theorem log2_bounds (hn : 0 < n) (hd : 0 < d) :
    (2 : ℚ) ^ ((n.log2 : ℤ) - d.log2 - 1) ≤ n / d ∧
      (n / d : ℚ) < 2 ^ ((n.log2 : ℤ) - d.log2 + 1) := by
  have hd' : (0 : ℚ) < d := by exact_mod_cast hd
  have hn1 : (2 : ℚ) ^ n.log2 ≤ n := by exact_mod_cast Nat.log2_self_le hn.ne'
  have hn2 : (n : ℚ) < 2 ^ (n.log2 + 1) := by exact_mod_cast Nat.lt_log2_self
  have hd1 : (2 : ℚ) ^ d.log2 ≤ d := by exact_mod_cast Nat.log2_self_le hd.ne'
  have hd2 : (d : ℚ) < 2 ^ (d.log2 + 1) := by exact_mod_cast Nat.lt_log2_self
  constructor
  · rw [le_div_iff₀ hd']
    calc (2 : ℚ) ^ ((n.log2 : ℤ) - d.log2 - 1) * d
        ≤ 2 ^ ((n.log2 : ℤ) - d.log2 - 1) * 2 ^ (d.log2 + 1) :=
          mul_le_mul_of_nonneg_left hd2.le (by positivity)
      _ = 2 ^ n.log2 := by
          rw [← zpow_natCast, ← zpow_natCast, ← zpow_add₀ (by norm_num)]
          congr 1
          push_cast
          ring
      _ ≤ n := hn1
  · rw [div_lt_iff₀ hd']
    calc (n : ℚ) < 2 ^ (n.log2 + 1) := hn2
      _ = 2 ^ ((n.log2 : ℤ) - d.log2 + 1) * 2 ^ d.log2 := by
          rw [← zpow_natCast, ← zpow_natCast, ← zpow_add₀ (by norm_num)]
          congr 1
          push_cast
          ring
      _ ≤ 2 ^ ((n.log2 : ℤ) - d.log2 + 1) * d :=
          mul_le_mul_of_nonneg_left hd1 (by positivity)

theorem log2Quotient_spec (hn : 0 < n) (hd : 0 < d) :
    (2 : ℚ) ^ log2Quotient n d ≤ n / d ∧ (n / d : ℚ) < 2 ^ (log2Quotient n d + 1) := by
  obtain ⟨hlow, hhigh⟩ := log2_bounds hn hd
  have hiff := mul_pow_le_iff (n := n) hd ((n.log2 : ℤ) - d.log2)
  unfold log2Quotient
  dsimp only
  split
  next h => exact ⟨hiff.mp h, hhigh⟩
  next h =>
    refine ⟨hlow, ?_⟩
    rw [Int.sub_add_cancel]
    exact not_le.mp (mt hiff.mpr h)

theorem log2Quotient_eq (hn : 0 < n) (hd : 0 < d) (hlow : (2 : ℚ) ^ k ≤ n / d)
    (hhigh : (n / d : ℚ) < 2 ^ (k + 1)) : log2Quotient n d = k := by
  obtain ⟨hlow', hhigh'⟩ := log2Quotient_spec hn hd
  have hle := (zpow_lt_zpow_iff_right₀ (by norm_num)).mp (hlow'.trans_lt hhigh)
  have hge := (zpow_lt_zpow_iff_right₀ (by norm_num)).mp (hlow.trans_lt hhigh')
  omega

/-! ### The significand -/

/-- A quotient within half a unit of `m * 2 ^ e` is rounded to `m` in units of `2 ^ e`. -/
theorem roundHalfEven_scaled (hd : 0 < d) (hlow : (2 * m - 1) * (2 : ℚ) ^ e < 2 * (n / d))
    (hhigh : (2 * (n / d) : ℚ) < (2 * m + 1) * 2 ^ e) :
    roundHalfEven (n * Nat.pow 2 (-e).toNat) (d * Nat.pow 2 e.toNat) = m := by
  have hd' : (0 : ℚ) < d := by exact_mod_cast hd
  have hpos : (0 : ℚ) < d * 2 ^ (-e).toNat := by positivity
  -- Both sides times `d * 2 ^ (-e).toNat` are integers.
  have hquot : (n / d : ℚ) * (d * 2 ^ (-e).toNat) = n * 2 ^ (-e).toNat := by
    rw [← mul_assoc, div_mul_cancel₀ _ hd'.ne']
  have hunit : (2 : ℚ) ^ e * (d * 2 ^ (-e).toNat) = d * 2 ^ e.toNat := by
    rw [mul_left_comm, zpow_mul_pow_neg (by norm_num)]
  have hlow' := mul_lt_mul_of_pos_right hlow hpos
  have hhigh' := mul_lt_mul_of_pos_right hhigh hpos
  rw [mul_assoc, mul_assoc, hunit, hquot] at hlow' hhigh'
  apply roundHalfEven_eq_of_near
  · exact Nat.mul_pos hd (Nat.pow_pos (by decide))
  · have hcast : (2 * (d * 2 ^ e.toNat * m) : ℚ) < 2 * (n * 2 ^ (-e).toNat) + d * 2 ^ e.toNat := by
      linarith
    simp only [Nat.pow_eq]
    exact_mod_cast hcast
  · have hcast : (2 * (n * 2 ^ (-e).toNat) : ℚ) < 2 * (d * 2 ^ e.toNat * m) + d * 2 ^ e.toNat := by
      linarith
    simp only [Nat.pow_eq]
    exact_mod_cast hcast

/-- The bits of a finite double are less than those of infinity. -/
theorem IsCanonical.magnitudeBits_lt {b : Binary64} (hb : IsCanonical b) :
    b.magnitudeBits < specialField * Nat.pow 2 fractionBits := by
  have hsignificand := hb.significand_lt
  have hleast := hb.least_le
  have hexponent := hb.exponent_le
  unfold magnitudeBits
  simp only [leastExponent, specialField, fractionBits, Nat.pow_eq] at *
  omega

theorem bitsOf_eq (b : Binary64) (hb : IsCanonical b) :
    bitsOf b.significand b.exponent = b.magnitudeBits :=
  Nat.min_eq_left hb.magnitudeBits_lt.le

/-- A significand that is rounded up to `2 ^ 53` carries into the exponent. -/
theorem bitsOf_carry (h : leastExponent < e) : bitsOf (2 ^ 53) (e - 1) = bitsOf (2 ^ 52) e := by
  have hfield : (e - leastExponent).toNat = (e - 1 - leastExponent).toNat + 1 := by omega
  have hcarry : (e - 1 - leastExponent).toNat * 2 ^ 52 + 2 ^ 53 =
      ((e - 1 - leastExponent).toNat + 1) * 2 ^ 52 + 2 ^ 52 := by omega
  rw [bitsOf, bitsOf, hfield]
  exact congrArg (min · (specialField * Nat.pow 2 fractionBits)) hcarry

/-! ### The nearest double -/

section Near

variable {v : ℚ}

theorem exponentFor_eq_of_le (hn : 0 < n) (hd : 0 < d) (he : leastExponent ≤ e)
    (hlow : (2 : ℚ) ^ (e + 52) ≤ n / d) (hhigh : (n / d : ℚ) < 2 ^ (e + 53)) :
    exponentFor n d = e := by
  have hlog : log2Quotient n d = e + 52 :=
    log2Quotient_eq hn hd hlow (by rwa [show e + 52 + 1 = e + 53 by omega])
  rw [exponentFor, hlog, fractionBits]
  omega

theorem exponentFor_eq_leastExponent (hn : 0 < n) (hd : 0 < d)
    (hhigh : (n / d : ℚ) < 2 ^ (leastExponent + 53)) : exponentFor n d = leastExponent := by
  have hlog := (zpow_lt_zpow_iff_right₀ (by norm_num)).mp
    ((log2Quotient_spec hn hd).1.trans_lt hhigh)
  rw [exponentFor, fractionBits]
  omega

/-- A quotient short of a power of two, but not by much, lies in the binade below. -/
theorem bounds_below_power (hlt : (4 * (2 : ℚ) ^ 52 - 1) * 2 ^ e < 4 * v) : (2 : ℚ) ^ (e + 51) ≤ v := by
  have hpos : (0 : ℚ) < 2 ^ e := by positivity
  have hpow : (2 : ℚ) ^ (e + 51) = 2 ^ 51 * 2 ^ e := zpow_add_natCast (by norm_num) e 51
  rw [hpow]
  linarith

/-- **Nearest doubles.** A quotient at a double, or short of it by less than a quarter of a unit of its
    significand, has that double next to it. -/
theorem nearestBits_of_near {b : Binary64} (hb : IsCanonical b) (hn : 0 < n) (hd : 0 < d)
    (hv : v = n / d) (hle : v ≤ b.significand * 2 ^ b.exponent)
    (hlt : (4 * b.significand - 1) * (2 : ℚ) ^ b.exponent < 4 * v) :
    nearestBits n d = b.magnitudeBits := by
  obtain ⟨negative, m, e⟩ := b
  have hpos : (0 : ℚ) < 2 ^ e := by positivity
  have hleast := hb.least_le
  have hm : (m : ℚ) + 1 ≤ 2 ^ 53 := by exact_mod_cast hb.significand_lt
  have hnormal := hb.normal
  rw [nearestBits, if_neg hn.ne', ← bitsOf_eq _ hb]
  dsimp only at hle hlt hleast hnormal ⊢
  have htop : v < 2 ^ (e + 53) := by
    have hpow : (2 : ℚ) ^ (e + 53) = 2 ^ 53 * 2 ^ e := zpow_add_natCast (by norm_num) e 53
    have hmul := mul_le_mul_of_nonneg_right hm hpos.le
    rw [hpow]
    linarith
  by_cases hbinade : (2 : ℚ) ^ (e + 52) ≤ v ∨ e = leastExponent
  · -- The quotient is rounded in the units of the double.
    have hexponent : exponentFor n d = e := by
      rw [hv] at htop hbinade
      rcases hbinade with hlow | rfl
      · exact exponentFor_eq_of_le hn hd hleast hlow htop
      · exact exponentFor_eq_leastExponent hn hd htop
    have hround : roundHalfEven (n * Nat.pow 2 (-e).toNat) (d * Nat.pow 2 e.toNat) = m := by
      apply roundHalfEven_scaled hd
      · rw [← hv]
        linarith
      · rw [← hv]
        linarith
    rw [hexponent, hround]
  · -- The double is a power of two, and the quotient is rounded in the units below.
    obtain ⟨hbelow, hne⟩ := not_or.mp hbinade
    have hpow : (2 : ℚ) ^ (e + 52) = 2 ^ 52 * 2 ^ e := zpow_add_natCast (by norm_num) e 52
    rw [not_le] at hbelow
    obtain rfl : m = 2 ^ 52 := by
      have hfew : (m : ℚ) < 2 ^ 52 + 1 := by
        have hmul : (4 * (m : ℚ) - 1) * 2 ^ e < (4 * 2 ^ 52) * 2 ^ e := by linarith
        have hcancel := lt_of_mul_lt_mul_right hmul hpos.le
        linarith
      have hfew' : m < 2 ^ 52 + 1 := by exact_mod_cast hfew
      omega
    push_cast at hle hlt
    have hlow := bounds_below_power hlt
    have hexponent : exponentFor n d = e - 1 := by
      rw [hv] at hlow hbelow
      apply exponentFor_eq_of_le hn hd (by omega)
      · rwa [show e - 1 + 52 = e + 51 by omega]
      · rwa [show e - 1 + 53 = e + 52 by omega]
    have hhalf : (2 : ℚ) ^ e = 2 * 2 ^ (e - 1) := by
      rw [zpow_sub_one₀ (by norm_num)]
      ring
    have hround : roundHalfEven (n * Nat.pow 2 (-(e - 1)).toNat) (d * Nat.pow 2 (e - 1).toNat) =
        2 ^ 53 := by
      apply roundHalfEven_scaled hd
      · rw [← hv]
        push_cast
        linarith
      · rw [← hv]
        push_cast
        linarith
    rw [hexponent, hround]
    exact bitsOf_carry (by omega)

end Near

end Abacus.Binary64
