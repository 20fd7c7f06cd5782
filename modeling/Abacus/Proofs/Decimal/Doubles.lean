import Abacus.Decimal.Float
import Abacus.Proofs.Binary64.Nearest

/-! # From a double to a decimal and back

  A finite double leaves as a decimal that is equal to it, and that decimal enters again as the same
  double, but for the sign of a zero (`toFloat_of_ofFloat?`).

  The decimal of a double has up to some 770 digits, and of a long coefficient only a head is looked
  at. Each digit that is cut off takes more than three bits, so what is left of a cut coefficient has 55
  bits at least (`pow_cutDigits_mul_le`), and there are fewer digits to cut than places after the point
  (`cutDigits_lt`). So the head falls short of the double by less than a quarter of a unit of its
  significand, and the double is the nearest one.
-/

namespace Abacus.Decimal

open Binary64

variable {c m n s : ℕ} {b : Binary64}

/-! ### The decimal of a double -/

/-- The decimal of `m / 2 ^ k` has a power of five for each place after the point. -/
theorem ofDyadic_eq (n k : ℕ) :
    ∃ m s : ℕ, ofDyadic n k = ⟨(m * 5 ^ s : ℕ), s⟩ ∧ s ≤ k ∧ n = m * 2 ^ (k - s) := by
  induction k generalizing n with
  | zero => exact ⟨n, 0, by simp [ofDyadic], le_rfl, by simp⟩
  | succ k ih =>
    rw [ofDyadic]
    by_cases heven : n % 2 = 0
    · rw [if_pos heven]
      obtain ⟨m, s, heq, hle, hhalf⟩ := ih (n / 2)
      refine ⟨m, s, heq, by omega, ?_⟩
      rw [Nat.sub_add_comm hle, pow_succ, ← mul_assoc, ← hhalf]
      omega
    · rw [if_neg heven]
      exact ⟨n, k + 1, rfl, le_rfl, by simp⟩

/-! ### The digits that are cut off -/

/-- A digit takes more than three bits: `10 ^ 59 < 2 ^ 196`. -/
theorem ten_pow_le_two_pow {i j : ℕ} (h : 196 * i ≤ 59 * j) : 10 ^ i ≤ 2 ^ j := by
  have hpow : (10 ^ i) ^ 59 ≤ (2 ^ j) ^ 59 :=
    calc (10 ^ i) ^ 59 = (10 ^ 59) ^ i := by rw [← pow_mul, ← pow_mul, mul_comm]
      _ ≤ (2 ^ 196) ^ i := Nat.pow_le_pow_left (by norm_num) i
      _ = 2 ^ (196 * i) := by rw [← pow_mul]
      _ ≤ 2 ^ (59 * j) := Nat.pow_le_pow_right (by norm_num) h
      _ = (2 ^ j) ^ 59 := by rw [← pow_mul, mul_comm]
  exact le_of_pow_le_pow_left₀ (by norm_num) (by positivity) hpow

/-- How many digits are cut off, from the number of bits. -/
theorem cutDigits_le (n : ℕ) (h : 0 < cutDigits n) :
    (cutDigits n + 25) * 100000000000000000000 ≤ (n.log2 + 2) * 30102999566398119521 := by
  have hcut : cutDigits n ≤ estimatedDigits n - keptDigits := Nat.div_mul_le_self _ _
  have hkept : cutDigits n + 25 ≤ estimatedDigits n := by
    rw [keptDigits] at hcut
    omega
  exact (Nat.mul_le_mul_right _ hkept).trans (Nat.div_mul_le_self _ _)

/-- What is left of a coefficient has 55 bits at least. -/
theorem pow_cutDigits_mul_le (hn : 0 < n) (hlog : n.log2 ≤ 4000) (h : 0 < cutDigits n) :
    2 ^ 55 * 10 ^ cutDigits n ≤ n := by
  have hcut := cutDigits_le n h
  calc 2 ^ 55 * 10 ^ cutDigits n ≤ 2 ^ 55 * 2 ^ (n.log2 - 55) :=
        Nat.mul_le_mul_left _ (ten_pow_le_two_pow (by omega))
    _ = 2 ^ n.log2 := by rw [← pow_add, Nat.add_sub_cancel' (by omega)]
    _ ≤ n := Nat.log2_self_le hn.ne'

/-- There are fewer digits to cut off than places after the point. -/
theorem cutDigits_lt (hs : 0 < s) (hlog : n.log2 < 53 + 3 * s) : cutDigits n < s := by
  by_cases h : 0 < cutDigits n
  · -- Three bits for a place make less than a digit for it, and 25 digits are kept.
    have hcut := cutDigits_le n h
    omega
  · omega

/-! ### The double next to the decimal of a double -/

/-- The bits that are not read of an integer with a short significand are zero. -/
theorem condense_eq_self {e : ℕ} (hm : 0 < m) (hlt : m < 2 ^ 53) :
    condense (m * 2 ^ e) = m * 2 ^ e := by
  apply condense_of_mod_eq_zero
  have hlog : (m * 2 ^ e).log2 < 53 + e := by
    apply (Nat.log2_lt (by positivity)).mpr
    rw [pow_add]
    exact Nat.mul_lt_mul_of_pos_right hlt (by positivity)
  have hdvd : 2 ^ ((m * 2 ^ e).log2 + 1 - wordBits) ∣ m * 2 ^ e :=
    Dvd.dvd.mul_left (pow_dvd_pow 2 (by rw [wordBits]; omega)) m
  exact Nat.mod_eq_zero_of_dvd hdvd

/-- The digits that are cut off count for less than a quarter of a unit of the significand. -/
theorem four_mul_rest_lt {w : ℚ} {cut : ℕ} (hm : m < 2 ^ 53) (hw : 0 < w) (hvalue : (c : ℚ) = m * w)
    (hcut : cut = 0 ∨ 2 ^ 55 * 10 ^ cut ≤ c) :
    4 * (c - (c / 10 ^ cut : ℕ) * 10 ^ cut : ℚ) < w := by
  rcases hcut with rfl | hlong
  · rw [pow_zero, Nat.div_one, pow_zero, mul_one, sub_self, mul_zero]
    exact hw
  · have hlt : (c : ℚ) < (c / 10 ^ cut : ℕ) * 10 ^ cut + 10 ^ cut := by
      have hnat : c < c / 10 ^ cut * 10 ^ cut + 10 ^ cut := Nat.lt_div_mul_add (by positivity)
      exact_mod_cast hnat
    have hlong' : (2 ^ 55 * 10 ^ cut : ℚ) ≤ c := by exact_mod_cast hlong
    have hm' : (m : ℚ) < 2 ^ 53 := by exact_mod_cast hm
    have hmul := mul_lt_mul_of_pos_right hm' hw
    linarith

/-- The head of a coefficient is short of the whole by less than a quarter of a unit of a significand. -/
theorem head_bounds {u : ℚ} {cut places : ℕ} (hm : m < 2 ^ 53) (hu : 0 < u)
    (hvalue : (c : ℚ) = m * u * 10 ^ (cut + places))
    (hcut : cut = 0 ∨ 2 ^ 55 * 10 ^ cut ≤ c) :
    ((c / 10 ^ cut : ℕ) : ℚ) / (10 ^ places : ℕ) ≤ m * u ∧
      (4 * m - 1) * u < 4 * (((c / 10 ^ cut : ℕ) : ℚ) / (10 ^ places : ℕ)) := by
  have hplaces : (0 : ℚ) < (10 ^ places : ℕ) := by positivity
  have hblock : (0 : ℚ) < 10 ^ cut := by positivity
  have hle : ((c / 10 ^ cut : ℕ) * 10 ^ cut : ℚ) ≤ c := by
    exact_mod_cast Nat.div_mul_le_self c (10 ^ cut)
  rw [pow_add, mul_assoc] at hvalue
  have hrest := four_mul_rest_lt hm (by positivity) hvalue hcut
  push_cast at hplaces ⊢
  constructor
  · rw [div_le_iff₀ hplaces]
    apply le_of_mul_le_mul_right _ hblock
    linarith
  · rw [mul_div_assoc', lt_div_iff₀ hplaces]
    apply lt_of_mul_lt_mul_right _ hblock.le
    linarith

/-! ### Magnitudes -/

theorem pos_of_value {u : ℚ} (hm : 0 < m) (hu : 0 < u) (hvalue : (c : ℚ) = m * u) : 0 < c := by
  have hcast : (0 : ℚ) < c := by
    rw [hvalue]
    positivity
  exact_mod_cast hcast

/-- All bits are read of an integer that is a double. -/
theorem condense_of_value (hb : IsCanonical b) (hpos : 0 < b.significand)
    (hvalue : (c : ℚ) = b.significand * 2 ^ b.exponent) : condense c = c := by
  by_cases he : 0 ≤ b.exponent
  · obtain ⟨e, he⟩ := Int.eq_ofNat_of_zero_le he
    have hc : c = b.significand * 2 ^ e := by
      rw [he, zpow_natCast] at hvalue
      exact_mod_cast hvalue
    rw [hc]
    exact condense_eq_self hpos hb.significand_lt
  · -- The integer is no larger than the significand.
    have hle : (2 : ℚ) ^ b.exponent ≤ 1 := zpow_le_one_of_nonpos₀ (by norm_num) (by omega)
    have hc : c ≤ b.significand := by
      have hmul := mul_le_mul_of_nonneg_left hle (show (0 : ℚ) ≤ b.significand by positivity)
      rw [← hvalue, mul_one] at hmul
      exact_mod_cast hmul
    have hc0 := pos_of_value hpos (by positivity) hvalue
    have hself := condense_eq_self (e := 0) hc0 (hc.trans_lt hb.significand_lt)
    rwa [pow_zero, mul_one] at hself

/-- An integer with a short significand is the double that it came from. -/
theorem magnitudeToFloat_of_scale_eq_zero (hb : IsCanonical b) (hpos : 0 < b.significand)
    (hvalue : (c : ℚ) = b.significand * 2 ^ b.exponent) :
    magnitudeToFloat c 0 = Float.ofBits (UInt64.ofNat b.magnitudeBits) := by
  have hpow : (0 : ℚ) < 2 ^ b.exponent := by positivity
  have hc := pos_of_value hpos hpow hvalue
  have hone : (c : ℚ) = c / (1 : ℕ) := by rw [Nat.cast_one, div_one]
  rw [magnitudeToFloat, if_pos rfl, ofNat, condense_of_value hb hpos hvalue, nearest,
    nearestBits_of_near hb hc one_pos hone hvalue.le]
  rw [hvalue]
  linarith

/-- A coefficient with places after the point is the double that it came from. -/
theorem magnitudeToFloat_of_scale_pos (hb : IsCanonical b) (hpos : 0 < b.significand)
    (hs : 0 < s) (hle : s ≤ 1074) (hc : c < 2 ^ 53 * 5 ^ s)
    (hvalue : (c : ℚ) = b.significand * 2 ^ b.exponent * 10 ^ s) :
    magnitudeToFloat c s = Float.ofBits (UInt64.ofNat b.magnitudeBits) := by
  have hpow : (0 : ℚ) < 2 ^ b.exponent := by positivity
  have hc0 : 0 < c := by
    apply pos_of_value (u := 2 ^ b.exponent * 10 ^ s) hpos (by positivity)
    rw [hvalue, mul_assoc]
  have hlog : c.log2 < 53 + 3 * s := by
    apply (Nat.log2_lt hc0.ne').mpr
    calc c < 2 ^ 53 * 5 ^ s := hc
      _ ≤ 2 ^ 53 * 8 ^ s := Nat.mul_le_mul_left _ (Nat.pow_le_pow_left (by norm_num) s)
      _ = 2 ^ (53 + 3 * s) := by
          rw [pow_add, pow_mul]
          norm_num
  have hcut := cutDigits_lt hs hlog
  have hlong : cutDigits c = 0 ∨ 2 ^ 55 * 10 ^ cutDigits c ≤ c := by
    by_cases h : cutDigits c = 0
    · exact .inl h
    · exact .inr (pow_cutDigits_mul_le hc0 (by omega) (by omega))
  obtain ⟨places, hplaces⟩ : ∃ places, s = cutDigits c + places := ⟨s - cutDigits c, by omega⟩
  rw [hplaces] at hvalue
  obtain ⟨hupper, hlower⟩ := head_bounds hb.significand_lt hpow hvalue hlong
  have hhead : 0 < c / 10 ^ cutDigits c := by
    by_contra hzero
    rw [Nat.eq_zero_of_not_pos hzero, Nat.cast_zero, zero_div, mul_zero] at hlower
    have hone : (1 : ℚ) ≤ b.significand := by exact_mod_cast hpos
    have hmul := mul_nonneg (show (0 : ℚ) ≤ 4 * b.significand - 1 by linarith) hpow.le
    linarith
  have hrest : ((s : ℤ) - cutDigits c).toNat = places := by omega
  rw [magnitudeToFloat, if_neg (by omega)]
  dsimp only
  rw [if_neg (by omega), hrest, nearest]
  simp only [Nat.pow_eq]
  rw [nearestBits_of_near hb hhead (by positivity) rfl hupper hlower]

/-- The decimal of a positive double has a positive coefficient, and is read back as the double. -/
theorem exists_ofDyadic (hb : IsCanonical b) (hpos : 0 < b.significand) :
    ∃ c s : ℕ, ofDyadic (b.significand * Nat.pow 2 b.exponent.toNat) (-b.exponent).toNat =
      ⟨(c : ℕ), (s : ℕ)⟩ ∧ 0 < c ∧
        magnitudeToFloat c s = Float.ofBits (UInt64.ofNat b.magnitudeBits) := by
  obtain ⟨m, s, heq, hle, hn⟩ :=
    ofDyadic_eq (b.significand * Nat.pow 2 b.exponent.toNat) (-b.exponent).toNat
  rw [Nat.pow_eq] at hn
  have hpow : (0 : ℚ) < 2 ^ b.exponent := by positivity
  have hvalue : ((m * 5 ^ s : ℕ) : ℚ) = b.significand * 2 ^ b.exponent * 10 ^ s := by
    have hplaces : (0 : ℚ) < 2 ^ (-b.exponent).toNat := by positivity
    have hn' : (b.significand * 2 ^ b.exponent.toNat : ℚ) = m * 2 ^ ((-b.exponent).toNat - s) := by
      exact_mod_cast hn
    apply mul_right_cancel₀ hplaces.ne'
    calc ((m * 5 ^ s : ℕ) : ℚ) * 2 ^ (-b.exponent).toNat
        = m * 5 ^ s * (2 ^ ((-b.exponent).toNat - s) * 2 ^ s) := by
          rw [← pow_add, Nat.sub_add_cancel hle]
          push_cast
          rfl
      _ = b.significand * 2 ^ b.exponent.toNat * (5 ^ s * 2 ^ s) := by
          rw [hn']
          ring
      _ = b.significand * (2 ^ b.exponent * 2 ^ (-b.exponent).toNat) * 10 ^ s := by
          rw [zpow_mul_pow_neg (by norm_num), ← mul_pow]
          norm_num
      _ = b.significand * 2 ^ b.exponent * 10 ^ s * 2 ^ (-b.exponent).toNat := by ring
  have hc : 0 < m * 5 ^ s := by
    apply pos_of_value (u := 2 ^ b.exponent * 10 ^ s) hpos (by positivity)
    rw [hvalue, mul_assoc]
  refine ⟨m * 5 ^ s, s, heq, hc, ?_⟩
  by_cases hs : s = 0
  · rw [hs, pow_zero, mul_one] at hvalue ⊢
    exact magnitudeToFloat_of_scale_eq_zero hb hpos (by rw [hvalue, pow_zero, mul_one])
  · have hleast := hb.least_le
    rw [leastExponent] at hleast
    apply magnitudeToFloat_of_scale_pos hb hpos (by omega) (by omega) _ hvalue
    -- With places after the point, the double has a negative exponent and was only halved.
    have hshort : m ≤ b.significand := by
      have hzero : b.exponent.toNat = 0 := by omega
      rw [hzero, pow_zero, mul_one] at hn
      rw [hn]
      exact Nat.le_mul_of_pos_right m (by positivity)
    exact Nat.mul_lt_mul_of_pos_right (hshort.trans_lt hb.significand_lt) (by positivity)

/-! ### Doubles -/

/-- The bits that come back for the decimal of a double other than zero. -/
theorem toFloat_toDecimal (hb : IsCanonical b) (hpos : 0 < b.significand) :
    b.toDecimal.toFloat =
      Float.ofBits (UInt64.ofNat ((if b.negative then 2 ^ 63 else 0) + b.magnitudeBits)) := by
  obtain ⟨c, s, hdyadic, hc, hmagnitude⟩ := exists_ofDyadic hb hpos
  have hne : ¬ (c : ℤ) = 0 := by omega
  rw [toDecimal, hdyadic]
  generalize b.negative = negative
  cases negative with
  | true =>
    show toFloat ⟨-(c : ℤ), s⟩ = Float.ofBits (UInt64.ofNat (2 ^ 63 + b.magnitudeBits))
    rw [← neg_ofBits hb.magnitudeBits_lt, ← hmagnitude, toFloat]
    dsimp only
    rw [if_neg (by omega), if_pos (by omega), Int.natAbs_neg, Int.natAbs_natCast]
  | false =>
    show toFloat ⟨c, s⟩ = Float.ofBits (UInt64.ofNat (0 + b.magnitudeBits))
    rw [Nat.zero_add, ← hmagnitude, toFloat]
    dsimp only
    rw [if_neg hne, if_neg (by omega), Int.natAbs_natCast]

/-- The decimal of a zero is zero. -/
theorem toFloat_toDecimal_zero (hzero : b.significand = 0) : b.toDecimal.toFloat = 0 := by
  obtain ⟨m, s, heq, hle, hn⟩ :=
    ofDyadic_eq (b.significand * Nat.pow 2 b.exponent.toNat) (-b.exponent).toNat
  have hm : m = 0 := by
    rw [hzero, Nat.zero_mul] at hn
    have hpos : 0 < 2 ^ ((-b.exponent).toNat - s) := by positivity
    exact (Nat.mul_eq_zero.mp hn.symm).resolve_right hpos.ne'
  have hcoeff : b.toDecimal.coeff = 0 := by
    rw [toDecimal, heq, hm]
    cases b.negative <;> simp
  rw [toFloat, if_pos hcoeff]

/-- **Doubles survive as decimals.** The decimal of a double is read back as the same double, and that
    of a zero as zero. -/
theorem toFloat_of_ofFloat? {x : Float} {d : Decimal} (h : ofFloat? x = some d) :
    d.toFloat = unsignedZero x := by
  obtain ⟨b, hparts, rfl⟩ := Option.map_eq_some_iff.mp h
  have hfinite : x.isFinite = true := (isSome_ofFloat?_iff x).mp (by rw [hparts]; rfl)
  have hb : IsCanonical b := isCanonical_of_ofBits? hparts
  have hbits := eq_of_ofBits? hparts x.toBits.toNat_lt
  have hmagnitude : b.magnitudeBits < 2 ^ 63 := hb.magnitudeBits_lt.trans (by decide)
  by_cases hzero : b.significand = 0
  · rw [(magnitudeBits_eq_zero_iff hb).mpr hzero] at hbits
    rw [toFloat_toDecimal_zero hzero, unsignedZero]
    by_cases hneg : x = -0
    · rw [if_pos hneg]
    · rw [if_neg hneg]
      apply toBits_injective
      apply UInt64.toNat_inj.mp
      rw [toNat_toBits_zero, hbits]
      cases hsign : b.negative with
      | false => rfl
      | true =>
        rw [hsign] at hbits
        exact absurd (toBits_injective (UInt64.toNat_inj.mp
          (hbits.trans toNat_toBits_neg_zero.symm))) hneg
  · have hne : x ≠ -0 := by
      intro hneg
      rw [hneg, toNat_toBits_neg_zero] at hbits
      have hpos := mt (magnitudeBits_eq_zero_iff hb).mp hzero
      split at hbits <;> omega
    rw [toFloat_toDecimal hb (by omega), ← hbits, UInt64.ofNat_toNat, ofBits_toBits hfinite,
      unsignedZero, if_neg hne]

end Abacus.Decimal
