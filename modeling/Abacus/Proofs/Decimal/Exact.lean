import Abacus.Proofs.Decimal.Doubles
import Abacus.Proofs.Decimal.Rational
import Mathlib.Tactic.FieldSimp

/-! # The decimal of a double

  A finite double is a whole number of units that are powers of two, and each halving takes one decimal
  place. So it is equal to a decimal, whose places are as many as the significand can be halved too
  seldom, and no decimal with fewer places is equal to it (`exact_and_reduced`).

  - `valueOfBits` is the number that a word of 64 bits stands for, read off its bits.
  - A decimal is `Reduced` if it has no avoidable place after the point. A number has at most one reduced
    decimal (`Reduced.eq_of_toRat_eq`), and the decimal of a double is reduced (`reduced_toDecimal`).
-/

namespace Abacus

/-- The number that a word of 64 bits stands for, unless its exponent bits are all set. After the sign
    come eleven bits of exponent and 52 of fraction. The significand of a normal number has a bit in
    front of its fraction; that of a subnormal number has none, and its exponent is fixed. -/
def Binary64.valueOfBits (bits : ℕ) : ℚ :=
  (-1) ^ (bits / 2 ^ 63) *
    if bits / 2 ^ 52 % 2048 = 0 then (bits % 2 ^ 52 : ℕ) * (2 : ℚ) ^ (-1074 : ℤ)
    else (2 ^ 52 + bits % 2 ^ 52 : ℕ) * (2 : ℚ) ^ ((bits / 2 ^ 52 % 2048 : ℕ) - 1075 : ℤ)

namespace Decimal

open Binary64

variable {x y : Decimal} {b : Binary64} {m k : ℕ}

/-! ### Decimals without avoidable places -/

/-- Whether the decimal has no place after the point that could be left out. -/
structure Reduced (x : Decimal) : Prop where
  /-- No zeros are appended to the coefficient. -/
  scale_nonneg : 0 ≤ x.scale
  /-- The coefficient does not end in a zero, unless there is no place after the point. -/
  minimal : x.scale = 0 ∨ ¬ 10 ∣ x.coeff

/-- Equal numbers have equal coefficients at a scale that neither exceeds. -/
theorem coeff_eq_coeffAt (h : x.toRat = y.toRat) (hle : y.scale ≤ x.scale) :
    x.coeff = y.coeffAt x.scale := by
  have hrat : (x.coeff : ℚ) * (10 : ℚ) ^ (-x.scale) =
      (y.coeffAt x.scale : ℚ) * (10 : ℚ) ^ (-x.scale) := by
    rw [coeffAt_mul_zpow hle, ← h, toRat]
  have hpos : (10 : ℚ) ^ (-x.scale) ≠ 0 := zpow_ne_zero _ (by norm_num)
  exact_mod_cast mul_right_cancel₀ hpos hrat

/-- No decimal that is equal to a reduced one has fewer places after the point. -/
theorem Reduced.scale_le (hx : x.Reduced) (hy : 0 ≤ y.scale) (h : x.toRat = y.toRat) :
    x.scale ≤ y.scale := by
  by_contra hlt
  have hcoeff := coeff_eq_coeffAt h (by omega)
  -- At its larger scale the coefficient has a zero at its end.
  obtain ⟨n, hn⟩ : ∃ n, (x.scale - y.scale).toNat = n + 1 :=
    Nat.exists_eq_succ_of_ne_zero (by omega)
  have hdvd : (10 : ℤ) ∣ x.coeff := by
    rw [hcoeff, coeffAt, hn, Nat.pow_eq, pow_succ]
    push_cast
    exact Dvd.dvd.mul_left (Dvd.intro_left _ rfl) _
  rcases hx.minimal with hzero | hten
  · omega
  · exact hten hdvd

/-- A number has at most one reduced decimal. -/
theorem Reduced.eq_of_toRat_eq (hx : x.Reduced) (hy : y.Reduced) (h : x.toRat = y.toRat) : x = y := by
  have hscale : x.scale = y.scale :=
    le_antisymm (hx.scale_le hy.scale_nonneg h) (hy.scale_le hx.scale_nonneg h.symm)
  have hcoeff : x.coeff = y.coeff := by
    have heq := coeff_eq_coeffAt h (by omega)
    rw [coeffAt, hscale, sub_self] at heq
    simpa using heq
  cases x
  cases y
  simp_all

/-! ### The decimal of a dyadic number -/

/-- Halving stops at an odd number, which has no zero at its end after any number of fives. -/
theorem reduced_ofDyadic (m k : ℕ) : (ofDyadic m k).Reduced := by
  induction k generalizing m with
  | zero => exact ⟨le_rfl, .inl rfl⟩
  | succ k ih =>
    rw [ofDyadic]
    by_cases heven : m % 2 = 0
    · rw [if_pos heven]
      exact ih (m / 2)
    · rw [if_neg heven]
      refine ⟨by positivity, .inr ?_⟩
      intro hdvd
      have hodd : Odd (m * Nat.pow 5 (k + 1)) := by
        rw [Nat.pow_eq]
        exact (Nat.odd_iff.mpr (by omega)).mul ((by decide : Odd 5).pow)
      have hten : 10 ∣ m * Nat.pow 5 (k + 1) := Int.natCast_dvd_natCast.mp hdvd
      obtain ⟨j, hj⟩ := hodd
      omega

theorem toRat_ofDyadic (m k : ℕ) : (ofDyadic m k).toRat = m / 2 ^ k := by
  obtain ⟨c, s, heq, hle, hm⟩ := ofDyadic_eq m k
  obtain ⟨r, rfl⟩ := Nat.exists_eq_add_of_le hle
  have hten : (10 : ℚ) ^ s = 2 ^ s * 5 ^ s := by
    rw [← mul_pow]
    norm_num
  rw [heq, toRat, hm, Nat.add_sub_cancel_left]
  dsimp only
  rw [zpow_neg, zpow_natCast, hten, pow_add]
  push_cast
  field_simp

theorem scale_ofDyadic_le (m k : ℕ) : (ofDyadic m k).scale ≤ k := by
  obtain ⟨c, s, heq, hle, -⟩ := ofDyadic_eq m k
  rw [heq]
  exact Int.ofNat_le.mpr hle

/-! ### The decimal of a double -/

/-- The decimal of a double apart from its sign: an exponent above zero is a factor of the significand,
    and one below zero is a number of halvings. -/
theorem toDecimal_eq (b : Binary64) :
    b.toDecimal.scale =
        (ofDyadic (b.significand * 2 ^ b.exponent.toNat) (-b.exponent).toNat).scale ∧
      b.toDecimal.coeff = (if b.negative then -1 else 1) *
        (ofDyadic (b.significand * 2 ^ b.exponent.toNat) (-b.exponent).toNat).coeff := by
  unfold toDecimal
  cases b.negative <;> simp

theorem reduced_toDecimal (b : Binary64) : b.toDecimal.Reduced := by
  obtain ⟨hscale, hcoeff⟩ := toDecimal_eq b
  obtain ⟨hnonneg, hminimal⟩ := reduced_ofDyadic (b.significand * 2 ^ b.exponent.toNat)
    (-b.exponent).toNat
  refine ⟨by rw [hscale]; exact hnonneg, ?_⟩
  rw [hscale, hcoeff]
  cases b.negative <;> simpa using hminimal

theorem toRat_toDecimal (b : Binary64) :
    b.toDecimal.toRat = (if b.negative then -1 else 1) * (b.significand * (2 : ℚ) ^ b.exponent) := by
  obtain ⟨hscale, hcoeff⟩ := toDecimal_eq b
  have hdyadic := toRat_ofDyadic (b.significand * 2 ^ b.exponent.toNat) (-b.exponent).toNat
  have hexponent : (2 : ℚ) ^ b.exponent = 2 ^ b.exponent.toNat / 2 ^ (-b.exponent).toNat :=
    (eq_div_iff (by positivity)).mpr (zpow_mul_pow_neg (by norm_num) b.exponent)
  rw [toRat] at hdyadic
  rw [toRat, hscale, hcoeff, hexponent]
  push_cast
  rw [mul_assoc, hdyadic]
  push_cast
  ring

theorem scale_toDecimal_le (hb : IsCanonical b) : b.toDecimal.scale ≤ 1074 := by
  have hle := scale_ofDyadic_le (b.significand * 2 ^ b.exponent.toNat) (-b.exponent).toNat
  have hleast : -1074 ≤ b.exponent := hb.least_le
  rw [(toDecimal_eq b).1]
  omega

end Decimal

/-! ### Words of 64 bits -/

namespace Binary64

open Float.Model Float.Model.UnpackedFloat

/-- Infinities and what is no number keep their exponent bits when they are packed. -/
theorem unpackExponent_pack_unpack {bits : BitVec 64}
    (h : @unpackExponent Format.binary64 bits = -1#11) :
    @unpackExponent Format.binary64 (UnpackedFloat.pack Format.binary64
      (UnpackedFloat.unpack Format.binary64 bits)) = -1#11 := by
  unfold UnpackedFloat.unpack
  rw [if_pos h]
  by_cases hzero : @unpackMantissa Format.binary64 bits = 0#52
  · rw [if_pos hzero]
    cases Sign.ofBitVec (@unpackSign Format.binary64 bits) <;> decide
  · rw [if_neg hzero]
    decide

/-- The parts of a double are those of the word that it was made from. -/
theorem ofFloat?_ofBits (w : UInt64) : ofFloat? (Float.ofBits w) = ofBits? w.toNat := by
  by_cases hspecial : @unpackExponent Format.binary64 w.toBitVec = -1#11
  · -- Neither the word nor the double is finite, so neither has parts.
    have hfloat : ofFloat? (Float.ofBits w) = none := by
      have hfinite : ¬(Float.ofBits w).isFinite = true := by
        rw [isFinite_iff]
        exact not_not_intro (unpackExponent_pack_unpack hspecial)
      rw [← isSome_ofFloat?_iff] at hfinite
      simpa using hfinite
    have hbits : ofBits? w.toNat = none := by
      have hfield : ¬(ofBits? w.toNat).isSome = true := by
        rw [isSome_ofBits?_iff]
        have htoNat := congrArg BitVec.toNat hspecial
        rw [toNat_unpackExponent] at htoNat
        exact not_not_intro htoNat
      simpa using hfield
    rw [hfloat, hbits]
  · rw [ofFloat?, toBits_ofBits hspecial]

/-- The number that a word stands for, from its parts. -/
theorem valueOfBits_eq {bits : ℕ} {b : Binary64} (h : ofBits? bits = some b) (hlt : bits < 2 ^ 64) :
    valueOfBits bits = (if b.negative then -1 else 1) * (b.significand * (2 : ℚ) ^ b.exponent) := by
  obtain ⟨hnegative, -, hparts⟩ := ofBits?_eq_some h
  have hsign : (-1 : ℚ) ^ (bits / 2 ^ 63) = if b.negative then -1 else 1 := by
    rw [hnegative]
    have hcases : bits / 2 ^ 63 = 0 ∨ bits / 2 ^ 63 = 1 := by omega
    rcases hcases with hzero | hone
    · rw [hzero]
      simp
    · rw [hone]
      simp
  unfold valueOfBits
  rw [hsign]
  rcases hparts with ⟨hzero, hm, he⟩ | ⟨hne, hm, he⟩
  · rw [if_pos hzero, hm, he]
  · rw [if_neg hne, hm, he]
    congr 3
    omega

/-- Doubles that differ at most in the sign of a zero are equal. -/
theorem beq_of_unsignedZero_eq {x y : Float} (hx : x.isFinite = true)
    (h : unsignedZero x = unsignedZero y) : (x == y) = true := by
  unfold unsignedZero at h
  by_cases hx0 : x = -0
  · by_cases hy0 : y = -0
    · rw [hx0, hy0]
      decide
    · rw [if_pos hx0, if_neg hy0] at h
      rw [hx0, ← h]
      decide
  · by_cases hy0 : y = -0
    · rw [if_neg hx0, if_pos hy0] at h
      rw [h, hy0]
      decide
    · rw [if_neg hx0, if_neg hy0] at h
      rw [← h]
      exact beq_self_of_isFinite hx

end Binary64

/-! ### Doubles as decimals -/

namespace Decimal

open Binary64

variable {x y : Decimal} {w : UInt64}

theorem ofFloat?_ofBits_eq_some_iff :
    ofFloat? (Float.ofBits w) = some x ↔ ∃ b, ofBits? w.toNat = some b ∧ b.toDecimal = x := by
  rw [ofFloat?, Binary64.ofFloat?_ofBits, Option.map_eq_some_iff]

theorem toRat_of_ofBits (h : ofFloat? (Float.ofBits w) = some x) :
    x.toRat = valueOfBits w.toNat := by
  obtain ⟨b, hb, rfl⟩ := ofFloat?_ofBits_eq_some_iff.mp h
  rw [toRat_toDecimal, valueOfBits_eq hb w.toNat_lt]

theorem reduced_of_ofFloat? {a : Float} (h : ofFloat? a = some x) : x.Reduced := by
  obtain ⟨b, -, rfl⟩ := Option.map_eq_some_iff.mp h
  exact reduced_toDecimal b

/-- **Doubles as decimals.** A double has a decimal unless it is infinite or no number. The decimal is
    equal to the number that the bits stand for, has at most 1074 places after the point, and has none
    that could be left out: it is the only such decimal, and no decimal equal to it has fewer places. So
    doubles have the same decimal exactly if their bits stand for the same number, and only if they are
    equal as doubles. -/
theorem exact_and_reduced (w : UInt64) :
    (ofFloat? (Float.ofBits w) = none ↔
      (Float.ofBits w).isNaN = true ∨ (Float.ofBits w).isInf = true) ∧
    (ofFloat? (Float.ofBits w) = none ↔ w.toNat / 2 ^ 52 % 2048 = 2047) ∧
    (∀ x, ofFloat? (Float.ofBits w) = some x →
      (0 ≤ x.scale ∧ x.scale ≤ 1074) ∧ x.toRat = valueOfBits w.toNat ∧
        (x.scale = 0 ∨ ¬ 10 ∣ x.coeff) ∧
        ∀ y : Decimal, 0 ≤ y.scale → y.toRat = x.toRat → x.scale ≤ y.scale) ∧
    (∀ w' x y, ofFloat? (Float.ofBits w) = some x → ofFloat? (Float.ofBits w') = some y →
      (x = y ↔ valueOfBits w.toNat = valueOfBits w'.toNat) ∧
        (x = y → (Float.ofBits w == Float.ofBits w') = true)) := by
  have hnone : ofFloat? (Float.ofBits w) = none ↔ (Float.ofBits w).isFinite = false := by
    rw [← Bool.not_eq_true, ← isSome_ofFloat?_iff, ofFloat?, Option.map_eq_none_iff,
      Option.not_isSome_iff_eq_none]
  refine ⟨?_, ?_, ?_, ?_⟩
  · rw [hnone, isFinite_eq_false_iff]
  · have hfield := isSome_ofBits?_iff w.toNat
    rw [ofFloat?, Option.map_eq_none_iff, Binary64.ofFloat?_ofBits, ← Option.not_isSome_iff_eq_none,
      hfield, not_not]
    rfl
  · intro x hx
    obtain ⟨hnonneg, hminimal⟩ := reduced_of_ofFloat? hx
    obtain ⟨b, hb, hdecimal⟩ := ofFloat?_ofBits_eq_some_iff.mp hx
    have hle : x.scale ≤ 1074 := by
      rw [← hdecimal]
      exact scale_toDecimal_le (isCanonical_of_ofBits? hb)
    refine ⟨⟨hnonneg, hle⟩, toRat_of_ofBits hx, hminimal, ?_⟩
    intro y hy heq
    exact (reduced_of_ofFloat? hx).scale_le hy heq.symm
  · intro w' x y hx hy
    refine ⟨?_, ?_⟩
    · rw [← toRat_of_ofBits hx, ← toRat_of_ofBits hy]
      constructor
      · intro heq
        rw [heq]
      · exact (reduced_of_ofFloat? hx).eq_of_toRat_eq (reduced_of_ofFloat? hy)
    · rintro rfl
      have hfinite : (Float.ofBits w).isFinite = true := by
        rw [← isSome_ofFloat?_iff]
        obtain ⟨b, hb, -⟩ := Option.map_eq_some_iff.mp hx
        rw [hb]
        rfl
      -- Both doubles are what the decimal is read back as, but for the sign of a zero.
      exact beq_of_unsignedZero_eq hfinite
        ((toFloat_of_ofFloat? hx).symm.trans (toFloat_of_ofFloat? hy))

/-- The double next to a tenth is not a tenth, and takes 55 places. -/
example : ofFloat? (Float.ofBits 0x3FB999999999999A) =
    some ⟨1000000000000000055511151231257827021181583404541015625, 55⟩ := by
  decide +kernel

end Decimal

end Abacus
