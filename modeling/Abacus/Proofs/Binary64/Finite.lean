import Abacus.Binary64.Basic

/-! # Finite doubles

  A double has parts exactly if it is finite, and what is not finite is infinite or no number.
-/

namespace Abacus.Binary64

open Float.Model

/-- The exponent bits of a double. -/
theorem toNat_unpackExponent (bits : BitVec 64) :
    (@UnpackedFloat.unpackExponent Format.binary64 bits).toNat =
      bits.toNat / Nat.pow 2 fractionBits % 2048 := by
  simp [UnpackedFloat.unpackExponent, Nat.shiftRight_eq_div_pow, fractionBits]

theorem isFinite_unpack_iff (bits : BitVec 64) :
    (UnpackedFloat.unpack Format.binary64 bits).isFinite = true ↔
      @UnpackedFloat.unpackExponent Format.binary64 bits ≠ -1#11 := by
  unfold UnpackedFloat.unpack
  -- The exponent decides first, then whether the fraction is zero.
  by_cases hspecial : @UnpackedFloat.unpackExponent Format.binary64 bits = -1#11
  · refine iff_of_false ?_ (not_not_intro hspecial)
    intro hfinite
    rw [if_pos hspecial] at hfinite
    by_cases hzero : @UnpackedFloat.unpackMantissa Format.binary64 bits = 0#52
    · rw [if_pos hzero] at hfinite
      cases hfinite
    · rw [if_neg hzero] at hfinite
      cases hfinite
  · refine iff_of_true ?_ hspecial
    rw [if_neg hspecial]
    by_cases hsubnormal : @UnpackedFloat.unpackExponent Format.binary64 bits = 0#11
    · rw [if_pos hsubnormal]
      by_cases hzero : @UnpackedFloat.unpackMantissa Format.binary64 bits = 0#52
      · rw [dif_pos hzero]
        rfl
      · rw [dif_neg hzero]
        rfl
    · rw [if_neg hsubnormal]
      rfl

theorem isSome_ofBits?_iff (bits : Nat) :
    (ofBits? bits).isSome = true ↔ bits / Nat.pow 2 fractionBits % 2048 ≠ specialField := by
  unfold ofBits?
  dsimp only
  split
  next hspecial => exact iff_of_false (by simp) (not_not_intro hspecial)
  next hspecial =>
    refine iff_of_true ?_ hspecial
    split <;> rfl

/-- The parts of a double can be read off exactly if it is finite. -/
theorem isSome_ofFloat?_iff (x : Float) : (ofFloat? x).isSome = true ↔ x.isFinite = true := by
  have hfinite : x.isFinite = true ↔
      @UnpackedFloat.unpackExponent Format.binary64 x.toBits.toBitVec ≠ -1#11 :=
    isFinite_unpack_iff x.toBits.toBitVec
  rw [ofFloat?, isSome_ofBits?_iff, hfinite, ne_eq, ne_eq, ← BitVec.toNat_inj,
    toNat_unpackExponent]
  rfl

/-- A double that is not finite is infinite or no number. -/
theorem isFinite_eq_false_iff (x : Float) :
    x.isFinite = false ↔ x.isNaN = true ∨ x.isInf = true := by
  show x.toModel.unpack.isFinite = false ↔
    x.toModel.unpack.isNaN = true ∨ x.toModel.unpack.isInf = true
  cases x.toModel.unpack with
  | notANumber => exact iff_of_true rfl (.inl rfl)
  | infinity => exact iff_of_true rfl (.inr rfl)
  | zero | finite =>
    apply iff_of_false
    · intro hfinite
      cases hfinite
    · rintro (hnan | hinf)
      · cases hnan
      · cases hinf

end Abacus.Binary64
