import Abacus.Decimal.Text
import Abacus.Proofs.Decimal.Spelling

/-! # What the text of a decimal spells

  A decimal shows its digits in one of three layouts. The plain one spells the number that the
  decimal denotes, with a minus in front if it is negative (`exists_plain_text`); the other two have
  an exponent after an `E` or an `e` (`exists_exponent_text`), by which they can be told apart from it
  (`hasExponent_text_iff`).
-/

namespace Abacus.Decimal

open Token

variable {cs : List Char}

/-! ### Signs -/

/-- The text with a minus in front, if it is to be negative. -/
def withSign (negative : Bool) (cs : List Char) : List Char :=
  if negative then '-' :: cs else cs

theorem text_of_coeff_ne_zero {x : Decimal} (h : x.coeff ≠ 0) :
    x.text = String.ofList (withSign (x.coeff < 0) x.magnitudeText) := by
  rw [text, if_neg h, withSign]
  by_cases hneg : x.coeff < 0
  · simp [hneg]
  · simp [hneg]

theorem reading_withSign (negative : Bool) (h : IsMagnitude cs) :
    reading (withSign negative cs) =
      if negative then -magnitudeReading cs else magnitudeReading cs := by
  cases negative with
  | true => rfl
  | false =>
    apply reading_of_head?_ne_minus
    intro hhead
    have hdigit := isDigit_head_of_isMagnitude h '-' hhead
    cases hdigit

/-! ### The plain layout -/

theorem isDigit_of_mem_zeros {k : ℕ} {c : Char} (h : c ∈ List.replicate k '0') :
    c.isDigit = true := by
  rw [List.eq_of_mem_replicate h]
  rfl

/-- Digits with a point before the last `places` of them spell their number, divided by that power of
    ten. -/
theorem magnitudeReading_withPoint {ds : List Char} (hd : ∀ c ∈ ds, c.isDigit = true)
    (places : ℕ) : magnitudeReading (withPoint ds places) = ofDigits ds / 10 ^ places := by
  -- Zeros in front change nothing.
  have hpadded : ofDigits (List.replicate (places + 1 - ds.length) '0' ++ ds) = ofDigits ds := by
    rw [ofDigits_append, ofDigits, Nat.ofDigitChars_replicate_zero]
    simp
  have hdigits : ∀ c ∈ List.replicate (places + 1 - ds.length) '0' ++ ds, c.isDigit = true := by
    intro c hc
    exact (List.mem_append.mp hc).elim isDigit_of_mem_zeros (hd c)
  have hlength : places ≤ (List.replicate (places + 1 - ds.length) '0' ++ ds).length := by
    rw [List.length_append, List.length_replicate]
    omega
  unfold withPoint
  dsimp only
  generalize List.replicate (places + 1 - ds.length) '0' ++ ds = padded at hpadded hdigits hlength
  have hplaces : (padded.drop (padded.length - places)).length = places := by
    rw [List.length_drop]
    omega
  have hsplit := ofDigits_append (padded.take (padded.length - places))
    (padded.drop (padded.length - places))
  rw [List.take_append_drop, hplaces, hpadded] at hsplit
  have hpow : (10 : ℚ) ^ places ≠ 0 := pow_ne_zero _ (by norm_num)
  rw [magnitudeReading_pointed fun c hc => hdigits c (List.mem_of_mem_take hc), hplaces, hsplit]
  push_cast
  field_simp

/-- All digits of a magnitude spell it. -/
theorem magnitudeReading_plainDigits (n : ℕ) (scale : ℤ) :
    magnitudeReading (plainDigits n scale) = n * (10 : ℚ) ^ (-scale) := by
  unfold plainDigits
  split
  next hscale =>
    obtain ⟨k, hk⟩ := Int.eq_ofNat_of_zero_le (a := -scale) (by omega)
    have hdigits : ∀ c ∈ digits n ++ List.replicate (-scale).toNat '0', c.isDigit = true := by
      intro c hc
      exact (List.mem_append.mp hc).elim isDigit_of_mem_digits isDigit_of_mem_zeros
    rw [magnitudeReading_whole hdigits, ofDigits_append, ofDigits_digits, ofDigits,
      Nat.ofDigitChars_replicate_zero, List.length_replicate, hk, Int.toNat_natCast, zpow_natCast]
    push_cast
    ring
  next hscale =>
    obtain ⟨k, hk⟩ := Int.eq_ofNat_of_zero_le (a := scale) (by omega)
    rw [magnitudeReading_withPoint (fun c => isDigit_of_mem_digits), ofDigits_digits, hk,
      Int.toNat_natCast, zpow_neg, zpow_natCast, div_eq_mul_inv]

/-- A decimal in the plain layout shows digits that spell the number, which has a minus in front if it
    is negative. Zero is shown as a digit by itself. -/
theorem exists_plain_text {x : Decimal} (h : x.coeff = 0 ∨ x.layout = .plain) :
    ∃ negative cs, IsMagnitude cs ∧ x.text = String.ofList (withSign negative cs) ∧
      reading (withSign negative cs) = x.toRat := by
  by_cases hzero : x.coeff = 0
  · refine ⟨false, plainDigits 0 0, isMagnitude_plainDigits 0 0, ?_, ?_⟩
    · rw [text, if_pos hzero]
      rfl
    · rw [reading_withSign false (isMagnitude_plainDigits 0 0), magnitudeReading_plainDigits,
        toRat_eq_zero_of_coeff hzero]
      simp
  · have hlayout : x.layout = .plain := h.resolve_left hzero
    have hmag : IsMagnitude (plainDigits x.coeff.natAbs x.scale) := isMagnitude_plainDigits _ _
    refine ⟨x.coeff < 0, plainDigits x.coeff.natAbs x.scale, hmag, ?_, ?_⟩
    · rw [text_of_coeff_ne_zero hzero, magnitudeText, hlayout]
    · rw [reading_withSign _ hmag, magnitudeReading_plainDigits, toRat]
      by_cases hneg : x.coeff < 0
      · have habs : (x.coeff.natAbs : ℚ) = -x.coeff := by
          rw [Nat.cast_natAbs, abs_of_neg hneg, Int.cast_neg]
        simp [hneg, habs]
      · have habs : (x.coeff.natAbs : ℚ) = x.coeff := by
          rw [Nat.cast_natAbs, abs_of_nonneg (by omega)]
        simp [hneg, habs]

/-! ### Layouts with an exponent -/

theorem isMagnitude_digits (n : ℕ) : IsMagnitude (digits n) :=
  .whole Nat.toDigits_ne_nil fun _ => isDigit_of_mem_digits

theorem isMagnitude_leadingDigits (n : ℕ) : IsMagnitude (leadingDigits n) := by
  have hd : ∀ c ∈ digits n, c.isDigit = true := fun _ => isDigit_of_mem_digits
  unfold leadingDigits
  split
  next d e rest hdigits =>
    rw [hdigits, List.forall_mem_cons] at hd
    have hfirst : ∀ c ∈ [d], c.isDigit = true := List.forall_mem_singleton.mpr hd.1
    exact .pointed (List.cons_ne_nil d []) hfirst (List.cons_ne_nil e rest) hd.2
  next => exact isMagnitude_digits n

/-- A decimal in another layout shows a number and an exponent, with one of two letters between. -/
theorem exists_exponent_text {x : Decimal} (hzero : x.coeff ≠ 0) (h : x.layout ≠ .plain) :
    ∃ negative cs letter e, IsMagnitude cs ∧ (letter = 'E' ∨ letter = 'e') ∧
      x.text = String.ofList (withSign negative (cs ++ letter :: signedExponent e)) := by
  rw [text_of_coeff_ne_zero hzero, magnitudeText]
  cases hlayout : x.layout with
  | plain => exact absurd hlayout h
  | scientific => exact ⟨_, _, _, _, isMagnitude_leadingDigits _, .inl rfl, rfl⟩
  | scaled => exact ⟨_, _, _, _, isMagnitude_digits _, .inr rfl, rfl⟩

/-! ### Characters of the text -/

theorem IsMagnitude.ne_nil (h : IsMagnitude cs) : cs ≠ [] := by
  cases h with
  | whole hne => exact hne
  | pointed hds => simp

theorem IsMagnitude.numerals (h : IsMagnitude cs) : ∀ c ∈ cs, isNumeral c = true := by
  intro c hc
  rw [isNumeral_iff]
  cases h with
  | whole hne hd => exact .inl (hd c hc)
  | pointed hds hd hps hp =>
    rw [List.mem_append, List.mem_cons] at hc
    rcases hc with hc | hc | hc
    · exact .inl (hd c hc)
    · exact .inr hc
    · exact .inl (hp c hc)

theorem IsMagnitude.count_point_le (h : IsMagnitude cs) : cs.count '.' ≤ 1 := by
  have hnone : ∀ {ds : List Char}, (∀ c ∈ ds, c.isDigit = true) → ds.count '.' = 0 := by
    intro ds hd
    rw [List.count_eq_zero]
    intro hmem
    exact ne_point_of_isDigit (hd '.' hmem) rfl
  cases h with
  | whole hne hd =>
    rw [hnone hd]
    exact Nat.zero_le 1
  | pointed hds hd hps hp =>
    rw [List.count_append, List.count_cons_self, hnone hd, hnone hp]

/-- Whether the text has an exponent, which comes after one of two letters. -/
def hasExponent (text : String) : Bool :=
  text.toList.any fun c => c = 'E' || c = 'e'

/-- The text of a decimal has an exponent exactly in the layouts with one. -/
theorem hasExponent_text_iff {x : Decimal} :
    hasExponent x.text = true ↔ x.coeff ≠ 0 ∧ x.layout ≠ .plain := by
  constructor
  · intro h
    by_contra hplain
    obtain ⟨negative, cs, hmag, htext, -⟩ := exists_plain_text (x := x) (by tauto)
    rw [hasExponent, htext, String.toList_ofList, List.any_eq_true] at h
    obtain ⟨c, hc, hletter⟩ := h
    -- No letter is a digit, a point or a minus.
    have hchar : isNumeral c = true ∨ c = '-' := by
      cases negative with
      | false => exact .inl (hmag.numerals c hc)
      | true => exact (List.mem_cons.mp hc).symm.imp_left (hmag.numerals c)
    rcases Bool.or_eq_true_iff.mp hletter with hc' | hc'
    · obtain rfl := of_decide_eq_true hc'
      simp [isNumeral] at hchar
    · obtain rfl := of_decide_eq_true hc'
      simp [isNumeral] at hchar
  · rintro ⟨hzero, hlayout⟩
    obtain ⟨negative, cs, letter, e, -, hletter, htext⟩ := exists_exponent_text hzero hlayout
    rw [hasExponent, htext, String.toList_ofList, List.any_eq_true]
    refine ⟨letter, ?_, by simpa using hletter⟩
    cases negative <;> simp [withSign]

end Abacus.Decimal
