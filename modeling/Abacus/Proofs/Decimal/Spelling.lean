import Abacus.Binary64.Shortest
import Abacus.Decimal.Text
import Abacus.Proofs.Binary64.Finite
import Abacus.Proofs.Decimal.Rational
import Abacus.Proofs.Token.Coverage
import Mathlib.Data.List.TakeWhile
import Mathlib.Tactic.FieldSimp

/-! # What a decimal text spells

  `reading` is the number that a text of digits, with at most one point and perhaps a minus in front,
  spells in the decimal system. Whatever number of digits it has, and wherever its point stands,

  - a number of an expression is read as a decimal that denotes its reading
    (`exists_ofLiteral?_of_numerals`), unless it is a point alone
    (`ofLiteral?_eq_none_iff_of_numerals`);
  - so is the text of every finite double, and no other text of a double is read at all
    (`exists_ofLiteral?_textOfFloat`, `ofLiteral?_textOfFloat_eq_none_iff`).
-/

namespace Abacus.Decimal

open Token

variable {cs ds ps : List Char}

/-! ### Readings -/

/-- The number that digits with at most one point among them spell: those after the point count as
    the digits of a decimal fraction. -/
def magnitudeReading (cs : List Char) : ℚ :=
  let whole := cs.takeWhile (· ≠ '.')
  let places := (cs.dropWhile (· ≠ '.')).tail
  ofDigits whole + ofDigits places / 10 ^ places.length

/-- The number that a text spells, which may have a minus in front. -/
def reading : List Char → ℚ
  | '-' :: cs => -magnitudeReading cs
  | cs => magnitudeReading cs

/-- Digits, or digits with a point among them. -/
inductive IsMagnitude : List Char → Prop where
  /-- Digits alone. -/
  | whole {ds : List Char} (hne : ds ≠ []) (hd : ∀ c ∈ ds, c.isDigit = true) : IsMagnitude ds
  /-- Digits on either side of a point. -/
  | pointed {ds ps : List Char} (hds : ds ≠ []) (hd : ∀ c ∈ ds, c.isDigit = true) (hps : ps ≠ [])
      (hp : ∀ c ∈ ps, c.isDigit = true) : IsMagnitude (ds ++ '.' :: ps)

theorem ne_point_of_isDigit {c : Char} (h : c.isDigit = true) : c ≠ '.' := by
  rintro rfl
  cases h

theorem magnitudeReading_whole (hd : ∀ c ∈ ds, c.isDigit = true) :
    magnitudeReading ds = ofDigits ds := by
  have hpoint : ∀ c ∈ ds, decide (c ≠ '.') = true :=
    fun c hc => decide_eq_true (ne_point_of_isDigit (hd c hc))
  rw [magnitudeReading, List.takeWhile_eq_self_iff.mpr hpoint,
    List.dropWhile_eq_nil_iff.mpr hpoint]
  simp [ofDigits]

theorem magnitudeReading_pointed (hd : ∀ c ∈ ds, c.isDigit = true) :
    magnitudeReading (ds ++ '.' :: ps) = ofDigits ds + ofDigits ps / 10 ^ ps.length := by
  have hpoint : ∀ c ∈ ds, decide (c ≠ '.') = true :=
    fun c hc => decide_eq_true (ne_point_of_isDigit (hd c hc))
  rw [magnitudeReading, List.takeWhile_append_of_pos hpoint, List.dropWhile_append_of_pos hpoint]
  simp

theorem ofDigits_append (ds ps : List Char) :
    ofDigits (ds ++ ps) = 10 ^ ps.length * ofDigits ds + ofDigits ps := by
  rw [ofDigits, Nat.ofDigitChars_append, Nat.ofDigitChars_eq_ofDigitChars_zero]
  rfl

/-! ### Reading a magnitude -/

theorem isDigit_head_of_isMagnitude (h : IsMagnitude cs) : ∀ c ∈ cs.head?, c.isDigit = true := by
  intro c hc
  cases h with
  | whole hne hd => exact hd c (List.mem_of_head? hc)
  | pointed hds hd =>
    rw [List.head?_append_of_ne_nil _ hds] at hc
    exact hd c (List.mem_of_head? hc)

theorem isDigit_getLast_of_isMagnitude (h : IsMagnitude cs) :
    ∀ c ∈ cs.getLast?, c.isDigit = true := by
  intro c hc
  cases h with
  | whole hne hd => exact hd c (List.mem_of_getLast? hc)
  | @pointed ds ps _ _ hps hp =>
    rw [List.getLast?_append_of_ne_nil _ (List.cons_ne_nil _ _), List.getLast?_cons_of_ne_nil hps]
      at hc
    exact hp c (List.mem_of_getLast? hc)

/-- A magnitude is read as the decimal that it spells. -/
theorem exists_readMagnitude? (h : IsMagnitude cs) :
    ∃ x, readMagnitude? cs = some x ∧ x.toRat = magnitudeReading cs := by
  cases h with
  | whole hne hd =>
    refine ⟨⟨ofDigits cs, 0⟩, ?_, ?_⟩
    · simp [readMagnitude?, List.takeWhile_eq_self_iff.mpr hd, List.dropWhile_eq_nil_iff.mpr hd,
        hne]
    · rw [magnitudeReading_whole hd]
      simp [toRat]
  | @pointed ds ps hds hd hps hp =>
    refine ⟨⟨ofDigits (ds ++ ps), ps.length⟩, ?_, ?_⟩
    · have hall : ps.all Char.isDigit = true := List.all_eq_true.mpr hp
      have htake : (ds ++ '.' :: ps).takeWhile Char.isDigit = ds := by
        rw [List.takeWhile_append_of_pos hd]
        simp
      have hdrop : (ds ++ '.' :: ps).dropWhile Char.isDigit = '.' :: ps := by
        rw [List.dropWhile_append_of_pos hd]
        simp
      simp [readMagnitude?, htake, hdrop, hds, hps, hall]
    · rw [magnitudeReading_pointed hd, toRat, ofDigits_append, zpow_neg, zpow_natCast]
      have hpow : (10 : ℚ) ^ ps.length ≠ 0 := pow_ne_zero _ (by norm_num)
      push_cast
      field_simp

/-- A text that begins with a digit has no sign. -/
theorem read?_of_isDigit_head (h : ∀ c ∈ cs.head?, c.isDigit = true) :
    read? cs = readMagnitude? cs := by
  unfold read?
  split
  next rest =>
    have hminus := h '-' rfl
    cases hminus
  next rest =>
    have hplus := h '+' rfl
    cases hplus
  next => rfl

theorem reading_of_head?_ne_minus (h : cs.head? ≠ some '-') : reading cs = magnitudeReading cs := by
  unfold reading
  split
  next => exact absurd rfl h
  next => rfl

/-! ### Numbers of an expression -/

/-- A run of digits and points with at most one point has at most digits on either side of it. -/
theorem eq_or_eq_of_numerals (h : ∀ c ∈ cs, isNumeral c = true) (hpoints : cs.count '.' ≤ 1) :
    (∀ c ∈ cs, c.isDigit = true) ∨
      ∃ ds ps, cs = ds ++ '.' :: ps ∧ (∀ c ∈ ds, c.isDigit = true) ∧
        ∀ c ∈ ps, c.isDigit = true := by
  by_cases hmem : '.' ∈ cs
  · right
    obtain ⟨ds, ps, rfl⟩ := List.append_of_mem hmem
    -- The point counts as one, so there is none on either side of it.
    have hcount : ds.count '.' = 0 ∧ ps.count '.' = 0 := by
      rw [List.count_append, List.count_cons_self] at hpoints
      omega
    refine ⟨ds, ps, rfl, ?_, ?_⟩
    · intro c hc
      refine (isNumeral_iff.mp (h c (by simp [hc]))).resolve_right ?_
      rintro rfl
      exact List.count_eq_zero.mp hcount.1 hc
    · intro c hc
      refine (isNumeral_iff.mp (h c (by simp [hc]))).resolve_right ?_
      rintro rfl
      exact List.count_eq_zero.mp hcount.2 hc
  · left
    intro c hc
    refine (isNumeral_iff.mp (h c hc)).resolve_right ?_
    rintro rfl
    exact hmem hc

theorem dropFinalPoint_of_isDigit (h : ∀ c ∈ cs.getLast?, c.isDigit = true) :
    dropFinalPoint cs = cs := by
  unfold dropFinalPoint
  rw [if_neg]
  intro hlast
  have hdigit := h '.' hlast
  cases hdigit

theorem padLeadingPoint_of_isDigit (h : ∀ c ∈ cs.head?, c.isDigit = true) :
    padLeadingPoint cs = cs := by
  unfold padLeadingPoint
  rw [if_neg]
  intro hhead
  have hdigit := h '.' hhead
  cases hdigit

/-- With its final point dropped and a zero before its leading one, a number of an expression has
    digits wherever it has a point, and spells the same. -/
theorem isMagnitude_of_numerals (h : ∀ c ∈ cs, isNumeral c = true) (hpoints : cs.count '.' ≤ 1)
    (hne : cs ≠ []) (hlone : cs ≠ ['.']) :
    IsMagnitude (padLeadingPoint (dropFinalPoint cs)) ∧
      magnitudeReading (padLeadingPoint (dropFinalPoint cs)) = magnitudeReading cs := by
  rcases eq_or_eq_of_numerals h hpoints with hd | ⟨ds, ps, rfl, hd, hp⟩
  · have hmag : IsMagnitude cs := .whole hne hd
    rw [dropFinalPoint_of_isDigit (isDigit_getLast_of_isMagnitude hmag),
      padLeadingPoint_of_isDigit (isDigit_head_of_isMagnitude hmag)]
    exact ⟨hmag, rfl⟩
  · by_cases hps : ps = []
    · -- Digits and a final point.
      subst hps
      have hds : ds ≠ [] := by
        rintro rfl
        exact hlone rfl
      have hmag : IsMagnitude ds := .whole hds hd
      have hdrop : dropFinalPoint (ds ++ ['.']) = ds := by simp [dropFinalPoint]
      rw [hdrop, padLeadingPoint_of_isDigit (isDigit_head_of_isMagnitude hmag)]
      refine ⟨hmag, ?_⟩
      rw [magnitudeReading_whole hd, magnitudeReading_pointed hd]
      simp [ofDigits]
    · have hdrop : dropFinalPoint (ds ++ '.' :: ps) = ds ++ '.' :: ps := by
        apply dropFinalPoint_of_isDigit
        intro c hc
        rw [List.getLast?_append_of_ne_nil _ (List.cons_ne_nil _ _),
          List.getLast?_cons_of_ne_nil hps] at hc
        exact hp c (List.mem_of_getLast? hc)
      rw [hdrop]
      by_cases hds : ds = []
      · -- A leading point and digits.
        subst hds
        have hzero : ∀ c ∈ ['0'], c.isDigit = true := by simp
        have hpad : padLeadingPoint ([] ++ '.' :: ps) = ['0'] ++ '.' :: ps := rfl
        rw [hpad]
        refine ⟨.pointed (by simp) hzero hps hp, ?_⟩
        rw [magnitudeReading_pointed hzero, magnitudeReading_pointed (by simp)]
        rfl
      · have hmag : IsMagnitude (ds ++ '.' :: ps) := .pointed hds hd hps hp
        rw [padLeadingPoint_of_isDigit (isDigit_head_of_isMagnitude hmag)]
        exact ⟨hmag, rfl⟩

/-- Numbers of an expression are read as decimals that denote what they spell. -/
theorem exists_ofLiteral?_of_numerals {lexeme : String}
    (h : ∀ c ∈ lexeme.toList, isNumeral c = true) (hpoints : lexeme.toList.count '.' ≤ 1)
    (hne : lexeme.toList ≠ []) (hlone : lexeme ≠ ".") :
    ∃ x, ofLiteral? lexeme = some x ∧ x.toRat = reading lexeme.toList := by
  have hlone' : lexeme.toList ≠ ['.'] := by
    intro heq
    apply hlone
    rw [← String.ofList_toList (s := lexeme), heq]
  obtain ⟨hmag, hreading⟩ := isMagnitude_of_numerals h hpoints hne hlone'
  obtain ⟨x, hx, hvalue⟩ := exists_readMagnitude? hmag
  refine ⟨x, ?_, ?_⟩
  · rw [ofLiteral?, read?_of_isDigit_head (isDigit_head_of_isMagnitude hmag), hx]
  · rw [hvalue, hreading, reading_of_head?_ne_minus]
    intro hhead
    have hminus := h '-' (List.mem_of_head? hhead)
    cases hminus

/-- Of the numbers of an expression only a point alone is not read. -/
theorem ofLiteral?_eq_none_iff_of_numerals {lexeme : String}
    (h : ∀ c ∈ lexeme.toList, isNumeral c = true) (hpoints : lexeme.toList.count '.' ≤ 1)
    (hne : lexeme.toList ≠ []) : ofLiteral? lexeme = none ↔ lexeme = "." := by
  constructor
  · intro hnone
    by_contra hlone
    obtain ⟨x, hx, -⟩ := exists_ofLiteral?_of_numerals h hpoints hne hlone
    rw [hx] at hnone
    cases hnone
  · rintro rfl
    rfl

/-! ### Texts of doubles -/

theorem isDigit_of_mem_digits {n : ℕ} {c : Char} (h : c ∈ digits n) : c.isDigit = true :=
  Nat.isDigit_of_mem_toDigits (by norm_num) (by norm_num) h

theorem isMagnitude_withPoint {places : ℕ} (hd : ∀ c ∈ ds, c.isDigit = true)
    (hplaces : 0 < places) : IsMagnitude (withPoint ds places) := by
  unfold withPoint
  dsimp only
  -- Enough zeros are put in front that a digit is left before the point.
  have hpadded : ∀ c ∈ List.replicate (places + 1 - ds.length) '0' ++ ds, c.isDigit = true := by
    intro c hc
    rcases List.mem_append.mp hc with hc | hc
    · rw [List.eq_of_mem_replicate hc]
      rfl
    · exact hd c hc
  have hlength : places + 1 ≤ (List.replicate (places + 1 - ds.length) '0' ++ ds).length := by
    rw [List.length_append, List.length_replicate]
    omega
  generalize List.replicate (places + 1 - ds.length) '0' ++ ds = padded at hpadded hlength
  refine .pointed ?_ (fun c hc => hpadded c (List.mem_of_mem_take hc)) ?_
    (fun c hc => hpadded c (List.mem_of_mem_drop hc))
  · rw [← List.length_pos_iff, List.length_take]
    omega
  · rw [← List.length_pos_iff, List.length_drop]
    omega

theorem isMagnitude_plainDigits (n : ℕ) (scale : ℤ) : IsMagnitude (plainDigits n scale) := by
  unfold plainDigits
  split
  next =>
    refine .whole ?_ ?_
    · intro hnil
      exact Nat.toDigits_ne_nil (List.append_eq_nil_iff.mp hnil).1
    · intro c hc
      rcases List.mem_append.mp hc with hc | hc
      · exact isDigit_of_mem_digits hc
      · rw [List.eq_of_mem_replicate hc]
        rfl
  next hscale =>
    exact isMagnitude_withPoint (fun c => isDigit_of_mem_digits) (by omega)

/-- A magnitude, with or without a minus in front, is read as the decimal that it spells. -/
theorem exists_ofLiteral?_of_isMagnitude (negative : Bool) (h : IsMagnitude cs) :
    ∃ x, ofLiteral? (String.ofList (if negative then '-' :: cs else cs)) = some x ∧
      x.toRat = reading (if negative then '-' :: cs else cs) := by
  obtain ⟨x, hx, hvalue⟩ := exists_readMagnitude? h
  have hhead := isDigit_head_of_isMagnitude h
  have hlast := isDigit_getLast_of_isMagnitude h
  unfold ofLiteral?
  rw [String.toList_ofList]
  cases negative with
  | false =>
    refine ⟨x, ?_, ?_⟩
    · rw [if_neg (by simp), dropFinalPoint_of_isDigit hlast, padLeadingPoint_of_isDigit hhead,
        read?_of_isDigit_head hhead, hx]
    · rw [if_neg (by simp), hvalue, reading_of_head?_ne_minus]
      intro hminus
      have hdigit := hhead '-' hminus
      cases hdigit
  | true =>
    have hne : cs ≠ [] := by
      cases h with
      | whole hne => exact hne
      | pointed hds => simp
    have hdrop : dropFinalPoint ('-' :: cs) = '-' :: cs := by
      apply dropFinalPoint_of_isDigit
      rw [List.getLast?_cons_of_ne_nil hne]
      exact hlast
    refine ⟨⟨-x.coeff, x.scale⟩, ?_, ?_⟩
    · rw [if_pos rfl, hdrop]
      show (readMagnitude? cs).map _ = _
      rw [hx, Option.map_some]
    · rw [if_pos rfl]
      show _ = -magnitudeReading cs
      rw [← hvalue, toRat, toRat]
      push_cast
      ring

/-- The text of a finite double is read as the decimal that it spells. -/
theorem exists_ofLiteral?_textOfFloat {v : Float} (h : v.isFinite = true) :
    ∃ x, ofLiteral? (Binary64.textOfFloat v) = some x ∧
      x.toRat = reading (Binary64.textOfFloat v).toList := by
  obtain ⟨b, hb⟩ := Option.isSome_iff_exists.mp ((Binary64.isSome_ofFloat?_iff v).mpr h)
  have htext : Binary64.textOfFloat v = b.text := by
    rw [Binary64.textOfFloat, hb]
  rw [htext, Binary64.text, String.toList_ofList]
  exact exists_ofLiteral?_of_isMagnitude b.negative (isMagnitude_plainDigits _ _)

/-- Only the text of an infinite double, and of what is no number, is not read. -/
theorem ofLiteral?_textOfFloat_eq_none_iff {v : Float} :
    ofLiteral? (Binary64.textOfFloat v) = none ↔ v.isFinite = false := by
  constructor
  · intro hnone
    by_contra hfinite
    have hfinite : v.isFinite = true := by simpa using hfinite
    obtain ⟨x, hx, -⟩ := exists_ofLiteral?_textOfFloat hfinite
    rw [hx] at hnone
    cases hnone
  · intro h
    have hnone : Binary64.ofFloat? v = none := by
      rw [← Option.not_isSome_iff_eq_none, Binary64.isSome_ofFloat?_iff, h]
      simp
    rw [Binary64.textOfFloat, hnone]
    dsimp only
    split
    · rfl
    · split <;> rfl

end Abacus.Decimal
