import Abacus.Proofs.Conversion.Borrowing
import Abacus.Proofs.Stages
import Mathlib.Control.Monad.Basic

/-! # Do brackets isolate their contents?

  A bracket group of an expression with a value can be evaluated by itself, and its value put in its
  place, exactly if the group does not borrow (`isolated_iff`). A group that borrows has no value by
  itself; inside an expression it takes the operand that it lacks from outside.

  The conversion treats a group and a number alike, but for what they put out. The run treats the two
  alike as long as the group needs no value from below.
-/

namespace Abacus

namespace Calculator

open Infix Postfix

variable {c : Calculator} {ts : List Token} {v : Decimal}

/-- If every minus subtracts, the tokens are evaluated as they stand. -/
theorem evaluateTokens_eq_ok_iff_run (h : minusesSubtract false ts = true) :
    c.evaluateTokens ts = .ok v ↔
      ∃ qs, ofInfix ts = .ok qs ∧
        Postfix.run c.functions [] (substituteConstants c.constants qs) = .ok [v] := by
  have hnorm : normalizeMinus ts = ts := normalizeFrom_of_minusesSubtract h
  rw [evaluateTokens_eq_ok_iff]
  constructor
  · rintro ⟨ps, hps, hv⟩
    obtain ⟨qs, hqs, rfl⟩ := compile_eq_ok_iff_substitute_last.mp hps
    rw [hnorm] at hqs
    exact ⟨qs, hqs, Postfix.evaluate_eq_ok_iff.mp hv⟩
  · rintro ⟨qs, hqs, hv⟩
    refine ⟨_, compile_eq_ok_iff_substitute_last.mpr ⟨qs, ?_, rfl⟩,
      Postfix.evaluate_eq_ok_iff.mpr hv⟩
    rw [hnorm]
    exact hqs

/-- A number may stand wherever a group stands. -/
theorem minusesSubtract_exchange {front back : List Token} (o : TokenOf .openBracket)
    (x : Phrase false .expression) (c : TokenOf .closeBracket) {t : Token} (ht : t.kind = .number)
    (h : minusesSubtract false (front ++ (Phrase.group o x c).yield ++ back) = true) :
    minusesSubtract false (front ++ [t] ++ back) = true := by
  have hgroup : ∀ afterValue : Bool,
      minusesSubtract afterValue ((Phrase.group o x c).yield ++ back) =
        minusesSubtract true back := by
    intro afterValue
    have hyield : (Phrase.group o x c).yield ++ back = ↑o :: (x.yield ++ ↑c :: back) := by
      simp [Phrase.yield]
    rw [hyield, minusesSubtract, isMinus_eq_false (by simp [o.2]), o.2]
    show (_ && minusesSubtract false _) = _
    rw [minusesSubtract_yield, minusesSubtract, isMinus_eq_false (by simp [c.2]), c.2]
    rfl
  have hnumber : ∀ afterValue : Bool,
      minusesSubtract afterValue ([t] ++ back) = minusesSubtract true back := by
    intro afterValue
    rw [List.singleton_append, minusesSubtract, isMinus_eq_false (by simp [ht]), ht]
    rfl
  rw [List.append_assoc, minusesSubtract_append, hgroup] at h
  rw [List.append_assoc, minusesSubtract_append, hnumber]
  exact h

/-- Tokens in the middle of a sequence that leave nothing waiting are evaluated on the values before
    them, between runs that do not depend on them. -/
theorem exists_evaluateTokens_around (c : Calculator) (front back : List Token) :
    ∃ (fits : Prop) (before after : List Token), ∀ mid out : List Token,
      (∀ s : Conversion, s.read mid = s.extend out []) →
        minusesSubtract false (front ++ mid ++ back) = true → ∀ v,
          (c.evaluateTokens (front ++ mid ++ back) = .ok v ↔
            fits ∧ ∃ below stack, Postfix.run c.functions [] before = .ok below ∧
              Postfix.run c.functions below (substituteConstants c.constants out) = .ok stack ∧
              Postfix.run c.functions stack after = .ok [v]) := by
  obtain ⟨fits, before, after, haround⟩ := Conversion.exists_ofInfix_around front back
  refine ⟨fits, substituteConstants c.constants before, substituteConstants c.constants after, ?_⟩
  intro mid out hmid hsub v
  have hsplit : substituteConstants c.constants (before ++ out ++ after) =
      substituteConstants c.constants before ++ substituteConstants c.constants out ++
        substituteConstants c.constants after := by
    simp [substituteConstants]
  rw [evaluateTokens_eq_ok_iff_run hsub]
  constructor
  · rintro ⟨qs, hqs, hrun⟩
    obtain ⟨hfits, rfl⟩ := (haround mid out hmid qs).mp hqs
    rw [hsplit] at hrun
    obtain ⟨stack, hmid, hafter⟩ := run_append_eq_ok_iff.mp hrun
    obtain ⟨below, hbefore, hout⟩ := run_append_eq_ok_iff.mp hmid
    exact ⟨hfits, below, stack, hbefore, hout, hafter⟩
  · rintro ⟨hfits, below, stack, hbefore, hout, hafter⟩
    refine ⟨before ++ out ++ after, (haround mid out hmid _).mpr ⟨hfits, rfl⟩, ?_⟩
    rw [hsplit]
    refine run_append_eq_ok_iff.mpr ⟨stack, ?_, hafter⟩
    exact run_append_eq_ok_iff.mpr ⟨below, hbefore, hout⟩

/-- **Isolation.** In an expression with the value `v`, a group can be evaluated by itself, and any
    number with its value can stand in its place, exactly if the group does not borrow. -/
theorem isolated_iff (c : Calculator) (front back : List Token) (o : TokenOf .openBracket)
    (x : Phrase false .expression) (cl : TokenOf .closeBracket)
    (hsentence : Sentence false (front ++ ↑o :: x.yield ++ ↑cl :: back)) {v : Decimal}
    (hv : c.evaluateTokens (front ++ ↑o :: x.yield ++ ↑cl :: back) = .ok v) :
    (∃ w, c.evaluateTokens x.yield = .ok w ∧
      ∀ t : Token, t.kind = .number → readNumber t = .ok w →
        c.evaluateTokens (front ++ t :: back) = .ok v) ↔
      x.borrows = false := by
  obtain ⟨out, hyields, halone, hgroup⟩ := (Conversion.reads x).exists_output
  obtain ⟨fits, before, after, haround⟩ := exists_evaluateTokens_around c front back
  have hself : ∀ w, c.evaluateTokens x.yield = .ok w ↔
      Postfix.run c.functions [] (substituteConstants c.constants out) = .ok [w] := by
    intro w
    rw [evaluateTokens_eq_ok_iff_run (minusesSubtract_of_sentence ⟨x, rfl⟩), halone]
    simp
  constructor
  · rintro ⟨w, hw, -⟩
    -- A value of the group by itself means that it needs nothing from below.
    have hheight := run_height ((hself w).mp hw)
    rw [height_substituteConstants, List.length_nil, hyields 0] at hheight
    by_contra hb
    rw [if_pos ⟨by simpa using hb, rfl⟩] at hheight
    cases hheight
  · intro hb
    have hheight : height 0 (substituteConstants c.constants out) = some 1 := by
      rw [height_substituteConstants, hyields 0, if_neg (by simp [hb])]
    have heq : front ++ ↑o :: x.yield ++ ↑cl :: back =
        front ++ (Phrase.group o x cl).yield ++ back := by
      simp [Phrase.yield]
    have hsub := minusesSubtract_of_sentence hsentence
    rw [heq] at hsub hv
    obtain ⟨hfits, below, stack, hbefore, hout, hafter⟩ :=
      (haround _ out (hgroup o cl) hsub v).mp hv
    obtain ⟨w, rfl, hw⟩ := run_frame_one hheight hout
    refine ⟨w, (hself w).mpr hw, ?_⟩
    intro t ht hread
    -- The number puts on the stack what the group left there.
    have hstep : Postfix.step c.functions below t = .ok (w :: below) :=
      step_eq_ok_iff.mpr (.inl ⟨ht, w, hread, rfl⟩)
    have hsubst : substituteConstants c.constants [t] = [t] := by
      simp [substituteConstants, substitute_of_ne_constant c.constants (t := t) (by simp [ht])]
    have hsingle : ∀ s : Conversion, s.read [t] = s.extend [t] [] :=
      fun s => Conversion.step_operand s (by rw [ht]; rfl)
    have hcons : front ++ t :: back = front ++ [t] ++ back := by simp
    rw [hcons]
    refine (haround [t] [t] hsingle (minusesSubtract_exchange o x cl ht hsub) v).mpr
      ⟨hfits, below, w :: below, hbefore, ?_, hafter⟩
    rw [hsubst]
    exact run_cons_eq_ok_iff.mpr ⟨_, hstep, rfl⟩

/-! ### A group that borrows, and one that does not -/

/-- The tokens of `3+4` in `2*(3+4)`. -/
def sumOfTwo : Phrase false .expression :=
  .binary (.single (.number (.ofText .number "3" 3))) (.ofText (.operator .add) "+" 4)
    (.number (.ofText .number "4" 5))

/-- The tokens of `3*sqrt(16)` in `2+(3*sqrt(16))`. -/
def productWithRoot : Phrase false .expression :=
  .binary (.single (.number (.ofText .number "3" 3))) (.ofText (.operator .multiply) "*" 4)
    (.call (.ofText .function "sqrt" 5)
      (.group (.ofText .openBracket "(" 9) (.single (.number (.ofText .number "16" 10)))
        (.ofText .closeBracket ")" 12)))

theorem isolated_sumOfTwo :
    Calculator.standard.evaluateTokens
        ([.ofText .number "2" 0, .ofText (.operator .multiply) "*" 1] ++
          .ofText .openBracket "(" 2 :: sumOfTwo.yield ++ [.ofText .closeBracket ")" 6]) =
        .ok ⟨14, 0⟩ ∧
      ∃ w, Calculator.standard.evaluateTokens sumOfTwo.yield = .ok w ∧
        ∀ t : Token, t.kind = .number → readNumber t = .ok w →
          Calculator.standard.evaluateTokens
            ([.ofText .number "2" 0, .ofText (.operator .multiply) "*" 1] ++ [t]) =
            .ok ⟨14, 0⟩ := by
  let o : TokenOf .openBracket := .ofText .openBracket "(" 2
  let cl : TokenOf .closeBracket := .ofText .closeBracket ")" 6
  have hsentence : Sentence false ([.ofText .number "2" 0, .ofText (.operator .multiply) "*" 1] ++
      o.1 :: sumOfTwo.yield ++ [cl.1]) :=
    ⟨.binary (.single (.number (.ofText .number "2" 0))) (.ofText (.operator .multiply) "*" 1)
      (.group o sumOfTwo cl), rfl⟩
  have hv : Calculator.standard.evaluateTokens
      ([.ofText .number "2" 0, .ofText (.operator .multiply) "*" 1] ++
        o.1 :: sumOfTwo.yield ++ [cl.1]) = .ok ⟨14, 0⟩ := by
    decide +kernel
  exact ⟨hv, (isolated_iff .standard _ [] o sumOfTwo cl hsentence hv).mpr rfl⟩

/-- In `2+(3*sqrt(16))` the product takes the two from outside the brackets, although the brackets
    hold no value by themselves. -/
theorem not_isolated_productWithRoot :
    Calculator.standard.scan "2+(3*sqrt(16))" =
        [.ofText .number "2" 0, .ofText (.operator .add) "+" 1] ++
          .ofText .openBracket "(" 2 :: productWithRoot.yield ++ [.ofText .closeBracket ")" 13] ∧
      Sentence false (Calculator.standard.scan "2+(3*sqrt(16))") ∧
      Calculator.standard.evaluateTokens (Calculator.standard.scan "2+(3*sqrt(16))") =
        .ok ⟨10, 0⟩ ∧
      ¬∃ w, Calculator.standard.evaluateTokens productWithRoot.yield = .ok w := by
  have hscan : Calculator.standard.scan "2+(3*sqrt(16))" =
      [.ofText .number "2" 0, .ofText (.operator .add) "+" 1] ++
        .ofText .openBracket "(" 2 :: productWithRoot.yield ++ [.ofText .closeBracket ")" 13] := by
    decide +kernel
  have hfails : Calculator.standard.evaluateTokens productWithRoot.yield =
      .error (.one (.evaluation .tooManyOperators)) := by
    decide +kernel
  refine ⟨hscan, ?_, by decide +kernel, ?_⟩
  · rw [hscan]
    exact ⟨.binary (.single (.number (.ofText .number "2" 0))) (.ofText (.operator .add) "+" 1)
      (.group (.ofText .openBracket "(" 2) productWithRoot (.ofText .closeBracket ")" 13)), rfl⟩
  · rintro ⟨w, hw⟩
    rw [hfails] at hw
    cases hw

end Calculator

end Abacus
