import Abacus.Proofs.Conversion.Conservation
import Abacus.Proofs.Grammar.Natural
import Abacus.Proofs.Stages
import Mathlib.Control.Monad.Basic

/-! # What a value says about the text

  Nothing checks that a text is well-formed before it is converted. What a value does show is that
  the brackets balance and that operands and operators are there in the right numbers; where they
  stand is not checked. So a text with a value is a sentence of the natural grammar exactly if each
  of its tokens can stand after the one before it (`sentence_iff_alternates`).
-/

namespace Abacus.Calculator

open Infix

variable {c : Calculator} {ts : List Token} {v : Decimal}

/-- Only tokens with balanced brackets have a value. -/
theorem balanced_of_evaluateTokens (h : c.evaluateTokens ts = .ok v) : Balanced ts := by
  obtain ⟨ps, hps, -⟩ := evaluateTokens_eq_ok_iff.mp h
  obtain ⟨qs, hqs, -⟩ := compile_eq_ok_iff_substitute_last.mp hps
  have hbalanced : depth 0 (normalizeFrom false ts) = some 0 := Postfix.balanced_of_ofInfix hqs
  rw [depth_normalizeFrom] at hbalanced
  exact hbalanced

/-- Tokens with a value have, once their minus signs are expanded, one operand more than they have
    operators. -/
theorem countP_isOperand_of_evaluateTokens (h : c.evaluateTokens ts = .ok v) :
    (normalizeMinus ts).countP (·.kind.isOperand) =
      (normalizeMinus ts).countP (·.kind.isOperator) + 1 := by
  obtain ⟨ps, hps, hv⟩ := evaluateTokens_eq_ok_iff.mp h
  obtain ⟨qs, hqs, rfl⟩ := compile_eq_ok_iff_substitute_last.mp hps
  -- The height of the output counts its tokens, which are those of the input.
  have hheight := Postfix.run_height (Postfix.evaluate_eq_ok_iff.mp hv)
  rw [Postfix.height_substituteConstants] at hheight
  have hcount := Postfix.height_count hheight
  have hoperands := Postfix.countP_kind_ofInfix (f := TokenKind.isOperand) rfl rfl hqs
  have hoperators := Postfix.countP_kind_ofInfix (f := TokenKind.isOperator) rfl rfl hqs
  simp only [List.length_nil, List.length_singleton] at hcount
  omega

/-- **Acceptance of texts.** The brackets of a text with a value balance, and once its minus signs are
    expanded it has one operand more than it has operators. It is a sentence exactly if each token
    can stand after the one before it. -/
theorem sentence_iff_alternates (c : Calculator) (text : String) {v : Decimal}
    (h : c.evaluate text = .ok v) :
    Balanced (c.scan text) ∧
      (normalizeMinus (c.scan text)).countP (·.kind.isOperand) =
        (normalizeMinus (c.scan text)).countP (·.kind.isOperator) + 1 ∧
      (Sentence true (c.scan text) ↔ alternates false (c.scan text) = true) := by
  obtain ⟨-, hv⟩ := evaluate_eq_ok_iff.mp h
  have hbalanced := balanced_of_evaluateTokens hv
  refine ⟨hbalanced, countP_isOperand_of_evaluateTokens hv, ?_⟩
  rw [sentence_iff]
  constructor
  · rintro ⟨-, halt⟩
    exact halt
  · intro halt
    exact ⟨hbalanced, halt⟩

theorem sentence_of_evaluate_difference :
    Calculator.standard.evaluate "(1-2)*-3" = .ok ⟨3, 0⟩ ∧
      Sentence true (Calculator.standard.scan "(1-2)*-3") := by
  have hv : Calculator.standard.evaluate "(1-2)*-3" = .ok ⟨3, 0⟩ := by decide +kernel
  have halt : alternates false (Calculator.standard.scan "(1-2)*-3") = true := by decide +kernel
  exact ⟨hv, (sentence_iff_alternates .standard _ hv).2.2.mpr halt⟩

/-- The postfix notation of a sum has the value of the sum, but is no sentence. -/
theorem not_sentence_of_evaluate_postfix :
    Calculator.standard.evaluate "1 2 +" = .ok ⟨3, 0⟩ ∧
      ¬Sentence true (Calculator.standard.scan "1 2 +") := by
  refine ⟨by decide +kernel, ?_⟩
  intro hsentence
  have halt := (sentence_iff.mp hsentence).2
  have hfalse : alternates false (Calculator.standard.scan "1 2 +") = false := by decide +kernel
  rw [hfalse] at halt
  cases halt

end Abacus.Calculator
