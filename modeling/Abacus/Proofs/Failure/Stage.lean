import Abacus.Proofs.Compilation
import Abacus.Proofs.Failure.Position
import Mathlib.Logic.ExistsUnique

/-! # The stage that fails

  The errors of a failed evaluation all come from one stage, and some errors of the later stages never
  occur, because the earlier stages exclude their causes (`evaluate_stages`):

  - a text with bad tokens reports those and nothing else, so no stage after the first ever sees one;
  - the functions of a text are in the table when they are called, and what is converted has a place
    in a postfix sequence;
  - a postfix token that is read leaves a value on the stack, so nothing is left in the end only if
    there was nothing to read, that is, only brackets.
-/

namespace Abacus

/-- The stages of an evaluation that can fail. -/
inductive Stage where
  /-- Finding the tokens. -/
  | lexical
  /-- Converting the tokens to postfix order. -/
  | structural
  /-- Running the postfix tokens. -/
  | evaluation
deriving DecidableEq, Repr

/-- The stage that an error comes from. -/
def CalcError.stage : CalcError → Stage
  | .lexical _ => .lexical
  | .structural _ => .structural
  | .evaluation _ => .evaluation

namespace Calculator

open Infix Postfix

variable {c : Calculator} {text : String} {d : Diagnostics}

/-! ### Errors that never occur -/

/-- No text makes a later stage meet a token that has no place there, or a function without a
    name. -/
theorem not_mem_of_evaluate_eq_error (h : c.evaluate text = .error d) :
    (∀ p, .structural (.unrecognizedToken p) ∉ d.toList) ∧
      (∀ p name, .evaluation (.unknownFunction p name) ∉ d.toList) ∧
      (∀ p lexeme, .evaluation (.unexpectedToken p lexeme) ∉ d.toList) := by
  rcases stages_of_evaluate_eq_error h with ⟨-, hd⟩ | ⟨hbad, problems, hproblems, rfl⟩ |
    ⟨hbad, ps, causes, hcompile, hcauses, rfl⟩
  · rw [hd]
    simp
  · refine ⟨?_, by simp, by simp⟩
    intro p hp
    obtain ⟨e, he, heq⟩ := Failures.mem_toList_map.mp hp
    cases heq
    cases position?_of_compile_eq_error hbad hproblems he
  · -- Either error would name a token of the text that it can be blamed on, but there is none.
    have hblames : ∀ (e : EvaluationError) (p : Nat), e.position? = some p →
        (∀ t, ¬e.Blames c.constants t) → CalcError.evaluation e ∉ (causes.map .evaluation).toList := by
      intro e p hp hnone hmem
      obtain ⟨e', he, heq⟩ := Failures.mem_toList_map.mp hmem
      cases heq
      obtain ⟨-, t, -, -, ht⟩ := pointsInto_of_evaluate_eq_error hbad hcompile hcauses he p hp
      exact hnone t ht
    refine ⟨by simp, ?_, ?_⟩
    · intro p name
      exact hblames (.unknownFunction p name) p rfl (fun _ h => h)
    · intro p lexeme
      exact hblames (.unexpectedToken p lexeme) p rfl (fun _ h => h)

/-! ### Texts with nothing to evaluate -/

/-- A text is reported as having nothing to evaluate only if it consists of balanced brackets, and
    then nothing else is reported. -/
theorem brackets_of_emptyExpression (h : c.evaluate text = .error d)
    (he : .evaluation .emptyExpression ∈ d.toList) :
    ((∀ t ∈ c.scan text, isBracket t = true) ∧ Balanced (c.scan text)) ∧
      d.toList = [.evaluation .emptyExpression] := by
  rcases stages_of_evaluate_eq_error h with ⟨-, hd⟩ | ⟨-, problems, -, rfl⟩ |
    ⟨-, ps, causes, hcompile, hcauses, rfl⟩
  · rw [hd] at he
    simp at he
  · simp at he
  · obtain ⟨e, hmem, heq⟩ := Failures.mem_toList_map.mp he
    cases heq
    obtain rfl : ps = [] := eq_nil_of_emptyExpression hcauses hmem
    cases hcauses
    exact ⟨compile_eq_nil_iff.mp hcompile, rfl⟩

/-- Balanced brackets by themselves are reported as having nothing to evaluate. -/
theorem evaluate_of_brackets (hbrackets : ∀ t ∈ c.scan text, isBracket t = true)
    (hbalanced : Balanced (c.scan text)) :
    c.evaluate text = .error (.one (.evaluation .emptyExpression)) := by
  have hbad : ∀ t ∈ c.scan text, t.kind ≠ .bad := by
    intro t ht hk
    have := hbrackets t ht
    simp [isBracket, hk] at this
  rw [evaluate_of_forall_ne_bad hbad,
    evaluateTokens_of_compile (compile_eq_nil_iff.mpr ⟨hbrackets, hbalanced⟩)]
  rfl

/-! ### One stage at a time -/

/-- A report is not empty, so its errors come from one stage at most. -/
theorem existsUnique_stage {stage : Stage} (h : ∀ e ∈ d.toList, e.stage = stage) :
    ∃! stage, ∀ e ∈ d.toList, e.stage = stage := by
  refine ⟨stage, h, ?_⟩
  intro other hother
  have hfirst : d.first ∈ d.toList := List.mem_cons_self
  rw [← hother d.first hfirst, h d.first hfirst]

/-- The errors of a failed evaluation come from one stage, which is the first exactly if there are bad
    tokens. -/
theorem exists_stage_of_evaluate_eq_error (h : c.evaluate text = .error d) :
    ∃ stage, (∀ e ∈ d.toList, e.stage = stage) ∧
      (stage = .lexical ↔ ∃ t ∈ c.scan text, t.kind = .bad) := by
  have hgood : (∀ t ∈ c.scan text, t.kind ≠ .bad) → ¬∃ t ∈ c.scan text, t.kind = .bad := by
    rintro hbad ⟨t, ht, hk⟩
    exact hbad t ht hk
  rcases stages_of_evaluate_eq_error h with ⟨hbad, hd⟩ | ⟨hbad, problems, -, rfl⟩ |
    ⟨hbad, ps, causes, -, -, rfl⟩
  · refine ⟨.lexical, ?_, by simp [hbad]⟩
    rw [hd]
    simp [CalcError.stage]
  · exact ⟨.structural, by simp [CalcError.stage], by simp [hgood hbad]⟩
  · exact ⟨.evaluation, by simp [CalcError.stage], by simp [hgood hbad]⟩

/-- A text with bad tokens fails with their errors, one for each of them and in order. -/
theorem evaluate_of_bad (h : ∃ t ∈ c.scan text, t.kind = .bad) :
    ∃ d, c.evaluate text = .error d ∧
      d.toList.map some = ((c.scan text).filter Token.isBad).map (·.error.map .lexical) := by
  have herrors : Token.errors (c.scan text) ≠ [] := by
    intro hnil
    obtain ⟨t, ht, hk⟩ := h
    exact Token.errors_scan_eq_nil_iff.mp hnil t ht hk
  obtain ⟨e, es, hcons⟩ := List.exists_cons_of_ne_nil herrors
  have hd : c.evaluate text = .error ((⟨e, es⟩ : Failures LexError).map .lexical) :=
    evaluate_eq_error_iff.mpr (.inl ⟨⟨e, es⟩, by rw [hcons]; rfl, rfl⟩)
  refine ⟨_, hd, ?_⟩
  have hmap : (Token.errors (c.scan text)).map some =
      ((c.scan text).filter Token.isBad).map (·.error) :=
    Token.map_some_errors fun t ht => Token.isSome_error_iff_of_mem_scan ht
  rw [hcons] at hmap
  have hmap := congrArg (List.map (Option.map CalcError.lexical)) hmap
  rw [List.map_map, List.map_map] at hmap
  rw [Failures.toList_map, List.map_map]
  exact hmap

/-- **Stages.** A text with bad tokens fails with their errors, one for each of them and in order; any
    other text that fails does so with errors of the structure only, or of the evaluation only. Some
    errors of these stages never occur. There are as many errors as bad tokens, so a text is never
    refused for its tokens without an error to report. That there is nothing to evaluate is reported
    exactly for balanced brackets by themselves, and then it is all that is reported. -/
theorem evaluate_stages (c : Calculator) (text : String) :
    (∀ d, c.evaluate text = .error d →
      d.toList ≠ [] ∧ (∃! stage, ∀ e ∈ d.toList, e.stage = stage) ∧
      ((∀ e ∈ d.toList, e.stage = .lexical) ↔ ∃ t ∈ c.scan text, t.kind = .bad) ∧
      (∀ p, .structural (.unrecognizedToken p) ∉ d.toList) ∧
      (∀ p name, .evaluation (.unknownFunction p name) ∉ d.toList) ∧
      (∀ p lexeme, .evaluation (.unexpectedToken p lexeme) ∉ d.toList) ∧
      (.evaluation .emptyExpression ∈ d.toList → d.toList = [.evaluation .emptyExpression])) ∧
    ((∃ t ∈ c.scan text, t.kind = .bad) → ∃ d, c.evaluate text = .error d ∧
      d.toList.map some = ((c.scan text).filter Token.isBad).map (·.error.map .lexical)) ∧
    (Token.errors (c.scan text)).length = Token.badCount (c.scan text) ∧
    ((∃ d, c.evaluate text = .error d ∧ .evaluation .emptyExpression ∈ d.toList) ↔
      (∀ t ∈ c.scan text, isBracket t = true) ∧ Balanced (c.scan text)) := by
  refine ⟨?_, evaluate_of_bad, Token.length_errors_scan, ?_⟩
  · intro d h
    obtain ⟨stage, hstage, hlexical⟩ := exists_stage_of_evaluate_eq_error h
    obtain ⟨hplace, hname, hpostfix⟩ := not_mem_of_evaluate_eq_error h
    refine ⟨d.toList_ne_nil, existsUnique_stage hstage, ?_, hplace, hname, hpostfix, ?_⟩
    · rw [← hlexical]
      constructor
      · intro hall
        have hfirst : d.first ∈ d.toList := List.mem_cons_self
        rw [← hstage d.first hfirst, hall d.first hfirst]
      · rintro rfl
        exact hstage
    · intro he
      exact (brackets_of_emptyExpression h he).2
  · constructor
    · rintro ⟨d, h, he⟩
      exact (brackets_of_emptyExpression h he).1
    · rintro ⟨hbrackets, hbalanced⟩
      exact ⟨_, evaluate_of_brackets hbrackets hbalanced, List.mem_singleton.mpr rfl⟩

/-- Brackets that do not balance are reported as such instead. -/
example : Calculator.standard.evaluate " ( () )( ) " = .error (.one (.evaluation .emptyExpression)) ∧
    Calculator.standard.evaluate "(()" = .error (.one (.structural (.unclosedBrackets 1))) := by
  decide +kernel

end Calculator

end Abacus
