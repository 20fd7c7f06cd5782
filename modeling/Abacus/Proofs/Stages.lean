import Abacus.Calculator
import Abacus.Proofs.Conversion.Conservation
import Abacus.Proofs.Infix.Substitution
import Abacus.Proofs.Token.Scanned

/-! # How the stages end

  A text has a value exactly if it has no bad token, its tokens compile to postfix order, and the
  postfix sequence has that value. If it has none, exactly one of the three stages fails, and the
  errors are those of this stage. Every compiled token is a token of the text, perhaps with a number
  for a constant, or a zero in front of a minus (`source_of_mem_compile`).
-/

namespace Abacus.Calculator

open Infix

variable {c : Calculator} {ts ps : List Token} {text : String} {v : Decimal} {d : Diagnostics}

/-! ### Bad tokens -/

/-- Bad tokens have errors to report, so the report about them is never that of an empty list. -/
theorem ofErrors_scan (h : 0 < Token.badCount (c.scan text)) :
    ∃ errors : Failures LexError, Failures.ofList? (Token.errors (c.scan text)) = some errors ∧
      Diagnostics.ofErrors ((Token.errors (c.scan text)).map .lexical) = errors.map .lexical := by
  have hlength : (Token.errors (c.scan text)).length = Token.badCount (c.scan text) :=
    Token.length_errors_scan
  cases he : Token.errors (c.scan text) with
  | nil =>
    rw [he, List.length_nil] at hlength
    omega
  | cons e es => exact ⟨⟨e, es⟩, rfl, rfl⟩

/-- What is made of the tokens of a text: the errors of the bad ones, or else their value. -/
def evaluateScanned (c : Calculator) (ts : List Token) : Except Diagnostics Decimal :=
  match Failures.ofList? (Token.errors ts) with
  | some errors => .error (errors.map .lexical)
  | none => c.evaluateTokens ts

/-- A text has bad tokens exactly if its tokens have errors. -/
theorem evaluate_eq_evaluateScanned (c : Calculator) (text : String) :
    c.evaluate text = c.evaluateScanned (c.scan text) := by
  unfold evaluate evaluateScanned
  by_cases hbad : 0 < Token.badCount (c.scan text)
  · obtain ⟨errors, hsome, hreport⟩ := ofErrors_scan hbad
    simp only [if_pos hbad, hreport, hsome]
  · have hlength : (Token.errors (c.scan text)).length = Token.badCount (c.scan text) :=
      Token.length_errors_scan
    have hnil : Token.errors (c.scan text) = [] := List.eq_nil_of_length_eq_zero (by omega)
    simp only [if_neg hbad, hnil, Failures.ofList?]

/-- A text without bad tokens is evaluated by its tokens. -/
theorem evaluate_of_forall_ne_bad (h : ∀ t ∈ c.scan text, t.kind ≠ .bad) :
    c.evaluate text = c.evaluateTokens (c.scan text) := by
  have herrors : Token.errors (c.scan text) = [] := Token.errors_scan_eq_nil_iff.mpr h
  rw [evaluate_eq_evaluateScanned, evaluateScanned, herrors]
  rfl

/-! ### Values -/

theorem compile_eq_ok_iff :
    c.compile ts = .ok ps ↔
      Postfix.ofInfix (normalizeMinus (substituteConstants c.constants ts)) = .ok ps :=
  Outcome.mapError_eq_ok_iff

/-- A compilation succeeds exactly if the conversion does with the constants left as they are, and the
    constants may be replaced in its output. -/
theorem compile_eq_ok_iff_substitute_last :
    c.compile ts = .ok ps ↔
      ∃ qs, Postfix.ofInfix (normalizeMinus ts) = .ok qs ∧
        ps = substituteConstants c.constants qs := by
  rw [compile_eq_ok_iff, normalizeMinus_substituteConstants, Postfix.ofInfix_substituteConstants,
    Outcome.map_eq_ok_iff]
  simp only [eq_comm]

theorem run_eq_ok_iff : c.run ps = .ok v ↔ Postfix.evaluate c.functions ps = .ok v :=
  Outcome.mapError_eq_ok_iff

theorem evaluateTokens_eq_ok_iff :
    c.evaluateTokens ts = .ok v ↔
      ∃ ps, c.compile ts = .ok ps ∧ Postfix.evaluate c.functions ps = .ok v := by
  unfold evaluateTokens
  rw [Outcome.bind_eq_ok_iff]
  simp only [run_eq_ok_iff]

/-- Once the tokens are compiled, only the run is left. -/
theorem evaluateTokens_of_compile (h : c.compile ts = .ok ps) : c.evaluateTokens ts = c.run ps := by
  unfold evaluateTokens
  rw [h]
  rfl

theorem evaluate_eq_ok_iff :
    c.evaluate text = .ok v ↔
      (∀ t ∈ c.scan text, t.kind ≠ .bad) ∧ c.evaluateTokens (c.scan text) = .ok v := by
  have herrors : Token.errors (c.scan text) = [] ↔ ∀ t ∈ c.scan text, t.kind ≠ .bad :=
    Token.errors_scan_eq_nil_iff
  rw [← herrors, evaluate_eq_evaluateScanned, evaluateScanned]
  cases he : Token.errors (c.scan text) with
  | nil => simp [Failures.ofList?]
  | cons e es => simp [Failures.ofList?]

/-! ### Errors -/

theorem compile_eq_error_iff :
    c.compile ts = .error d ↔
      ∃ problems : Failures SyntaxError,
        Postfix.ofInfix (normalizeMinus (substituteConstants c.constants ts)) = .error problems ∧
          problems.map .structural = d :=
  Outcome.mapError_eq_error_iff

theorem run_eq_error_iff :
    c.run ps = .error d ↔
      ∃ causes : Failures EvaluationError,
        Postfix.evaluate c.functions ps = .error causes ∧ causes.map .evaluation = d :=
  Outcome.mapError_eq_error_iff

theorem evaluateTokens_eq_error_iff :
    c.evaluateTokens ts = .error d ↔
      c.compile ts = .error d ∨ ∃ ps, c.compile ts = .ok ps ∧ c.run ps = .error d :=
  Outcome.bind_eq_error_iff

/-- A text fails for its bad tokens, or has none and its tokens fail. -/
theorem evaluate_eq_error_iff :
    c.evaluate text = .error d ↔
      (∃ errors : Failures LexError, Failures.ofList? (Token.errors (c.scan text)) = some errors ∧
        errors.map .lexical = d) ∨
      ((∀ t ∈ c.scan text, t.kind ≠ .bad) ∧ c.evaluateTokens (c.scan text) = .error d) := by
  have herrors : Token.errors (c.scan text) = [] ↔ ∀ t ∈ c.scan text, t.kind ≠ .bad :=
    Token.errors_scan_eq_nil_iff
  rw [← herrors, evaluate_eq_evaluateScanned, evaluateScanned]
  cases he : Token.errors (c.scan text) with
  | nil => simp [Failures.ofList?]
  | cons e es => simp [Failures.ofList?]

/-- A failed evaluation fails in one of its stages, with the errors of this stage. -/
theorem stages_of_evaluate_eq_error (h : c.evaluate text = .error d) :
    ((∃ t ∈ c.scan text, t.kind = .bad) ∧
      d.toList = (Token.errors (c.scan text)).map .lexical) ∨
    ((∀ t ∈ c.scan text, t.kind ≠ .bad) ∧ ∃ problems : Failures SyntaxError,
      Postfix.ofInfix (normalizeMinus (substituteConstants c.constants (c.scan text))) =
        .error problems ∧ d = problems.map .structural) ∨
    ((∀ t ∈ c.scan text, t.kind ≠ .bad) ∧ ∃ (ps : List Token) (causes : Failures EvaluationError),
      c.compile (c.scan text) = .ok ps ∧ Postfix.evaluate c.functions ps = .error causes ∧
        d = causes.map .evaluation) := by
  rcases evaluate_eq_error_iff.mp h with ⟨errors, herrors, rfl⟩ | ⟨hbad, h⟩
  · have herrors : Token.errors (c.scan text) = errors.toList :=
      Failures.ofList?_eq_some_iff.mp herrors
    refine .inl ⟨?_, by rw [Failures.toList_map, herrors]⟩
    -- Without bad tokens there would be no errors to report.
    by_contra hnone
    have hnil : Token.errors (c.scan text) = [] :=
      Token.errors_scan_eq_nil_iff.mpr fun t ht hk => hnone ⟨t, ht, hk⟩
    rw [hnil] at herrors
    exact errors.toList_ne_nil herrors.symm
  rcases evaluateTokens_eq_error_iff.mp h with h | ⟨ps, hcompile, h⟩
  · obtain ⟨problems, hproblems, rfl⟩ := compile_eq_error_iff.mp h
    exact .inr (.inl ⟨hbad, problems, hproblems, rfl⟩)
  · obtain ⟨causes, hcauses, rfl⟩ := run_eq_error_iff.mp h
    exact .inr (.inr ⟨hbad, ps, causes, hcompile, hcauses, rfl⟩)

/-! ### Where compiled tokens come from -/

/-- A compiled token is a zero that was put in, or a token of the text, perhaps with a number for a
    constant. -/
theorem source_of_mem_compile (h : c.compile ts = .ok ps) {t : Token} (ht : t ∈ ps) :
    t = .inserted .number "0" ∨
      ∃ u ∈ ts, t = substitute c.constants u ∧ Postfix.isBracket t = false := by
  obtain ⟨hmem, hbracket⟩ := Postfix.mem_of_mem_ofInfix (compile_eq_ok_iff.mp h) ht
  rcases mem_normalizeFrom hmem with hmem | rfl | hzero | rfl
  · obtain ⟨u, hu, rfl⟩ := List.mem_map.mp hmem
    exact .inr ⟨u, hu, rfl, hbracket⟩
  · cases hbracket
  · exact .inl hzero
  · cases hbracket

end Abacus.Calculator
