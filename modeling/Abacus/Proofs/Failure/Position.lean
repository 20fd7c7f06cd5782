import Abacus.Proofs.Decimal.Spelling
import Abacus.Proofs.Postfix.Failing
import Abacus.Proofs.Stages

/-! # Errors point at the tokens that cause them

  Before an error is raised the tokens of a text are rewritten to numbers, joined by tokens that are
  not in the text, and rearranged. None of this moves a token away from its place, so the position in
  an error is that of a token of the text, and this token is of the kind that the error speaks of
  (`evaluate_pointsInto`). Two facts carry the proof:

  - a token that stops the machine is a token of the text, perhaps with a number for a constant, and
    is blamed there (`blames_of_stops`, `blames_of_stops_constant`);
  - the zero that is put in front of a minus is a number, so it never stops the machine
    (`not_stops_zero`).
-/

namespace Abacus

/-! ### What an error says -/

/-- The position that an error of the structure names, if it names one. -/
def SyntaxError.position? : SyntaxError → Option Nat
  | .unrecognizedToken position => some position
  | .unmatchedCloseBracket | .unclosedBrackets _ => none

namespace EvaluationError

/-- The position that an error of the evaluation names, if it names one. -/
def position? : EvaluationError → Option Nat
  | .divisionByZero position | .functionDomain position | .functionFailure position _
  | .exponentFailure position _ _ _ | .arithmetic position _ | .invalidNumber position _
  | .unknownFunction position _ | .unexpectedToken position _ => some position
  | .tooManyOperators | .tooFewOperators _ | .emptyExpression => none

/-- Whether the token of a text is one that the error speaks of. No token is unknown or out of place
    once a text is scanned and converted, and errors without a position speak of none. -/
def Blames (constants : ConstantTable) (t : Token) : EvaluationError → Prop
  | .divisionByZero _ => t.kind = .operator .divide
  | .exponentFailure _ _ _ _ => t.kind = .operator .exponent
  | .functionDomain _ | .functionFailure _ _ => t.kind = .function
  | .arithmetic _ _ => t.kind = .function ∨ t.kind = .operator .exponent
  | .invalidNumber _ _ => (t.kind = .number ∧ t.lexeme = ".") ∨
      (t.kind = .constant ∧
        ∃ v, constants.find? t.lexeme = some v ∧ (v.isNaN = true ∨ v.isInf = true))
  | .unknownFunction _ _ | .unexpectedToken _ _ | .tooManyOperators | .tooFewOperators _
  | .emptyExpression => False

end EvaluationError

/-- Whether the error points at the token among `ts` that caused it, if it names a position or an
    offset. Positions count from one, and no token that is not in the text is ever named. -/
def CalcError.PointsInto (constants : ConstantTable) (ts : List Token) : CalcError → Prop
  | .lexical e => ∃ t ∈ ts, t.kind = .bad ∧ t.error = some e ∧ t.offset = some e.offset
  | .structural e => e.position? = none
  | .evaluation e => ∀ p, e.position? = some p →
      1 ≤ p ∧ ∃ t ∈ ts, t.offset = some (p - 1) ∧ e.Blames constants t

/-! ### Which tokens stop the machine -/

namespace Calculator

open Infix Postfix

variable {c : Calculator} {text : String} {t : Token} {e : EvaluationError} {p : Nat}

/-- The position in an error is that of the token that stops the machine. -/
theorem position_of_stops (h : Stops c.functions t e) (hp : e.position? = some p) :
    p = t.position := by
  cases h with
  | tooManyOperators => cases hp
  | invalidNumber | unknownFunction | functionOperand | functionDomain | functionFailure
  | divisionByZero | powerOperand | exponentFailure | unexpectedToken =>
    exact (Option.some.inj hp).symm

/-- The zero that is put in front of a minus never stops the machine. -/
theorem not_stops_zero : ¬Stops c.functions (.inserted .number "0") e := by
  intro h
  have hread : Decimal.ofLiteral? "0" = none := (h.of_number rfl).2
  cases hread

/-- The number of a constant stops the machine only if it is none, or infinite. -/
theorem blames_of_stops_constant {v : Float} (hk : t.kind = .constant)
    (hv : c.constants.find? t.lexeme = some v)
    (h : Stops c.functions (t.toNumber (Binary64.textOfFloat v)) e) : e.Blames c.constants t := by
  obtain ⟨rfl, hread⟩ := h.of_number rfl
  have hinfinite : v.isFinite = false := Decimal.ofLiteral?_textOfFloat_eq_none_iff.mp hread
  exact .inr ⟨hk, v, hv, (Binary64.isFinite_eq_false_iff v).mp hinfinite⟩

/-- A function of a text is in the table when it is called. -/
theorem findUpToCase?_ne_none (hmem : t ∈ c.scan text) (hk : t.kind = .function) :
    c.functions.findUpToCase? t.lexeme ≠ none := by
  have hknown : c.functions.contains t.lexeme = true :=
    Token.contains_of_mem_scan_function hmem hk
  obtain ⟨f, hf⟩ := Option.isSome_iff_exists.mp hknown
  simp [NameTable.findUpToCase?, hf]

/-- A token of a text that stops the machine, with the number for a constant, is blamed. -/
theorem blames_of_stops (hmem : t ∈ c.scan text) (hbad : t.kind ≠ .bad)
    (hbracket : isBracket (substitute c.constants t) = false)
    (h : Stops c.functions (substitute c.constants t) e) (hp : e.position? = some p) :
    e.Blames c.constants t := by
  -- Only a constant is read in another form than it has in the text.
  by_cases hconstant : t.kind = .constant
  · have hknown : c.constants.contains t.lexeme = true :=
      Token.contains_of_mem_scan hmem hconstant
    obtain ⟨v, hv⟩ := Option.isSome_iff_exists.mp hknown
    rw [substitute_of_find? c.constants hconstant hv] at h
    exact blames_of_stops_constant hconstant hv h
  rw [substitute_of_ne_constant c.constants hconstant] at h hbracket
  cases h with
  | tooManyOperators => cases hp
  | invalidNumber hk hread =>
    obtain ⟨hne, hnumerals, hpoints⟩ := Token.numerals_of_mem_scan hmem hk
    exact .inl ⟨hk, (Decimal.ofLiteral?_eq_none_iff_of_numerals hnumerals hpoints hne).mp hread⟩
  | unknownFunction hk hfind => exact absurd hfind (findUpToCase?_ne_none hmem hk)
  | functionOperand hk => exact .inl hk
  | functionDomain hk | functionFailure hk | divisionByZero hk | exponentFailure hk => exact hk
  | powerOperand hk => exact .inr hk
  | unexpectedToken hk =>
    -- A text without bad tokens has no other kind of token that is converted.
    obtain ⟨hnone, hidentifier⟩ := Token.kind_ne_of_mem_scan hmem
    obtain ⟨hnumber, hfunction, hoperator⟩ := hk
    cases hkind : t.kind with
    | bad => exact absurd hkind hbad
    | none => exact absurd hkind hnone
    | identifier => exact absurd hkind hidentifier
    | constant => exact absurd hkind hconstant
    | number => exact absurd hkind hnumber
    | function => exact absurd hkind hfunction
    | operator op => simp [hkind] at hoperator
    | openBracket | closeBracket => simp [isBracket, hkind] at hbracket

/-! ### Where errors point -/

/-- The error of a bad token has the place of the token. -/
theorem pointsInto_of_mem_errors {e : LexError} (h : e ∈ Token.errors (c.scan text)) :
    CalcError.PointsInto c.constants (c.scan text) (.lexical e) := by
  obtain ⟨t, ht, he⟩ := List.mem_filterMap.mp h
  obtain ⟨hk, hoffset⟩ := Token.offset_of_error_of_mem_scan ht he
  exact ⟨t, ht, hk, he, hoffset⟩

/-- No error of the structure of a text without bad tokens names a position. -/
theorem position?_of_compile_eq_error {problems : Failures SyntaxError}
    (hbad : ∀ t ∈ c.scan text, t.kind ≠ .bad)
    (h : ofInfix (normalizeMinus (substituteConstants c.constants (c.scan text))) = .error problems)
    {e : SyntaxError} (he : e ∈ problems.toList) : e.position? = none := by
  rcases mem_of_ofInfix_eq_error h he with rfl | ⟨n, rfl⟩ | ⟨t, ht, hk, -⟩
  · rfl
  · rfl
  -- A token without a place in an expression would be one of the text, and a bad one there.
  exfalso
  rcases mem_normalizeFrom ht with ht | rfl | rfl | rfl
  · obtain ⟨u, hu, rfl⟩ := List.mem_map.mp ht
    have hoperand : u.kind.isOperand = false := by
      rw [← isOperand_substitute c.constants]
      rcases hk with hk | hk <;> rw [hk] <;> rfl
    rw [substitute_of_not_isOperand c.constants hoperand] at hk
    rcases hk with hk | hk
    · exact hbad u hu hk
    · exact (Token.kind_ne_of_mem_scan hu).1 hk
  all_goals rcases hk with hk | hk <;> cases hk

/-- The position in an error of the evaluation is that of a token of the text, which is blamed. -/
theorem pointsInto_of_evaluate_eq_error {ps : List Token} {causes : Failures EvaluationError}
    (hbad : ∀ t ∈ c.scan text, t.kind ≠ .bad) (hcompile : c.compile (c.scan text) = .ok ps)
    (h : Postfix.evaluate c.functions ps = .error causes) (he : e ∈ causes.toList) :
    CalcError.PointsInto c.constants (c.scan text) (.evaluation e) := by
  intro p hp
  rcases exists_stops_of_evaluate h he with rfl | ⟨n, rfl⟩ | ⟨t, ht, hstops⟩
  · cases hp
  · cases hp
  -- The token that stops the machine comes from the text, or else it could not fail.
  rcases source_of_mem_compile hcompile ht with rfl | ⟨u, hu, rfl, hbracket⟩
  · exact (not_stops_zero hstops).elim
  obtain ⟨n, hn⟩ := Token.exists_offset_of_mem_scan hu
  have hposition : p = n + 1 := by
    rw [position_of_stops hstops hp, Token.position, offset_substitute, hn]
    rfl
  refine ⟨by omega, u, hu, ?_, blames_of_stops hu (hbad u hu) hbracket hstops hp⟩
  rw [hn, hposition, Nat.add_sub_cancel]

/-- **Positions.** Every error of an evaluation that names a place points at the token of the text
    that caused it. -/
theorem evaluate_pointsInto (c : Calculator) (text : String) (d : Diagnostics)
    (h : c.evaluate text = .error d) :
    ∀ e ∈ d.toList, e.PointsInto c.constants (c.scan text) := by
  intro e he
  rcases evaluate_eq_error_iff.mp h with ⟨errors, herrors, rfl⟩ | ⟨hbad, h⟩
  · obtain ⟨cause, hcause, rfl⟩ := Failures.mem_toList_map.mp he
    apply pointsInto_of_mem_errors
    rw [Failures.ofList?_eq_some_iff.mp herrors]
    exact hcause
  rcases evaluateTokens_eq_error_iff.mp h with h | ⟨ps, hcompile, h⟩
  · obtain ⟨problems, hproblems, rfl⟩ := compile_eq_error_iff.mp h
    obtain ⟨cause, hcause, rfl⟩ := Failures.mem_toList_map.mp he
    exact position?_of_compile_eq_error hbad hproblems hcause
  · obtain ⟨causes, hcauses, rfl⟩ := run_eq_error_iff.mp h
    obtain ⟨cause, hcause, rfl⟩ := Failures.mem_toList_map.mp he
    exact pointsInto_of_evaluate_eq_error hbad hcompile hcauses hcause

/-- The divisor of `-1/(pi-pi)` is zero, and the error points at the division. -/
theorem evaluate_pointsInto_divisionByZero :
    Calculator.standard.evaluate "-1/(pi-pi)" = .error ⟨.evaluation (.divisionByZero 3), []⟩ ∧
      ∃ t ∈ Calculator.standard.scan "-1/(pi-pi)",
        t.offset = some 2 ∧ t.kind = .operator .divide := by
  have herror : Calculator.standard.evaluate "-1/(pi-pi)" =
      .error ⟨.evaluation (.divisionByZero 3), []⟩ := by
    decide +kernel
  refine ⟨herror, ?_⟩
  exact (evaluate_pointsInto .standard _ _ herror _ List.mem_cons_self 3 rfl).2

end Calculator

end Abacus
