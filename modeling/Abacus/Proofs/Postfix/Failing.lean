import Abacus.Proofs.Postfix.Height

/-! # Why the stack machine stops

  The machine stops at a single token, and the cause that it reports names this token by its
  position. `Stops` pairs every cause with the tokens that can stop the machine with it, and
  `exists_stops_of_evaluate` says that nothing else ends an evaluation, apart from complaints about
  the number of values that are left.
-/

namespace Abacus

/-- The number of operands that a token takes off the stack. -/
def TokenKind.arity : TokenKind → Nat
  | .operator _ => 2
  | .function => 1
  | .bad | .none | .identifier | .constant | .number | .openBracket | .closeBracket => 0

theorem TokenKind.arity_pos_iff {k : TokenKind} :
    0 < k.arity ↔ k.isOperator = true ∨ k = .function := by
  cases k <;> simp [arity, isOperator]

namespace Postfix

variable {functions : FunctionTable} {stack : Stack} {t : Token} {ts : List Token}
  {e : EvaluationError} {x y : Decimal} {position : Nat} {halt : Halt}

/-- The token can stop the machine with this cause. -/
inductive Stops (functions : FunctionTable) (t : Token) : EvaluationError → Prop where
  /-- There are too few operands on the stack. -/
  | tooManyOperators (hk : t.kind = .function ∨ t.kind.isOperator = true) :
      Stops functions t .tooManyOperators
  /-- The text of a number spells none. -/
  | invalidNumber (hk : t.kind = .number) (hread : Decimal.ofLiteral? t.lexeme = none) :
      Stops functions t (.invalidNumber t.position t.lexeme)
  /-- There is no such function. -/
  | unknownFunction (hk : t.kind = .function) (hfind : functions.findUpToCase? t.lexeme = none) :
      Stops functions t (.unknownFunction t.position t.lexeme)
  /-- The argument of a function is too large. -/
  | functionOperand (hk : t.kind = .function) (message : String) :
      Stops functions t (.arithmetic t.position message)
  /-- A function refuses its argument, or has no finite value. -/
  | functionDomain (hk : t.kind = .function) : Stops functions t (.functionDomain t.position)
  /-- A function fails in its own words. -/
  | functionFailure (hk : t.kind = .function) (message : String) :
      Stops functions t (.functionFailure t.position message)
  /-- The divisor is zero. -/
  | divisionByZero (hk : t.kind = .operator .divide) :
      Stops functions t (.divisionByZero t.position)
  /-- An operand of a power is too large. -/
  | powerOperand (hk : t.kind = .operator .exponent) (message : String) :
      Stops functions t (.arithmetic t.position message)
  /-- A power has no finite real value. -/
  | exponentFailure (hk : t.kind = .operator .exponent) (base exponent message : String) :
      Stops functions t (.exponentFailure t.position base exponent message)
  /-- The token has no place in a postfix sequence. -/
  | unexpectedToken (hk : t.kind ≠ .number ∧ t.kind ≠ .function ∧ t.kind.isOperator = false) :
      Stops functions t (.unexpectedToken t.position t.lexeme)

/-- A number stops the machine for its text only. -/
theorem Stops.of_number (hk : t.kind = .number) (h : Stops functions t e) :
    e = .invalidNumber t.position t.lexeme ∧ Decimal.ofLiteral? t.lexeme = none := by
  cases h with
  | invalidNumber _ hread => exact ⟨rfl, hread⟩
  | tooManyOperators hk' => rcases hk' with hk' | hk' <;> simp [hk] at hk'
  | unknownFunction hk' | functionOperand hk' | functionDomain hk' | functionFailure hk'
  | divisionByZero hk' | powerOperand hk' | exponentFailure hk' => simp [hk] at hk'
  | unexpectedToken hk' => exact absurd hk hk'.1

/-! ### Operations -/

theorem finiteFloat_eq_error (h : finiteFloat x position = .error e) :
    ∃ message, e = .arithmetic position message := by
  unfold finiteFloat at h
  dsimp only at h
  split at h
  · cases h
  · cases h
    exact ⟨_, rfl⟩

/-- A power fails for one of its operands, or for its value. -/
theorem power_eq_error (h : power x y position = .error e) :
    (∃ message, e = .arithmetic position message) ∨
      ∃ base exponent message, e = .exponentFailure position base exponent message := by
  unfold power at h
  rcases Outcome.bind_eq_error_iff.mp h with hx | ⟨b, -, h⟩
  · exact .inl (finiteFloat_eq_error hx)
  rcases Outcome.bind_eq_error_iff.mp h with hy | ⟨a, -, h⟩
  · exact .inl (finiteFloat_eq_error hy)
  -- With finite operands only the power itself is left to fail.
  right
  dsimp only at h
  split at h
  · cases h
    exact ⟨_, _, _, rfl⟩
  · split at h
    · cases h
      exact ⟨_, _, _, rfl⟩
    · split at h
      · cases h
      · cases h
        exact ⟨_, _, _, rfl⟩

/-- A number fails for its text. -/
theorem readNumber_eq_error (h : readNumber t = .error e) :
    e = .invalidNumber t.position t.lexeme ∧ Decimal.ofLiteral? t.lexeme = none := by
  unfold readNumber at h
  split at h
  next => cases h
  next hnone =>
    cases h
    exact ⟨rfl, hnone⟩

/-- Of the operators, only quotients and powers fail. -/
theorem applyOperator_eq_error {op : Operator} (h : applyOperator op x y position = .error e) :
    (op = .divide ∧ e = .divisionByZero position) ∨
      (op = .exponent ∧ ((∃ message, e = .arithmetic position message) ∨
        ∃ base exponent message, e = .exponentFailure position base exponent message)) := by
  cases op with
  | add | subtract | multiply => cases h
  | divide =>
    unfold applyOperator at h
    dsimp only at h
    split at h
    · cases h
      exact .inl ⟨rfl, rfl⟩
    · cases h
  | exponent => exact .inr ⟨rfl, power_eq_error h⟩

/-- A function fails because it is not known, or its argument too large, or for reasons of its own. -/
theorem applyFunction_eq_error (h : applyFunction functions t x = .error e) :
    (e = .unknownFunction t.position t.lexeme ∧ functions.findUpToCase? t.lexeme = none) ∨
      (∃ message, e = .arithmetic t.position message) ∨ e = .functionDomain t.position ∨
        ∃ message, e = .functionFailure t.position message := by
  unfold applyFunction at h
  split at h
  next f hf =>
    right
    rcases Outcome.bind_eq_error_iff.mp h with hx | ⟨a, -, h⟩
    · exact .inl (finiteFloat_eq_error hx)
    · right
      split at h
      next refusal _ =>
        cases h
        cases refusal with
        | domain => exact .inl rfl
        | failure message => exact .inr ⟨message, rfl⟩
      next =>
        -- A value that is no finite number counts as outside of the domain.
        split at h
        · cases h
        · cases h
          exact .inl rfl
  next hnone =>
    cases h
    exact .inl ⟨rfl, Option.eq_none_iff_forall_ne_some.mpr hnone⟩

theorem stops_of_readNumber (hk : t.kind = .number) (h : readNumber t = .error e) :
    Stops functions t e := by
  obtain ⟨rfl, hnone⟩ := readNumber_eq_error h
  exact .invalidNumber hk hnone

theorem stops_of_applyOperator {op : Operator} (hk : t.kind = .operator op)
    (h : applyOperator op x y t.position = .error e) : Stops functions t e := by
  rcases applyOperator_eq_error h with ⟨rfl, rfl⟩ | ⟨rfl, ⟨message, rfl⟩ |
    ⟨base, exponent, message, rfl⟩⟩
  · exact .divisionByZero hk
  · exact .powerOperand hk message
  · exact .exponentFailure hk base exponent message

theorem stops_of_applyFunction (hk : t.kind = .function)
    (h : applyFunction functions t x = .error e) : Stops functions t e := by
  rcases applyFunction_eq_error h with ⟨rfl, hnone⟩ | ⟨message, rfl⟩ | rfl | ⟨message, rfl⟩
  · exact .unknownFunction hk hnone
  · exact .functionOperand hk message
  · exact .functionDomain hk
  · exact .functionFailure hk message

/-! ### Steps -/

theorem pushResult_eq_error_iff {r : Except EvaluationError Decimal} :
    pushResult stack r = .error halt ↔ stack = halt.stack ∧ r = .error halt.cause := by
  obtain ⟨cause, left⟩ := halt
  cases r with
  | ok v => simp [pushResult]
  | error e => simp [pushResult, and_comm]

/-- A token fails in five ways only: a number that spells none, a function or an operator that has no
    value for its operands, too few operands, and a token that has no place in a postfix sequence. -/
theorem step_eq_error_iff :
    step functions stack t = .error halt ↔
      (t.kind = .number ∧ stack = halt.stack ∧ readNumber t = .error halt.cause) ∨
      (t.kind = .function ∧ ∃ x, stack = x :: halt.stack ∧
        applyFunction functions t x = .error halt.cause) ∨
      (∃ op x y, t.kind = .operator op ∧ stack = y :: x :: halt.stack ∧
        applyOperator op x y t.position = .error halt.cause) ∨
      (stack.length < t.kind.arity ∧ halt = ⟨.tooManyOperators, []⟩) ∨
      (t.kind ≠ .number ∧ t.kind.arity = 0 ∧
        halt = ⟨.unexpectedToken t.position t.lexeme, stack⟩) := by
  unfold step
  cases hk : t.kind with
  | number => simp [pushResult_eq_error_iff, TokenKind.arity]
  | function =>
    cases stack with
    | nil => simp [TokenKind.arity, eq_comm]
    | cons x rest => simp [pushResult_eq_error_iff, TokenKind.arity, and_assoc]
  | operator op =>
    match stack with
    | [] => simp [TokenKind.arity, eq_comm]
    | [_] => simp [TokenKind.arity, eq_comm]
    | y :: x :: rest =>
      have henough : ¬ rest.length + 1 + 1 < 2 := by omega
      simp [pushResult_eq_error_iff, TokenKind.arity, and_assoc, henough]
  | identifier | constant | openBracket | closeBracket | bad | none =>
    simp [TokenKind.arity, eq_comm]

/-- A token that the machine stops at can stop it with this cause. -/
theorem stops_of_step (h : step functions stack t = .error halt) : Stops functions t halt.cause := by
  rcases step_eq_error_iff.mp h with ⟨hk, -, hread⟩ | ⟨hk, x, -, hvalue⟩ |
    ⟨op, x, y, hk, -, hvalue⟩ | ⟨hlt, rfl⟩ | ⟨hk, harity, rfl⟩
  · exact stops_of_readNumber hk hread
  · exact stops_of_applyFunction hk hvalue
  · exact stops_of_applyOperator hk hvalue
  · exact .tooManyOperators (TokenKind.arity_pos_iff.mp (Nat.zero_lt_of_lt hlt)).symm
  · have hnone := mt TokenKind.arity_pos_iff.mpr (by omega : ¬0 < t.kind.arity)
    rw [not_or, Bool.not_eq_true] at hnone
    exact .unexpectedToken ⟨hk, hnone.2, hnone.1⟩

/-! ### Runs -/

/-- A run fails exactly if it fails at one of its tokens, after reading those before it. -/
theorem run_eq_error_iff :
    run functions stack ts = .error halt ↔
      ∃ front t rest mid, ts = front ++ t :: rest ∧ run functions stack front = .ok mid ∧
        step functions mid t = .error halt := by
  induction ts generalizing stack with
  | nil => simp
  | cons t ts ih =>
    rw [run_cons, Outcome.bind_eq_error_iff]
    constructor
    · rintro (hstep | ⟨mid, hstep, hrest⟩)
      · exact ⟨[], t, ts, stack, rfl, rfl, hstep⟩
      · obtain ⟨front, u, rest, last, rfl, hfront, hu⟩ := ih.mp hrest
        exact ⟨t :: front, u, rest, last, rfl, run_cons_eq_ok_iff.mpr ⟨mid, hstep, hfront⟩, hu⟩
    · rintro ⟨front, u, rest, last, heq, hfront, hu⟩
      cases front with
      | nil =>
        cases heq
        rw [run_nil] at hfront
        cases hfront
        exact .inl hu
      | cons v front =>
        cases heq
        obtain ⟨mid, hstep, hfront⟩ := run_cons_eq_ok_iff.mp hfront
        exact .inr ⟨mid, hstep, ih.mpr ⟨front, u, rest, last, rfl, hfront, hu⟩⟩

/-- A run that fails does so at one of its tokens. -/
theorem exists_stops_of_run (h : run functions stack ts = .error halt) :
    ∃ t ∈ ts, Stops functions t halt.cause := by
  obtain ⟨front, t, rest, mid, rfl, -, hstep⟩ := run_eq_error_iff.mp h
  exact ⟨t, by simp, stops_of_step hstep⟩

/-! ### Evaluations -/

theorem mem_leftover_iff :
    e ∈ leftover stack ↔ 1 < stack.length ∧ e = .tooFewOperators stack.length := by
  unfold leftover
  split
  next hmany => simp [hmany]
  next hfew => simp [hfew]

/-- An evaluation fails because its run does, or with no value or several values left. -/
theorem evaluate_eq_error_iff {causes : Failures EvaluationError} :
    evaluate functions ts = .error causes ↔
      (∃ halt, run functions [] ts = .error halt ∧ causes = ⟨halt.cause, leftover halt.stack⟩) ∨
      (run functions [] ts = .ok [] ∧ causes = .one .emptyExpression) ∨
      ∃ stack, run functions [] ts = .ok stack ∧ 1 < stack.length ∧
        causes = .one (.tooFewOperators stack.length) := by
  unfold evaluate
  cases hrun : run functions [] ts with
  | error halt => simp [conclude, eq_comm]
  | ok out =>
    rcases out with _ | ⟨x, _ | ⟨y, rest⟩⟩
    · simp [conclude, eq_comm]
    · simp [conclude]
    · simp [conclude, eq_comm]

/-- An evaluation fails at one of its tokens, or for the number of values that are left. -/
theorem exists_stops_of_evaluate {causes : Failures EvaluationError}
    (h : evaluate functions ts = .error causes) (he : e ∈ causes.toList) :
    e = .emptyExpression ∨ (∃ n, e = .tooFewOperators n) ∨ ∃ t ∈ ts, Stops functions t e := by
  rcases evaluate_eq_error_iff.mp h with ⟨halt, hrun, rfl⟩ | ⟨-, rfl⟩ | ⟨stack, -, -, rfl⟩
  · -- The cause comes first, then perhaps a complaint about the values below.
    rcases List.mem_cons.mp he with rfl | hleft
    · exact .inr (.inr (exists_stops_of_run hrun))
    · exact .inr (.inl ⟨_, (mem_leftover_iff.mp hleft).2⟩)
  · exact .inl (List.mem_singleton.mp he)
  · exact .inr (.inl ⟨_, List.mem_singleton.mp he⟩)

/-- Only an empty sequence has nothing to evaluate. -/
theorem eq_nil_of_emptyExpression {causes : Failures EvaluationError}
    (h : evaluate functions ts = .error causes) (he : .emptyExpression ∈ causes.toList) :
    ts = [] := by
  rcases evaluate_eq_error_iff.mp h with ⟨halt, hrun, rfl⟩ | ⟨hrun, -⟩ | ⟨stack, -, -, rfl⟩
  · rcases List.mem_cons.mp he with hcause | hleft
    · have hcause : EvaluationError.emptyExpression = halt.cause := hcause
      obtain ⟨t, -, hstops⟩ := exists_stops_of_run hrun
      rw [← hcause] at hstops
      cases hstops
    · cases (mem_leftover_iff.mp hleft).2
  · exact eq_nil_of_height (run_height hrun)
  · cases List.mem_singleton.mp he

end Postfix

end Abacus
