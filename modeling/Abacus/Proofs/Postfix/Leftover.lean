import Abacus.Proofs.Postfix.Failing
import Mathlib.Control.Monad.Basic

/-! # What is left when the machine stops

  A failed evaluation reports why the machine stopped, and perhaps that values are left on the stack.
  How many are left can be read off the tokens, whatever it is that failed:

  - a run adds a value for each number and takes one away for each operator (`run_surplus`);
  - a token that fails has taken its operands off the stack, or all that there was of them
    (`length_of_step_eq_error`).

  So the first token that fails decides everything that is reported, and what comes after it nothing
  (`evaluate_eq_error_cases`).
-/

namespace Abacus

namespace Postfix

variable {functions : FunctionTable} {stack stack' : Stack} {t : Token} {ts : List Token}
  {e : EvaluationError} {x y : Decimal} {position : Nat} {halt : Halt}

/-! ### What a token that fails takes -/

/-- A token that fails has taken its operands, or all that there was of them. -/
theorem length_of_step_eq_error (h : step functions stack t = .error halt) :
    halt.stack.length = stack.length - t.kind.arity := by
  rcases step_eq_error_iff.mp h with ⟨hk, rfl, -⟩ | ⟨hk, x, rfl, -⟩ | ⟨op, x, y, hk, rfl, -⟩ |
    ⟨hlt, rfl⟩ | ⟨-, harity, rfl⟩
  · simp [hk, TokenKind.arity]
  · simp [hk, TokenKind.arity]
  · simp [hk, TokenKind.arity]
  · show 0 = stack.length - t.kind.arity
    omega
  · simp [harity]

/-! ### Operations do not complain about the number of operands -/

theorem readNumber_ne_tooManyOperators : readNumber t ≠ .error .tooManyOperators := by
  intro h
  obtain ⟨he, -⟩ := readNumber_eq_error h
  cases he

theorem applyOperator_ne_tooManyOperators {op : Operator} :
    applyOperator op x y position ≠ .error .tooManyOperators := by
  intro h
  rcases applyOperator_eq_error h with ⟨-, he⟩ | ⟨-, ⟨message, he⟩ | ⟨base, exponent, message, he⟩⟩ <;>
    cases he

theorem applyFunction_ne_tooManyOperators :
    applyFunction functions t x ≠ .error .tooManyOperators := by
  intro h
  rcases applyFunction_eq_error h with ⟨he, -⟩ | ⟨message, he⟩ | he | ⟨message, he⟩ <;> cases he

/-- Too many operators are reported exactly if the token finds fewer operands than it needs. -/
theorem cause_eq_tooManyOperators_iff (h : step functions stack t = .error halt) :
    halt.cause = .tooManyOperators ↔ stack.length < t.kind.arity := by
  rcases step_eq_error_iff.mp h with ⟨hk, rfl, hread⟩ | ⟨hk, x, rfl, hvalue⟩ |
    ⟨op, x, y, hk, rfl, hvalue⟩ | ⟨hlt, rfl⟩ | ⟨-, harity, rfl⟩
  · refine iff_of_false ?_ (by simp [hk, TokenKind.arity])
    intro hcause
    rw [hcause] at hread
    exact readNumber_ne_tooManyOperators hread
  · refine iff_of_false ?_ (by simp [hk, TokenKind.arity])
    intro hcause
    rw [hcause] at hvalue
    exact applyFunction_ne_tooManyOperators hvalue
  · refine iff_of_false ?_ (by simp [hk, TokenKind.arity])
    intro hcause
    rw [hcause] at hvalue
    exact applyOperator_ne_tooManyOperators hvalue
  · exact iff_of_true rfl hlt
  · exact iff_of_false (by simp) (by simp [harity])

/-! ### Counting the values -/

/-- The numbers among the tokens, less the operators. -/
def surplus (ts : List Token) : Int :=
  ts.countP (·.kind = .number) - ts.countP (·.kind.isOperator)

theorem surplus_cons (t : Token) (ts : List Token) : surplus (t :: ts) = surplus [t] + surplus ts := by
  simp only [surplus, List.countP_cons, List.countP_nil]
  omega

theorem step_surplus (h : step functions stack t = .ok stack') :
    (stack'.length : Int) = stack.length + surplus [t] := by
  rcases step_eq_ok_iff.mp h with ⟨hk, v, -, rfl⟩ | ⟨hk, x, rest, v, rfl, -, rfl⟩ |
    ⟨op, x, y, rest, v, hk, rfl, -, rfl⟩
  · simp [surplus, hk]
  · simp [surplus, hk]
  · have hoperator : surplus [t] = -1 := by simp [surplus, hk]
    simp only [hoperator, List.length_cons]
    omega

/-- A run adds a value for each number and takes one away for each operator. -/
theorem run_surplus (h : run functions stack ts = .ok stack') :
    (stack'.length : Int) = stack.length + surplus ts := by
  induction ts generalizing stack with
  | nil =>
    rw [run_nil] at h
    cases h
    simp [surplus]
  | cons t ts ih =>
    obtain ⟨mid, hstep, hrest⟩ := run_cons_eq_ok_iff.mp h
    rw [ih hrest, step_surplus hstep, surplus_cons t ts]
    omega

/-- What is found on the stack by the token after a sequence that was read. -/
theorem length_eq_surplus (h : run functions [] ts = .ok stack) :
    (stack.length : Int) = surplus ts := by
  have hcount := run_surplus h
  simpa using hcount

/-! ### The first token that fails -/

/-- The machine reads the tokens `front` and fails at the next one, `t`, for the cause `e`. -/
def FailsAfter (functions : FunctionTable) (front : List Token) (t : Token) (e : EvaluationError) :
    Prop :=
  ∃ stack left, run functions [] front = .ok stack ∧ step functions stack t = .error ⟨e, left⟩

/-- A run that fails does so whatever comes after it. -/
theorem run_append_eq_error (h : run functions stack ts = .error halt) (us : List Token) :
    run functions stack (ts ++ us) = .error halt := by
  rw [run_append, h]
  rfl

/-- What is reported if a token fails. -/
theorem evaluate_of_failsAfter {front : List Token} (h : FailsAfter functions front t e)
    (rest : List Token) :
    evaluate functions (front ++ t :: rest) =
      .error ⟨e, if 2 ≤ surplus front - t.kind.arity then
        [.tooFewOperators (surplus front - t.kind.arity).toNat] else []⟩ := by
  obtain ⟨stack, left, hfront, hstep⟩ := h
  have hrun : run functions [] (front ++ t :: rest) = .error ⟨e, left⟩ :=
    run_eq_error_iff.mpr ⟨front, t, rest, stack, rfl, hfront, hstep⟩
  have hlength : left.length = stack.length - t.kind.arity := length_of_step_eq_error hstep
  have hsurplus := length_eq_surplus hfront
  have hleft : leftover left = if 2 ≤ surplus front - t.kind.arity then
      [.tooFewOperators (surplus front - t.kind.arity).toNat] else [] := by
    unfold leftover
    by_cases hmany : 1 < left.length
    · rw [if_pos hmany, if_pos (by omega), hlength]
      congr 2
      omega
    · rw [if_neg hmany, if_neg (by omega)]
  exact evaluate_eq_error_iff.mpr (.inl ⟨⟨e, left⟩, hrun, by rw [← hleft]⟩)

theorem FailsAfter.eq_tooManyOperators_iff {front : List Token}
    (h : FailsAfter functions front t e) :
    e = .tooManyOperators ↔
      (t.kind.isOperator = true ∨ t.kind = .function) ∧ surplus front < t.kind.arity := by
  obtain ⟨stack, left, hfront, hstep⟩ := h
  have hcause : e = .tooManyOperators ↔ stack.length < t.kind.arity :=
    cause_eq_tooManyOperators_iff hstep
  have hsurplus := length_eq_surplus hfront
  rw [hcause, ← TokenKind.arity_pos_iff]
  omega

/-- What is reported if no token fails: there is nothing to read, or several values are left. -/
theorem evaluate_eq_error_of_run {causes : Failures EvaluationError}
    (hrun : run functions [] ts = .ok stack) (h : evaluate functions ts = .error causes) :
    (ts = [] ∧ causes.toList = [.emptyExpression]) ∨
      (2 ≤ surplus ts ∧ causes.toList = [.tooFewOperators (surplus ts).toNat]) := by
  rcases evaluate_eq_error_iff.mp h with ⟨halt, hfail, -⟩ | ⟨hnone, rfl⟩ | ⟨left, hleft, hmany, rfl⟩
  · cases hrun.symm.trans hfail
  · exact .inl ⟨eq_nil_of_height (run_height hnone), rfl⟩
  · have hsurplus := length_eq_surplus hleft
    refine .inr ⟨by omega, ?_⟩
    rw [← hsurplus]
    rfl

/-- Either no token fails, or there is a first one that does. -/
theorem exists_run_or_failsAfter (functions : FunctionTable) (ts : List Token) :
    (∃ stack, run functions [] ts = .ok stack) ∨
      ∃ front t rest e, ts = front ++ t :: rest ∧ FailsAfter functions front t e := by
  cases hrun : run functions [] ts with
  | ok stack => exact .inl ⟨stack, rfl⟩
  | error halt =>
    obtain ⟨front, t, rest, mid, heq, hfront, hstep⟩ := run_eq_error_iff.mp hrun
    exact .inr ⟨front, t, rest, halt.cause, heq, mid, halt.stack, hfront, hstep⟩

/-- A complaint about too many operators stands alone. -/
theorem toList_eq_of_mem_tooManyOperators {causes : Failures EvaluationError}
    (h : evaluate functions ts = .error causes) (hmem : .tooManyOperators ∈ causes.toList) :
    causes.toList = [.tooManyOperators] := by
  rcases exists_run_or_failsAfter functions ts with ⟨stack, hrun⟩ | ⟨front, t, rest, e, rfl, hfails⟩
  · rcases evaluate_eq_error_of_run hrun h with ⟨-, heq⟩ | ⟨-, heq⟩ <;> simp [heq] at hmem
  · obtain rfl := Except.error.inj ((evaluate_of_failsAfter hfails rest).symm.trans h)
    -- A number of values that are left is another complaint, so the token is what is complained of.
    have hcause : e = .tooManyOperators := by
      rcases List.mem_cons.mp hmem with heq | hleft
      · exact heq.symm
      · split at hleft <;> simp at hleft
    have hfew := (hfails.eq_tooManyOperators_iff.mp hcause).2
    rw [hcause, if_neg (by omega)]
    rfl

/-- **Errors of a postfix sequence.** An empty sequence is reported as such, and no other one. If no
    token fails, the values that are left are counted, and there are two at least. Otherwise the first
    token that fails is reported, and after it the values that are left, if there are two or more once it
    has taken its operands. It is reported that there are too many operators exactly if this token finds
    fewer operands than it needs, and then nothing else is. The tokens after it make no difference. -/
theorem evaluate_eq_error_cases (functions : FunctionTable) (ts : List Token)
    (causes : Failures EvaluationError) (h : evaluate functions ts = .error causes) :
    (causes.toList = [.emptyExpression] ↔ ts = []) ∧
    (ts ≠ [] → (∀ front t rest e, ts = front ++ t :: rest → ¬FailsAfter functions front t e) →
      2 ≤ surplus ts ∧ causes.toList = [.tooFewOperators (surplus ts).toNat]) ∧
    (∀ front t rest e, ts = front ++ t :: rest → FailsAfter functions front t e →
      causes.toList = e :: (if 2 ≤ surplus front - t.kind.arity then
        [.tooFewOperators (surplus front - t.kind.arity).toNat] else []) ∧
      (e = .tooManyOperators ↔
        (t.kind.isOperator = true ∨ t.kind = .function) ∧ surplus front < t.kind.arity) ∧
      ∀ rest', evaluate functions (front ++ t :: rest') = .error causes) ∧
    (.tooManyOperators ∈ causes.toList → causes.toList = [.tooManyOperators]) := by
  refine ⟨⟨?_, ?_⟩, ?_, ?_, toList_eq_of_mem_tooManyOperators h⟩
  · intro heq
    exact eq_nil_of_emptyExpression h (by simp [heq])
  · rintro rfl
    cases h
    rfl
  · intro hne hnone
    rcases exists_run_or_failsAfter functions ts with ⟨stack, hrun⟩ | ⟨front, t, rest, e, heq, hfails⟩
    · rcases evaluate_eq_error_of_run hrun h with ⟨hnil, -⟩ | hleft
      · exact absurd hnil hne
      · exact hleft
    · exact absurd hfails (hnone front t rest e heq)
  · rintro front t rest e rfl hfails
    obtain rfl := Except.error.inj ((evaluate_of_failsAfter hfails rest).symm.trans h)
    refine ⟨rfl, hfails.eq_tooManyOperators_iff, ?_⟩
    intro rest'
    exact evaluate_of_failsAfter hfails rest'

/-- The tokens of `1 2 3 0`. -/
def fourNumbers : List Token :=
  [.ofText .number "1" 0, .ofText .number "2" 2, .ofText .number "3" 4, .ofText .number "0" 6]

/-- In `1 2 3 0 / *` the quotient fails on two of the four numbers and the other two are left, whatever
    comes after it. -/
theorem evaluate_eq_error_cases_quotient :
    evaluate .standard (fourNumbers ++
        [.ofText (.operator .divide) "/" 8, .ofText (.operator .multiply) "*" 10]) =
      .error ⟨.divisionByZero 9, [.tooFewOperators 2]⟩ ∧
    ∀ rest, evaluate .standard (fourNumbers ++ .ofText (.operator .divide) "/" 8 :: rest) =
      .error ⟨.divisionByZero 9, [.tooFewOperators 2]⟩ := by
  have hvalue : evaluate .standard (fourNumbers ++
      [.ofText (.operator .divide) "/" 8, .ofText (.operator .multiply) "*" 10]) =
        .error ⟨.divisionByZero 9, [.tooFewOperators 2]⟩ := by
    decide +kernel
  have hfails : FailsAfter .standard fourNumbers (.ofText (.operator .divide) "/" 8)
      (.divisionByZero 9) :=
    ⟨[⟨0, 0⟩, ⟨3, 0⟩, ⟨2, 0⟩, ⟨1, 0⟩], [⟨2, 0⟩, ⟨1, 0⟩], by decide +kernel, by decide +kernel⟩
  obtain ⟨-, -, hfirst, -⟩ := evaluate_eq_error_cases .standard _ _ hvalue
  exact ⟨hvalue, (hfirst fourNumbers _ _ _ rfl hfails).2.2⟩

end Postfix

end Abacus
