import Abacus.Proofs.Conversion.Precedence
import Abacus.Proofs.Postfix.Leftover

/-! # The node that fails first

  The machine reads the nodes of an expression in postorder, and stops at the first one that has no
  value. At this moment the operands of the node are taken, and what is left on the stack are the left
  operands of the operators that still wait for their right one: those above the node that have it in
  their right operand (`run_postorder_of_fails`). If there are two of them or more, they are reported as
  well (`evaluate_eq_error_of_meaning`).
-/

namespace Abacus

namespace Expression

variable {functions : FunctionTable} {e : Expression} {cause : EvaluationError} {v : Decimal}

/-! ### Nodes in postorder -/

/-- The nodes of the tree in postorder, each with the number of operators above it that have it in
    their right operand; `n` says how many of these are above the tree. -/
def nodes (n : Nat) : Expression → List (Expression × Nat)
  | number t => [(number t, n)]
  | call f x => x.nodes n ++ [(call f x, n)]
  | binary op t x y => x.nodes n ++ y.nodes (n + 1) ++ [(binary op t x y, n)]

/-- Whether the tree has no value. -/
def fails (functions : FunctionTable) (e : Expression) : Bool :=
  !(e.value functions).isOk

/-- The first node in postorder that has no value, with the number of operators that have it in their
    right operand. -/
def firstFailing (functions : FunctionTable) (n : Nat) (e : Expression) : Option (Expression × Nat) :=
  (e.nodes n).find? (·.1.fails functions)

theorem find?_fails_singleton (e : Expression) (n : Nat) :
    [(e, n)].find? (·.1.fails functions) = if e.fails functions then some (e, n) else none := by
  cases hfails : e.fails functions <;> simp [hfails]

theorem firstFailing_number (t : Token) (n : Nat) :
    (number t).firstFailing functions n =
      if (number t).fails functions then some (number t, n) else none :=
  find?_fails_singleton _ n

theorem firstFailing_call (f : Token) (x : Expression) (n : Nat) :
    (call f x).firstFailing functions n = (x.firstFailing functions n).or
      (if (call f x).fails functions then some (call f x, n) else none) := by
  rw [firstFailing, nodes, List.find?_append, find?_fails_singleton]
  rfl

theorem firstFailing_binary (op : Operator) (t : Token) (x y : Expression) (n : Nat) :
    (binary op t x y).firstFailing functions n =
      ((x.firstFailing functions n).or (y.firstFailing functions (n + 1))).or
        (if (binary op t x y).fails functions then some (binary op t x y, n) else none) := by
  rw [firstFailing, nodes, List.find?_append, List.find?_append, find?_fails_singleton]
  rfl

theorem fails_of_value_eq_ok (h : e.value functions = .ok v) : e.fails functions = false := by
  simp [fails, h, Except.isOk, Except.toBool]

theorem fails_of_value_eq_error (h : e.value functions = .error cause) :
    e.fails functions = true := by
  simp [fails, h, Except.isOk, Except.toBool]

/-! ### Values of operands -/

theorem value_call_eq_ok_iff {f : Token} {x : Expression} :
    (call f x).value functions = .ok v ↔
      ∃ a, x.value functions = .ok a ∧ Postfix.applyFunction functions f a = .ok v :=
  Outcome.bind_eq_ok_iff

theorem value_call_eq_error_iff {f : Token} {x : Expression} :
    (call f x).value functions = .error cause ↔
      x.value functions = .error cause ∨
        ∃ a, x.value functions = .ok a ∧ Postfix.applyFunction functions f a = .error cause :=
  Outcome.bind_eq_error_iff

theorem value_binary_eq_ok_iff {op : Operator} {t : Token} {x y : Expression} :
    (binary op t x y).value functions = .ok v ↔
      ∃ a, x.value functions = .ok a ∧ ∃ b, y.value functions = .ok b ∧
        Postfix.applyOperator op a b t.position = .ok v := by
  show (x.value functions >>= fun a => y.value functions >>= fun b => _) = _ ↔ _
  simp only [Outcome.bind_eq_ok_iff]

theorem value_binary_eq_error_iff {op : Operator} {t : Token} {x y : Expression} :
    (binary op t x y).value functions = .error cause ↔
      x.value functions = .error cause ∨ ∃ a, x.value functions = .ok a ∧
        (y.value functions = .error cause ∨ ∃ b, y.value functions = .ok b ∧
          Postfix.applyOperator op a b t.position = .error cause) := by
  show (x.value functions >>= fun a => y.value functions >>= fun b => _) = _ ↔ _
  simp only [Outcome.bind_eq_error_iff]

/-- In a tree with a value, every node has one. -/
theorem firstFailing_eq_none (h : e.value functions = .ok v) (n : Nat) :
    e.firstFailing functions n = none := by
  induction e generalizing v n with
  | number t => simp [firstFailing_number, fails_of_value_eq_ok h]
  | call f x ih =>
    obtain ⟨a, ha, -⟩ := value_call_eq_ok_iff.mp h
    simp [firstFailing_call, ih ha, fails_of_value_eq_ok h]
  | binary op t x y ihx ihy =>
    obtain ⟨a, ha, b, hb, -⟩ := value_binary_eq_ok_iff.mp h
    simp [firstFailing_binary, ihx ha, ihy hb, fails_of_value_eq_ok h]

/-- A tree does not fail for a lack of operands. -/
theorem value_ne_tooManyOperators : e.value functions ≠ .error .tooManyOperators := by
  induction e with
  | number t => exact Postfix.readNumber_ne_tooManyOperators
  | call f x ih =>
    intro h
    rcases value_call_eq_error_iff.mp h with hx | ⟨a, -, hvalue⟩
    · exact ih hx
    · exact Postfix.applyFunction_ne_tooManyOperators hvalue
  | binary op t x y ihx ihy =>
    intro h
    rcases value_binary_eq_error_iff.mp h with hx | ⟨a, -, hy | ⟨b, -, hvalue⟩⟩
    · exact ihx hx
    · exact ihy hy
    · exact Postfix.applyOperator_ne_tooManyOperators hvalue

/-! ### The machine at the node that fails -/

/-- The machine stops at the first node that has no value. On the stack it leaves what was there before
    the tree, and the left operands of the operators that have this node in their right one. -/
theorem run_postorder_of_fails (h : e.WellKinded) (hv : e.value functions = .error cause) (n : Nat)
    (stack : Postfix.Stack) :
    ∃ node m left, e.firstFailing functions n = some (node, m) ∧
      node.value functions = .error cause ∧
      Postfix.run functions stack e.postorder = .error ⟨cause, left⟩ ∧
      left.length + n = stack.length + m := by
  induction e generalizing n stack with
  | number t =>
    have hk : t.kind = .number := h
    refine ⟨number t, n, stack, ?_, hv, ?_, rfl⟩
    · simp [firstFailing_number, fails_of_value_eq_error hv]
    · exact Postfix.run_eq_error_iff.mpr ⟨[], t, [], stack, rfl, rfl,
        Postfix.step_eq_error_iff.mpr (.inl ⟨hk, rfl, hv⟩)⟩
  | call f x ih =>
    obtain ⟨hf, hx⟩ := h
    rcases value_call_eq_error_iff.mp hv with hxv | ⟨a, ha, hvalue⟩
    · obtain ⟨node, m, left, hfirst, hnode, hrun, hlength⟩ := ih hx hxv n stack
      refine ⟨node, m, left, ?_, hnode, Postfix.run_append_eq_error hrun _, hlength⟩
      rw [firstFailing_call, hfirst, Option.some_or]
    · -- The argument has a value, so the call is what fails.
      refine ⟨call f x, n, stack, ?_, hv, ?_, rfl⟩
      · simp [firstFailing_call, firstFailing_eq_none ha, fails_of_value_eq_error hv]
      · exact Postfix.run_eq_error_iff.mpr ⟨x.postorder, f, [], a :: stack, rfl,
          run_postorder hx ha stack,
          Postfix.step_eq_error_iff.mpr (.inr (.inl ⟨hf, a, rfl, hvalue⟩))⟩
  | binary op t x y ihx ihy =>
    obtain ⟨ht, hx, hy⟩ := h
    rcases value_binary_eq_error_iff.mp hv with hxv | ⟨a, ha, hyv | ⟨b, hb, hvalue⟩⟩
    · obtain ⟨node, m, left, hfirst, hnode, hrun, hlength⟩ := ihx hx hxv n stack
      refine ⟨node, m, left, ?_, hnode, ?_, hlength⟩
      · rw [firstFailing_binary, hfirst, Option.some_or, Option.some_or]
      · exact Postfix.run_append_eq_error (Postfix.run_append_eq_error hrun _) _
    · -- The value of the left operand waits on the stack, and one operator more is above the node.
      obtain ⟨node, m, left, hfirst, hnode, hrun, hlength⟩ := ihy hy hyv (n + 1) (a :: stack)
      refine ⟨node, m, left, ?_, hnode, ?_, ?_⟩
      · rw [firstFailing_binary, firstFailing_eq_none ha, hfirst, Option.none_or, Option.some_or]
      · apply Postfix.run_append_eq_error
        rw [Postfix.run_append, run_postorder hx ha stack]
        exact hrun
      · rw [List.length_cons] at hlength
        omega
    · -- Both operands have a value, so the operator is what fails.
      refine ⟨binary op t x y, n, stack, ?_, hv, ?_, rfl⟩
      · simp [firstFailing_binary, firstFailing_eq_none ha, firstFailing_eq_none hb,
          fails_of_value_eq_error hv]
      · have hoperands : Postfix.run functions stack (x.postorder ++ y.postorder) =
            .ok (b :: a :: stack) :=
          Postfix.run_append_eq_ok_iff.mpr
            ⟨a :: stack, run_postorder hx ha stack, run_postorder hy hb (a :: stack)⟩
        exact Postfix.run_eq_error_iff.mpr ⟨x.postorder ++ y.postorder, t, [], b :: a :: stack, rfl,
          hoperands, Postfix.step_eq_error_iff.mpr (.inr (.inr (.inl ⟨op, a, b, ht, rfl, hvalue⟩)))⟩

/-- What is reported for the postorder of a tree without a value. -/
theorem evaluate_postorder_of_fails (h : e.WellKinded) (hv : e.value functions = .error cause) :
    ∃ node n, e.firstFailing functions 0 = some (node, n) ∧ node.value functions = .error cause ∧
      Postfix.evaluate functions e.postorder =
        .error ⟨cause, if n ≤ 1 then [] else [.tooFewOperators n]⟩ := by
  obtain ⟨node, n, left, hfirst, hnode, hrun, hlength⟩ := run_postorder_of_fails h hv 0 []
  have hlength : left.length = n := by simpa using hlength
  have hleft : Postfix.leftover left = if n ≤ 1 then [] else [.tooFewOperators n] := by
    unfold Postfix.leftover
    rw [hlength]
    by_cases hn : n ≤ 1
    · rw [if_pos hn, if_neg (by omega)]
    · rw [if_neg hn, if_pos (by omega)]
  refine ⟨node, n, hfirst, hnode, ?_⟩
  exact Postfix.evaluate_eq_error_iff.mpr (.inl ⟨⟨cause, left⟩, hrun, by rw [← hleft]⟩)

end Expression

namespace Infix.Derivation

/-- What is reported for a text whose tokens are an expression without a value. -/
theorem exists_firstFailing {c : Calculator} {d : Derivation .expression} {text : String}
    (h : c.scan text = d.yield) {cause : EvaluationError}
    (hcause : (d.meaning c.constants).value c.functions = .error cause) :
    ∃ node n, (d.meaning c.constants).firstFailing c.functions 0 = some (node, n) ∧
      node.value c.functions = .error cause ∧
      c.evaluate text = .error
        ⟨.evaluation cause, if n ≤ 1 then [] else [.evaluation (.tooFewOperators n)]⟩ := by
  obtain ⟨node, n, hfirst, hnode, hreport⟩ :=
    Expression.evaluate_postorder_of_fails (d.wellKinded_meaning c.constants) hcause
  refine ⟨node, n, hfirst, hnode, ?_⟩
  rw [evaluate_of_scan_eq_yield h, Calculator.run_eq_error_iff]
  refine ⟨_, hreport, ?_⟩
  by_cases hn : n ≤ 1
  · rw [if_pos hn, if_pos hn]
    rfl
  · rw [if_neg hn, if_neg hn]
    rfl

/-- **Failing expressions.** If the tokens of a text are an expression without a value, the first node
    in postorder that has none is reported, and after it the number of the operators that have this node
    in their right operand, if there are two or more. It is never reported that there are too many
    operators. -/
theorem evaluate_eq_error_of_meaning (c : Calculator) (d : Derivation .expression) (text : String)
    (h : c.scan text = d.yield) :
    (∀ cause, (d.meaning c.constants).value c.functions = .error cause →
      ∃ node n, (d.meaning c.constants).firstFailing c.functions 0 = some (node, n) ∧
        node.value c.functions = .error cause ∧
        c.evaluate text = .error
          ⟨.evaluation cause, if n ≤ 1 then [] else [.evaluation (.tooFewOperators n)]⟩) ∧
    ∀ diagnostics, c.evaluate text = .error diagnostics →
      .evaluation .tooManyOperators ∉ diagnostics.toList := by
  refine ⟨fun cause hcause => exists_firstFailing h hcause, ?_⟩
  intro diagnostics hdiagnostics hmem
  cases hvalue : (d.meaning c.constants).value c.functions with
  | ok v =>
    -- A text with a value reports nothing.
    have hpostorder := Expression.evaluate_postorder (d.wellKinded_meaning c.constants) hvalue
    rw [evaluate_of_scan_eq_yield h, Calculator.run_eq_ok_iff.mpr hpostorder] at hdiagnostics
    cases hdiagnostics
  | error cause =>
    obtain ⟨node, n, -, -, hreport⟩ := exists_firstFailing h hvalue
    obtain rfl := Except.error.inj (hreport.symm.trans hdiagnostics)
    rcases List.mem_cons.mp hmem with heq | hleft
    · cases heq
      exact Expression.value_ne_tooManyOperators hvalue
    · split at hleft <;> simp at hleft

/-- A derivation of `2/0` in `1+3*(2/0)`. -/
def quotientByZero : Derivation .expression :=
  .lift .chain (.lift .term (@binary .divide
    (.lift .power (.lift .primary (.leaf (.number (.ofText .number "2" 5)))))
    (.ofText (.operator .divide) "/" 6)
    (.lift .primary (.leaf (.number (.ofText .number "0" 7))))))

/-- A derivation of `1+3*(2/0)`, in which two operators have the quotient in their right operand. -/
def sumWithQuotientByZero : Derivation .expression :=
  @binary .add
    (.lift .chain (.lift .term (.lift .power (.lift .primary
      (.leaf (.number (.ofText .number "1" 0)))))))
    (.ofText (.operator .add) "+" 1)
    (@binary .multiply
      (.lift .power (.lift .primary (.leaf (.number (.ofText .number "3" 2)))))
      (.ofText (.operator .multiply) "*" 3)
      (.lift .primary (.group (.ofText .openBracket "(" 4) quotientByZero
        (.ofText .closeBracket ")" 8))))

/-- In `1+3*(2/0)` the quotient fails while the one and the three wait for their operators. -/
theorem evaluate_sumWithQuotientByZero :
    Calculator.standard.scan "1+3*(2/0)" = sumWithQuotientByZero.yield ∧
      (sumWithQuotientByZero.meaning .standard).value .standard = .error (.divisionByZero 7) ∧
      Calculator.standard.evaluate "1+3*(2/0)" =
        .error ⟨.evaluation (.divisionByZero 7), [.evaluation (.tooFewOperators 2)]⟩ := by
  have hscan : Calculator.standard.scan "1+3*(2/0)" = sumWithQuotientByZero.yield := by
    decide +kernel
  have hvalue : (sumWithQuotientByZero.meaning .standard).value .standard =
      .error (.divisionByZero 7) := by
    decide +kernel
  have hcount : ((sumWithQuotientByZero.meaning .standard).firstFailing .standard 0).map (·.2) =
      some 2 := by
    decide +kernel
  obtain ⟨node, n, hfirst, -, hreport⟩ :=
    (evaluate_eq_error_of_meaning .standard _ _ hscan).1 _ hvalue
  have hn : n = 2 := by
    have hfirst' : (sumWithQuotientByZero.meaning .standard).firstFailing .standard 0 =
        some (node, n) := hfirst
    rw [hfirst'] at hcount
    exact Option.some.inj hcount
  rw [hn] at hreport
  exact ⟨hscan, hvalue, hreport⟩

end Infix.Derivation

end Abacus
