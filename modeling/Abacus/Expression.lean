import Abacus.Postfix.Machine

/-! # Expression trees

  What a postfix sequence means: it is the postorder of a tree, and its value is the value of that
  tree, found from the leaves up.

  - `Expression.value` evaluates a tree; the operands of an operator are evaluated from left to
    right.
  - `Expression.postorder` lists the tokens of a tree in the order in which the stack machine needs
    them.
  - `evaluate_postorder`: the machine finds the value of the tree.
-/

namespace Abacus

/-- An expression as a tree of tokens. -/
inductive Expression where
  /-- A number. -/
  | number (t : Token)
  /-- A function applied to an argument. -/
  | call (f : Token) (x : Expression)
  /-- An operator between two operands. -/
  | binary (op : Operator) (t : Token) (x y : Expression)

namespace Expression

/-- Whether each token of the tree is of the kind that its place calls for. -/
def WellKinded : Expression → Prop
  | number t => t.kind = .number
  | call f x => f.kind = .function ∧ x.WellKinded
  | binary op t x y => t.kind = .operator op ∧ x.WellKinded ∧ y.WellKinded

/-- The tokens of the tree, each after its operands. -/
def postorder : Expression → List Token
  | number t => [t]
  | call f x => x.postorder ++ [f]
  | binary _ t x y => x.postorder ++ y.postorder ++ [t]

/-- The value of the tree, or the first failure on the way to it. -/
def value (functions : FunctionTable) : Expression → Except EvaluationError Decimal
  | number t => Postfix.readNumber t
  | call f x => do
    let a ← x.value functions
    Postfix.applyFunction functions f a
  | binary op t x y => do
    let a ← x.value functions
    let b ← y.value functions
    Postfix.applyOperator op a b t.position

/-! ### The stack machine and the tree -/

/-- Reading the tokens of a tree that has a value leaves that value on top of the stack. -/
theorem run_postorder {functions : FunctionTable} {e : Expression} (h : e.WellKinded)
    {v : Decimal} (hv : e.value functions = .ok v) (stack : Postfix.Stack) :
    Postfix.run functions stack e.postorder = .ok (v :: stack) := by
  induction e generalizing v stack with
  | number t =>
    have h : t.kind = .number := h
    have hv : Postfix.readNumber t = .ok v := hv
    simp only [postorder, Postfix.run_cons, Postfix.run_nil, Postfix.step, h, hv]
    rfl
  | call f x ih =>
    obtain ⟨hf, hx⟩ := h
    cases ha : x.value functions with
    | error e => simp [value, ha, bind, Except.bind] at hv
    | ok a =>
      have hv : Postfix.applyFunction functions f a = .ok v := by
        simpa [value, ha, bind, Except.bind] using hv
      rw [postorder, Postfix.run_append, ih hx ha]
      simp only [bind, Except.bind, Postfix.run_cons, Postfix.run_nil, Postfix.step, hf, hv]
      rfl
  | binary op t x y ihx ihy =>
    obtain ⟨ht, hx, hy⟩ := h
    cases ha : x.value functions with
    | error e => simp [value, ha, bind, Except.bind] at hv
    | ok a =>
      cases hb : y.value functions with
      | error e => simp [value, ha, hb, bind, Except.bind] at hv
      | ok b =>
        have hv : Postfix.applyOperator op a b t.position = .ok v := by
          simpa [value, ha, hb, bind, Except.bind] using hv
        rw [postorder, Postfix.run_append, Postfix.run_append, ihx hx ha]
        simp only [bind, Except.bind, ihy hy hb, Postfix.run_cons, Postfix.run_nil, Postfix.step,
          ht, hv]
        rfl

/-- The value of the postorder of a tree is the value of the tree. -/
theorem evaluate_postorder {functions : FunctionTable} {e : Expression} (h : e.WellKinded)
    {v : Decimal} (hv : e.value functions = .ok v) :
    Postfix.evaluate functions e.postorder = .ok v := by
  rw [Postfix.evaluate, run_postorder h hv]
  rfl

end Expression

end Abacus
