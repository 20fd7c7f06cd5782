import Abacus.Postfix.Machine
import Abacus.Proofs.Failure.Outcome

/-! # The height of the operand stack

  How many values a postfix sequence leaves on the stack depends on the kinds of its tokens alone:

  - an operand adds a value, an operator takes one away, and a function changes nothing;
  - an operator needs two values and a function one, else the machine stops.

  `height` follows this count without evaluating anything. `run_height` says that every run agrees
  with it, and `run_frame` that a run which the count allows from a part of the stack never looks
  below that part.
-/

namespace Abacus

/-- Whether the token is a binary operator. -/
def TokenKind.isOperator : TokenKind → Bool
  | .operator _ => true
  | .bad | .none | .identifier | .constant | .number | .openBracket | .closeBracket
  | .function => false

@[simp] theorem TokenKind.isOperator_operator (op : Operator) :
    (TokenKind.operator op).isOperator = true := rfl

@[simp] theorem TokenKind.isOperator_number : TokenKind.number.isOperator = false := rfl

@[simp] theorem TokenKind.isOperator_function : TokenKind.function.isOperator = false := rfl

theorem TokenKind.isOperator_iff {k : TokenKind} : k.isOperator = true ↔ ∃ op, k = .operator op := by
  cases k <;> simp [isOperator]

namespace Postfix

variable {functions : FunctionTable} {stack stack' : Stack} {t : Token} {ts : List Token}

/-! ### What one step can do -/

theorem pushResult_eq_ok_iff {r : Except EvaluationError Decimal} :
    pushResult stack r = .ok stack' ↔ ∃ v, r = .ok v ∧ stack' = v :: stack := by
  cases r with
  | ok v => simp [pushResult, eq_comm]
  | error e => simp [pushResult]

/-- The machine reads a token successfully in three ways only: it pushes a number, or replaces the
    operands of a function or of an operator by the result. -/
theorem step_eq_ok_iff :
    step functions stack t = .ok stack' ↔
      (t.kind = .number ∧ ∃ v, readNumber t = .ok v ∧ stack' = v :: stack) ∨
      (t.kind = .function ∧ ∃ x rest v, stack = x :: rest ∧
        applyFunction functions t x = .ok v ∧ stack' = v :: rest) ∨
      (∃ op x y rest v, t.kind = .operator op ∧ stack = y :: x :: rest ∧
        applyOperator op x y t.position = .ok v ∧ stack' = v :: rest) := by
  unfold step
  cases hk : t.kind with
  | number => simp [pushResult_eq_ok_iff]
  | function =>
    cases stack with
    | nil => simp
    | cons x rest => simp [pushResult_eq_ok_iff, and_assoc]
  | operator op =>
    match stack with
    | [] => simp
    | [_] => simp
    | y :: x :: rest => simp [pushResult_eq_ok_iff, and_assoc]
  | bad | none | identifier | constant | openBracket | closeBracket => simp

theorem run_cons_eq_ok_iff :
    run functions stack (t :: ts) = .ok stack' ↔
      ∃ s, step functions stack t = .ok s ∧ run functions s ts = .ok stack' := by
  rw [run_cons]
  exact Outcome.bind_eq_ok_iff

theorem run_append_eq_ok_iff {us : List Token} :
    run functions stack (ts ++ us) = .ok stack' ↔
      ∃ s, run functions stack ts = .ok s ∧ run functions s us = .ok stack' := by
  rw [run_append]
  exact Outcome.bind_eq_ok_iff

theorem evaluate_eq_ok_iff {v : Decimal} :
    evaluate functions ts = .ok v ↔ run functions [] ts = .ok [v] := by
  unfold evaluate
  cases hr : run functions [] ts with
  | error halt => simp [conclude]
  | ok out =>
    match out with
    | [] => simp [conclude]
    | [x] => simp [conclude]
    | x :: y :: rest => simp [conclude]

/-! ### Counting values -/

/-- The number of values after a token, from the number before it; none if there are too few, or if
    the token has no place in a postfix sequence. -/
def heightStep (n : Nat) (t : Token) : Option Nat :=
  match t.kind with
  | .number | .constant | .identifier => some (n + 1)
  | .function => if 1 ≤ n then some n else none
  | .operator _ => if 2 ≤ n then some (n - 1) else none
  | .openBracket | .closeBracket | .bad | .none => none

/-- The number of values after a sequence, from the number before it. -/
def height (n : Nat) (ts : List Token) : Option Nat :=
  ts.foldlM heightStep n

@[simp] theorem height_nil (n : Nat) : height n [] = some n := rfl

theorem height_cons (n : Nat) (t : Token) (ts : List Token) :
    height n (t :: ts) = (heightStep n t).bind (height · ts) := rfl

theorem height_append (n : Nat) (ts us : List Token) :
    height n (ts ++ us) = (height n ts).bind (height · us) :=
  List.foldlM_append

theorem heightStep_operand (n : Nat) (h : t.kind.isOperand = true) :
    heightStep n t = some (n + 1) := by
  unfold heightStep
  cases hk : t.kind <;> simp_all [TokenKind.isOperand]

theorem heightStep_function (n : Nat) (h : t.kind = .function) :
    heightStep n t = if 1 ≤ n then some n else none := by
  simp [heightStep, h]

theorem heightStep_operator (n : Nat) (h : t.kind.isOperator = true) :
    heightStep n t = if 2 ≤ n then some (n - 1) else none := by
  obtain ⟨op, hop⟩ := TokenKind.isOperator_iff.mp h
  simp [heightStep, hop]

theorem heightStep_count {n m : Nat} (h : heightStep n t = some m) :
    n + (if t.kind.isOperand then 1 else 0) = m + (if t.kind.isOperator then 1 else 0) := by
  unfold heightStep at h
  cases hk : t.kind with
  | number | constant | identifier =>
    simp only [hk, Option.some.injEq] at h
    simp [TokenKind.isOperand, TokenKind.isOperator, h]
  | function =>
    simp only [hk, Option.ite_none_right_eq_some, Option.some.injEq] at h
    simp [TokenKind.isOperand, h.2]
  | operator op =>
    simp only [hk, Option.ite_none_right_eq_some, Option.some.injEq] at h
    simp only [TokenKind.isOperand, TokenKind.isOperator, Bool.false_eq_true, if_false, if_true]
    omega
  | openBracket | closeBracket | bad | none => simp [hk] at h

/-- Each operand adds a value and each operator takes one away. -/
theorem height_count {n m : Nat} (h : height n ts = some m) :
    n + ts.countP (·.kind.isOperand) = m + ts.countP (·.kind.isOperator) := by
  induction ts generalizing n with
  | nil =>
    cases h
    rfl
  | cons t ts ih =>
    rw [height_cons] at h
    obtain ⟨k, hk, hrest⟩ := Option.bind_eq_some_iff.mp h
    have hstep := heightStep_count hk
    have ih := ih hrest
    rw [List.countP_cons, List.countP_cons]
    omega

/-- A token that can be read leaves a value. -/
theorem one_le_of_heightStep {n m : Nat} (h : heightStep n t = some m) : 1 ≤ m := by
  unfold heightStep at h
  cases hk : t.kind with
  | number | constant | identifier =>
    simp only [hk, Option.some.injEq] at h
    omega
  | function | operator op =>
    simp only [hk, Option.ite_none_right_eq_some, Option.some.injEq] at h
    omega
  | openBracket | closeBracket | bad | none => simp [hk] at h

/-- A sequence that leaves no value is empty. -/
theorem eq_nil_of_height {n : Nat} (h : height n ts = some 0) : ts = [] := by
  induction ts generalizing n with
  | nil => rfl
  | cons t ts ih =>
    rw [height_cons] at h
    obtain ⟨k, hk, hrest⟩ := Option.bind_eq_some_iff.mp h
    -- The rest would be empty, so the first token would leave no value.
    rw [ih hrest, height_nil] at hrest
    cases hrest
    exact absurd (one_le_of_heightStep hk) (Nat.not_succ_le_zero 0)

theorem step_height (h : step functions stack t = .ok stack') :
    heightStep stack.length t = some stack'.length := by
  rcases step_eq_ok_iff.mp h with ⟨hk, v, -, rfl⟩ | ⟨hk, x, rest, v, rfl, -, rfl⟩ |
    ⟨op, x, y, rest, v, hk, rfl, -, rfl⟩
  · simp [heightStep, hk]
  · simp [heightStep, hk]
  · simp [heightStep, hk]

/-- Every run that succeeds has the height that its tokens count up to. -/
theorem run_height (h : run functions stack ts = .ok stack') :
    height stack.length ts = some stack'.length := by
  induction ts generalizing stack with
  | nil =>
    rw [run_nil] at h
    cases h
    rfl
  | cons t ts ih =>
    obtain ⟨s, hs, hrest⟩ := run_cons_eq_ok_iff.mp h
    rw [height_cons, step_height hs]
    exact ih hrest

/-! ### What lies below is not looked at -/

theorem step_frame {below out : Stack} {n : Nat}
    (hn : heightStep stack.length t = some n)
    (h : step functions (stack ++ below) t = .ok out) :
    ∃ out', out = out' ++ below ∧ step functions stack t = .ok out' := by
  rcases step_eq_ok_iff.mp h with ⟨hk, v, hv, rfl⟩ | ⟨hk, x, rest, v, heq, hv, rfl⟩ |
    ⟨op, x, y, rest, v, hk, heq, hv, rfl⟩
  · exact ⟨v :: stack, rfl, step_eq_ok_iff.mpr (.inl ⟨hk, v, hv, rfl⟩)⟩
  -- An operand below the upper part would contradict the count.
  · match stack with
    | [] => simp [heightStep, hk] at hn
    | a :: as =>
      cases heq
      exact ⟨v :: as, rfl, step_eq_ok_iff.mpr (.inr (.inl ⟨hk, x, as, v, rfl, hv, rfl⟩))⟩
  · match stack with
    | [] => simp [heightStep, hk] at hn
    | [_] => simp [heightStep, hk] at hn
    | b :: a :: as =>
      cases heq
      exact ⟨v :: as, rfl,
        step_eq_ok_iff.mpr (.inr (.inr ⟨op, x, y, as, v, hk, rfl, hv, rfl⟩))⟩

/-- A run that has enough values in the upper part of a stack leaves the lower part alone, and does
    the same on the upper part by itself. -/
theorem run_frame {below out : Stack} {n : Nat}
    (hn : height stack.length ts = some n)
    (h : run functions (stack ++ below) ts = .ok out) :
    ∃ out', out = out' ++ below ∧ run functions stack ts = .ok out' := by
  induction ts generalizing stack with
  | nil =>
    rw [run_nil] at h
    cases h
    exact ⟨stack, rfl, rfl⟩
  | cons t ts ih =>
    obtain ⟨s, hs, hrest⟩ := run_cons_eq_ok_iff.mp h
    rw [height_cons] at hn
    obtain ⟨m, hm, hn⟩ := Option.bind_eq_some_iff.mp hn
    -- The first token finds its operands in the upper part; the count goes on from what it leaves.
    obtain ⟨s', rfl, hs'⟩ := step_frame hm hs
    have hlen : s'.length = m := by
      have := step_height hs'
      rw [hm] at this
      exact (Option.some.inj this).symm
    obtain ⟨out', hout, hrun⟩ := ih (by rw [hlen]; exact hn) hrest
    exact ⟨out', hout, run_cons_eq_ok_iff.mpr ⟨s', hs', hrun⟩⟩

/-- A run that adds one value to those on the stack adds the value that it finds by itself. -/
theorem run_frame_one {below out : Stack} (hn : height 0 ts = some 1)
    (h : run functions below ts = .ok out) :
    ∃ v, out = v :: below ∧ run functions [] ts = .ok [v] := by
  -- The upper part is empty at first, so all that the run adds is what it finds by itself.
  have hframe : ∃ top, out = top ++ below ∧ run functions [] ts = .ok top := run_frame hn h
  obtain ⟨top, rfl, htop⟩ := hframe
  have hlength : top.length = 1 := by
    have htopHeight := run_height htop
    rw [List.length_nil, hn] at htopHeight
    exact (Option.some.inj htopHeight).symm
  obtain ⟨v, rfl⟩ := List.length_eq_one_iff.mp hlength
  exact ⟨v, rfl, htop⟩

end Postfix

end Abacus
