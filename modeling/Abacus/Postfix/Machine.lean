import Abacus.Decimal.Text
import Abacus.Failure.Report
import Abacus.Postfix.Operation

/-! # Evaluating postfix tokens

  A stack machine reads the postfix tokens once. A number is pushed; a function takes its argument
  off the stack and pushes its value; an operator does the same with its two operands, the right one
  on top. The machine stops at the first failure.

  At the end one value must be left. Several are reported as operators that are missing, also after
  a failure, which leaves on the stack what was there below the operands that it took.
-/

namespace Abacus.Postfix

/-- Values, the latest first. -/
abbrev Stack := List Decimal

/-- Where the machine stopped. -/
structure Halt where
  /-- Why it stopped. -/
  cause : EvaluationError
  /-- The values that were left. -/
  stack : Stack
deriving DecidableEq, Repr

/-- Pushes a value, or stops with the values below its operands. -/
def pushResult (stack : Stack) : Except EvaluationError Decimal → Except Halt Stack
  | .ok x => .ok (x :: stack)
  | .error e => .error ⟨e, stack⟩

/-- The value of a number token. -/
def readNumber (t : Token) : Except EvaluationError Decimal :=
  match Decimal.ofLiteral? t.lexeme with
  | some x => .ok x
  | none => .error (.invalidNumber t.position t.lexeme)

/-- Reads one token. -/
def step (functions : FunctionTable) (stack : Stack) (t : Token) : Except Halt Stack :=
  match t.kind with
  | .number => pushResult stack (readNumber t)
  | .function =>
    match stack with
    | x :: rest => pushResult rest (applyFunction functions t x)
    | [] => .error ⟨.tooManyOperators, []⟩
  | .operator op =>
    match stack with
    | y :: x :: rest => pushResult rest (applyOperator op x y t.position)
    | [_] | [] => .error ⟨.tooManyOperators, []⟩
  | .identifier | .constant | .openBracket | .closeBracket | .bad | .none =>
    .error ⟨.unexpectedToken t.position t.lexeme, stack⟩

/-- Reads the tokens, from a given stack. -/
def run (functions : FunctionTable) (stack : Stack) (ts : List Token) : Except Halt Stack :=
  ts.foldlM (step functions) stack

@[simp] theorem run_nil (functions : FunctionTable) (stack : Stack) :
    run functions stack [] = .ok stack := rfl

theorem run_cons (functions : FunctionTable) (stack : Stack) (t : Token) (ts : List Token) :
    run functions stack (t :: ts) =
      step functions stack t >>= fun stack => run functions stack ts := rfl

/-- Two sequences are read one after the other. -/
theorem run_append (functions : FunctionTable) (stack : Stack) (ts us : List Token) :
    run functions stack (ts ++ us) =
      run functions stack ts >>= fun stack => run functions stack us :=
  List.foldlM_append

/-- The complaint about values that no operator joins. -/
def leftover (stack : Stack) : List EvaluationError :=
  if 1 < stack.length then [.tooFewOperators stack.length] else []

/-- The outcome of a finished run. -/
def conclude : Except Halt Stack → Except (Failures EvaluationError) Decimal
  | .error halt => .error ⟨halt.cause, leftover halt.stack⟩
  | .ok [] => .error (.one .emptyExpression)
  | .ok [x] => .ok x
  | .ok stack => .error (.one (.tooFewOperators stack.length))

/-- The value of postfix tokens, or why they have none. -/
def evaluate (functions : FunctionTable) (ts : List Token) :
    Except (Failures EvaluationError) Decimal :=
  conclude (run functions [] ts)

end Abacus.Postfix
