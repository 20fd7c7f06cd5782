import Abacus.Decimal.Arithmetic
import Abacus.Decimal.Float
import Abacus.Decimal.Text
import Abacus.Token.Basic
import Abacus.Vocabulary

/-! # What operators and functions compute

  Sums, differences and products are exact decimals, and quotients are rounded decimals. Powers and
  functions go through binary floating point and come back exactly, so they need finite operands and
  a finite result. A failure carries the position of the operator or function.
-/

namespace Abacus.Postfix

/-- The finite double for an operand. -/
def finiteFloat (x : Decimal) (position : Nat) : Except EvaluationError Float :=
  let f := x.toFloat
  if f.isFinite then .ok f
  else .error (.arithmetic position ("cannot convert " ++ x.text ++ " to floating point"))

/-- The power, in binary floating point. -/
def power (base exponent : Decimal) (position : Nat) : Except EvaluationError Decimal := do
  let failure (message : String) : EvaluationError :=
    .exponentFailure position base.text exponent.text message
  let b ← finiteFloat base position
  let e ← finiteFloat exponent position
  if b == 0 && e < 0 then throw (failure "math domain error")
  let result := Float.pow b e
  if result.isNaN then throw (failure "math domain error")
  match Decimal.ofFloat? result with
  | some x => pure x
  | none => throw (failure "math range error")

/-- The value of a binary operator. -/
def applyOperator (op : Operator) (x y : Decimal) (position : Nat) :
    Except EvaluationError Decimal :=
  match op with
  | .add => .ok (x + y)
  | .subtract => .ok (x - y)
  | .multiply => .ok (x * y)
  | .divide => if y.coeff = 0 then .error (.divisionByZero position) else .ok (x / y)
  | .exponent => power x y position

/-- The cause of an evaluation's failure when a function fails. -/
def ofFunctionError (position : Nat) : FunctionError → EvaluationError
  | .domain => .functionDomain position
  | .failure message => .functionFailure position message

/-- The value of a function, given by its token. -/
def applyFunction (functions : FunctionTable) (t : Token) (x : Decimal) :
    Except EvaluationError Decimal := do
  let some f := functions.findUpToCase? t.lexeme
    | throw (.unknownFunction t.position t.lexeme)
  let argument ← finiteFloat x t.position
  match f argument with
  | .error e => throw (ofFunctionError t.position e)
  | .ok y =>
    match Decimal.ofFloat? y with
    | some value => pure value
    | none => throw (.functionDomain t.position)

end Abacus.Postfix
