import Abacus.Token.Basic
import Abacus.Vocabulary

/-! # Preparing infix tokens

  Two steps prepare the tokens of an expression for conversion.

  - `substituteConstants` replaces each constant by the number that it stands for.
  - `normalizeMinus` replaces a minus that has no left operand, and stands directly before an
    operand `x`, by `( 0 - x )`. A minus before a bracket, a function or another minus stays as it
    is.

  Both steps keep the place of every token that they keep or replace.
-/

namespace Abacus.Infix

/-! ### Constants -/

/-- The number that a constant stands for; any other token, and a constant that the table does not
    know, as it is. -/
def substitute (constants : ConstantTable) (t : Token) : Token :=
  match t.kind with
  | .constant =>
    match constants.lexeme? t.lexeme with
    | some lexeme => t.toNumber lexeme
    | none => t
  | _ => t

/-- The tokens with each constant replaced by its number. -/
def substituteConstants (constants : ConstantTable) (ts : List Token) : List Token :=
  ts.map (substitute constants)

/-! ### The minus sign without a left operand -/

/-- Whether the token is a minus. -/
def isMinus (t : Token) : Bool :=
  t.kind = .operator .subtract

/-- The difference of zero and `x`, in brackets. -/
def negated (minus x : Token) : List Token :=
  [.inserted .openBracket "(", .inserted .number "0", minus, x, .inserted .closeBracket ")"]

/-- The tokens with the minus signs expanded; `afterValue` says whether a value ends just before
    them. -/
def normalizeFrom (afterValue : Bool) : List Token → List Token
  | [] => []
  | [t] => [t]
  | t :: x :: rest =>
    if isMinus t && !afterValue && x.kind.isOperand then
      negated t x ++ normalizeFrom true rest
    else t :: normalizeFrom t.kind.endsValue (x :: rest)

/-- The tokens with each minus that has no left operand expanded. -/
def normalizeMinus (ts : List Token) : List Token :=
  normalizeFrom false ts

end Abacus.Infix
