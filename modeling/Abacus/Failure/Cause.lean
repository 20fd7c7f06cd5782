import Abacus.Text.CharClass

/-! # What can go wrong with an expression

  One type of causes for each stage that an expression passes, and `CalcError` over all of them. A
  cause holds what its message says; `message` is the only place that words it.

  - `LexError`: a piece of the text is no token.
  - `SyntaxError`: the brackets do not match, or a token has no place in an expression.
  - `EvaluationError`: an operation has no result, or operators and operands do not balance.

  Offsets count characters from zero. Positions are for users and count from one; position zero
  stands for a token that is not in the text.
-/

namespace Abacus

/-! ### Tokens -/

/-- Why a piece of the text is no token. -/
inductive LexErrorKind where
  /-- A character that begins no token. -/
  | unknownChar (c : Char)
  /-- A name that is neither a constant nor a function. -/
  | unknownIdentifier (name : String)
  /-- A number with several points. -/
  | multipleDecimalPoints
deriving DecidableEq, Repr

/-- A piece of the text that is no token. -/
structure LexError where
  /-- Why it is none. -/
  kind : LexErrorKind
  /-- Where it begins. -/
  offset : Nat
deriving DecidableEq, Repr

/-- A character as a message names it: itself in quotes if it is visible, else its number. -/
def nameChar (c : Char) : String :=
  if Text.isVisible c then String.ofList ['\'', c, '\''] else toString c.toNat

/-- The wording of a lexical cause. -/
def LexErrorKind.message : LexErrorKind → String
  | .unknownChar c => "Unknown char " ++ nameChar c
  | .unknownIdentifier name => "Unknown constant or function '" ++ name ++ "'"
  | .multipleDecimalPoints => "Number cannot have more than one decimal point"

/-- The wording of a lexical error, without its place. -/
def LexError.message (e : LexError) : String :=
  e.kind.message

/-! ### Structure -/

/-- Why a sequence of tokens is no expression. -/
inductive SyntaxError where
  /-- A closing bracket without an opening one. -/
  | unmatchedCloseBracket
  /-- Opening brackets that are never closed, and how many. -/
  | unclosedBrackets (count : Nat)
  /-- A token that belongs to no expression. -/
  | unrecognizedToken (position : Nat)
deriving DecidableEq, Repr

/-- A position in brackets, as it begins a message. -/
def atPosition (position : Nat) (text : String) : String :=
  "[" ++ toString position ++ "] " ++ text

/-- The wording of a structural cause. -/
def SyntaxError.message : SyntaxError → String
  | .unmatchedCloseBracket => "Unmatched brackets, no matching '(' found"
  | .unclosedBrackets count =>
    "Bracket mismatch. " ++ toString count ++ " bracket(s) have no matching ')'"
  | .unrecognizedToken position =>
    atPosition position "Token list contains unknown or bad token type"

/-! ### Values -/

/-- Why a function has no value. -/
inductive FunctionError where
  /-- The argument is outside of the function's domain. -/
  | domain
  /-- Another reason, in the function's own words. -/
  | failure (message : String)
deriving DecidableEq, Repr

/-- The wording of a function's failure. -/
def FunctionError.message : FunctionError → String
  | .domain => "math domain error"
  | .failure message => message

/-- Why a postfix sequence has no value. -/
inductive EvaluationError where
  /-- An operator or function finds too few operands. -/
  | tooManyOperators
  /-- Several operands are left, and how many. -/
  | tooFewOperators (count : Nat)
  /-- The divisor is zero. -/
  | divisionByZero (position : Nat)
  /-- The argument is outside of the function's domain, or the value is not a finite number. -/
  | functionDomain (position : Nat)
  /-- The function fails for a reason of its own. -/
  | functionFailure (position : Nat) (message : String)
  /-- The power has no finite real value. -/
  | exponentFailure (position : Nat) (base exponent message : String)
  /-- An operand is too large for binary floating point. -/
  | arithmetic (position : Nat) (message : String)
  /-- The text of a number does not spell one. -/
  | invalidNumber (position : Nat) (lexeme : String)
  /-- No function has this name. -/
  | unknownFunction (position : Nat) (name : String)
  /-- A token that has no place in a postfix sequence. -/
  | unexpectedToken (position : Nat) (lexeme : String)
  /-- There is nothing to evaluate. -/
  | emptyExpression
deriving DecidableEq, Repr

/-- The wording of an evaluation's failure. -/
def EvaluationError.message : EvaluationError → String
  | .tooManyOperators => "Too many operators for the number of operands"
  | .tooFewOperators count =>
    "Too few operators for the number of operands, " ++ toString count ++ " specifically"
  | .divisionByZero position => atPosition position "Division by zero"
  | .functionDomain position => atPosition position "Function failure, math domain error"
  | .functionFailure position message => atPosition position ("Function failure, " ++ message)
  | .exponentFailure position base exponent message =>
    atPosition position
      ("expression: '" ++ base ++ "^(" ++ exponent ++ ")' failed, " ++ message)
  | .arithmetic position message => atPosition position ("Arithmetic failure, " ++ message)
  | .invalidNumber position lexeme => atPosition position ("Invalid number '" ++ lexeme ++ "'")
  | .unknownFunction position name => atPosition position ("Unknown function '" ++ name ++ "'")
  | .unexpectedToken position lexeme =>
    atPosition position ("Unexpected token '" ++ lexeme ++ "' in postfix sequence")
  | .emptyExpression => "Expression has no value"

/-! ### All stages -/

/-- Why an expression has no value. -/
inductive CalcError where
  /-- A piece of the text is no token. -/
  | lexical (e : LexError)
  /-- The tokens are no expression. -/
  | structural (e : SyntaxError)
  /-- The expression has no value. -/
  | evaluation (e : EvaluationError)
deriving DecidableEq, Repr

/-- The wording of an error, without its place in the text. -/
def CalcError.message : CalcError → String
  | .lexical e => e.message
  | .structural e => e.message
  | .evaluation e => e.message

/-- Whether the error concerns a token. -/
def CalcError.isLexical : CalcError → Bool
  | .lexical _ => true
  | .structural _ | .evaluation _ => false

end Abacus
