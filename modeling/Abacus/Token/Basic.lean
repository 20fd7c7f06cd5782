import Abacus.Failure.Cause

/-! # Tokens

  A token is a classified piece of an expression. It knows the text it stands for and where that
  begins; tokens that a later stage puts in are not in the text and have no place.

  Operators are one kind of token, indexed by `Operator`, because every stage treats the five alike
  but for their precedence and their meaning.
-/

namespace Abacus

/-- The binary operators. -/
inductive Operator where
  /-- The sum. -/
  | add
  /-- The difference. -/
  | subtract
  /-- The product. -/
  | multiply
  /-- The quotient. -/
  | divide
  /-- The power. -/
  | exponent
deriving DecidableEq, Repr

namespace Operator

/-- How tightly the operator binds its operands; larger is tighter. -/
def precedence : Operator → Nat
  | .add | .subtract => 1
  | .multiply | .divide => 2
  | .exponent => 3

/-- The name of the operation. -/
def name : Operator → String
  | .add => "Addition"
  | .subtract => "Subtraction"
  | .multiply => "Multiplication"
  | .divide => "Division"
  | .exponent => "Exponent"

/-- The character that writes the operator. -/
def symbol : Operator → Char
  | .add => '+'
  | .subtract => '-'
  | .multiply => '*'
  | .divide => '/'
  | .exponent => '^'

/-- All operators. -/
def all : List Operator :=
  [.add, .subtract, .multiply, .divide, .exponent]

/-- The operator that the character writes. -/
def ofChar? (c : Char) : Option Operator :=
  all.find? fun op => op.symbol = c

end Operator

/-- What a token is. -/
inductive TokenKind where
  /-- A piece of text that is no token. -/
  | bad
  /-- No token at all. -/
  | none
  /-- A name without a meaning of its own. -/
  | identifier
  /-- The name of a constant. -/
  | constant
  /-- A number. -/
  | number
  /-- A binary operator. -/
  | operator (op : Operator)
  /-- An opening bracket. -/
  | openBracket
  /-- A closing bracket. -/
  | closeBracket
  /-- The name of a function. -/
  | function
deriving DecidableEq, Repr

namespace TokenKind

/-- The name of the kind. -/
def name : TokenKind → String
  | .bad => "Bad"
  | .none => "None"
  | .identifier => "Identifier"
  | .constant => "Const"
  | .number => "Number"
  | .operator op => op.name
  | .openBracket => "Open bracket"
  | .closeBracket => "Close bracket"
  | .function => "Function"

/-- The precedence of a function, which is that of sums. -/
def functionPrecedence : Nat := Operator.precedence .add

/-- How tightly a pending token binds; larger is tighter. -/
def precedence : TokenKind → Nat
  | .operator op => op.precedence
  | .function => functionPrecedence
  | .bad | .none | .identifier | .constant | .number | .openBracket | .closeBracket => 0

/-- Whether the token is an operand by itself. -/
def isOperand : TokenKind → Bool
  | .number | .constant | .identifier => true
  | .bad | .none | .operator _ | .openBracket | .closeBracket | .function => false

/-- Whether a value can end with the token, so that a minus after it subtracts. -/
def endsValue : TokenKind → Bool
  | .closeBracket => true
  | kind => kind.isOperand

end TokenKind

/-- A classified piece of an expression. -/
structure Token where
  /-- What the token is. -/
  kind : TokenKind
  /-- The text it stands for. -/
  lexeme : String
  /-- Where that text begins, unless the token was put in by a later stage. -/
  offset : Option Nat
  /-- Why the text is no token, if it is none. -/
  error : Option LexError
deriving DecidableEq, Repr

namespace Token

/-- A token of the text. -/
def ofText (kind : TokenKind) (lexeme : String) (offset : Nat) : Token :=
  ⟨kind, lexeme, some offset, none⟩

/-- A piece of the text that is no token. -/
def bad (lexeme : String) (error : LexError) : Token :=
  ⟨.bad, lexeme, some error.offset, some error⟩

/-- A token that is not in the text. -/
def inserted (kind : TokenKind) (lexeme : String) : Token :=
  ⟨kind, lexeme, none, none⟩

/-- The token read as a number with the given text, at the same place. -/
def toNumber (t : Token) (lexeme : String) : Token :=
  ⟨.number, lexeme, t.offset, none⟩

/-- Whether the token is a piece of the text that is none. -/
def isBad (t : Token) : Bool :=
  t.kind = .bad

/-- The place of the token, counted from one; zero if it is not in the text. -/
def position (t : Token) : Nat :=
  t.offset.elim 0 (· + 1)

/-- The texts of the tokens, separated by single spaces. -/
def format (ts : List Token) : String :=
  " ".intercalate (ts.map lexeme)

/-- The number of pieces that are no tokens. -/
def badCount (ts : List Token) : Nat :=
  ts.countP isBad

/-- The errors that the tokens carry, in order. -/
def errors (ts : List Token) : List LexError :=
  ts.filterMap error

/-- A lexical error as a line of a report, with its place counted from one. -/
def reportLine (e : LexError) : String :=
  "char " ++ toString (e.offset + 1) ++ ". " ++ e.message ++ "."

/-- The errors that the tokens carry, one line for each. -/
def report (ts : List Token) : List String :=
  (errors ts).map reportLine

end Token

end Abacus
