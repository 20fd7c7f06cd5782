import Abacus.Failure.Report
import Abacus.Token.Basic

/-! # Errors and tokens at other places

  What an error says does not change when its token stands elsewhere; only the position or offset in
  it does. `move` carries a change of offsets over to everything that holds a place: to tokens, and to
  the errors of each stage. Positions count from one, and zero stands for no place, so it stays.
-/

namespace Abacus

/-- The position of what is moved along with its offset. -/
def movePosition (f : Nat → Nat) : Nat → Nat
  | 0 => 0
  | offset + 1 => f offset + 1

/-- The error, if its token is moved. -/
def LexError.move (f : Nat → Nat) (e : LexError) : LexError :=
  { e with offset := f e.offset }

/-- The error with another position, if it names one. -/
def SyntaxError.mapPosition (f : Nat → Nat) : SyntaxError → SyntaxError
  | .unrecognizedToken position => .unrecognizedToken (f position)
  | .unmatchedCloseBracket => .unmatchedCloseBracket
  | .unclosedBrackets count => .unclosedBrackets count

/-- The error with another position, if it names one. -/
def EvaluationError.mapPosition (f : Nat → Nat) : EvaluationError → EvaluationError
  | .tooManyOperators => .tooManyOperators
  | .tooFewOperators count => .tooFewOperators count
  | .divisionByZero position => .divisionByZero (f position)
  | .functionDomain position => .functionDomain (f position)
  | .functionFailure position message => .functionFailure (f position) message
  | .exponentFailure position base exponent message =>
    .exponentFailure (f position) base exponent message
  | .arithmetic position message => .arithmetic (f position) message
  | .invalidNumber position lexeme => .invalidNumber (f position) lexeme
  | .unknownFunction position name => .unknownFunction (f position) name
  | .unexpectedToken position lexeme => .unexpectedToken (f position) lexeme
  | .emptyExpression => .emptyExpression

/-- The error, if its token is moved. -/
def CalcError.move (f : Nat → Nat) : CalcError → CalcError
  | .lexical e => .lexical (e.move f)
  | .structural e => .structural (e.mapPosition (movePosition f))
  | .evaluation e => .evaluation (e.mapPosition (movePosition f))

theorem SyntaxError.mapPosition_id : mapPosition id = id := by
  funext e
  cases e <;> rfl

namespace Failures

variable {ε ε' ε'' : Type}

theorem map_id : map (id : ε → ε) = id := by
  funext f
  simp [map]

theorem map_map (g : ε' → ε'') (h : ε → ε') (f : Failures ε) : (f.map h).map g = f.map (g ∘ h) := by
  simp [map]

/-- The causes of a list may be seen as ones of another kind before or after. -/
theorem ofList?_map (h : ε → ε') (es : List ε) : ofList? (es.map h) = (ofList? es).map (map h) := by
  cases es with
  | nil => rfl
  | cons e es => rfl

end Failures

namespace Token

/-- The token at another place. -/
def move (f : Nat → Nat) (t : Token) : Token :=
  { t with offset := t.offset.map f, error := t.error.map (LexError.move f) }

@[simp] theorem kind_move (f : Nat → Nat) (t : Token) : (t.move f).kind = t.kind := rfl

@[simp] theorem lexeme_move (f : Nat → Nat) (t : Token) : (t.move f).lexeme = t.lexeme := rfl

/-- What is not in the text has no place to be moved from. -/
@[simp] theorem move_inserted (f : Nat → Nat) (kind : TokenKind) (lexeme : String) :
    (inserted kind lexeme).move f = inserted kind lexeme := rfl

theorem position_move (f : Nat → Nat) (t : Token) :
    (t.move f).position = movePosition f t.position := by
  cases h : t.offset with
  | none => simp [position, move, h, movePosition]
  | some n => simp [position, move, h, movePosition]

theorem errors_map_move (f : Nat → Nat) (ts : List Token) :
    errors (ts.map (move f)) = (errors ts).map (LexError.move f) := by
  unfold errors
  rw [List.filterMap_map, List.map_filterMap]
  rfl

end Token

end Abacus
