import Abacus.Text.CharClass
import Abacus.Token.Basic
import Abacus.Vocabulary

/-! # Finding the tokens of a text

  A text is read from left to right. Blanks separate tokens and are skipped; the first character of
  a token decides how it goes on.

  - A digit or point begins a number, which takes all digits and points that follow. More than one
    point makes it a bad token, but still a single one.
  - An alphabetic character or `_` begins a name, which takes all alphanumeric characters and `_`
    that follow. It is a constant if there is one of this name, else a function, else a bad token.
  - Anything else is a token by itself: an operator, a bracket or a bad token.

  Reading never fails: what is no token becomes a bad one in its place, so that all of them can be
  reported at once.
-/

namespace Abacus.Token

open Text

/-- A character of a number. -/
def isNumeral (c : Char) : Bool :=
  c.isDigit || c = '.'

/-- The first character of a name. -/
def beginsName (c : Char) : Bool :=
  isAlphabetic c || c = '_'

/-- A further character of a name. -/
def continuesName (c : Char) : Bool :=
  isAlphanumeric c || c = '_'

/-- The token for a run of digits and points. -/
def ofNumeral (run : List Char) (offset : Nat) : Token :=
  let lexeme := String.ofList run
  if 1 < run.count '.' then bad lexeme ⟨.multipleDecimalPoints, offset⟩
  else ofText .number lexeme offset

/-- The token for a name, by the tables that know it. -/
def ofName (constants : ConstantTable) (functions : FunctionTable) (run : List Char)
    (offset : Nat) : Token :=
  let name := String.ofList run
  if constants.contains name then ofText .constant name offset
  else if functions.contains name then ofText .function name offset
  else bad name ⟨.unknownIdentifier name, offset⟩

/-- What a character is that begins neither a number nor a name, if it is a token at all. -/
def symbolKind? : Char → Option TokenKind
  | '(' => some .openBracket
  | ')' => some .closeBracket
  | c => (Operator.ofChar? c).map .operator

/-- The token for a character that begins neither a number nor a name. -/
def ofSymbol (c : Char) (offset : Nat) : Token :=
  match symbolKind? c with
  | some kind => ofText kind (String.singleton c) offset
  | none => bad (String.singleton c) ⟨.unknownChar c, offset⟩

theorem length_dropWhile_lt (p : Char → Bool) (c : Char) (cs : List Char) :
    (cs.dropWhile p).length < (c :: cs).length :=
  Nat.lt_succ_of_le (List.dropWhile_sublist p).length_le

/-- The tokens of a text whose first character has the given offset. -/
def scanFrom (constants : ConstantTable) (functions : FunctionTable) (offset : Nat) :
    List Char → List Token
  | [] => []
  | c :: cs =>
    if isBlank c then scanFrom constants functions (offset + 1) cs
    else if isNumeral c then
      let run := c :: cs.takeWhile isNumeral
      ofNumeral run offset ::
        scanFrom constants functions (offset + run.length) (cs.dropWhile isNumeral)
    else if beginsName c then
      let run := c :: cs.takeWhile continuesName
      ofName constants functions run offset ::
        scanFrom constants functions (offset + run.length) (cs.dropWhile continuesName)
    else ofSymbol c offset :: scanFrom constants functions (offset + 1) cs
termination_by cs => cs.length
decreasing_by
  · simp
  · exact length_dropWhile_lt isNumeral c cs
  · exact length_dropWhile_lt continuesName c cs
  · simp

/-- The tokens of a text. -/
def scan (constants : ConstantTable) (functions : FunctionTable) (text : String) : List Token :=
  scanFrom constants functions 0 text.toList

end Abacus.Token
