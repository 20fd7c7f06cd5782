import Abacus.Infix
import Abacus.Postfix.Conversion
import Abacus.Postfix.Machine
import Abacus.Token.Scan

/-! # The calculator

  A calculator is a table of constants and a table of functions. It evaluates a text in stages, each
  of which is also there on its own:

  - `scan` finds the tokens;
  - `compile` substitutes constants, expands minus signs and converts to postfix order;
  - `evaluateTokens` compiles and runs the tokens;
  - `evaluate` does all of this, but for a text with bad tokens reports those and nothing else.
-/

namespace Abacus

/-- The names that an expression may use, and what they stand for. -/
structure Calculator where
  /-- The constants. -/
  constants : ConstantTable
  /-- The functions. -/
  functions : FunctionTable

namespace Calculator

/-- The calculator with the standard tables. -/
def standard : Calculator :=
  ⟨.standard, .standard⟩

/-- The tokens of a text. -/
def scan (c : Calculator) (text : String) : List Token :=
  Token.scan c.constants c.functions text

/-- The postfix tokens of an expression. -/
def compile (c : Calculator) (ts : List Token) : Except Diagnostics (List Token) :=
  (Postfix.ofInfix (Infix.normalizeMinus (Infix.substituteConstants c.constants ts))).mapError
    (·.map .structural)

/-- The value of postfix tokens. -/
def run (c : Calculator) (ts : List Token) : Except Diagnostics Decimal :=
  (Postfix.evaluate c.functions ts).mapError (·.map .evaluation)

/-- The value of an expression, given by its tokens. -/
def evaluateTokens (c : Calculator) (ts : List Token) : Except Diagnostics Decimal :=
  c.compile ts >>= c.run

/-- The value of an expression. The errors of bad tokens are reported alone. -/
def evaluate (c : Calculator) (text : String) : Except Diagnostics Decimal :=
  let ts := c.scan text
  if 0 < Token.badCount ts then .error (.ofErrors ((Token.errors ts).map .lexical))
  else c.evaluateTokens ts

/-- The values of independent expressions, in order. -/
def evaluateAll (c : Calculator) (texts : List String) : List (Except Diagnostics Decimal) :=
  texts.map c.evaluate

end Calculator

end Abacus
