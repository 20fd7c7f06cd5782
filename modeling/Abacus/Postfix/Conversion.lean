import Abacus.Failure.Report
import Abacus.Token.Basic

/-! # From infix to postfix

  The conversion reads the infix tokens once. Operands go straight to the output; operators,
  functions and opening brackets wait on a stack until it is known that they are complete.

  - A binary operator first releases all pending tokens that bind at least as tightly, so every
    binary operator, `^` included, associates to the left.
  - A function releases pending operators in the same way, with the precedence of sums, but never
    another function: in a chain of functions the last one is applied first.
  - A closing bracket releases everything down to its opening bracket, which is dropped.

  All problems of a sequence are collected; if there is one, the output is discarded.
-/

namespace Abacus.Postfix

/-- A conversion under way. -/
structure Conversion where
  /-- The postfix tokens found so far, the latest first. -/
  output : List Token
  /-- The tokens that wait, the latest first. -/
  pending : List Token
  /-- Opening brackets read, less the closing ones. -/
  openBrackets : Int
  /-- The problems found so far, the latest first. -/
  problems : List SyntaxError
deriving DecidableEq, Repr

namespace Conversion

/-- The conversion before the first token. -/
def start : Conversion :=
  ⟨[], [], 0, []⟩

/-- Puts a token out. -/
def emit (s : Conversion) (t : Token) : Conversion :=
  { s with output := t :: s.output }

/-- Makes a token wait. -/
def push (s : Conversion) (t : Token) : Conversion :=
  { s with pending := t :: s.pending }

/-- Notes a problem. -/
def note (s : Conversion) (e : SyntaxError) : Conversion :=
  { s with problems := e :: s.problems }

/-- Puts out the latest pending tokens, as long as the condition holds of them. -/
def release (s : Conversion) (p : Token → Bool) : Conversion :=
  { s with
    output := (s.pending.takeWhile p).reverse ++ s.output
    pending := s.pending.dropWhile p }

/-- Whether the token is an opening bracket. -/
def isOpen (t : Token) : Bool :=
  t.kind = .openBracket

/-- Whether a pending token is complete once a binary operator follows. -/
def bindsBefore (op : Operator) (t : Token) : Bool :=
  op.precedence ≤ t.kind.precedence

/-- Whether a pending token is released by a function that follows. -/
def yieldsToFunction (t : Token) : Bool :=
  t.kind ≠ .function && TokenKind.functionPrecedence ≤ t.kind.precedence

/-- Opens a bracket. -/
def openBracket (s : Conversion) (t : Token) : Conversion :=
  { s.push t with openBrackets := s.openBrackets + 1 }

/-- Closes a bracket: releases what waits since its opening bracket and drops that, or notes that
    there is none. -/
def closeBracket (s : Conversion) : Conversion :=
  let s := { s.release (!isOpen ·) with openBrackets := s.openBrackets - 1 }
  match s.pending with
  | [] => s.note .unmatchedCloseBracket
  | _ :: rest => { s with pending := rest }

/-- Reads one token. -/
def step (s : Conversion) (t : Token) : Conversion :=
  match t.kind with
  | .number | .identifier | .constant => s.emit t
  | .openBracket => s.openBracket t
  | .closeBracket => s.closeBracket
  | .function => (s.release yieldsToFunction).push t
  | .operator op => (s.release (bindsBefore op)).push t
  | .bad | .none => s.note (.unrecognizedToken t.position)

/-- Releases everything that waits, and notes brackets that are still open. -/
def finish (s : Conversion) : Conversion :=
  let s := s.release fun _ => true
  if 0 < s.openBrackets then s.note (.unclosedBrackets s.openBrackets.toNat) else s

/-- The output, unless there were problems. -/
def result (s : Conversion) : Except (Failures SyntaxError) (List Token) :=
  match Failures.ofList? s.problems.reverse with
  | some problems => .error problems
  | none => .ok s.output.reverse

end Conversion

/-- The tokens in postfix order, or every problem with their structure. -/
def ofInfix (ts : List Token) : Except (Failures SyntaxError) (List Token) :=
  (ts.foldl Conversion.step .start).finish.result

end Abacus.Postfix
