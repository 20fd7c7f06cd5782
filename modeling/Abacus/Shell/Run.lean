import Abacus.Calculator
import Abacus.Shell.Command

/-! # Runs of the program

  A run is what the program does, in order: pieces of text written to the output or to the error
  stream, and how it ends. It is a value, made without writing anything, because nothing that the
  program writes depends on what became of an earlier piece.

  - `answer` evaluates one expression. Bad tokens are reported on the output, failed evaluations on
    the error stream.
  - `interactive` prompts for line after line, answers each as `answer` would, and ends at the end
    of the input or at a line that says so.
-/

namespace Abacus.Shell

/-! ### Writing and ending -/

/-- The streams that the program writes to. -/
inductive Stream where
  /-- The output. -/
  | out
  /-- The error stream. -/
  | err
deriving DecidableEq, Repr

/-- A piece of text for one of the streams. -/
structure Write where
  /-- The stream. -/
  stream : Stream
  /-- The text. -/
  text : String
deriving DecidableEq, Repr

/-- A line for the output. -/
def Write.outLine (text : String) : Write :=
  ⟨.out, text ++ "\n"⟩

/-- A line for the error stream. -/
def Write.errLine (text : String) : Write :=
  ⟨.err, text ++ "\n"⟩

/-- What the program tells its caller at the end. -/
inductive ExitStatus where
  /-- It did what it was asked. -/
  | success
  /-- The expression has no value. -/
  | evaluationError
  /-- The expression has bad tokens. -/
  | lexError
  /-- The arguments make no sense. -/
  | usage
  /-- Reading or writing failed. -/
  | ioError
deriving DecidableEq, Repr

/-- The number for an exit status. -/
def ExitStatus.code : ExitStatus → Nat
  | .success => 0
  | .evaluationError => 1
  | .lexError => 2
  | .usage => 64
  | .ioError => 74

/-- How a run ends. -/
inductive Ending where
  /-- By itself. -/
  | exit (status : ExitStatus)
  /-- Because the input could not be read. -/
  | unreadable (reason : String)
deriving DecidableEq, Repr

/-- What the program writes, and how it ends. -/
structure Run where
  /-- The pieces of text, in order. -/
  writes : List Write
  /-- How the run ends. -/
  ending : Ending
deriving DecidableEq, Repr

/-- The run that writes something before all else. -/
def Run.after (writes : List Write) (r : Run) : Run :=
  { r with writes := writes ++ r.writes }

/-! ### One expression -/

/-- What is written about bad tokens. -/
def lexReport (ts : List Token) : List Write :=
  (Token.report ts).map (fun line => .outLine ("TOKEN ERROR: " ++ line)) ++
    [.outLine (toString (Token.badCount ts) ++ " error(s) occurred in <expression>")]

/-- What is written about a failed evaluation. -/
def failureReport (d : Diagnostics) : List Write :=
  .errLine "Input had errors, no value returned" ::
    d.messages.map fun message => .errLine ("Error: " ++ message)

/-- Evaluates one expression and writes its value, or what is wrong with it. -/
def answer (c : Calculator) (expression : String) : List Write × ExitStatus :=
  let ts := c.scan expression
  if 0 < Token.badCount ts then (lexReport ts, .lexError)
  else
    match c.evaluateTokens ts with
    | .ok value => ([.outLine value.text], .success)
    | .error d => (failureReport d, .evaluationError)

/-! ### Many expressions -/

/-- The text without the blanks at either end. -/
def trim (text : String) : String :=
  String.ofList
    ((text.toList.dropWhile Text.isBlank).reverse.dropWhile Text.isBlank).reverse

/-- Whether a line asks to leave. -/
def isFarewell (expression : String) : Bool :=
  expression = "q" || expression = "exit"

/-- What is written in response to a line, unless it asks to leave. -/
def respond (c : Calculator) (line : String) : Option (List Write) :=
  let expression := trim line
  if isFarewell expression then none
  else if expression = "" then some []
  else some (answer c expression).1

/-- What asks for a line. -/
def prompt : Write :=
  ⟨.out, ">> "⟩

/-- The complaint about a line that is no text. -/
def notText : String :=
  "stream did not contain valid UTF-8"

/-- Prompts for and answers the lines of the input, of which `none` is one that is no text. -/
def interactive (c : Calculator) : List (Option String) → Run
  | [] => ⟨[prompt, .outLine ""], .exit .success⟩
  | none :: _ => ⟨[prompt], .unreadable notText⟩
  | some line :: rest =>
    match respond c line with
    | none => ⟨[prompt], .exit .success⟩
    | some writes => (interactive c rest).after (prompt :: writes)

/-! ### Whole runs -/

/-- Carries out a command. -/
def execute (c : Calculator) (input : List (Option String)) : Command → Run
  | .help => ⟨[.outLine usage], .exit .success⟩
  | .version => ⟨[.outLine ("VERSION: " ++ version)], .exit .success⟩
  | .machineVersion => ⟨[.outLine version], .exit .success⟩
  | .evaluate expression =>
    let (writes, status) := answer c expression
    ⟨writes, .exit status⟩
  | .interactive => interactive c input

/-- The run for the given arguments and lines of input. -/
def run (arguments : List String) (input : List (Option String)) : Run :=
  match Command.ofArguments arguments with
  | .ok command => execute .standard input command
  | .error complaint => ⟨[.errLine (complaint ++ "\n" ++ usage)], .exit .usage⟩

end Abacus.Shell
