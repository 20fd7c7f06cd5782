import Abacus.Shell.Terminal

/-! # The program

  Reads the arguments and the input, and writes what a run says. All that is decided here is when to
  read and when to write: a line is read after the prompt for it was written, and each piece of text
  is written at once.
-/

namespace Abacus.Shell

/-- Writes a piece of text at once. -/
def put (w : Write) : IO Unit := do
  let stream ← match w.stream with
    | .out => IO.getStdout
    | .err => IO.getStderr
  stream.putStr w.text
  stream.flush

/-- Reads the bytes of a line, given those read so far, the latest first. -/
partial def readLineAfter (input : IO.FS.Stream) (bytes : List UInt8) : IO (List UInt8) := do
  match (← input.read 1).data.toList with
  | [] => return bytes.reverse
  | b :: _ => if b = newline then return (b :: bytes).reverse else readLineAfter input (b :: bytes)

/-- Prompts for and answers lines until the input ends or a line asks to leave. -/
partial def converse (c : Calculator) (input : IO.FS.Stream) : IO Unit := do
  put prompt
  let bytes ← readLineAfter input []
  if bytes.isEmpty then put (.outLine "")
  else
    let some line := decode bytes | throw (IO.userError notText)
    if let some writes := respond c line then
      writes.forM put
      converse c input

/-- Carries out the command that the arguments give. -/
def carryOut (arguments : List String) : IO ExitStatus := do
  match Command.ofArguments arguments with
  | .ok .interactive =>
    converse .standard (← IO.getStdin)
    return .success
  | _ =>
    let r := run arguments []
    r.writes.forM put
    match r.ending with
    | .exit status => return status
    | .unreadable reason => throw (IO.userError reason)

/-- Runs the program; a failure to read or write is reported on the error stream, if that works. -/
def start (arguments : List String) : IO ExitStatus := do
  try carryOut arguments
  catch failure =>
    try put (.errLine ("I/O error: " ++ toString failure)) catch _ => pure ()
    return .ioError

end Abacus.Shell

/-- The program: its exit code says how the run ended. -/
def main (arguments : List String) : IO UInt32 := do
  return UInt32.ofNat (← Abacus.Shell.start arguments).code
