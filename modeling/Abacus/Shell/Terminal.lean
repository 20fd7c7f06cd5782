import Abacus.Shell.Run

/-! # Carrying out a run

  The input arrives as bytes and is cut into lines. What a run writes goes to two streams, either of
  which may be full at some byte: then the run stops there, and its last act is to say so on the
  error stream, as far as that still takes anything.
-/

namespace Abacus.Shell

/-! ### Input -/

/-- The byte that ends a line. -/
def newline : UInt8 := 10

/-- The lines of the input, each with the byte that ends it; the last line may lack that byte. -/
def splitLines : List UInt8 → List (List UInt8)
  | [] => []
  | b :: rest =>
    if b = newline then [b] :: splitLines rest
    else
      match splitLines rest with
      | [] => [[b]]
      | line :: lines => (b :: line) :: lines

/-- The text that the bytes encode, if they do. -/
def decode (bytes : List UInt8) : Option String :=
  String.fromUTF8? ⟨bytes.toArray⟩

/-- The lines of the input as texts, with `none` for a line that is no text. -/
def readLines (input : List UInt8) : List (Option String) :=
  (splitLines input).map decode

/-! ### Output -/

/-- The bytes of a text. -/
def encode (text : String) : List UInt8 :=
  text.toUTF8.data.toList

/-- A text reads back from its bytes. -/
theorem decode_encode (text : String) : decode (encode text) = some text := by
  unfold decode encode String.fromUTF8?
  rw [Array.toArray_toList, String.toUTF8_eq_toByteArray]
  exact dif_pos text.isValidUTF8

/-- A stream of bytes that may have an end. -/
structure Sink where
  /-- The number of bytes that the stream takes, if it is limited. -/
  limit : Option Nat
  /-- The bytes that it took, in order. -/
  taken : List UInt8
deriving DecidableEq, Repr

namespace Sink

/-- A stream that took nothing so far. -/
def fresh (limit : Option Nat) : Sink :=
  ⟨limit, []⟩

/-- The bytes that the stream takes of those that are written to it. -/
def fits (s : Sink) (bytes : List UInt8) : List UInt8 :=
  match s.limit with
  | none => bytes
  | some limit => bytes.take (limit - s.taken.length)

/-- Writes bytes: the stream takes what fits, and fails with the rest if there is any. -/
def write (s : Sink) (bytes : List UInt8) : Except Sink Sink :=
  let after : Sink := { s with taken := s.taken ++ s.fits bytes }
  if (s.fits bytes).length = bytes.length then .ok after else .error after

end Sink

/-- The two streams of a run. -/
structure Terminal where
  /-- The output. -/
  out : Sink
  /-- The error stream. -/
  err : Sink
deriving DecidableEq, Repr

namespace Terminal

/-- Two streams with the given limits. -/
def fresh (outLimit errLimit : Option Nat) : Terminal :=
  ⟨.fresh outLimit, .fresh errLimit⟩

/-- The terminal with another output. -/
def withOut (t : Terminal) (s : Sink) : Terminal :=
  { t with out := s }

/-- The terminal with another error stream. -/
def withErr (t : Terminal) (s : Sink) : Terminal :=
  { t with err := s }

/-- Applies a function to what an attempt left, whether it succeeded or not. -/
def mapBoth {α β : Type} (f : α → β) : Except α α → Except β β
  | .ok x => .ok (f x)
  | .error x => .error (f x)

/-- Writes one piece of text. -/
def write (t : Terminal) (w : Write) : Except Terminal Terminal :=
  match w.stream with
  | .out => mapBoth t.withOut (t.out.write (encode w.text))
  | .err => mapBoth t.withErr (t.err.write (encode w.text))

/-- Writes pieces of text up to the first that fails. -/
def writeAll (t : Terminal) (ws : List Write) : Except Terminal Terminal :=
  ws.foldlM write t

/-- Writes the reason of a failed operation to the error stream, if that takes it. -/
def complain (t : Terminal) (reason : String) : Terminal :=
  match t.write (.errLine ("I/O error: " ++ reason)) with
  | .ok t' | .error t' => t'

/-- The complaint about a stream that takes no more. -/
def sinkFull : String :=
  "sink full"

/-- Carries out a run. -/
def perform (t : Terminal) (r : Run) : ExitStatus × Terminal :=
  match t.writeAll r.writes with
  | .error t' => (.ioError, t'.complain sinkFull)
  | .ok t' =>
    match r.ending with
    | .exit status => (status, t')
    | .unreadable reason => (.ioError, t'.complain reason)

end Terminal

end Abacus.Shell
