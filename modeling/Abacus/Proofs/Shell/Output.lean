import Abacus.Shell.Terminal

/-! # What a run leaves behind

  Streams without a limit take all that a run writes. So the code of the run and what is on its two
  streams at the end can be read off the run itself (`perform_fresh`), piece by piece: what one stream
  shows of several pieces in a row is what it shows of each of them, in the same order.
-/

namespace Abacus.Shell

/-! ### What a stream shows -/

/-- The bytes that one of the streams gets of the pieces of text. -/
def shown (stream : Stream) (ws : List Write) : List UInt8 :=
  ws.flatMap fun w => if w.stream = stream then encode w.text else []

@[simp] theorem shown_nil (stream : Stream) : shown stream [] = [] := rfl

theorem shown_append (stream : Stream) (ws ws' : List Write) :
    shown stream (ws ++ ws') = shown stream ws ++ shown stream ws' :=
  List.flatMap_append

theorem shown_flatMap {α : Type} (stream : Stream) (f : α → List Write) (xs : List α) :
    shown stream (xs.flatMap f) = xs.flatMap fun x => shown stream (f x) :=
  List.flatMap_assoc

/-! ### Streams without a limit -/

namespace Sink

/-- The stream that took the given bytes and takes any more. -/
def unlimited (taken : List UInt8) : Sink :=
  ⟨none, taken⟩

theorem write_unlimited (taken bytes : List UInt8) :
    (unlimited taken).write bytes = .ok (unlimited (taken ++ bytes)) :=
  if_pos rfl

end Sink

namespace Terminal

/-- Two streams that took the given bytes and take any more. -/
def unlimited (out err : List UInt8) : Terminal :=
  ⟨.unlimited out, .unlimited err⟩

theorem write_unlimited (out err : List UInt8) (w : Write) :
    (unlimited out err).write w =
      .ok (unlimited (out ++ shown .out [w]) (err ++ shown .err [w])) := by
  obtain ⟨stream, text⟩ := w
  cases stream <;>
    simp [write, unlimited, Sink.write_unlimited, mapBoth, withOut, withErr, shown]

theorem writeAll_unlimited (out err : List UInt8) (ws : List Write) :
    (unlimited out err).writeAll ws =
      .ok (unlimited (out ++ shown .out ws) (err ++ shown .err ws)) := by
  induction ws generalizing out err with
  | nil => simp [writeAll, pure, Except.pure]
  | cons w ws ih =>
    have hcons (stream : Stream) : shown stream (w :: ws) = shown stream [w] ++ shown stream ws :=
      shown_append stream [w] ws
    calc (unlimited out err).writeAll (w :: ws)
        = (unlimited out err).write w >>= fun t => t.writeAll ws := List.foldlM_cons
      _ = (unlimited (out ++ shown .out [w]) (err ++ shown .err [w])).writeAll ws := by
        rw [write_unlimited]
        rfl
      _ = .ok (unlimited (out ++ shown .out (w :: ws)) (err ++ shown .err (w :: ws))) := by
        rw [ih, hcons, hcons, List.append_assoc, List.append_assoc]

end Terminal

/-! ### The end of a run -/

/-- What is written because a run ended. -/
def Ending.writes : Ending → List Write
  | .exit _ => []
  | .unreadable reason => [.errLine ("I/O error: " ++ reason)]

/-- What the caller is told at the end. -/
def Ending.status : Ending → ExitStatus
  | .exit status => status
  | .unreadable _ => .ioError

/-- Without limits a run leaves all that it writes, and then what its end adds. -/
theorem perform_fresh (r : Run) :
    (Terminal.fresh none none).perform r =
      (r.ending.status,
        .unlimited (shown .out (r.writes ++ r.ending.writes))
          (shown .err (r.writes ++ r.ending.writes))) := by
  obtain ⟨writes, ending⟩ := r
  have hfresh : Terminal.fresh none none = .unlimited [] [] := rfl
  simp only [Terminal.perform, hfresh, Terminal.writeAll_unlimited, List.nil_append]
  cases ending with
  | exit status => simp only [Ending.writes, Ending.status, List.append_nil]
  | unreadable reason =>
    simp only [Ending.writes, Ending.status, Terminal.complain, Terminal.write_unlimited,
      shown_append]

namespace Run

/-- The code that the caller gets if nothing limits the streams. -/
def code (r : Run) : Nat :=
  ((Terminal.fresh none none).perform r).1.code

/-- What is on the output at the end if nothing limits it. -/
def stdout (r : Run) : List UInt8 :=
  ((Terminal.fresh none none).perform r).2.out.taken

/-- What is on the error stream at the end if nothing limits it. -/
def stderr (r : Run) : List UInt8 :=
  ((Terminal.fresh none none).perform r).2.err.taken

theorem code_eq (r : Run) : r.code = r.ending.status.code := by
  rw [code, perform_fresh]

theorem stdout_eq (r : Run) : r.stdout = shown .out (r.writes ++ r.ending.writes) := by
  rw [stdout, perform_fresh]
  rfl

theorem stderr_eq (r : Run) : r.stderr = shown .err (r.writes ++ r.ending.writes) := by
  rw [stderr, perform_fresh]
  rfl

end Run

end Abacus.Shell
