import Abacus.Proofs.Shell.Lines
import Abacus.Proofs.Shell.Output

/-! # A session is a sequence of single runs

  Without an argument the program answers line after line. Nothing that it learns from one line is kept
  for the next, so what it writes in a session is what it writes in runs for the single lines, with the
  prompts in between, up to the line that asks to leave (`session_eq_runs`).
-/

namespace Abacus.Shell

/-! ### Runs for one expression -/

/-- The arguments that are no expressions. -/
def options : List String :=
  ["-h", "--help", "-v", "--version", "__VERSION__"]

/-- An argument that is no option is an expression. -/
theorem ofArgument_of_notMem {argument : String} (h : argument ∉ options) :
    Command.ofArgument argument = .evaluate argument := by
  simp only [options, List.mem_cons, List.not_mem_nil, or_false, not_or] at h
  obtain ⟨hh, hhelp, hv, hversion, hmachine⟩ := h
  unfold Command.ofArgument
  split <;> first | rfl | contradiction

/-- The run for an expression as the only argument evaluates it, whatever the input. -/
theorem run_singleton_of_notMem {expression : String} (h : expression ∉ options)
    (input : List (Option String)) :
    run [expression] input =
      ⟨(answer .standard expression).1, .exit (answer .standard expression).2⟩ := by
  rw [run, Command.ofArguments, ofArgument_of_notMem h]
  rfl

/-- The run for an expression alone: the expression is the argument of the program, unless that would
    take it for an option. -/
def single (expression : String) : Run :=
  if expression ∈ options then execute .standard [] (.evaluate expression) else run [expression] []

theorem single_eq (expression : String) :
    single expression =
      ⟨(answer .standard expression).1, .exit (answer .standard expression).2⟩ := by
  unfold single
  split
  · rfl
  next h => exact run_singleton_of_notMem h []

theorem stdout_single (expression : String) :
    (single expression).stdout = shown .out (answer .standard expression).1 := by
  rw [Run.stdout_eq, single_eq, Ending.writes, List.append_nil]

theorem stderr_single (expression : String) :
    (single expression).stderr = shown .err (answer .standard expression).1 := by
  rw [Run.stderr_eq, single_eq, Ending.writes, List.append_nil]

/-! ### A session -/

/-- Whether a line asks to leave the session. -/
def leaves (line : String) : Bool :=
  isFarewell (trim line)

/-- The lines of a session that get a reply. -/
def handled (lines : List String) : List String :=
  lines.takeWhile fun line => !leaves line

/-- What is written in reply to a line. -/
def reply (c : Calculator) (line : String) : List Write :=
  if trim line = "" then [] else (answer c (trim line)).1

theorem respond_eq (c : Calculator) (line : String) :
    respond c line = if leaves line then none else some (reply c line) := by
  unfold respond leaves reply
  dsimp only
  split
  · rfl
  · split <;> rfl

/-- What is written when the session ends. -/
def closing (lines : List String) : List Write :=
  if lines.any leaves then [prompt] else [prompt, .outLine ""]

/-- A session prompts for and answers its lines one by one, each as if there were no other. -/
theorem interactive_eq (c : Calculator) (lines : List String) :
    interactive c (lines.map some) =
      ⟨(handled lines).flatMap (fun line => prompt :: reply c line) ++ closing lines,
        .exit .success⟩ := by
  induction lines with
  | nil => rfl
  | cons line lines ih =>
    rw [List.map_cons, interactive, respond_eq]
    cases hleaves : leaves line with
    | true => simp [handled, closing, hleaves]
    | false =>
      have hhandled : handled (line :: lines) = line :: handled lines := by
        simp [handled, hleaves]
      have hclosing : closing (line :: lines) = closing lines := by simp [closing, hleaves]
      simp [ih, Run.after, hhandled, hclosing]

theorem shown_out_prompt (ws : List Write) :
    shown .out (prompt :: ws) = encode ">> " ++ shown .out ws := rfl

theorem shown_err_prompt (ws : List Write) : shown .err (prompt :: ws) = shown .err ws := rfl

theorem shown_reply (stream : Stream) (c : Calculator) (line : String) :
    shown stream (reply c line) =
      if trim line = "" then [] else shown stream (answer c (trim line)).1 := by
  unfold reply
  split <;> rfl

theorem shown_out_closing (lines : List String) :
    shown .out (closing lines) = encode (if lines.any leaves then ">> " else ">> \n") := by
  unfold closing
  split <;> rfl

theorem shown_err_closing (lines : List String) : shown .err (closing lines) = [] := by
  unfold closing
  split <;> rfl

/-- **A session is what its lines are alone.** For every text as input, the program succeeds. In front
    of each line before the first that asks to leave it prompts, and unless the line is blank it goes
    on as the program that is run for this line alone; then it prompts once more, and ends the line
    itself if the input ended without a farewell. On the error stream it leaves what those runs leave
    there. -/
theorem session_eq_runs (text : String) :
    let lines := linesOf text
    let session := run [] (readLines (encode text))
    session.code = 0 ∧
    session.stdout =
      (handled lines).flatMap (fun line =>
        encode ">> " ++ if trim line = "" then [] else (single (trim line)).stdout) ++
      encode (if lines.any leaves then ">> " else ">> \n") ∧
    session.stderr =
      (handled lines).flatMap fun line =>
        if trim line = "" then [] else (single (trim line)).stderr := by
  intro lines session
  have hsession : session =
      ⟨(handled lines).flatMap (fun line => prompt :: reply .standard line) ++ closing lines,
        .exit .success⟩ := by
    rw [← interactive_eq, ← readLines_encode]
    rfl
  refine ⟨?_, ?_, ?_⟩
  · rw [hsession, Run.code_eq]
    rfl
  · have hline (line : String) : shown .out (prompt :: reply .standard line) =
        encode ">> " ++ if trim line = "" then [] else (single (trim line)).stdout := by
      rw [stdout_single, ← shown_reply, shown_out_prompt]
    rw [hsession, Run.stdout_eq, Ending.writes, List.append_nil, shown_append, shown_flatMap,
      shown_out_closing]
    simp only [hline]
  · have hline (line : String) : shown .err (prompt :: reply .standard line) =
        if trim line = "" then [] else (single (trim line)).stderr := by
      rw [stderr_single, ← shown_reply, shown_err_prompt]
    rw [hsession, Run.stderr_eq, Ending.writes, List.append_nil, shown_append, shown_flatMap,
      shown_err_closing, List.append_nil]
    simp only [hline]

example : handled (linesOf "1+1\n\n  q \n4") = ["1+1\n", "\n"] := by decide

end Abacus.Shell
