import Abacus.Proofs.Failure.Stage
import Abacus.Proofs.Shell.Session

/-! # The program says what an evaluation says

  For an expression as its argument the program counts the bad tokens itself before it evaluates the
  others. Every bad token carries an error and no other token does, so this decides as an evaluation
  does, and the program writes the errors that an evaluation reports (`run_agrees`):

  - code 0 and the text of the value;
  - code 2 and a line for each lexical error, and then their number;
  - code 1 and a line for each message, on the error stream.
-/

namespace Abacus

/-! ### Lexical errors of a failed evaluation -/

/-- The lexical error, if it is one. -/
def CalcError.lexical? : CalcError → Option LexError
  | .lexical e => some e
  | .structural _ | .evaluation _ => none

/-- The lexical errors, in order. -/
def Diagnostics.lexErrors (d : Diagnostics) : List LexError :=
  d.toList.filterMap CalcError.lexical?

theorem CalcError.isLexical_iff {e : CalcError} : e.isLexical = true ↔ e.stage = .lexical := by
  cases e <;> simp [isLexical, stage]

theorem Token.badCount_pos_iff {ts : List Token} :
    0 < badCount ts ↔ ∃ t ∈ ts, t.kind = .bad := by
  simp [badCount, List.countP_pos_iff, isBad]

namespace Calculator

variable {c : Calculator} {text : String} {d : Diagnostics}

/-- An evaluation reports lexical errors exactly for a text with bad tokens. -/
theorem hasLexErrors_iff (h : c.evaluate text = .error d) :
    d.hasLexErrors = true ↔ ∃ t ∈ c.scan text, t.kind = .bad := by
  obtain ⟨stage, hstage, hlexical⟩ := exists_stage_of_evaluate_eq_error h
  rw [← hlexical, Diagnostics.hasLexErrors, List.any_eq_true]
  constructor
  · rintro ⟨e, he, hlex⟩
    rw [← hstage e he, CalcError.isLexical_iff.mp hlex]
  · rintro rfl
    exact ⟨d.first, List.mem_cons_self, CalcError.isLexical_iff.mpr (hstage _ List.mem_cons_self)⟩

/-- The lexical errors that an evaluation reports are those of the tokens. -/
theorem lexErrors_of_evaluate_eq_error (h : c.evaluate text = .error d)
    (hlex : d.hasLexErrors = true) : d.lexErrors = Token.errors (c.scan text) := by
  have hbad := (hasLexErrors_iff h).mp hlex
  rcases stages_of_evaluate_eq_error h with ⟨-, hd⟩ | ⟨hgood, -⟩ | ⟨hgood, -⟩
  · rw [Diagnostics.lexErrors, hd, List.filterMap_map]
    exact List.filterMap_some
  all_goals
    obtain ⟨t, ht, hk⟩ := hbad
    exact absurd hk (hgood t ht)

end Calculator

namespace Shell

/-! ### The answer to an expression -/

section Answer

variable {c : Calculator} {expression : String} {d : Diagnostics} {v : Decimal}

theorem answer_of_evaluate_eq_ok (h : c.evaluate expression = .ok v) :
    answer c expression = ([.outLine v.text], .success) := by
  obtain ⟨hgood, hv⟩ := Calculator.evaluate_eq_ok_iff.mp h
  have hcount : ¬0 < Token.badCount (c.scan expression) := by
    rw [Token.badCount_pos_iff]
    rintro ⟨t, ht, hk⟩
    exact hgood t ht hk
  simp only [answer, hcount, if_false, hv]

theorem answer_of_hasLexErrors (h : c.evaluate expression = .error d)
    (hlex : d.hasLexErrors = true) :
    answer c expression = (lexReport (c.scan expression), .lexError) := by
  have hcount : 0 < Token.badCount (c.scan expression) :=
    Token.badCount_pos_iff.mpr ((Calculator.hasLexErrors_iff h).mp hlex)
  simp only [answer, hcount, if_true]

theorem answer_of_not_hasLexErrors (h : c.evaluate expression = .error d)
    (hlex : d.hasLexErrors = false) :
    answer c expression = (failureReport d, .evaluationError) := by
  have hgood : ¬∃ t ∈ c.scan expression, t.kind = .bad := by
    rw [← Calculator.hasLexErrors_iff h, hlex]
    simp
  have hcount : ¬0 < Token.badCount (c.scan expression) := mt Token.badCount_pos_iff.mp hgood
  have hd : c.evaluateTokens (c.scan expression) = .error d := by
    rw [← Calculator.evaluate_of_forall_ne_bad fun t ht hk => hgood ⟨t, ht, hk⟩]
    exact h
  simp only [answer, hcount, if_false, hd]

end Answer

/-! ### What is written -/

/-- The bytes of lines, each with its newline. -/
def printed (lines : List String) : List UInt8 :=
  lines.flatMap fun line => encode (line ++ "\n")

theorem shown_map_outLine (lines : List String) :
    shown .out (lines.map .outLine) = printed lines ∧ shown .err (lines.map .outLine) = [] := by
  simp [shown, printed, Write.outLine, List.flatMap_map]

theorem shown_map_errLine (lines : List String) :
    shown .err (lines.map .errLine) = printed lines ∧ shown .out (lines.map .errLine) = [] := by
  simp [shown, printed, Write.errLine, List.flatMap_map]

/-- The line for a lexical error, whose place counts from one. -/
def lexErrorLine (e : LexError) : String :=
  "TOKEN ERROR: char " ++ toString (e.offset + 1) ++ ". " ++ e.message ++ "."

/-- The lines for lexical errors. -/
def lexErrorLines (errors : List LexError) : List String :=
  errors.map lexErrorLine ++
    [toString errors.length ++ " error(s) occurred in <expression>"]

/-- The lines for the messages of a failed evaluation. -/
def failureLines (messages : List String) : List String :=
  "Input had errors, no value returned" :: messages.map ("Error: " ++ ·)

theorem lexErrorLine_eq (e : LexError) : lexErrorLine e = "TOKEN ERROR: " ++ Token.reportLine e := by
  unfold lexErrorLine Token.reportLine
  rw [← String.toList_inj]
  simp

/-- The report on bad tokens has a line for each of their errors, as many as it says. -/
theorem lexReport_scan (c : Calculator) (text : String) :
    lexReport (c.scan text) = (lexErrorLines (Token.errors (c.scan text))).map .outLine := by
  have hcount : (Token.errors (c.scan text)).length = Token.badCount (c.scan text) :=
    Token.length_errors_scan
  rw [lexReport, lexErrorLines, hcount, Token.report, List.map_append, List.map_map, List.map_map]
  simp only [Function.comp_def, lexErrorLine_eq, List.map_cons, List.map_nil]

theorem failureReport_eq (d : Diagnostics) :
    failureReport d = (failureLines d.messages).map .errLine := by
  simp [failureReport, failureLines]

/-! ### The outcome of a run -/

section Outcome

variable {expression : String} {input : List (Option String)} {d : Diagnostics} {v : Decimal}

theorem run_of_evaluate_eq_ok (hoption : expression ∉ options)
    (h : Calculator.standard.evaluate expression = .ok v) :
    (run [expression] input).code = 0 ∧ (run [expression] input).stdout = printed [v.text] ∧
      (run [expression] input).stderr = [] := by
  rw [run_singleton_of_notMem hoption, answer_of_evaluate_eq_ok h, Run.code_eq, Run.stdout_eq,
    Run.stderr_eq]
  exact ⟨rfl, rfl, rfl⟩

theorem run_of_hasLexErrors (hoption : expression ∉ options)
    (h : Calculator.standard.evaluate expression = .error d) (hlex : d.hasLexErrors = true) :
    (run [expression] input).code = 2 ∧
      (run [expression] input).stdout = printed (lexErrorLines d.lexErrors) ∧
      (run [expression] input).stderr = [] := by
  rw [run_singleton_of_notMem hoption, answer_of_hasLexErrors h hlex, lexReport_scan,
    ← Calculator.lexErrors_of_evaluate_eq_error h hlex, Run.code_eq, Run.stdout_eq, Run.stderr_eq,
    Ending.writes, List.append_nil]
  exact ⟨rfl, shown_map_outLine _⟩

theorem run_of_not_hasLexErrors (hoption : expression ∉ options)
    (h : Calculator.standard.evaluate expression = .error d) (hlex : d.hasLexErrors = false) :
    (run [expression] input).code = 1 ∧ (run [expression] input).stdout = [] ∧
      (run [expression] input).stderr = printed (failureLines d.messages) := by
  rw [run_singleton_of_notMem hoption, answer_of_not_hasLexErrors h hlex, failureReport_eq,
    Run.code_eq, Run.stdout_eq, Run.stderr_eq, Ending.writes, List.append_nil]
  exact ⟨rfl, (shown_map_errLine _).symm⟩

/-- The code of a run tells the ways in which an evaluation can end apart. -/
theorem code_run (hoption : expression ∉ options) :
    (run [expression] input).code =
      match Calculator.standard.evaluate expression with
      | .ok _ => 0
      | .error d => if d.hasLexErrors then 2 else 1 := by
  cases h : Calculator.standard.evaluate expression with
  | ok v => exact (run_of_evaluate_eq_ok hoption h).1
  | error d =>
    dsimp only
    cases hlex : d.hasLexErrors with
    | true => exact (run_of_hasLexErrors hoption h hlex).1
    | false => exact (run_of_not_hasLexErrors hoption h hlex).1

end Outcome

/-- **Agreement.** For an expression that is no option the code of the run says how an evaluation of
    it ends, and the run writes what the evaluation returns: the text of the value, or else a line for
    each lexical error and their number, or else a line for each message. -/
theorem run_agrees (expression : String) (input : List UInt8) (h : expression ∉ options) :
    let result := Calculator.standard.evaluate expression
    let r := run [expression] (readLines input)
    ((∃ v, result = .ok v) ↔ r.code = 0) ∧
    (∀ v, result = .ok v → r.stdout = printed [v.text] ∧ r.stderr = []) ∧
    ((∃ d, result = .error d ∧ d.hasLexErrors = true) ↔ r.code = 2) ∧
    (∀ d, result = .error d → d.hasLexErrors = true →
      r.stdout = printed (lexErrorLines d.lexErrors) ∧ r.stderr = []) ∧
    ((∃ d, result = .error d ∧ d.hasLexErrors = false) ↔ r.code = 1) ∧
    (∀ d, result = .error d → d.hasLexErrors = false →
      r.stdout = [] ∧ r.stderr = printed (failureLines d.messages)) := by
  intro result r
  have hcode : r.code = match result with
      | .ok _ => 0
      | .error d => if d.hasLexErrors then 2 else 1 := code_run h
  have hcodes : ((∃ v, result = .ok v) ↔ r.code = 0) ∧
      ((∃ d, result = .error d ∧ d.hasLexErrors = true) ↔ r.code = 2) ∧
      ((∃ d, result = .error d ∧ d.hasLexErrors = false) ↔ r.code = 1) := by
    rw [hcode]
    cases result with
    | ok v => simp
    | error d => cases hlex : d.hasLexErrors <;> simp [hlex]
  obtain ⟨hvalue, hlexical, hfailure⟩ := hcodes
  refine ⟨hvalue, ?_, hlexical, ?_, hfailure, ?_⟩
  · intro v hv
    exact (run_of_evaluate_eq_ok h hv).2
  · intro d hd hlex
    exact (run_of_hasLexErrors h hd hlex).2
  · intro d hd hlex
    exact (run_of_not_hasLexErrors h hd hlex).2

/-- The text `1 $ foo` has two bad tokens, and the program reports both. -/
theorem run_agrees_badTokens :
    "1 $ foo" ∉ options ∧ (run ["1 $ foo"] []).code = 2 ∧
      (run ["1 $ foo"] []).stdout = printed ["TOKEN ERROR: char 3. Unknown char '$'.",
        "TOKEN ERROR: char 5. Unknown constant or function 'foo'.",
        "2 error(s) occurred in <expression>"] := by
  have hoption : "1 $ foo" ∉ options := by decide
  have hresult : Calculator.standard.evaluate "1 $ foo" =
      .error ⟨.lexical ⟨.unknownChar '$', 2⟩, [.lexical ⟨.unknownIdentifier "foo", 4⟩]⟩ := by
    decide +kernel
  obtain ⟨-, -, hcode, hwritten, -⟩ := run_agrees "1 $ foo" [] hoption
  refine ⟨hoption, hcode.mp ⟨_, hresult, rfl⟩, ?_⟩
  exact (hwritten _ hresult rfl).1.trans (by decide +kernel)

end Shell

end Abacus
