import Abacus.Postfix.Conversion
import Mathlib.Data.List.TakeWhile

/-! # What a conversion does with the tokens it reads

  `read` is the conversion after a sequence of tokens. Most of what is said about it later has the
  form "reading these tokens puts out some tokens and leaves some waiting", which `extend` writes
  down. This module gives

  - one equation for the step on each kind of token;
  - what a release does to waiting tokens (`release_extend`), and a bracket that is closed
    (`closeBracket_extend`);
  - that the output is only ever added to (`read_onto`), so that parts of a sequence can be exchanged
    (`exists_ofInfix_between`);
  - when a conversion succeeds, and with which output (`ofInfix_eq_ok_iff`).
-/

namespace Abacus.Postfix.Conversion

variable {s : Conversion} {t : Token} {ts us : List Token}

/-! ### Reading a sequence -/

/-- The conversion after a sequence of tokens. -/
def read (s : Conversion) (ts : List Token) : Conversion :=
  ts.foldl step s

@[simp] theorem read_nil (s : Conversion) : s.read [] = s := rfl

@[simp] theorem read_cons (s : Conversion) (t : Token) (ts : List Token) :
    s.read (t :: ts) = (s.step t).read ts := rfl

@[simp] theorem read_append (s : Conversion) (ts us : List Token) :
    s.read (ts ++ us) = (s.read ts).read us :=
  List.foldl_append

/-! ### More output, more waiting tokens -/

/-- The conversion with the tokens `out` put out and the tokens `waiting` added on top of those that
    wait. -/
def extend (s : Conversion) (out waiting : List Token) : Conversion :=
  { s with
    output := out.reverse ++ s.output
    pending := waiting ++ s.pending }

@[simp] theorem output_extend (s : Conversion) (out waiting : List Token) :
    (s.extend out waiting).output = out.reverse ++ s.output := rfl

@[simp] theorem pending_extend (s : Conversion) (out waiting : List Token) :
    (s.extend out waiting).pending = waiting ++ s.pending := rfl

@[simp] theorem openBrackets_extend (s : Conversion) (out waiting : List Token) :
    (s.extend out waiting).openBrackets = s.openBrackets := rfl

@[simp] theorem problems_extend (s : Conversion) (out waiting : List Token) :
    (s.extend out waiting).problems = s.problems := rfl

theorem extend_extend (s : Conversion) (out out' waiting waiting' : List Token) :
    (s.extend out waiting).extend out' waiting' =
      s.extend (out ++ out') (waiting' ++ waiting) := by
  simp [extend]

theorem extend_push (s : Conversion) (out waiting : List Token) (t : Token) :
    (s.extend out waiting).push t = s.extend out (t :: waiting) := rfl

theorem push_extend (s : Conversion) (out waiting : List Token) (t : Token) :
    (s.push t).extend out waiting = s.extend out (waiting ++ [t]) := by
  simp [extend, push]

/-- What is said of the token on top of what waits, when that token is known. -/
theorem forall_mem_head?_cons {p : Token → Prop} (h : p t) : ∀ u ∈ (t :: ts).head?, p u := by
  intro u hu
  have hu : t = u := by simpa using hu
  rw [← hu]
  exact h

/-! ### One step -/

theorem step_operand (s : Conversion) (h : t.kind.isOperand = true) :
    s.step t = s.extend [t] [] := by
  unfold step
  cases hk : t.kind <;> simp_all [TokenKind.isOperand] <;> rfl

theorem step_openBracket (s : Conversion) (h : t.kind = .openBracket) :
    s.step t = s.openBracket t := by
  simp [step, h]

theorem step_closeBracket (s : Conversion) (h : t.kind = .closeBracket) :
    s.step t = s.closeBracket := by
  simp [step, h]

theorem step_function (s : Conversion) (h : t.kind = .function) :
    s.step t = (s.release yieldsToFunction).push t := by
  simp [step, h]

theorem step_operator (s : Conversion) {op : Operator} (h : t.kind = .operator op) :
    s.step t = (s.release (bindsBefore op)).push t := by
  simp [step, h]

/-! ### Releasing -/

/-- A release puts out the waiting tokens of which its condition holds, down to the first of which it
    does not hold. -/
theorem release_extend {p : Token → Bool} (s : Conversion) (out released kept : List Token)
    (hrel : ∀ t ∈ released, p t = true)
    (hstop : ∀ t ∈ (kept ++ s.pending).head?, p t = false) :
    (s.extend out (released ++ kept)).release p = s.extend (out ++ released) kept := by
  have htake : ∀ base : List Token, (∀ t ∈ base.head?, p t = false) →
      base.takeWhile p = [] ∧ base.dropWhile p = base := by
    intro base hbase
    cases base with
    | nil => exact ⟨rfl, rfl⟩
    | cons t base =>
      have ht : p t = false := hbase t rfl
      simp [ht]
  obtain ⟨h₁, h₂⟩ := htake _ hstop
  unfold release extend
  simp only [List.append_assoc]
  rw [List.takeWhile_append_of_pos hrel, List.dropWhile_append_of_pos hrel, h₁, h₂]
  simp

/-- A release whose condition fails below some tokens ends in them or just after them. -/
theorem release_extend_of_stops {p : Token → Bool} (s : Conversion) (out ts : List Token)
    (hstop : ∀ t ∈ s.pending.head?, p t = false) :
    (s.extend out ts).release p = s.extend (out ++ ts.takeWhile p) (ts.dropWhile p) := by
  have hhead : ∀ t ∈ (ts.dropWhile p ++ s.pending).head?, p t = false := by
    have hdrop := List.head?_dropWhile_not p ts
    cases hd : ts.dropWhile p with
    | nil => exact hstop
    | cons u us =>
      rw [hd] at hdrop
      exact forall_mem_head?_cons (by simpa using hdrop)
  have hrel := release_extend s out (ts.takeWhile p) (ts.dropWhile p)
    (fun t ht => List.mem_takeWhile_imp ht) hhead
  rwa [List.takeWhile_append_dropWhile] at hrel

/-- A release whose condition fails on top of the waiting tokens does nothing. -/
theorem release_of_stops {p : Token → Bool} (hstop : ∀ t ∈ s.pending.head?, p t = false) :
    s.release p = s :=
  release_extend s [] [] [] (by simp) hstop

/-- Closing a bracket puts out all that waits since it was opened. -/
theorem closeBracket_extend {o : Token} {out waiting : List Token} (ho : o.kind = .openBracket)
    (hw : ∀ t ∈ waiting, isOpen t = false) :
    ((s.openBracket o).extend out waiting).closeBracket = s.extend (out ++ waiting) [] := by
  -- The bracket itself stops the release, and is then dropped.
  have hrel : ((s.openBracket o).extend out waiting).release (!isOpen ·) =
      (s.openBracket o).extend (out ++ waiting) [] := by
    have h := release_extend (p := (!isOpen ·)) (s.openBracket o) out waiting []
      (fun t ht => by simp [hw t ht]) (by simp [openBracket, push, isOpen, ho])
    rwa [List.append_nil] at h
  unfold closeBracket
  rw [hrel]
  simp [extend, openBracket, push]

/-! ### The output is only added to -/

/-- The conversion with tokens that were put out before all others. -/
def onto (s : Conversion) (out : List Token) : Conversion :=
  { s with output := s.output ++ out }

theorem step_onto (s : Conversion) (out : List Token) (t : Token) :
    (s.onto out).step t = (s.step t).onto out := by
  unfold step
  cases t.kind with
  | number | identifier | constant | openBracket | bad | none => rfl
  | function | operator op => simp [release, push, onto]
  | closeBracket =>
    simp only [closeBracket, release, onto]
    cases s.pending.dropWhile (!isOpen ·) with
    | nil => simp [note]
    | cons _ _ => simp

/-- What was put out before is neither read nor changed. -/
theorem read_onto (s : Conversion) (out ts : List Token) :
    (s.onto out).read ts = (s.read ts).onto out := by
  induction ts generalizing s with
  | nil => rfl
  | cons t ts ih => rw [read_cons, read_cons, step_onto, ih]

/-! ### Success -/

theorem result_eq_ok_iff {ps : List Token} :
    s.result = .ok ps ↔ s.problems = [] ∧ ps = s.output.reverse := by
  unfold result
  cases hp : s.problems with
  | nil => simp [Failures.ofList?, eq_comm]
  | cons e es =>
    cases hr : (e :: es).reverse with
    | nil => simp at hr
    | cons e' es' => simp [Failures.ofList?]

/-- The problems of a conversion that fails are those that were noted. -/
theorem problems_of_result {problems : Failures SyntaxError} (h : s.result = .error problems) :
    s.problems = problems.toList.reverse := by
  unfold result at h
  cases hp : Failures.ofList? s.problems.reverse with
  | none => simp [hp] at h
  | some es =>
    simp only [hp, Except.error.injEq] at h
    rw [← h, ← Failures.ofList?_eq_some_iff.mp hp, List.reverse_reverse]

/-- A conversion succeeds if no problem was noted and no bracket is left open; its output is what was
    put out, followed by what waits. -/
theorem result_finish_eq_ok_iff {ps : List Token} :
    s.finish.result = .ok ps ↔
      s.problems = [] ∧ s.openBrackets ≤ 0 ∧ ps = s.output.reverse ++ s.pending := by
  -- The last release has no condition, so it empties the stack.
  have hall : s.pending.takeWhile (fun _ => true) = s.pending :=
    List.takeWhile_eq_self_iff.mpr (fun _ _ => rfl)
  rw [result_eq_ok_iff]
  unfold finish
  by_cases hopen : 0 < s.openBrackets
  · have hle : ¬s.openBrackets ≤ 0 := by omega
    simp [release, note, hopen, hle]
  · have hle : s.openBrackets ≤ 0 := by omega
    simp [release, hall, hopen, hle]

theorem ofInfix_eq_ok_iff {ps : List Token} :
    ofInfix ts = .ok ps ↔
      (start.read ts).problems = [] ∧ (start.read ts).openBrackets ≤ 0 ∧
        ps = (start.read ts).output.reverse ++ (start.read ts).pending :=
  result_finish_eq_ok_iff

/-- Tokens that were put out before all others stand first in the result. -/
theorem result_finish_onto (s : Conversion) (out : List Token) :
    (s.onto out).finish.result = s.finish.result.map (out.reverse ++ ·) := by
  have hfinish : (s.onto out).finish = s.finish.onto out := by
    by_cases hopen : 0 < s.openBrackets
    · simp [finish, release, onto, note, hopen]
    · simp [finish, release, onto, hopen]
  have hproblems : (s.finish.onto out).problems = s.finish.problems := rfl
  have houtput : (s.finish.onto out).output = s.finish.output ++ out := rfl
  rw [hfinish]
  unfold result
  rw [hproblems, houtput]
  cases Failures.ofList? s.finish.problems.reverse with
  | some problems => rfl
  | none => simp [Except.map]

/-! ### Parts of a sequence -/

/-- Tokens in the middle of a sequence that leave nothing waiting can be exchanged: whether the
    conversion succeeds, and for which problems it does not, depends on the tokens around them, and
    so does what stands around the tokens that are put out for them. -/
theorem exists_ofInfix_between (front back : List Token) :
    ∃ (before : List Token) (outcome : Except (Failures SyntaxError) (List Token)),
      ∀ mid out : List Token, (∀ s : Conversion, s.read mid = s.extend out []) →
        ofInfix (front ++ mid ++ back) = outcome.map (before ++ out ++ ·) := by
  -- The rest is read with no output at all, which `read_onto` then puts before it.
  let s := start.read front
  let rest := ({ s with output := [] } : Conversion).read back
  refine ⟨s.output.reverse, rest.finish.result, ?_⟩
  intro mid out hmid
  have hsplit : s.extend out [] =
      ({ s with output := [] } : Conversion).onto (out.reverse ++ s.output) := by
    simp [extend, onto]
  have hread : start.read (front ++ mid ++ back) = rest.onto (out.reverse ++ s.output) := by
    rw [read_append, read_append, hmid, hsplit, read_onto]
  show (start.read (front ++ mid ++ back)).finish.result = _
  rw [hread, result_finish_onto]
  simp

/-- What is converted, if tokens in the middle that leave nothing waiting are exchanged. -/
theorem exists_ofInfix_around (front back : List Token) :
    ∃ (fits : Prop) (before after : List Token), ∀ mid out : List Token,
      (∀ s : Conversion, s.read mid = s.extend out []) → ∀ ps,
        (ofInfix (front ++ mid ++ back) = .ok ps ↔ fits ∧ ps = before ++ out ++ after) := by
  obtain ⟨before, outcome, hbetween⟩ := exists_ofInfix_between front back
  cases outcome with
  | error problems =>
    refine ⟨False, before, [], ?_⟩
    intro mid out hmid ps
    rw [hbetween mid out hmid]
    simp [Except.map]
  | ok after =>
    refine ⟨True, before, after, ?_⟩
    intro mid out hmid ps
    rw [hbetween mid out hmid]
    simp [Except.map, eq_comm]

end Abacus.Postfix.Conversion
