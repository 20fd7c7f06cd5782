import Abacus.Proofs.Conversion.Success
import Abacus.Token.Scan

/-! # Which problems are reported

  Two brackets belong together if the brackets between them balance. This says which brackets have no
  counterpart, and so which problems a sequence has: `problemsFrom` lists those that stand at a token,
  in order, and `unclosed` counts the opening brackets that are never closed.

  A conversion notes all problems of the first kind, each of them once (`Tracks`). The opening brackets
  it counts with a counter that every closing bracket lowers, one without counterpart included. So the
  count in the report is too small, or the complaint is missing, if a sequence has both a closing
  bracket that is not opened and an opening one that is not closed, and then only
  (`toList_problems_ofInfix`).
-/

namespace Abacus

namespace Infix

variable {t : Token} {ts front back inner : List Token} {n m : Nat}

/-! ### Counterparts -/

/-- A closing bracket after these tokens has its counterpart among them. -/
def ClosesIn (front : List Token) : Prop :=
  ∃ before o inner, front = before ++ o :: inner ∧ o.kind = .openBracket ∧ Balanced inner

/-- An opening bracket before these tokens has its counterpart among them. -/
def ClosedIn (back : List Token) : Prop :=
  ∃ inner cl after, back = inner ++ cl :: after ∧ cl.kind = .closeBracket ∧ Balanced inner

/-- Balanced brackets at any depth are balanced. -/
theorem depth_of_balanced (h : Balanced inner) (n : Nat) : depth n inner = some n := by
  obtain ⟨hprefixes, hcount⟩ := balanced_iff_prefixes.mp h
  apply depth_eq_some_iff.mpr
  constructor
  · intro front hfront
    have hle := hprefixes front hfront
    omega
  · rw [hcount]

theorem Balanced.append (h : Balanced front) (h' : Balanced back) : Balanced (front ++ back) := by
  show depth 0 (front ++ back) = some 0
  rw [depth_append, depth_of_balanced h, Option.bind_some, depth_of_balanced h']

/-- A pair of brackets around balanced ones is balanced. -/
theorem Balanced.enclose {o cl : Token} (ho : o.kind = .openBracket) (h : Balanced inner)
    (hcl : cl.kind = .closeBracket) : Balanced (o :: inner ++ [cl]) := by
  show depth 0 (o :: (inner ++ [cl])) = some 0
  rw [depth_cons, depthStep_openBracket 0 ho, Option.bind_some, depth_append,
    depth_of_balanced h, Option.bind_some, depth_cons, depthStep_closeBracket 1 hcl]
  rfl

/-! ### Opening brackets that wait -/

/-- The number of opening brackets that wait for their counterpart after a token, from the number
    before it. -/
def waitingStep (n : Nat) (t : Token) : Nat :=
  match t.kind with
  | .openBracket => n + 1
  | .closeBracket => n - 1
  | .bad | .none | .identifier | .constant | .number | .operator _ | .function => n

/-- The number of opening brackets that wait for their counterpart after a sequence. -/
def waitingFrom (n : Nat) (ts : List Token) : Nat :=
  ts.foldl waitingStep n

theorem waitingStep_openBracket (n : Nat) (h : t.kind = .openBracket) :
    waitingStep n t = n + 1 := by
  simp [waitingStep, h]

theorem waitingStep_closeBracket (n : Nat) (h : t.kind = .closeBracket) :
    waitingStep n t = n - 1 := by
  simp [waitingStep, h]

theorem waitingStep_other (n : Nat) (ho : t.kind ≠ .openBracket) (hc : t.kind ≠ .closeBracket) :
    waitingStep n t = n := by
  unfold waitingStep
  cases hk : t.kind <;> simp_all

theorem waitingFrom_append (n : Nat) (ts us : List Token) :
    waitingFrom n (ts ++ us) = waitingFrom (waitingFrom n ts) us :=
  List.foldl_append

/-- Where the depth is defined, it is the number of brackets that wait. -/
theorem waitingFrom_of_depth (h : depth n ts = some m) : waitingFrom n ts = m := by
  induction ts generalizing n with
  | nil => exact Option.some.inj h
  | cons t ts ih =>
    rw [depth_cons] at h
    obtain ⟨k, hk, hrest⟩ := Option.bind_eq_some_iff.mp h
    have hstep : waitingStep n t = k := by
      by_cases ho : t.kind = .openBracket
      · rw [depthStep_openBracket n ho] at hk
        rw [waitingStep_openBracket n ho]
        exact Option.some.inj hk
      by_cases hc : t.kind = .closeBracket
      · rw [depthStep_closeBracket n hc] at hk
        rw [waitingStep_closeBracket n hc]
        by_cases hn : n = 0
        · rw [if_pos hn] at hk
          cases hk
        · rw [if_neg hn] at hk
          exact Option.some.inj hk
      · rw [depthStep_other n ho hc] at hk
        rw [waitingStep_other n ho hc]
        exact Option.some.inj hk
    show waitingFrom (waitingStep n t) ts = m
    rw [hstep]
    exact ih hrest

/-- If a bracket waits, the latest that does has only balanced ones after it. -/
theorem exists_latest_of_waiting (front : List Token) (h : waitingFrom 0 front = n + 1) :
    ∃ before o inner, front = before ++ o :: inner ∧ o.kind = .openBracket ∧ Balanced inner ∧
      waitingFrom 0 before = n := by
  induction hlength : front.length using Nat.strong_induction_on generalizing front n with
  | _ length ih =>
    rcases List.eq_nil_or_concat front with rfl | ⟨rest, t, rfl⟩
    · cases h
    rw [List.concat_eq_append, waitingFrom_append] at h
    have hshorter : rest.length < length := by
      rw [← hlength, List.concat_eq_append, List.length_append]
      exact Nat.lt_succ_self _
    have hstep : waitingStep (waitingFrom 0 rest) t = n + 1 := h
    by_cases ho : t.kind = .openBracket
    · rw [waitingStep_openBracket _ ho] at hstep
      exact ⟨rest, t, [], by simp, ho, rfl, by omega⟩
    by_cases hc : t.kind = .closeBracket
    · -- The bracket closes the latest one that waits, and the one before it is the latest now.
      rw [waitingStep_closeBracket _ hc] at hstep
      obtain ⟨before, o, inner, rfl, ho', hinner, hbefore⟩ :=
        ih rest.length hshorter (n := n + 1) rest (by omega) rfl
      have hbefore_shorter : before.length < length := by
        rw [List.length_append] at hshorter
        omega
      obtain ⟨before', o', inner', rfl, ho'', hinner', hbefore'⟩ :=
        ih before.length hbefore_shorter before hbefore rfl
      refine ⟨before', o', inner' ++ (o :: inner ++ [t]), by simp, ho'', ?_, hbefore'⟩
      exact hinner'.append (.enclose ho' hinner hc)
    · rw [waitingStep_other _ ho hc] at hstep
      obtain ⟨before, o, inner, rfl, ho', hinner, hbefore⟩ :=
        ih rest.length hshorter rest hstep rfl
      refine ⟨before, o, inner ++ [t], by simp, ho', hinner.append ?_, hbefore⟩
      show depth 0 [t] = some 0
      rw [depth_cons, depthStep_other 0 ho hc]
      rfl

/-- A closing bracket has its counterpart exactly if an opening one waits. -/
theorem closesIn_iff : ClosesIn front ↔ 0 < waitingFrom 0 front := by
  constructor
  · rintro ⟨before, o, inner, rfl, ho, hinner⟩
    rw [waitingFrom_append]
    show 0 < waitingFrom (waitingStep _ o) inner
    rw [waitingStep_openBracket _ ho, waitingFrom_of_depth (depth_of_balanced hinner _)]
    exact Nat.succ_pos _
  · intro hpos
    obtain ⟨n, hn⟩ := Nat.exists_eq_add_of_lt hpos
    obtain ⟨before, o, inner, hfront, ho, hinner, -⟩ :=
      exists_latest_of_waiting (n := n) front (by omega)
    exact ⟨before, o, inner, hfront, ho, hinner⟩

instance (front : List Token) : Decidable (ClosesIn front) :=
  decidable_of_iff _ closesIn_iff.symm

/-! ### Opening brackets that are never closed -/

/-- Where the depth is not defined, some bracket closes one that was open before. -/
theorem exists_closing_of_depth (h : depth n ts = none) :
    ∃ inner cl after, ts = inner ++ cl :: after ∧ cl.kind = .closeBracket ∧
      depth n inner = some 0 := by
  induction ts generalizing n with
  | nil => cases h
  | cons t ts ih =>
    rw [depth_cons] at h
    cases hstep : depthStep n t with
    | none =>
      have hc : t.kind = .closeBracket := by
        by_contra hc
        by_cases ho : t.kind = .openBracket
        · rw [depthStep_openBracket n ho] at hstep
          cases hstep
        · rw [depthStep_other n ho hc] at hstep
          cases hstep
      rw [depthStep_closeBracket n hc] at hstep
      by_cases hn : n = 0
      · exact ⟨[], t, ts, rfl, hc, by rw [hn, depth_nil]⟩
      · rw [if_neg hn] at hstep
        cases hstep
    | some k =>
      rw [hstep, Option.bind_some] at h
      obtain ⟨inner, cl, after, rfl, hcl, hinner⟩ := ih h
      refine ⟨t :: inner, cl, after, rfl, hcl, ?_⟩
      rw [depth_cons, hstep, Option.bind_some, hinner]

theorem closedIn_iff : ClosedIn back ↔ depth 0 back = none := by
  constructor
  · rintro ⟨inner, cl, after, rfl, hcl, hinner⟩
    have hinner : depth 0 inner = some 0 := hinner
    rw [depth_append, hinner, Option.bind_some, depth_cons, depthStep_closeBracket 0 hcl]
    rfl
  · exact exists_closing_of_depth

instance (back : List Token) : Decidable (ClosedIn back) :=
  decidable_of_iff _ closedIn_iff.symm

/-- The number of opening brackets without counterpart. -/
def unclosed : List Token → Nat
  | [] => 0
  | t :: ts => (if t.kind = .openBracket ∧ ¬ClosedIn ts then 1 else 0) + unclosed ts

/-- The number of closing brackets without counterpart. -/
def unopened : List Token → Nat
  | [] => 0
  | t :: ts =>
    match t.kind with
    | .openBracket => unopened ts - 1
    | .closeBracket => unopened ts + 1
    | .bad | .none | .identifier | .constant | .number | .operator _ | .function => unopened ts

theorem depth_eq_none_iff : depth n ts = none ↔ n < unopened ts := by
  induction ts generalizing n with
  | nil => simp [unopened]
  | cons t ts ih =>
    rw [depth_cons]
    cases hk : t.kind with
    | openBracket =>
      rw [depthStep_openBracket n hk, Option.bind_some, ih]
      simp only [unopened, hk]
      omega
    | closeBracket =>
      rw [depthStep_closeBracket n hk]
      simp only [unopened, hk]
      by_cases hn : n = 0
      · simp [hn]
      · rw [if_neg hn, Option.bind_some, ih]
        omega
    | bad | none | identifier | constant | number | operator op | function =>
      rw [depthStep_other n (by simp [hk]) (by simp [hk]), Option.bind_some, ih]
      simp only [unopened, hk]

/-- The brackets that wait in the end are those before the sequence that it does not close, and its own
    that it never closes. -/
theorem waitingFrom_eq (n : Nat) (ts : List Token) :
    waitingFrom n ts = n - unopened ts + unclosed ts := by
  induction ts generalizing n with
  | nil => rfl
  | cons t ts ih =>
    show waitingFrom (waitingStep n t) ts = _
    rw [ih]
    cases hk : t.kind with
    | openBracket =>
      have hclosed : ClosedIn ts ↔ 0 < unopened ts := closedIn_iff.trans depth_eq_none_iff
      simp only [waitingStep_openBracket n hk, unopened, unclosed, hk, hclosed, true_and]
      by_cases hpos : 0 < unopened ts
      · rw [if_neg (not_not_intro hpos)]
        omega
      · rw [if_pos hpos]
        omega
    | closeBracket =>
      simp only [waitingStep_closeBracket n hk, unopened, unclosed, hk, reduceCtorEq, false_and,
        if_false]
      omega
    | bad | none | identifier | constant | number | operator op | function =>
      rw [waitingStep_other n (by simp [hk]) (by simp [hk])]
      simp [unopened, unclosed, hk]

theorem waitingFrom_zero (ts : List Token) : waitingFrom 0 ts = unclosed ts := by
  rw [waitingFrom_eq, Nat.zero_sub, Nat.zero_add]

end Infix

namespace Postfix

open Infix

variable {t : Token} {ts front : List Token}

/-! ### The problems of a sequence -/

/-- What is wrong with a token, if anything is, from the tokens before it. -/
def problem (front : List Token) (t : Token) : List SyntaxError :=
  match t.kind with
  | .closeBracket => if ClosesIn front then [] else [.unmatchedCloseBracket]
  | .bad | .none => [.unrecognizedToken t.position]
  | .identifier | .constant | .number | .operator _ | .openBracket | .function => []

/-- What is wrong with the tokens of a sequence, in order, from the tokens before them. -/
def problemsFrom (front : List Token) : List Token → List SyntaxError
  | [] => []
  | t :: ts => problem front t ++ problemsFrom (front ++ [t]) ts

/-- The complaint about a number of brackets that are not closed. -/
def notClosed (count : Nat) : List SyntaxError :=
  if count = 0 then [] else [.unclosedBrackets count]

theorem problemsFrom_append (front ts us : List Token) :
    problemsFrom front (ts ++ us) = problemsFrom front ts ++ problemsFrom (front ++ ts) us := by
  induction ts generalizing front with
  | nil => rw [List.append_nil]; rfl
  | cons t ts ih =>
    show problem front t ++ problemsFrom (front ++ [t]) (ts ++ us) = _
    rw [ih, List.append_assoc front, List.singleton_append, ← List.append_assoc]
    rfl

theorem problem_closeBracket (front : List Token) (h : t.kind = .closeBracket) :
    problem front t = if 0 < waitingFrom 0 front then [] else [.unmatchedCloseBracket] := by
  simp only [problem, h, closesIn_iff]

namespace Conversion

variable {s : Conversion}

/-- The conversion has noted the problems of the tokens before, holds the opening brackets that wait,
    and has counted a closing bracket without counterpart against them. -/
structure Tracks (front : List Token) (s : Conversion) : Prop where
  /-- The problems. -/
  problems : s.problems = (problemsFrom [] front).reverse
  /-- The waiting tokens. -/
  waiting : s.pending.countP isOpen = waitingFrom 0 front
  /-- The counter. -/
  counter : s.openBrackets =
    waitingFrom 0 front - ((problemsFrom [] front).count .unmatchedCloseBracket : Nat)

theorem tracks_start : Tracks [] start :=
  ⟨rfl, rfl, rfl⟩

/-- A step that keeps the waiting brackets and the counter, on a token that is no bracket. -/
theorem Tracks.of_other {s' : Conversion} (h : Tracks front s) (ho : t.kind ≠ .openBracket)
    (hc : t.kind ≠ .closeBracket) (hproblems : s'.problems = (problem front t).reverse ++ s.problems)
    (hwaiting : s'.pending.countP isOpen = s.pending.countP isOpen)
    (hcounter : s'.openBrackets = s.openBrackets) : Tracks (front ++ [t]) s' := by
  have hstep : waitingFrom 0 (front ++ [t]) = waitingFrom 0 front := by
    rw [waitingFrom_append]
    exact waitingStep_other _ ho hc
  have hfrom : problemsFrom [] (front ++ [t]) = problemsFrom [] front ++ problem front t := by
    rw [problemsFrom_append]
    simp [problemsFrom]
  have hnone : (problem front t).count .unmatchedCloseBracket = 0 := by
    unfold problem
    cases hk : t.kind <;> simp_all
  refine ⟨?_, by rw [hwaiting, h.waiting, hstep], ?_⟩
  · rw [hproblems, h.problems, hfrom, List.reverse_append]
  · rw [hcounter, h.counter, hstep, hfrom, List.count_append, hnone, Nat.add_zero]

theorem Tracks.openBracket (h : Tracks front s) (hk : t.kind = .openBracket) :
    Tracks (front ++ [t]) (s.openBracket t) := by
  have hstep : waitingFrom 0 (front ++ [t]) = waitingFrom 0 front + 1 := by
    rw [waitingFrom_append]
    exact waitingStep_openBracket _ hk
  have hfrom : problemsFrom [] (front ++ [t]) = problemsFrom [] front := by
    rw [problemsFrom_append]
    simp [problemsFrom, problem, hk]
  refine ⟨by rw [hfrom]; exact h.problems, ?_, ?_⟩
  · simp [Conversion.openBracket, push, isOpen, hk, h.waiting, hstep]
  · have hcounter := h.counter
    show s.openBrackets + 1 = _
    rw [hstep, hfrom]
    omega

theorem Tracks.closeBracket (h : Tracks front s) (hk : t.kind = .closeBracket) :
    Tracks (front ++ [t]) s.closeBracket := by
  have hstep : waitingFrom 0 (front ++ [t]) = waitingFrom 0 front - 1 := by
    rw [waitingFrom_append]
    exact waitingStep_closeBracket _ hk
  have hfrom : problemsFrom [] (front ++ [t]) = problemsFrom [] front ++ problem front t := by
    rw [problemsFrom_append]
    simp [problemsFrom]
  rw [problem_closeBracket front hk] at hfrom
  have hcount := countP_isOpen_release (s := s) (p := (!isOpen ·)) (by simp)
  have hcounter := h.counter
  rw [h.waiting] at hcount
  unfold Conversion.closeBracket
  dsimp only
  cases hp : (s.release (!isOpen ·)).pending with
  | nil =>
    -- Nothing waits, so the bracket has no counterpart.
    rw [hp, List.countP_nil] at hcount
    rw [if_neg (by omega)] at hfrom
    refine ⟨?_, ?_, ?_⟩
    · show .unmatchedCloseBracket :: s.problems = _
      rw [hfrom, h.problems, List.reverse_append]
      rfl
    · show ([] : List Token).countP isOpen = _
      rw [hstep, ← hcount]
      rfl
    · show s.openBrackets - 1 = _
      rw [hfrom, hstep, List.count_append, List.count_singleton_self]
      omega
  | cons o rest =>
    have ho : isOpen o = true := isOpen_of_pending_release hp
    rw [hp, List.countP_cons_of_pos ho] at hcount
    rw [if_pos (by omega), List.append_nil] at hfrom
    refine ⟨by rw [hfrom]; exact h.problems, ?_, ?_⟩
    · show rest.countP isOpen = _
      omega
    · show s.openBrackets - 1 = _
      rw [hfrom, hstep]
      omega

/-- A step notes the problem of its token, if it has one. -/
theorem Tracks.step (h : Tracks front s) (t : Token) : Tracks (front ++ [t]) (s.step t) := by
  cases hk : t.kind with
  | openBracket =>
    rw [step_openBracket s hk]
    exact h.openBracket hk
  | closeBracket =>
    rw [step_closeBracket s hk]
    exact h.closeBracket hk
  | number | identifier | constant =>
    rw [step_operand s (by simp [hk, TokenKind.isOperand])]
    exact h.of_other (by simp [hk]) (by simp [hk]) (by simp [problem, hk]) rfl rfl
  | function =>
    rw [step_function s hk]
    refine h.of_other (by simp [hk]) (by simp [hk]) (by simp [problem, hk, push, release]) ?_ rfl
    have hcount := countP_isOpen_release (s := s) (fun _ => yieldsToFunction_of_isOpen)
    simp [push, isOpen, hk, hcount]
  | operator op =>
    rw [step_operator s hk]
    refine h.of_other (by simp [hk]) (by simp [hk]) (by simp [problem, hk, push, release]) ?_ rfl
    have hcount := countP_isOpen_release (s := s) (fun _ => bindsBefore_of_isOpen op)
    simp [push, isOpen, hk, hcount]
  | bad | none =>
    have hnote : s.step t = s.note (.unrecognizedToken t.position) := by
      simp [Conversion.step, hk]
    rw [hnote]
    exact h.of_other (by simp [hk]) (by simp [hk]) (by simp [problem, hk, note]) rfl rfl

theorem Tracks.read (h : Tracks front s) (ts : List Token) : Tracks (front ++ ts) (s.read ts) := by
  induction ts generalizing front s with
  | nil => rw [List.append_nil]; exact h
  | cons t ts ih =>
    have hrest := ih (h.step t)
    rw [List.append_assoc, List.singleton_append] at hrest
    exact hrest

end Conversion

/-- The problems that are found in the end: those of the tokens, and the brackets that the counter
    still has open. -/
theorem problems_finish (ts : List Token) :
    (Conversion.start.read ts).finish.problems.reverse =
      problemsFrom [] ts ++
        notClosed (unclosed ts - (problemsFrom [] ts).count .unmatchedCloseBracket) := by
  have htracks := Conversion.tracks_start.read ts
  rw [List.nil_append] at htracks
  have hcounter := htracks.counter
  rw [waitingFrom_zero] at hcounter
  have hproblems := htracks.problems
  generalize Conversion.start.read ts = s at hcounter hproblems ⊢
  unfold notClosed
  by_cases hopen : 0 < s.openBrackets
  · have hfinish : s.finish.problems = .unclosedBrackets s.openBrackets.toNat :: s.problems := by
      simp [Conversion.finish, Conversion.release, Conversion.note, hopen]
    have hcount : s.openBrackets.toNat =
        unclosed ts - (problemsFrom [] ts).count .unmatchedCloseBracket := by
      omega
    rw [hfinish, if_neg (by omega), ← hcount, List.reverse_cons, hproblems, List.reverse_reverse]
  · have hfinish : s.finish.problems = s.problems := by
      simp [Conversion.finish, Conversion.release, hopen]
    rw [hfinish, if_pos (by omega), List.append_nil, hproblems, List.reverse_reverse]

/-- **Problems.** A conversion that fails reports the problems of the tokens in their order, each of
    them once, and last the opening brackets that are not closed, less the closing ones that are not
    opened. So all are reported, with their number, exactly if brackets of one kind only lack their
    counterparts. -/
theorem toList_problems_ofInfix (ts : List Token) (problems : Failures SyntaxError)
    (h : ofInfix ts = .error problems) :
    problems.toList = problemsFrom [] ts ++
        notClosed (unclosed ts - (problemsFrom [] ts).count .unmatchedCloseBracket) ∧
      (problems.toList = problemsFrom [] ts ++ notClosed (unclosed ts) ↔
        .unmatchedCloseBracket ∉ problemsFrom [] ts ∨ unclosed ts = 0) := by
  have hreport : problems.toList = problemsFrom [] ts ++
      notClosed (unclosed ts - (problemsFrom [] ts).count .unmatchedCloseBracket) := by
    have hnoted : (Conversion.start.read ts).finish.problems = problems.toList.reverse :=
      Conversion.problems_of_result h
    rw [← problems_finish, hnoted, List.reverse_reverse]
  refine ⟨hreport, ?_⟩
  rw [hreport, List.append_cancel_left_eq, ← List.count_eq_zero]
  unfold notClosed
  constructor
  · intro heq
    by_contra hboth
    rw [not_or] at hboth
    -- With brackets of both kinds the number that is reported is smaller.
    rw [if_neg hboth.2] at heq
    by_cases hle : unclosed ts - (problemsFrom [] ts).count .unmatchedCloseBracket = 0
    · rw [if_pos hle] at heq
      cases heq
    · rw [if_neg hle, List.cons.injEq, SyntaxError.unclosedBrackets.injEq] at heq
      omega
  · rintro (hnone | hnone)
    · rw [hnone, Nat.sub_zero]
    · rw [hnone, Nat.zero_sub]

/-- In `2)+1)` two closing brackets lack their counterpart, and no opening one does. -/
theorem toList_problems_unopened :
    let ts := Token.scan .standard .standard "2)+1)"
    ofInfix ts = .error ⟨.unmatchedCloseBracket, [.unmatchedCloseBracket]⟩ ∧
      [.unmatchedCloseBracket, .unmatchedCloseBracket] =
        problemsFrom [] ts ++ notClosed (unclosed ts) := by
  intro ts
  have herror : ofInfix ts = .error ⟨.unmatchedCloseBracket, [.unmatchedCloseBracket]⟩ := by
    decide +kernel
  have hclosed : unclosed ts = 0 := by
    decide +kernel
  exact ⟨herror, (toList_problems_ofInfix ts _ herror).2.mpr (.inr hclosed)⟩

/-- In `1)+(2` a bracket of each kind lacks its counterpart, and the opening one is not reported. -/
theorem not_forall_toList_problems :
    ¬∀ (ts : List Token) (problems : Failures SyntaxError), ofInfix ts = .error problems →
      problems.toList = problemsFrom [] ts ++ notClosed (unclosed ts) := by
  intro h
  have herror : ofInfix (Token.scan .standard .standard "1)+(2") =
      .error (.one .unmatchedCloseBracket) := by
    decide +kernel
  have hproblems : problemsFrom [] (Token.scan .standard .standard "1)+(2") ++
      notClosed (unclosed (Token.scan .standard .standard "1)+(2")) =
        [.unmatchedCloseBracket, .unclosedBrackets 1] := by
    decide +kernel
  have hreport := h _ _ herror
  rw [hproblems] at hreport
  cases hreport

end Postfix

end Abacus
