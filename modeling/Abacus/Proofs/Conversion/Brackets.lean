import Abacus.Proofs.Conversion.Reading
import Abacus.Proofs.Infix.Minus

/-! # Brackets

  The conversion counts brackets twice, with a counter and by the opening brackets that wait. While
  no problem was noted both counts agree with the depth of the tokens read, so a conversion that
  succeeds has read balanced brackets and no bad token (`balanced_of_ofInfix`), and one that fails says
  which of the two it was (`mem_of_ofInfix_eq_error`). Expanding minus signs does not change the depth.
-/

namespace Abacus

namespace Infix

/-! ### Depth -/

/-- The number of open brackets after a token, from the number before it; none if there is no bracket
    to close. -/
def depthStep (n : Nat) (t : Token) : Option Nat :=
  match t.kind with
  | .openBracket => some (n + 1)
  | .closeBracket => if n = 0 then none else some (n - 1)
  | .bad | .none | .identifier | .constant | .number | .operator _ | .function => some n

/-- The number of open brackets after a sequence, from the number before it. -/
def depth (n : Nat) (ts : List Token) : Option Nat :=
  ts.foldlM depthStep n

/-- Whether each bracket of the sequence has its counterpart. -/
def Balanced (ts : List Token) : Prop :=
  depth 0 ts = some 0

@[simp] theorem depth_nil (n : Nat) : depth n [] = some n := rfl

theorem depth_cons (n : Nat) (t : Token) (ts : List Token) :
    depth n (t :: ts) = (depthStep n t).bind (depth · ts) := rfl

theorem depth_append (n : Nat) (ts us : List Token) :
    depth n (ts ++ us) = (depth n ts).bind (depth · us) :=
  List.foldlM_append

theorem depthStep_openBracket {t : Token} (n : Nat) (h : t.kind = .openBracket) :
    depthStep n t = some (n + 1) := by
  simp [depthStep, h]

theorem depthStep_closeBracket {t : Token} (n : Nat) (h : t.kind = .closeBracket) :
    depthStep n t = if n = 0 then none else some (n - 1) := by
  simp [depthStep, h]

theorem depthStep_other {t : Token} (n : Nat) (ho : t.kind ≠ .openBracket)
    (hc : t.kind ≠ .closeBracket) : depthStep n t = some n := by
  unfold depthStep
  cases hk : t.kind <;> simp_all

theorem depthStep_operand {t : Token} (n : Nat) (h : t.kind.isOperand = true) :
    depthStep n t = some n := by
  unfold depthStep
  cases hk : t.kind <;> simp_all [TokenKind.isOperand]

theorem depthStep_minus {t : Token} (n : Nat) (h : isMinus t = true) :
    depthStep n t = some n := by
  have hk := isMinus_iff.mp h
  exact depthStep_other n (by simp [hk]) (by simp [hk])

/-- The brackets that an expansion puts in are closed at once. -/
theorem depth_negated {m x : Token} (n : Nat) (hm : isMinus m = true)
    (hx : x.kind.isOperand = true) : depth n (negated m x) = some n := by
  have hopen : depthStep n (.inserted .openBracket "(") = some (n + 1) := rfl
  have hzero : depthStep (n + 1) (.inserted .number "0") = some (n + 1) := rfl
  have hclose : depthStep (n + 1) (.inserted .closeBracket ")") = some n := rfl
  simp [negated, depth_cons, hopen, hzero, hclose, depthStep_minus _ hm, depthStep_operand _ hx]

theorem depth_normalizeFrom (afterValue : Bool) (n : Nat) (ts : List Token) :
    depth n (normalizeFrom afterValue ts) = depth n ts := by
  fun_induction normalizeFrom afterValue ts generalizing n with
  | case1 => rfl
  | case2 => rfl
  | case3 afterValue t x rest h ih =>
    simp only [Bool.and_eq_true, Bool.not_eq_true'] at h
    obtain ⟨⟨hm, -⟩, hx⟩ := h
    -- The brackets put in cancel; the minus and its operand count nothing on either side.
    rw [depth_append, depth_negated n hm hx, Option.bind_some, ih, depth_cons,
      depthStep_minus n hm, Option.bind_some, depth_cons, depthStep_operand n hx,
      Option.bind_some]
  | case4 afterValue t x rest h ih =>
    rw [depth_cons, depth_cons]
    exact congrArg (Option.bind (depthStep n t)) (funext ih)

end Infix

namespace Postfix.Conversion

open Infix

variable {s : Conversion} {t : Token} {ts : List Token} {n : Nat}

/-! ### While no problem was noted -/

/-- No problem was noted, and both the counter and the waiting tokens say that `n` brackets are
    open. -/
structure Clean (s : Conversion) (n : Nat) : Prop where
  /-- No problem was noted. -/
  problems : s.problems = []
  /-- The counter. -/
  counter : s.openBrackets = n
  /-- The waiting tokens. -/
  waiting : s.pending.countP isOpen = n

theorem clean_start : start.Clean 0 :=
  ⟨rfl, rfl, rfl⟩

/-- A release that spares opening brackets does not change their number. -/
theorem countP_isOpen_release {p : Token → Bool} (hp : ∀ t, isOpen t = true → p t = false) :
    (s.release p).pending.countP isOpen = s.pending.countP isOpen := by
  have hzero : (s.pending.takeWhile p).countP isOpen = 0 := by
    rw [List.countP_eq_zero]
    intro t ht hopen
    have hpt : p t = true := (List.mem_takeWhile_imp ht)
    rw [hp t hopen] at hpt
    cases hpt
  calc (s.release p).pending.countP isOpen
      = (s.pending.takeWhile p).countP isOpen + (s.pending.dropWhile p).countP isOpen := by
        rw [hzero, Nat.zero_add]
        rfl
    _ = s.pending.countP isOpen := by
        rw [← List.countP_append, List.takeWhile_append_dropWhile]

theorem bindsBefore_of_isOpen (op : Operator) (h : isOpen t = true) : bindsBefore op t = false := by
  have hk : t.kind = .openBracket := by simpa [isOpen] using h
  cases op <;> simp [bindsBefore, hk, TokenKind.precedence, Operator.precedence]

theorem yieldsToFunction_of_isOpen (h : isOpen t = true) : yieldsToFunction t = false := by
  have hk : t.kind = .openBracket := by simpa [isOpen] using h
  simp [yieldsToFunction, hk, TokenKind.precedence, TokenKind.functionPrecedence,
    Operator.precedence]

theorem yieldsToFunction_of_operator {op : Operator} (h : t.kind = .operator op) :
    yieldsToFunction t = true := by
  cases op <;> simp [yieldsToFunction, h, TokenKind.precedence, TokenKind.functionPrecedence,
    Operator.precedence]

/-- A release that spares opening brackets stops at one, unless it empties the stack. -/
theorem isOpen_of_pending_release {rest : List Token}
    (h : (s.release (!isOpen ·)).pending = t :: rest) : isOpen t = true := by
  have hhead := List.head?_dropWhile_not (!isOpen ·) s.pending
  have hdrop : s.pending.dropWhile (!isOpen ·) = t :: rest := h
  rw [hdrop] at hhead
  simpa using hhead

/-- A step notes at most one problem: a bracket without its opening one, or a token that belongs to no
    expression. -/
theorem problems_step (s : Conversion) (t : Token) :
    (s.step t).problems = s.problems ∨
      ∃ e, (s.step t).problems = e :: s.problems ∧
        (e = .unmatchedCloseBracket ∨
          (t.kind = .bad ∨ t.kind = .none) ∧ e = .unrecognizedToken t.position) := by
  unfold step
  cases hk : t.kind with
  | number | identifier | constant | openBracket | function | operator op => exact .inl rfl
  | closeBracket =>
    simp only [closeBracket]
    cases (s.release (!isOpen ·)).pending with
    | nil => exact .inr ⟨.unmatchedCloseBracket, rfl, .inl rfl⟩
    | cons o rest => exact .inl rfl
  | bad | none => exact .inr ⟨.unrecognizedToken t.position, rfl, .inr ⟨by simp, rfl⟩⟩

/-- A step never takes back a problem. -/
theorem problems_of_step (h : (s.step t).problems = []) : s.problems = [] := by
  rcases problems_step s t with heq | ⟨e, heq, -⟩
  · rw [← heq, h]
  · rw [heq] at h
    cases h

theorem problems_of_read (h : (s.read ts).problems = []) : s.problems = [] := by
  induction ts generalizing s with
  | nil => exact h
  | cons t ts ih => exact problems_of_step (ih h)

/-- A step that notes no problem follows the depth, and its token is not a bad one. -/
theorem Clean.step (hc : s.Clean n) (h : (s.step t).problems = []) :
    t.kind ≠ .bad ∧ t.kind ≠ .none ∧ ∃ m, depthStep n t = some m ∧ (s.step t).Clean m := by
  obtain ⟨hproblems, hcounter, hwaiting⟩ := hc
  cases hk : t.kind with
  | bad | none => simp [Conversion.step, hk, note] at h
  | number | identifier | constant =>
    refine ⟨by simp, by simp, n, depthStep_other n (by simp [hk]) (by simp [hk]), ?_⟩
    rw [step_operand s (by simp [hk, TokenKind.isOperand])]
    exact ⟨hproblems, hcounter, hwaiting⟩
  | openBracket =>
    refine ⟨by simp, by simp, n + 1, depthStep_openBracket n hk, ?_⟩
    rw [step_openBracket s hk]
    refine ⟨hproblems, ?_, ?_⟩
    · simp [openBracket, hcounter]
    · simp [openBracket, push, isOpen, hk, hwaiting]
  | closeBracket =>
    refine ⟨by simp, by simp, ?_⟩
    have hcount := countP_isOpen_release (s := s) (p := (!isOpen ·)) (by simp)
    rw [step_closeBracket s hk] at h ⊢
    rw [hwaiting] at hcount
    unfold closeBracket at h ⊢
    cases hp : (s.release (!isOpen ·)).pending with
    | nil => simp [hp, note] at h
    | cons o rest =>
      have ho : isOpen o = true := isOpen_of_pending_release hp
      -- One of the `n` brackets that wait is dropped, so there was one.
      rw [hp, List.countP_cons_of_pos ho] at hcount
      refine ⟨n - 1, ?_, ?_⟩
      · rw [depthStep_closeBracket n hk, if_neg (by omega)]
      · simp only [hp]
        refine ⟨hproblems, ?_, ?_⟩
        · show s.openBrackets - 1 = ((n - 1 : Nat) : Int)
          omega
        · show rest.countP isOpen = n - 1
          omega
  | function =>
    refine ⟨by simp, by simp, n, depthStep_other n (by simp [hk]) (by simp [hk]), ?_⟩
    rw [step_function s hk]
    refine ⟨hproblems, hcounter, ?_⟩
    have hcount := countP_isOpen_release (s := s) (fun _ => yieldsToFunction_of_isOpen)
    simp [push, isOpen, hk, hcount, hwaiting]
  | operator op =>
    refine ⟨by simp, by simp, n, depthStep_other n (by simp [hk]) (by simp [hk]), ?_⟩
    rw [step_operator s hk]
    refine ⟨hproblems, hcounter, ?_⟩
    have hcount := countP_isOpen_release (s := s) (fun _ => bindsBefore_of_isOpen op)
    simp [push, isOpen, hk, hcount, hwaiting]

/-- Reading without a problem follows the depth. -/
theorem Clean.read (hc : s.Clean n) (h : (s.read ts).problems = []) :
    ∃ m, depth n ts = some m ∧ (s.read ts).Clean m := by
  induction ts generalizing s n with
  | nil => exact ⟨n, rfl, hc⟩
  | cons t ts ih =>
    obtain ⟨-, -, m, hm, hc'⟩ := hc.step (problems_of_read h)
    obtain ⟨k, hk, hread⟩ := ih hc' h
    exact ⟨k, by rw [depth_cons, hm, Option.bind_some, hk], hread⟩

end Postfix.Conversion

namespace Postfix

/-- Only balanced brackets are converted. -/
theorem balanced_of_ofInfix {ts ps : List Token} (h : ofInfix ts = .ok ps) :
    Infix.Balanced ts := by
  obtain ⟨hproblems, hopen, -⟩ := Conversion.ofInfix_eq_ok_iff.mp h
  obtain ⟨m, hm, hclean⟩ := Conversion.clean_start.read hproblems
  -- The counter is no longer positive at the end, and never was negative.
  have hzero : m = 0 := by
    have hcounter := hclean.counter
    omega
  rw [hzero] at hm
  exact hm

/-! ### What the problems are -/

variable {ts : List Token} {e : SyntaxError}

theorem Conversion.mem_problems_read {s : Conversion} (h : e ∈ (s.read ts).problems) :
    e ∈ s.problems ∨ e = .unmatchedCloseBracket ∨
      ∃ t ∈ ts, (t.kind = .bad ∨ t.kind = .none) ∧ e = .unrecognizedToken t.position := by
  induction ts generalizing s with
  | nil => exact .inl h
  | cons t ts ih =>
    rcases ih h with hs | he | ⟨u, hu, he⟩
    · rcases problems_step s t with heq | ⟨e', heq, he'⟩
      · exact .inl (heq ▸ hs)
      · rw [heq, List.mem_cons] at hs
        rcases hs with rfl | hs
        · exact .inr (he'.imp_right fun hbad => ⟨t, List.mem_cons_self, hbad⟩)
        · exact .inl hs
    · exact .inr (.inl he)
    · exact .inr (.inr ⟨u, List.mem_cons_of_mem t hu, he⟩)

/-- A conversion fails for brackets that do not match, or for tokens that belong to no expression. -/
theorem mem_of_ofInfix_eq_error {problems : Failures SyntaxError} (h : ofInfix ts = .error problems)
    (he : e ∈ problems.toList) :
    e = .unmatchedCloseBracket ∨ (∃ n, e = .unclosedBrackets n) ∨
      ∃ t ∈ ts, (t.kind = .bad ∨ t.kind = .none) ∧ e = .unrecognizedToken t.position := by
  have hnoted : (Conversion.start.read ts).finish.problems = problems.toList.reverse :=
    Conversion.problems_of_result h
  have hmem : e ∈ (Conversion.start.read ts).finish.problems := by
    rw [hnoted]
    exact List.mem_reverse.mpr he
  have hread : e ∈ (Conversion.start.read ts).problems ∨ ∃ n, e = .unclosedBrackets n := by
    unfold Conversion.finish at hmem
    dsimp only at hmem
    split at hmem
    · rcases List.mem_cons.mp hmem with rfl | hmem
      · exact .inr ⟨_, rfl⟩
      · exact .inl hmem
    · exact .inl hmem
  rcases hread with hread | hn
  · rcases Conversion.mem_problems_read hread with hstart | he | ht
    · cases hstart
    · exact .inl he
    · exact .inr (.inr ht)
  · exact .inr (.inl hn)

end Postfix

end Abacus
