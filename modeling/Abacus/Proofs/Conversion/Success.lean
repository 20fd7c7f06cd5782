import Abacus.Proofs.Conversion.Brackets

/-! # When a conversion succeeds

  A conversion succeeds exactly if every token has a place in an expression and the brackets balance
  (`exists_ofInfix_iff`). `Brackets` shows that success needs this. Here the converse is shown: as long
  as the depth of the tokens is defined, a bracket that is closed finds its opening one waiting, so no
  problem is noted.

  The depth is also given by two counts, so balance can be read off the prefixes of a sequence
  (`balanced_iff_prefixes`).
-/

namespace Abacus

namespace Infix

variable {t : Token} {ts : List Token} {n m : Nat}

/-! ### Counting brackets -/

/-- The number of opening brackets. -/
def opened (ts : List Token) : Nat :=
  ts.countP (·.kind = .openBracket)

/-- The number of closing brackets. -/
def closed (ts : List Token) : Nat :=
  ts.countP (·.kind = .closeBracket)

theorem opened_cons (t : Token) (ts : List Token) : opened (t :: ts) = opened [t] + opened ts := by
  show ([t] ++ ts).countP _ = _
  exact List.countP_append

theorem closed_cons (t : Token) (ts : List Token) : closed (t :: ts) = closed [t] + closed ts := by
  show ([t] ++ ts).countP _ = _
  exact List.countP_append

/-- A token opens or closes a bracket, if there is one to close. -/
theorem depthStep_eq_some_iff :
    depthStep n t = some m ↔ closed [t] ≤ n + opened [t] ∧ n + opened [t] = m + closed [t] := by
  unfold depthStep opened closed
  cases hk : t.kind with
  | openBracket => simp [hk]
  | closeBracket =>
    cases n with
    | zero => simp [hk]
    | succ n => simp [hk]
  | bad | none | identifier | constant | number | operator op | function => simp [hk]

/-- What is said of the prefixes of a sequence is said of the empty one, and of those that begin with
    the first token. -/
theorem forall_prefix_cons {p : List Token → Prop} :
    (∀ front, front <+: t :: ts → p front) ↔ p [] ∧ ∀ front, front <+: ts → p (t :: front) := by
  constructor
  · intro h
    refine ⟨h [] List.nil_prefix, ?_⟩
    intro front hfront
    exact h (t :: front) (List.prefix_cons_iff.mpr (.inr ⟨front, rfl, hfront⟩))
  · rintro ⟨hnil, hcons⟩ front hfront
    rcases List.prefix_cons_iff.mp hfront with rfl | ⟨rest, rfl, hrest⟩
    · exact hnil
    · exact hcons rest hrest

/-- The depth is defined if no prefix closes more brackets than are open, and is then what the counts
    of brackets make of it. -/
theorem depth_eq_some_iff :
    depth n ts = some m ↔
      (∀ front, front <+: ts → closed front ≤ n + opened front) ∧
        n + opened ts = m + closed ts := by
  induction ts generalizing n with
  | nil => simp [opened, closed, List.prefix_nil]
  | cons t ts ih =>
    rw [depth_cons, Option.bind_eq_some_iff, forall_prefix_cons]
    simp only [depthStep_eq_some_iff, ih]
    constructor
    · rintro ⟨k, ⟨hle, hk⟩, hfront, hcount⟩
      refine ⟨⟨Nat.zero_le _, ?_⟩, ?_⟩
      · intro front hf
        have := hfront front hf
        rw [opened_cons, closed_cons]
        omega
      · rw [opened_cons, closed_cons]
        omega
    · rintro ⟨⟨-, hfront⟩, hcount⟩
      -- The first token by itself is a prefix, so there is a number of brackets after it.
      have hle : closed [t] ≤ n + opened [t] := hfront [] List.nil_prefix
      rw [opened_cons, closed_cons] at hcount
      refine ⟨n + opened [t] - closed [t], ⟨hle, by omega⟩, ?_, by omega⟩
      intro front hf
      have hwhole := hfront front hf
      rw [opened_cons, closed_cons] at hwhole
      omega

/-- Brackets balance if no prefix closes more of them than it opens, and as many are closed as are
    opened. -/
theorem balanced_iff_prefixes :
    Balanced ts ↔
      (∀ front, front <+: ts → closed front ≤ opened front) ∧ opened ts = closed ts := by
  unfold Balanced
  rw [depth_eq_some_iff]
  simp only [Nat.zero_add]

end Infix

namespace Postfix

open Infix

/-! ### Reading balanced brackets -/

namespace Conversion

variable {s : Conversion} {t : Token} {ts : List Token} {n m : Nat}

/-- A token that has a place in an expression is read without a problem if the depth after it is
    defined. -/
theorem Clean.problems_step (hc : s.Clean n) (hbad : t.kind ≠ .bad) (hnone : t.kind ≠ .none)
    (hdepth : depthStep n t = some m) : (s.step t).problems = [] := by
  cases hk : t.kind with
  | number | identifier | constant =>
    rw [step_operand s (by simp [hk, TokenKind.isOperand])]
    exact hc.problems
  | openBracket =>
    rw [step_openBracket s hk]
    exact hc.problems
  | function =>
    rw [step_function s hk]
    exact hc.problems
  | operator op =>
    rw [step_operator s hk]
    exact hc.problems
  | closeBracket =>
    have hn : n ≠ 0 := by
      rintro rfl
      rw [depthStep_closeBracket 0 hk] at hdepth
      cases hdepth
    -- As many opening brackets wait as are open, so the release stops at one.
    have hcount := countP_isOpen_release (s := s) (p := (!isOpen ·)) (by simp)
    rw [hc.waiting] at hcount
    rw [step_closeBracket s hk]
    unfold closeBracket
    cases hp : (s.release (!isOpen ·)).pending with
    | nil =>
      rw [hp] at hcount
      exact absurd hcount.symm hn
    | cons o rest =>
      simp only [hp]
      exact hc.problems
  | bad => exact absurd hk hbad
  | none => exact absurd hk hnone

/-- So a sequence of such tokens is read without a problem if the depth after it is defined. -/
theorem Clean.read_of_depth (hc : s.Clean n) (hts : ∀ t ∈ ts, t.kind ≠ .bad ∧ t.kind ≠ .none)
    (hdepth : depth n ts = some m) : (s.read ts).Clean m := by
  induction ts generalizing s n with
  | nil =>
    cases hdepth
    exact hc
  | cons t ts ih =>
    obtain ⟨⟨hbad, hnone⟩, hts⟩ := List.forall_mem_cons.mp hts
    rw [depth_cons] at hdepth
    obtain ⟨k, hk, hrest⟩ := Option.bind_eq_some_iff.mp hdepth
    obtain ⟨-, -, k', hk', hclean⟩ := hc.step (hc.problems_step hbad hnone hk)
    rw [hk] at hk'
    cases hk'
    exact ih hclean hts hrest

/-- Only tokens that have a place in an expression are read without a problem. -/
theorem forall_kind_of_problems_read (h : (s.read ts).problems = []) :
    ∀ t ∈ ts, t.kind ≠ .bad ∧ t.kind ≠ .none := by
  induction ts generalizing s with
  | nil => simp
  | cons t ts ih =>
    refine List.forall_mem_cons.mpr ⟨?_, ih h⟩
    have hstep : (s.step t).problems = [] := problems_of_read h
    constructor
    · intro hk
      simp [step, hk, note] at hstep
    · intro hk
      simp [step, hk, note] at hstep

end Conversion

variable {ts : List Token}

/-- **Success.** A sequence is converted exactly if each of its tokens has a place in an expression
    and its brackets balance. -/
theorem exists_ofInfix_iff :
    (∃ ps, ofInfix ts = .ok ps) ↔
      (∀ t ∈ ts, t.kind ≠ .bad ∧ t.kind ≠ .none) ∧ Balanced ts := by
  constructor
  · rintro ⟨ps, hps⟩
    obtain ⟨hproblems, -, -⟩ := Conversion.ofInfix_eq_ok_iff.mp hps
    exact ⟨Conversion.forall_kind_of_problems_read hproblems, balanced_of_ofInfix hps⟩
  · rintro ⟨hts, hbalanced⟩
    have hclean := Conversion.clean_start.read_of_depth hts hbalanced
    refine ⟨_, Conversion.ofInfix_eq_ok_iff.mpr ⟨hclean.problems, ?_, rfl⟩⟩
    rw [hclean.counter]
    exact Int.le_refl _

end Postfix

end Abacus
