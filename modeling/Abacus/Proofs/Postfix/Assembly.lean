import Abacus.Expression
import Abacus.Proofs.Postfix.Height
import Mathlib.Data.List.Forall2

/-! # Postfix sequences are the postorders of trees

  The stack machine has a value for a sequence exactly if the sequence is the postorder of an
  expression tree that has this value. The argument replaces the values on the stack by trees:

  - `assemble` reads a sequence like the machine, but builds a tree where the machine computes;
  - a run that succeeds is shadowed by an assembly whose trees have the values on the stack;
  - an assembly loses no token, so the tree that is left at the end has the sequence as postorder;
  - assembling the postorder of a tree gives back the tree, so there is only one.
-/

namespace Abacus.Expression

open Postfix

variable {functions : FunctionTable} {ts : List Token}

/-! ### Assembling trees -/

/-- Reads a token on a stack of trees, in place of their values. -/
def assembleStep (trees : List Expression) (t : Token) : Option (List Expression) :=
  match t.kind with
  | .number => some (number t :: trees)
  | .function =>
    match trees with
    | x :: rest => some (call t x :: rest)
    | [] => none
  | .operator op =>
    match trees with
    | y :: x :: rest => some (binary op t x y :: rest)
    | [_] | [] => none
  | .identifier | .constant | .openBracket | .closeBracket | .bad | .none => none

/-- Reads a sequence on a stack of trees. -/
def assemble (trees : List Expression) (ts : List Token) : Option (List Expression) :=
  ts.foldlM assembleStep trees

theorem assemble_cons (trees : List Expression) (t : Token) (ts : List Token) :
    assemble trees (t :: ts) = (assembleStep trees t).bind (assemble · ts) := rfl

theorem assemble_append (trees : List Expression) (ts us : List Token) :
    assemble trees (ts ++ us) = (assemble trees ts).bind (assemble · us) :=
  List.foldlM_append

/-- The postorder of a tree is assembled into this tree, on any stack. -/
theorem assemble_postorder {e : Expression} (h : e.WellKinded) (trees : List Expression) :
    assemble trees e.postorder = some (e :: trees) := by
  induction e generalizing trees with
  | number t =>
    have hk : t.kind = .number := h
    simp [postorder, assemble, assembleStep, hk]
  | call f x ih =>
    obtain ⟨hf, hx⟩ := h
    rw [postorder, assemble_append, ih hx]
    simp [assemble, assembleStep, hf]
  | binary op t x y ihx ihy =>
    obtain ⟨ht, hx, hy⟩ := h
    rw [postorder, assemble_append, assemble_append, ihx hx, Option.bind_some, ihy hy]
    simp [assemble, assembleStep, ht]

/-- A tree is determined by its postorder. -/
theorem eq_of_postorder_eq {e e' : Expression} (h : e.WellKinded) (h' : e'.WellKinded)
    (heq : e.postorder = e'.postorder) : e = e' := by
  -- Both trees are what the one postorder is assembled into.
  have hs := assemble_postorder h []
  rw [heq, assemble_postorder h' []] at hs
  exact (List.cons.inj (Option.some.inj hs)).1.symm

/-! ### An assembly loses nothing -/

/-- The tokens of a stack of trees, the deepest tree first. -/
def contents (trees : List Expression) : List Token :=
  trees.reverse.flatMap postorder

theorem contents_cons (e : Expression) (trees : List Expression) :
    contents (e :: trees) = contents trees ++ e.postorder := by
  simp [contents]

theorem contents_assembleStep {trees trees' : List Expression} {t : Token}
    (h : assembleStep trees t = some trees') :
    contents trees' = contents trees ++ [t] := by
  unfold assembleStep at h
  split at h
  · cases h
    rw [contents_cons, postorder]
  · split at h
    · cases h
      simp only [contents_cons, postorder, List.append_assoc]
    · cases h
  · split at h
    · cases h
      simp only [contents_cons, postorder, List.append_assoc]
    · cases h
    · cases h
  all_goals cases h

theorem contents_assemble {trees trees' : List Expression}
    (h : assemble trees ts = some trees') : contents trees' = contents trees ++ ts := by
  induction ts generalizing trees with
  | nil =>
    cases h
    rw [List.append_nil]
  | cons t ts ih =>
    rw [assemble_cons] at h
    obtain ⟨mid, hmid, hrest⟩ := Option.bind_eq_some_iff.mp h
    rw [ih hrest, contents_assembleStep hmid, List.append_assoc, List.singleton_append]

theorem wellKinded_assembleStep {trees trees' : List Expression} {t : Token}
    (hw : ∀ e ∈ trees, e.WellKinded) (h : assembleStep trees t = some trees') :
    ∀ e ∈ trees', e.WellKinded := by
  unfold assembleStep at h
  split at h
  next hk =>
    cases h
    exact List.forall_mem_cons.mpr ⟨hk, hw⟩
  next hk =>
    split at h
    next x rest =>
      cases h
      obtain ⟨hx, hrest⟩ := List.forall_mem_cons.mp hw
      exact List.forall_mem_cons.mpr ⟨⟨hk, hx⟩, hrest⟩
    next => cases h
  next op hk =>
    split at h
    next y x rest =>
      cases h
      obtain ⟨hy, hw⟩ := List.forall_mem_cons.mp hw
      obtain ⟨hx, hrest⟩ := List.forall_mem_cons.mp hw
      exact List.forall_mem_cons.mpr ⟨⟨hk, hx, hy⟩, hrest⟩
    next => cases h
    next => cases h
  all_goals cases h

theorem wellKinded_assemble {trees trees' : List Expression}
    (hw : ∀ e ∈ trees, e.WellKinded) (h : assemble trees ts = some trees') :
    ∀ e ∈ trees', e.WellKinded := by
  induction ts generalizing trees with
  | nil =>
    cases h
    exact hw
  | cons t ts ih =>
    rw [assemble_cons] at h
    obtain ⟨mid, hmid, hrest⟩ := Option.bind_eq_some_iff.mp h
    exact ih (wellKinded_assembleStep hw hmid) hrest

/-! ### Runs and assemblies -/

/-- The trees have the values on the stack, each the one in its place. -/
def Denote (functions : FunctionTable) (trees : List Expression) (stack : Stack) : Prop :=
  List.Forall₂ (fun e v => e.value functions = .ok v) trees stack

/-- A step of the machine is shadowed by a step of the assembly. -/
theorem exists_assembleStep {trees : List Expression} {stack stack' : Stack} {t : Token}
    (hd : Denote functions trees stack) (h : Postfix.step functions stack t = .ok stack') :
    ∃ trees', assembleStep trees t = some trees' ∧ Denote functions trees' stack' := by
  rcases step_eq_ok_iff.mp h with ⟨hk, v, hv, rfl⟩ | ⟨hk, x, rest, v, rfl, hv, rfl⟩ |
    ⟨op, x, y, rest, v, hk, rfl, hv, rfl⟩
  · exact ⟨number t :: trees, by simp [assembleStep, hk], .cons hv hd⟩
  · cases hd with
    | @cons e _ es _ he hd =>
      refine ⟨call t e :: es, by simp [assembleStep, hk], .cons ?_ hd⟩
      simp [value, he, bind, Except.bind, hv]
  · cases hd with
    | @cons e₂ _ _ _ he₂ hd =>
      cases hd with
      | @cons e₁ _ es _ he₁ hd =>
        refine ⟨binary op t e₁ e₂ :: es, by simp [assembleStep, hk], .cons ?_ hd⟩
        simp [value, he₁, he₂, bind, Except.bind, hv]

/-- A run of the machine is shadowed by an assembly. -/
theorem exists_assemble {trees : List Expression} {stack stack' : Stack}
    (hd : Denote functions trees stack) (h : Postfix.run functions stack ts = .ok stack') :
    ∃ trees', assemble trees ts = some trees' ∧ Denote functions trees' stack' := by
  induction ts generalizing trees stack with
  | nil =>
    rw [run_nil] at h
    cases h
    exact ⟨trees, rfl, hd⟩
  | cons t ts ih =>
    obtain ⟨s, hs, hrest⟩ := run_cons_eq_ok_iff.mp h
    obtain ⟨mid, hmid, hd'⟩ := exists_assembleStep hd hs
    obtain ⟨trees', hrun, hd''⟩ := ih hd' hrest
    exact ⟨trees', by rw [assemble_cons, hmid, Option.bind_some, hrun], hd''⟩

/-- A sequence with a value is the postorder of a tree with this value. -/
theorem exists_tree_of_evaluate {v : Decimal} (h : Postfix.evaluate functions ts = .ok v) :
    ∃ e : Expression, e.WellKinded ∧ e.postorder = ts ∧ e.value functions = .ok v := by
  obtain ⟨trees, hrun, hd⟩ := exists_assemble List.Forall₂.nil (evaluate_eq_ok_iff.mp h)
  -- One value is left, and so one tree, which holds all tokens.
  cases hd with
  | @cons e _ es _ he hd =>
    cases hd
    refine ⟨e, ?_, ?_, he⟩
    · exact wellKinded_assemble (by simp) hrun e (List.mem_singleton.mpr rfl)
    · have hc := contents_assemble hrun
      simpa [contents] using hc

/-- The postorder of a tree has a value exactly if the tree has it. -/
theorem evaluate_postorder_eq_ok_iff {e : Expression} (h : e.WellKinded) {v : Decimal} :
    Postfix.evaluate functions e.postorder = .ok v ↔ e.value functions = .ok v := by
  constructor
  · intro hv
    -- Some tree has the value; it is this one, as their postorders agree.
    obtain ⟨e', hw, heq, hv'⟩ := exists_tree_of_evaluate hv
    rw [← eq_of_postorder_eq hw h heq]
    exact hv'
  · exact evaluate_postorder h

/-- A tree has one number more than it has operators. -/
theorem countP_number_postorder {e : Expression} (h : e.WellKinded) :
    e.postorder.countP (·.kind = .number) = e.postorder.countP (·.kind.isOperator) + 1 := by
  induction e with
  | number t =>
    have hk : t.kind = .number := h
    simp [postorder, hk]
  | call f x ih =>
    obtain ⟨hf, hx⟩ := h
    simpa [postorder, hf] using ih hx
  | binary op t x y ihx ihy =>
    obtain ⟨ht, hx, hy⟩ := h
    have hx := ihx hx
    have hy := ihy hy
    simp only [postorder, List.countP_append, List.countP_singleton, ht,
      TokenKind.isOperator_operator, reduceCtorEq, decide_false, Bool.false_eq_true, if_false,
      if_true]
    omega

/-! ### The language of the stack machine -/

/-- **Acceptance.** The machine has the value `v` for a sequence exactly if the sequence is the
    postorder of a tree, of which there is at most one, and the tree has the value `v`. So a
    sequence with a value has one number more than it has operators. -/
theorem evaluate_eq_ok_iff_exists_tree (functions : FunctionTable) (ts : List Token) :
    (∀ v, Postfix.evaluate functions ts = .ok v ↔
      ∃ e : Expression, e.WellKinded ∧ e.postorder = ts ∧ e.value functions = .ok v) ∧
    (∀ e e' : Expression, e.WellKinded → e'.WellKinded →
      e.postorder = ts → e'.postorder = ts → e = e') ∧
    (∀ v, Postfix.evaluate functions ts = .ok v →
      ts.countP (·.kind = .number) = ts.countP (·.kind.isOperator) + 1) := by
  refine ⟨?_, ?_, ?_⟩
  · intro v
    constructor
    · exact exists_tree_of_evaluate
    · rintro ⟨e, hw, rfl, hv⟩
      exact evaluate_postorder hw hv
  · intro e e' hw hw' he he'
    exact eq_of_postorder_eq hw hw' (he.trans he'.symm)
  · intro v hv
    obtain ⟨e, hw, rfl, -⟩ := exists_tree_of_evaluate hv
    exact countP_number_postorder hw

end Abacus.Expression
