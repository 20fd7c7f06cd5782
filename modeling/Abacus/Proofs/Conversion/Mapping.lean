import Abacus.Proofs.Conversion.Reading
import Abacus.Proofs.Failure.Move
import Abacus.Proofs.Infix.Minus

/-! # Changing tokens before or after a stage

  The expansion of minus signs and the conversion to postfix order see no more of a token than its
  kind, and of an operand no more than that it is one. So a change of tokens that keeps this much may
  be made before these stages or after them (`normalizeFrom_map`, `ofInfix_map`). Besides the tokens
  it changes the positions in the problems that a conversion reports.
-/

namespace Abacus

namespace Infix

variable {g : Token → Token} {α : Type}

/-- The change keeps the kind of each token, but for what sort of operand it is. -/
structure KeepsKinds (g : Token → Token) : Prop where
  /-- Operands, and no others, become operands. -/
  isOperand : ∀ t, (g t).kind.isOperand = t.kind.isOperand
  /-- Any other token keeps its kind. -/
  kind : ∀ t, t.kind.isOperand = false → (g t).kind = t.kind

/-- What is the same for all sorts of operands is the same after the change. -/
theorem KeepsKinds.apply_kind (hg : KeepsKinds g) {f : TokenKind → α}
    (hidentifier : f .identifier = f .number) (hconstant : f .constant = f .number) (t : Token) :
    f (g t).kind = f t.kind := by
  have hoperand : ∀ k : TokenKind, k.isOperand = true → f k = f .number := by
    intro k hk
    cases k with
    | number => rfl
    | identifier => exact hidentifier
    | constant => exact hconstant
    | openBracket | closeBracket | function | operator op | bad | none =>
      simp [TokenKind.isOperand] at hk
  cases h : t.kind.isOperand with
  | false => rw [hg.kind t h]
  | true => rw [hoperand _ h, hoperand _ ((hg.isOperand t).trans h)]

theorem KeepsKinds.isMinus (hg : KeepsKinds g) (t : Token) : isMinus (g t) = isMinus t :=
  hg.apply_kind (f := fun k => decide (k = .operator .subtract)) rfl rfl t

theorem KeepsKinds.endsValue (hg : KeepsKinds g) (t : Token) :
    (g t).kind.endsValue = t.kind.endsValue :=
  hg.apply_kind (f := TokenKind.endsValue) rfl rfl t

/-- Tokens may be changed after the minus signs were expanded, if what is put in is not changed. -/
theorem normalizeFrom_map (hg : KeepsKinds g)
    (hinserted : ∀ (k : TokenKind) (lexeme : String), k ≠ .constant →
      g (.inserted k lexeme) = .inserted k lexeme) (afterValue : Bool) (ts : List Token) :
    normalizeFrom afterValue (ts.map g) = (normalizeFrom afterValue ts).map g := by
  fun_induction normalizeFrom afterValue ts with
  | case1 => rfl
  | case2 => rfl
  | case3 afterValue t x rest h ih =>
    simp only [Bool.and_eq_true, Bool.not_eq_true'] at h
    obtain ⟨⟨hm, rfl⟩, hx⟩ := h
    have hm' : Infix.isMinus (g t) = true := by rw [hg.isMinus, hm]
    have hx' : (g x).kind.isOperand = true := by rw [hg.isOperand, hx]
    rw [List.map_cons, List.map_cons, normalizeFrom_minus hm' hx', ih]
    simp [negated, hinserted]
  | case4 afterValue t x rest h ih =>
    rw [List.map_cons] at ih
    simp only [List.map_cons, normalizeFrom, hg.isMinus, hg.isOperand, hg.endsValue, h, ih]
    simp

end Infix

namespace Postfix

open Infix

variable {g : Token → Token} {f : Nat → Nat} {s : Conversion}

namespace Conversion

/-- The conversion with all its tokens changed, and the positions in its problems. -/
def map (g : Token → Token) (f : Nat → Nat) (s : Conversion) : Conversion :=
  { s with
    output := s.output.map g
    pending := s.pending.map g
    problems := s.problems.map (SyntaxError.mapPosition f) }

theorem isOpen_map (hg : KeepsKinds g) (t : Token) : isOpen (g t) = isOpen t :=
  hg.apply_kind (f := fun k => decide (k = .openBracket)) rfl rfl t

theorem bindsBefore_map (hg : KeepsKinds g) (op : Operator) (t : Token) :
    bindsBefore op (g t) = bindsBefore op t :=
  hg.apply_kind (f := fun k => decide (op.precedence ≤ k.precedence)) rfl rfl t

theorem yieldsToFunction_map (hg : KeepsKinds g) (t : Token) :
    yieldsToFunction (g t) = yieldsToFunction t :=
  hg.apply_kind (f := fun k => k ≠ .function && TokenKind.functionPrecedence ≤ k.precedence)
    rfl rfl t

theorem release_map (s : Conversion) {p : Token → Bool} (hp : ∀ t, p (g t) = p t) :
    (s.map g f).release p = (s.release p).map g f := by
  have hcomp : p ∘ g = p := funext hp
  simp [release, map, List.takeWhile_map, List.dropWhile_map, hcomp]

theorem closeBracket_map (hg : KeepsKinds g) (s : Conversion) :
    (s.map g f).closeBracket = s.closeBracket.map g f := by
  have hrelease := release_map (f := f) s (p := (!isOpen ·)) (fun t => by rw [isOpen_map hg])
  unfold closeBracket
  rw [hrelease]
  cases hp : (s.release (!isOpen ·)).pending with
  | nil => simp [map, hp, note, SyntaxError.mapPosition]
  | cons t rest => simp [map, hp]

/-- A step on a changed token puts out, and lets wait, the changed tokens. -/
theorem step_map (hg : KeepsKinds g)
    (hf : ∀ t : Token, t.kind.isOperand = false → (g t).position = f t.position)
    (s : Conversion) (t : Token) : (s.map g f).step (g t) = (s.step t).map g f := by
  -- An operand is put out whatever it is; any other token is still of its kind.
  cases hop : t.kind.isOperand with
  | true =>
    have hop' : (g t).kind.isOperand = true := by rw [hg.isOperand, hop]
    rw [step_operand _ hop, step_operand _ hop']
    simp [extend, map]
  | false =>
    have hkind := hg.kind t hop
    unfold step
    rw [hkind]
    cases hk : t.kind with
    | number | identifier | constant => simp [hk, TokenKind.isOperand] at hop
    | openBracket => simp [openBracket, push, map]
    | closeBracket => exact closeBracket_map hg s
    | function =>
      simp only [release_map s (yieldsToFunction_map hg)]
      simp [push, map]
    | operator op =>
      simp only [release_map s (bindsBefore_map hg op)]
      simp [push, map]
    | bad | none => simp [note, map, SyntaxError.mapPosition, hf t hop]

theorem read_map (hg : KeepsKinds g)
    (hf : ∀ t : Token, t.kind.isOperand = false → (g t).position = f t.position)
    (s : Conversion) (ts : List Token) : (s.map g f).read (ts.map g) = (s.read ts).map g f := by
  induction ts generalizing s with
  | nil => rfl
  | cons t ts ih => rw [List.map_cons, read_cons, step_map hg hf, ih, read_cons]

theorem finish_map (s : Conversion) : (s.map g f).finish = s.finish.map g f := by
  unfold finish
  rw [release_map (p := fun _ => true) s (fun _ => rfl)]
  by_cases hopen : 0 < s.openBrackets
  · simp [release, map, hopen, note, SyntaxError.mapPosition]
  · simp [release, map, hopen]

theorem result_map (s : Conversion) :
    (s.map g f).result =
      (s.result.map (List.map g)).mapError (Failures.map (SyntaxError.mapPosition f)) := by
  unfold result map
  rw [← List.map_reverse, Failures.ofList?_map]
  cases Failures.ofList? s.problems.reverse with
  | some problems => rfl
  | none => simp [Except.map, Except.mapError]

end Conversion

/-- Tokens may be changed after the conversion, and with them the positions in its problems. -/
theorem ofInfix_map (hg : KeepsKinds g)
    (hf : ∀ t : Token, t.kind.isOperand = false → (g t).position = f t.position)
    (ts : List Token) :
    ofInfix (ts.map g) =
      ((ofInfix ts).map (List.map g)).mapError (Failures.map (SyntaxError.mapPosition f)) := by
  have hread := Conversion.read_map hg hf .start ts
  calc ofInfix (ts.map g)
      = (Conversion.start.read (ts.map g)).finish.result := rfl
    _ = ((Conversion.start.read ts).map g f).finish.result := by
        rw [← hread]
        rfl
    _ = ((ofInfix ts).map (List.map g)).mapError (Failures.map (SyntaxError.mapPosition f)) := by
        rw [Conversion.finish_map, Conversion.result_map]
        rfl

end Postfix

end Abacus
