import Abacus.Expression
import Abacus.Proofs.Grammar.Natural
import Abacus.Proofs.Infix.Minus
import Abacus.Proofs.Infix.Substitution

/-! # The layered grammar of infix expressions

      expression ::= chain | expression + term | expression - term
      chain      ::= function chain | term
      term       ::= power | term * power | term / power
      power      ::= primary | power ^ primary
      primary    ::= number | constant | - number | - constant | ( expression )

  A `Derivation` is a derivation in this grammar, with the tokens at its leaves. Its `meaning` is an
  expression tree and settles all that the grammar leaves open:

  - operators associate to the left, `^` included;
  - a chain of functions takes the whole term that follows it;
  - a minus in front of a leaf subtracts it from zero, and a constant is the number in the table;
  - brackets leave no trace.
-/

namespace Abacus.Infix

/-! ### Layers -/

/-- The categories of the grammar, the loosest first. -/
inductive Layer where
  /-- Sums and differences. -/
  | expression
  /-- Functions in front of a term. -/
  | chain
  /-- Products and quotients. -/
  | term
  /-- Powers. -/
  | power
  /-- Leaves and groups. -/
  | primary
deriving DecidableEq

/-- A layer, and the looser one that may consist of just one phrase of it. -/
inductive Layer.Within : Layer → Layer → Prop where
  /-- A primary is a power. -/
  | primary : Within .primary .power
  /-- A power is a term. -/
  | power : Within .power .term
  /-- A term is a chain without functions. -/
  | term : Within .term .chain
  /-- A chain is an expression. -/
  | chain : Within .chain .expression

end Abacus.Infix

namespace Abacus.Operator

open Infix

/-- The layer of the phrases that the operator makes, which is also that of its left operand. -/
def layer : Operator → Layer
  | .add | .subtract => .expression
  | .multiply | .divide => .term
  | .exponent => .power

/-- The layer of the operator's right operand. -/
def rightLayer : Operator → Layer
  | .add | .subtract => .term
  | .multiply | .divide => .power
  | .exponent => .primary

end Abacus.Operator

namespace Abacus.Infix

/-! ### Derivations -/

/-- An operand that is a single token. -/
inductive Leaf where
  /-- A number. -/
  | number (t : TokenOf .number)
  /-- A constant. -/
  | constant (t : TokenOf .constant)

namespace Leaf

/-- The token as it stands in the text. -/
def token : Leaf → Token
  | number t => t
  | constant t => t

/-- The number token that the leaf stands for. -/
def numeral (constants : ConstantTable) : Leaf → Token
  | number t => t
  | constant t => t.1.toNumber ((constants.lexeme? t.1.lexeme).getD t.1.lexeme)

end Leaf

/-- A derivation in the layered grammar. -/
inductive Derivation : Layer → Type where
  /-- A number or a constant. -/
  | leaf (x : Leaf) : Derivation .primary
  /-- A minus in front of a number or a constant. -/
  | negated (m : TokenOf (.operator .subtract)) (x : Leaf) : Derivation .primary
  /-- An expression in brackets. -/
  | group (o : TokenOf .openBracket) (x : Derivation .expression)
      (c : TokenOf .closeBracket) : Derivation .primary
  /-- An operator between its operands. -/
  | binary {op : Operator} (x : Derivation op.layer) (t : TokenOf (.operator op))
      (y : Derivation op.rightLayer) : Derivation op.layer
  /-- A function in front of a chain. -/
  | call (f : TokenOf .function) (x : Derivation .chain) : Derivation .chain
  /-- A phrase of a tighter layer. -/
  | lift {inner outer : Layer} (h : inner.Within outer) (x : Derivation inner) : Derivation outer

/-- The zero from which a negated leaf is subtracted. -/
def zero : Token :=
  .inserted .number "0"

namespace Derivation

variable {l : Layer}

/-- The tokens of a phrase, in order. -/
def yield : {l : Layer} → Derivation l → List Token
  | _, leaf x => [x.token]
  | _, negated m x => [↑m, x.token]
  | _, group o x c => ↑o :: (x.yield ++ [↑c])
  | _, binary x t y => x.yield ++ ↑t :: y.yield
  | _, call f x => ↑f :: x.yield
  | _, lift _ x => x.yield

/-- The tree that a phrase stands for. -/
def meaning (constants : ConstantTable) : {l : Layer} → Derivation l → Expression
  | _, leaf x => .number (x.numeral constants)
  | _, negated m x => .binary .subtract m (.number zero) (.number (x.numeral constants))
  | _, group _ x _ => x.meaning constants
  | _, @binary op x t y => .binary op t (x.meaning constants) (y.meaning constants)
  | _, call f x => .call f (x.meaning constants)
  | _, lift _ x => x.meaning constants

/-- The tokens of a phrase as the conversion reads them, with numbers for constants and with
    negated leaves written out. -/
def prepared (constants : ConstantTable) : {l : Layer} → Derivation l → List Token
  | _, leaf x => [x.numeral constants]
  | _, negated m x => Infix.negated m (x.numeral constants)
  | _, group o x c => ↑o :: (x.prepared constants ++ [↑c])
  | _, binary x t y => x.prepared constants ++ ↑t :: y.prepared constants
  | _, call f x => ↑f :: x.prepared constants
  | _, lift _ x => x.prepared constants

end Derivation

/-! ### Kinds of tokens -/

theorem Leaf.kind_numeral (constants : ConstantTable) (x : Leaf) :
    (x.numeral constants).kind = .number := by
  cases x with
  | number t => exact t.2
  | constant t => rfl

theorem Leaf.kind_token (x : Leaf) : x.token.kind = .number ∨ x.token.kind = .constant := by
  cases x with
  | number t => exact .inl t.2
  | constant t => exact .inr t.2

theorem Leaf.isOperand_token (x : Leaf) : x.token.kind.isOperand = true := by
  rcases x.kind_token with h | h
  · rw [h]
    rfl
  · rw [h]
    rfl

namespace Derivation

variable {l : Layer} (constants : ConstantTable)

/-- What a phrase stands for is a well-formed tree. -/
theorem wellKinded_meaning (d : Derivation l) : (d.meaning constants).WellKinded := by
  induction d with
  | leaf x => exact x.kind_numeral constants
  | negated m x => exact ⟨m.2, rfl, x.kind_numeral constants⟩
  | group _ x _ ih => exact ih
  | binary x t y ihx ihy => exact ⟨t.2, ihx, ihy⟩
  | call f x ih => exact ⟨f.2, ih⟩
  | lift _ x ih => exact ih

/-- A phrase has no bad token. -/
theorem ne_bad_of_mem_yield (d : Derivation l) : ∀ t ∈ d.yield, t.kind ≠ .bad := by
  have hleaf : ∀ x : Leaf, x.token.kind ≠ .bad := by
    intro x hbad
    have hx := x.isOperand_token
    rw [hbad] at hx
    cases hx
  induction d with
  | leaf x => simp [yield, hleaf]
  | negated m x => simp [yield, hleaf, m.2]
  | group o x c ih =>
    intro t ht
    rw [yield, List.mem_cons, List.mem_append, List.mem_singleton] at ht
    rcases ht with rfl | ht | rfl
    · simp [o.2]
    · exact ih t ht
    · simp [c.2]
  | binary x t y ihx ihy =>
    intro u hu
    rw [yield, List.mem_append, List.mem_cons] at hu
    rcases hu with hu | rfl | hu
    · exact ihx u hu
    · simp [t.2]
    · exact ihy u hu
  | call f x ih =>
    intro t ht
    rw [yield, List.mem_cons] at ht
    rcases ht with rfl | ht
    · simp [f.2]
    · exact ih t ht
  | lift _ x ih => exact ih

end Derivation

/-! ### Constants and minus signs -/

/-- A substitution puts the number of a leaf in its place, if the table knows the leaf. -/
theorem Leaf.substitute_token {constants : ConstantTable} (x : Leaf)
    (h : x.token.kind = .constant → constants.contains x.token.lexeme = true) :
    substitute constants x.token = x.numeral constants := by
  cases x with
  | number t =>
    have ht : t.1.kind ≠ .constant := by simp [t.2]
    exact substitute_of_ne_constant constants ht
  | constant t =>
    obtain ⟨v, hv⟩ := Option.isSome_iff_exists.mp (h t.2)
    have hv : constants.find? t.1.lexeme = some v := hv
    show substitute constants t.1 = _
    rw [substitute_of_find? constants t.2 hv]
    simp [numeral, ConstantTable.lexeme?, hv]

/-- Where a value is missing, the preparation of a phrase leads to where one ends. -/
theorem Derivation.normalizeFrom_yield {l : Layer} {constants : ConstantTable} (d : Derivation l)
    (h : ∀ t ∈ d.yield, t.kind = .constant → constants.contains t.lexeme = true)
    (rest : List Token) :
    normalizeFrom false (substituteConstants constants d.yield ++ rest) =
      d.prepared constants ++ normalizeFrom true rest := by
  have hother : ∀ {k : TokenKind} (t : TokenOf k), k ≠ .constant →
      substitute constants t = t := by
    intro k t hk
    apply substitute_of_ne_constant
    rw [t.2]
    exact hk
  induction d generalizing rest with
  | leaf x =>
    have hx := x.substitute_token (h x.token (List.mem_singleton.mpr rfl))
    have hk := x.kind_numeral constants
    have hm := isMinus_eq_false (t := x.numeral constants) (by simp [hk])
    show normalizeFrom false (substitute constants x.token :: rest) = _
    rw [hx, normalizeFrom_cons (by simp [hm]), hk]
    rfl
  | negated m x =>
    have hx := x.substitute_token (h x.token (by simp [yield]))
    have hk := x.kind_numeral constants
    show normalizeFrom false
      (substitute constants m :: substitute constants x.token :: rest) = _
    rw [hother m (by simp), hx, normalizeFrom_minus (isMinus_iff.mpr m.2) (by rw [hk]; rfl)]
    rfl
  | group o x c ih =>
    have ho := isMinus_eq_false (t := ↑o) (by simp [o.2])
    have hc := isMinus_eq_false (t := ↑c) (by simp [c.2])
    have ih := ih (fun t ht => h t (by simp [yield, ht])) (↑c :: rest)
    have hyield : substituteConstants constants (group o x c).yield ++ rest =
        ↑o :: (substituteConstants constants x.yield ++ ↑c :: rest) := by
      simp [yield, substituteConstants, hother]
    -- No value ends with an opening bracket, and one ends with a closing bracket.
    rw [hyield, normalizeFrom_cons (by simp [ho]), o.2]
    show ↑o :: normalizeFrom false _ = _
    rw [ih, normalizeFrom_cons (by simp [hc]), c.2]
    simp [prepared, TokenKind.endsValue]
  | @binary op x t y ihx ihy =>
    have ihx := ihx (fun u hu => h u (by simp [yield, hu]))
      (↑t :: (substituteConstants constants y.yield ++ rest))
    have ihy := ihy (fun u hu => h u (by simp [yield, hu])) rest
    have hyield : substituteConstants constants (binary x t y).yield ++ rest =
        substituteConstants constants x.yield ++
          ↑t :: (substituteConstants constants y.yield ++ rest) := by
      simp [yield, substituteConstants, hother]
    -- A minus between operands has its left operand just before it.
    rw [hyield, ihx, normalizeFrom_cons (fun _ => rfl), t.2]
    show _ ++ ↑t :: normalizeFrom false _ = _
    rw [ihy]
    simp [prepared]
  | call f x ih =>
    have hf := isMinus_eq_false (t := ↑f) (by simp [f.2])
    have ih := ih (fun t ht => h t (by simp [yield, ht])) rest
    have hyield : substituteConstants constants (call f x).yield ++ rest =
        ↑f :: (substituteConstants constants x.yield ++ rest) := by
      simp [yield, substituteConstants, hother]
    rw [hyield, normalizeFrom_cons (by simp [hf]), f.2]
    show ↑f :: normalizeFrom false _ = _
    rw [ih]
    rfl
  | lift _ x ih => exact ih h rest

end Abacus.Infix
