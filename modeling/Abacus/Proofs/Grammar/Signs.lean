import Abacus.Proofs.Conversion.Acceptance

/-! # Minus signs in front of operands

  In a sentence a minus is either an operator between two operands or a sign in front of one, and the
  derivation tells which. The expansion does not derive the sentence; it looks at the token before a
  minus and at the one after it. This is enough:

  - it expands the signs in front of a number or a constant, and no other minus (`normalizeFrom_yield`);
  - each sign that it leaves alone counts as an operator for which an operand is missing
    (`countP_expanded`), so a sentence with such a sign has no value.
-/

namespace Abacus.Infix

variable {k : Category}

/-! ### Signs of a phrase -/

/-- The token of an operand that is a single number or constant. -/
def Phrase.leaf? {signed : Bool} : Phrase signed .operand → Option Token
  | .number t => some t
  | .constant t => some t
  | .group _ _ _ | .call _ _ | .negate _ _ _ => none

/-- The tokens of a phrase, with each sign expanded that stands in front of a number or a constant. -/
def Phrase.expanded {signed : Bool} : {k : Category} → Phrase signed k → List Token
  | _, .number t => [t]
  | _, .constant t => [t]
  | _, .group o x c => ↑o :: (x.expanded ++ [↑c])
  | _, .call f x => ↑f :: x.expanded
  | _, .negate _ m x =>
    match x.leaf? with
    | some t => negated m t
    | none => ↑m :: x.expanded
  | _, .single x => x.expanded
  | _, .binary x t y => x.expanded ++ ↑t :: y.expanded

/-- The number of signs that stand in front of a bracket, a function or another sign. -/
def Phrase.bareSigns {signed : Bool} : {k : Category} → Phrase signed k → Nat
  | _, .number _ | _, .constant _ => 0
  | _, .group _ x _ => x.bareSigns
  | _, .call _ x => x.bareSigns
  | _, .negate _ _ x => x.bareSigns + if x.leaf?.isSome then 0 else 1
  | _, .single x => x.bareSigns
  | _, .binary x _ y => x.bareSigns + y.bareSigns

/-! ### What follows a sign -/

namespace Phrase

variable {signed : Bool} {x : Phrase signed .operand} {t : Token}

theorem kind_of_leaf? (h : x.leaf? = some t) : t.kind = .number ∨ t.kind = .constant := by
  cases x with
  | number u =>
    obtain rfl := Option.some.inj h
    exact .inl u.2
  | constant u =>
    obtain rfl := Option.some.inj h
    exact .inr u.2
  | group | call | negate => cases h

theorem isOperand_of_leaf? (h : x.leaf? = some t) : t.kind.isOperand = true := by
  rcases kind_of_leaf? h with hk | hk
  · rw [hk]
    rfl
  · rw [hk]
    rfl

theorem yield_of_leaf? (h : x.leaf? = some t) : x.yield = [t] := by
  cases x with
  | number | constant =>
    obtain rfl := Option.some.inj h
    rfl
  | group | call | negate => cases h

theorem bareSigns_of_leaf? (h : x.leaf? = some t) : x.bareSigns = 0 := by
  cases x with
  | number | constant => rfl
  | group | call | negate => cases h

/-- An operand that is no single token begins with a bracket, a function or a sign. -/
theorem isOperand_head_yield (h : x.leaf? = none) (rest : List Token) :
    ∀ t ∈ (x.yield ++ rest).head?, t.kind.isOperand = false := by
  intro t ht
  cases x with
  | number | constant => cases h
  | group o x c =>
    obtain rfl : ↑o = t := Option.some.inj ht
    rw [o.2]
    rfl
  | call f x =>
    obtain rfl : ↑f = t := Option.some.inj ht
    rw [f.2]
    rfl
  | negate _ m x =>
    obtain rfl : ↑m = t := Option.some.inj ht
    rw [m.2]
    rfl

/-! ### The expansion follows the derivation -/

/-- A token of a phrase that is no minus is copied. -/
theorem normalizeFrom_of_kind {a : Bool} {kind : TokenKind} (u : TokenOf kind)
    (hk : kind ≠ .operator .subtract) (ts : List Token) :
    normalizeFrom a (↑u :: ts) = ↑u :: normalizeFrom kind.endsValue ts := by
  have hminus : isMinus u = false := isMinus_eq_false (by rw [u.2]; exact hk)
  rw [normalizeFrom_cons (by simp [hminus]), u.2]

/-- Where a value is missing, a phrase is expanded as its derivation says, and a value ends with it. -/
theorem normalizeFrom_yield (e : Phrase signed k) (rest : List Token) :
    normalizeFrom false (e.yield ++ rest) = e.expanded ++ normalizeFrom true rest := by
  induction e generalizing rest with
  | number u => exact normalizeFrom_of_kind u (by simp) rest
  | constant u => exact normalizeFrom_of_kind u (by simp) rest
  | group o x c ih =>
    rw [yield, List.cons_append, List.append_assoc, normalizeFrom_of_kind o (by simp)]
    show ↑o :: normalizeFrom false _ = _
    rw [ih, List.singleton_append, normalizeFrom_of_kind c (by simp)]
    simp [expanded, TokenKind.endsValue]
  | call f x ih =>
    rw [yield, List.cons_append, normalizeFrom_of_kind f (by simp)]
    show ↑f :: normalizeFrom false _ = _
    rw [ih]
    rfl
  | negate _ m x ih =>
    rw [yield, List.cons_append, expanded]
    cases hleaf : x.leaf? with
    | some t =>
      -- The operand is the token after the minus.
      rw [yield_of_leaf? hleaf, List.singleton_append]
      exact normalizeFrom_minus (isMinus_iff.mpr m.2) (isOperand_of_leaf? hleaf)
    | none =>
      rw [normalizeFrom_cons_of_head (isOperand_head_yield hleaf rest), m.2]
      show ↑m :: normalizeFrom false _ = _
      rw [ih]
      rfl
  | single x ih => exact ih rest
  | binary x t y ihx ihy =>
    -- The operator has its left operand just before it, a minus included.
    rw [yield, List.append_assoc, ihx, List.cons_append, normalizeFrom_cons (fun _ => rfl), t.2]
    show _ ++ ↑t :: normalizeFrom false _ = _
    rw [ihy]
    simp [expanded]

/-! ### Counting -/

/-- An expanded sign is an operator with both of its operands. -/
theorem countP_negated {m : Token} (hm : m.kind = .operator .subtract)
    (ht : t.kind = .number ∨ t.kind = .constant) :
    (negated m t).countP (·.kind.isOperator) = 1 ∧ (negated m t).countP (·.kind.isOperand) = 2 := by
  rcases ht with ht | ht <;>
    simp [negated, Token.inserted, hm, ht, TokenKind.isOperand, TokenKind.isOperator]

/-- An expanded phrase has one operand more than it has operators, but for the signs that were left
    alone: each of them is an operator without a left operand. -/
theorem countP_expanded (e : Phrase signed k) :
    e.expanded.countP (·.kind.isOperator) + 1 =
      e.expanded.countP (·.kind.isOperand) + e.bareSigns := by
  have hoperator : ∀ op : Operator, (TokenKind.operator op).isOperand = false := fun _ => rfl
  induction e with
  | number u => simp [expanded, bareSigns, u.2, TokenKind.isOperand]
  | constant u => simp [expanded, bareSigns, u.2, TokenKind.isOperand, TokenKind.isOperator]
  | group o x c ih =>
    simpa [expanded, bareSigns, o.2, c.2, TokenKind.isOperand, TokenKind.isOperator] using ih
  | call f x ih => simpa [expanded, bareSigns, f.2, TokenKind.isOperand] using ih
  | negate _ m x ih =>
    rw [expanded, bareSigns]
    cases hleaf : x.leaf? with
    | some t =>
      obtain ⟨hoperators, hoperands⟩ := countP_negated m.2 (kind_of_leaf? hleaf)
      simp [hoperators, hoperands, bareSigns_of_leaf? hleaf]
    | none =>
      simp only [List.countP_cons, m.2, TokenKind.isOperator_operator, hoperator,
        Option.isSome_none, Bool.false_eq_true, if_true, if_false]
      omega
  | single x ih => exact ih
  | binary x t y ihx ihy =>
    simp only [expanded, bareSigns, List.countP_append, List.countP_cons, t.2,
      TokenKind.isOperator_operator, hoperator, Bool.false_eq_true, if_true, if_false]
    omega

theorem normalizeMinus_yield (e : Phrase signed .expression) :
    normalizeMinus e.yield = e.expanded := by
  have hyield := e.normalizeFrom_yield []
  rwa [List.append_nil, normalizeFrom, List.append_nil] at hyield

/-- In a sentence with a value, every sign stands in front of a number or a constant. -/
theorem bareSigns_of_evaluateTokens {c : Calculator} {e : Phrase signed .expression} {v : Decimal}
    (h : c.evaluateTokens e.yield = .ok v) : e.bareSigns = 0 := by
  have hvalue := Calculator.countP_isOperand_of_evaluateTokens h
  rw [normalizeMinus_yield] at hvalue
  have hcount := e.countP_expanded
  omega

end Phrase

/-- **Minus signs.** Whatever its derivation, a sentence is expanded at the signs that stand in front of
    a number or a constant and nowhere else, so no minus between two operands is touched. If a sign
    stands in front of a bracket, a function or another sign, no calculator has a value for the
    sentence. -/
theorem signs_expanded_or_rejected (e : Phrase true .expression) :
    normalizeMinus e.yield = e.expanded ∧
      (0 < e.bareSigns → ∀ c : Calculator, ∃ d, c.evaluateTokens e.yield = .error d) := by
  refine ⟨e.normalizeMinus_yield, ?_⟩
  intro hbare c
  cases hvalue : c.evaluateTokens e.yield with
  | error d => exact ⟨d, rfl⟩
  | ok v =>
    have hnone := Phrase.bareSigns_of_evaluateTokens hvalue
    omega

/-- A derivation of `4-(-3)*-sqrt 9`, in which the first minus subtracts and the others are signs. -/
def productWithSigns : Phrase true .expression :=
  .binary
    (.binary (.single (.number (.ofText .number "4" 0))) (.ofText (.operator .subtract) "-" 1)
      (.group (.ofText .openBracket "(" 2)
        (.single (.negate rfl (.ofText (.operator .subtract) "-" 3)
          (.number (.ofText .number "3" 4))))
        (.ofText .closeBracket ")" 5)))
    (.ofText (.operator .multiply) "*" 6)
    (.negate rfl (.ofText (.operator .subtract) "-" 7)
      (.call (.ofText .function "sqrt" 8) (.number (.ofText .number "9" 13))))

/-- Of the two signs in `4-(-3)*-sqrt 9` only the one of the three is expanded, and the other one keeps
    the text from having a value. -/
theorem signs_expanded_or_rejected_productWithSigns :
    Calculator.standard.scan "4-(-3)*-sqrt 9" = productWithSigns.yield ∧
      Token.format (normalizeMinus productWithSigns.yield) = "4 - ( ( 0 - 3 ) ) * - sqrt 9" ∧
      0 < productWithSigns.bareSigns ∧
      ∃ d, Calculator.standard.evaluateTokens productWithSigns.yield = .error d := by
  have hbare : 0 < productWithSigns.bareSigns := by decide +kernel
  obtain ⟨hexpanded, hrejected⟩ := signs_expanded_or_rejected productWithSigns
  refine ⟨by decide +kernel, ?_, hbare, hrejected hbare .standard⟩
  rw [hexpanded]
  decide +kernel

end Abacus.Infix
