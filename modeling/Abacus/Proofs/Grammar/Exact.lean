import Abacus.Proofs.Conversion.Precedence
import Abacus.Proofs.Decimal.Spelling

/-! # Exact expressions

  Sums, differences and products of numbers and constants have a value, and this value is the very
  number that arithmetic on rational numbers gives. Each step on the way to it is exact:

  - a leaf is read as a decimal that denotes what the leaf spells (`Leaf.exists_readNumber_numeral`);
  - an exact operator takes decimals to a decimal that denotes the result
    (`Operator.exists_applyOperator`);
  - hence, from the leaves up, the meaning of an exact phrase has the value that the phrase has in
    rational numbers (`Derivation.exists_value_meaning`).

  Quotients are rounded, and powers and functions go through binary floating point, so no phrase with
  one of them counts as exact.
-/

namespace Abacus

open Decimal

/-! ### Constants -/

/-- The standard constants are finite. -/
theorem ConstantTable.isFinite_of_find?_standard {name : String} {v : Float}
    (h : standard.find? name = some v) : v.isFinite = true := by
  have hall : ∀ e ∈ standard.entries, e.2.isFinite = true := by
    decide +kernel
  obtain ⟨e, he, rfl⟩ := Option.map_eq_some_iff.mp h
  exact hall e (List.mem_of_find?_eq_some he)

/-! ### Operators -/

namespace Operator

/-- Whether the operator takes decimals to the decimal that is its result. -/
def isExact : Operator → Bool
  | .add | .subtract | .multiply => true
  | .divide | .exponent => false

/-- What an exact operator makes of rational numbers; zero for the others. -/
def exactly : Operator → ℚ → ℚ → ℚ
  | .add, x, y => x + y
  | .subtract, x, y => x - y
  | .multiply, x, y => x * y
  | .divide, _, _ | .exponent, _, _ => 0

/-- An exact operator has a value for all operands, and loses nothing. -/
theorem exists_applyOperator {op : Operator} (h : op.isExact = true) (x y : Decimal)
    (position : Nat) :
    ∃ v, Postfix.applyOperator op x y position = .ok v ∧ v.toRat = op.exactly x.toRat y.toRat := by
  cases op with
  | add => exact ⟨x + y, rfl, toRat_add x y⟩
  | subtract => exact ⟨x - y, rfl, toRat_sub x y⟩
  | multiply => exact ⟨x * y, rfl, toRat_mul x y⟩
  | divide => cases h
  | exponent => cases h

end Operator

namespace Infix

/-! ### Leaves -/

namespace Leaf

/-- Whether the leaf spells a number: all leaves do but a point alone. -/
def IsProper : Leaf → Prop
  | number t => t.1.lexeme ≠ "."
  | constant _ => True

/-- The number that a leaf spells, or the text in its place if it is a constant. -/
def exactValue (constants : ConstantTable) (x : Leaf) : ℚ :=
  reading (x.numeral constants).lexeme.toList

/-- A leaf of a text is read as a decimal that denotes what the leaf spells. -/
theorem exists_readNumber_numeral {constants : ConstantTable} {functions : FunctionTable}
    {text : String} (hfinite : ∀ name v, constants.find? name = some v → v.isFinite = true)
    {x : Leaf} (hproper : x.IsProper) (hscan : x.token ∈ Token.scan constants functions text) :
    ∃ v, Postfix.readNumber (x.numeral constants) = .ok v ∧ v.toRat = x.exactValue constants := by
  have hread : ∃ v, ofLiteral? (x.numeral constants).lexeme = some v ∧
      v.toRat = x.exactValue constants := by
    cases x with
    | number t =>
      obtain ⟨hne, hnumerals, hpoints⟩ := Token.numerals_of_mem_scan hscan t.2
      exact exists_ofLiteral?_of_numerals hnumerals hpoints hne hproper
    | constant t =>
      have hknown : constants.contains t.1.lexeme = true := Token.contains_of_mem_scan hscan t.2
      obtain ⟨f, hf⟩ := Option.isSome_iff_exists.mp hknown
      have hlexeme : ((constant t).numeral constants).lexeme = Binary64.textOfFloat f := by
        simp [numeral, Token.toNumber, ConstantTable.lexeme?, hf]
      rw [exactValue, hlexeme]
      exact exists_ofLiteral?_textOfFloat (hfinite _ f hf)
  obtain ⟨v, hv, hvalue⟩ := hread
  refine ⟨v, ?_, hvalue⟩
  rw [Postfix.readNumber, hv]

end Leaf

/-! ### Phrases -/

namespace Derivation

/-- Whether a phrase consists of sums, differences and products of leaves that spell a number. -/
def IsExact : {l : Layer} → Derivation l → Prop
  | _, leaf x => x.IsProper
  | _, negated _ x => x.IsProper
  | _, group _ x _ => x.IsExact
  | _, @binary op x _ y => op.isExact = true ∧ x.IsExact ∧ y.IsExact
  | _, call _ _ => False
  | _, lift _ x => x.IsExact

/-- The rational number that an exact phrase stands for; a call counts as zero. -/
def exactValue (constants : ConstantTable) : {l : Layer} → Derivation l → ℚ
  | _, leaf x => x.exactValue constants
  | _, negated _ x => -x.exactValue constants
  | _, group _ x _ => x.exactValue constants
  | _, @binary op x _ y => op.exactly (x.exactValue constants) (y.exactValue constants)
  | _, call _ _ => 0
  | _, lift _ x => x.exactValue constants

/-- The meaning of an exact phrase of a text has a value, which denotes what the phrase stands
    for. -/
theorem exists_value_meaning {constants : ConstantTable} {functions : FunctionTable} {text : String}
    (hfinite : ∀ name v, constants.find? name = some v → v.isFinite = true) {l : Layer}
    {d : Derivation l} (hexact : d.IsExact)
    (hscan : ∀ t ∈ d.yield, t ∈ Token.scan constants functions text) :
    ∃ v, (d.meaning constants).value functions = .ok v ∧ v.toRat = d.exactValue constants := by
  induction d with
  | leaf x =>
    exact Leaf.exists_readNumber_numeral hfinite hexact (hscan x.token (List.mem_singleton_self _))
  | negated m x =>
    obtain ⟨v, hv, hvalue⟩ :=
      Leaf.exists_readNumber_numeral hfinite hexact (hscan x.token (by simp [yield]))
    -- The negated leaf is a difference, whose left operand is the inserted zero.
    have hzero : Postfix.readNumber zero = .ok ⟨0, 0⟩ := rfl
    refine ⟨⟨0, 0⟩ - v, ?_, ?_⟩
    · simp [meaning, Expression.value, hzero, hv, bind, Except.bind, Postfix.applyOperator]
    · rw [toRat_sub, toRat_eq_zero_of_coeff rfl, zero_sub, hvalue, exactValue]
  | group o x c ih => exact ih hexact (fun t ht => hscan t (by simp [yield, ht]))
  | @binary op x t y ihx ihy =>
    obtain ⟨hop, hx, hy⟩ := hexact
    obtain ⟨a, ha, hax⟩ := ihx hx (fun u hu => hscan u (by simp [yield, hu]))
    obtain ⟨b, hb, hby⟩ := ihy hy (fun u hu => hscan u (by simp [yield, hu]))
    obtain ⟨v, hv, hvalue⟩ := Operator.exists_applyOperator hop a b t.1.position
    refine ⟨v, ?_, ?_⟩
    · simpa [meaning, Expression.value, ha, hb, bind, Except.bind] using hv
    · rw [hvalue, hax, hby, exactValue]
  | call f x ih => exact hexact.elim
  | lift h x ih => exact ih hexact hscan

/-- **Exactness.** If the constants are finite, a text whose tokens are an exact expression has a
    value, and the value denotes the rational number that the expression stands for. -/
theorem exists_evaluate_of_isExact (c : Calculator) (d : Derivation .expression) (text : String)
    (hfinite : ∀ name v, c.constants.find? name = some v → v.isFinite = true)
    (hexact : d.IsExact) (h : c.scan text = d.yield) :
    ∃ v, c.evaluate text = .ok v ∧ v.toRat = d.exactValue c.constants := by
  have hscan : ∀ t ∈ d.yield, t ∈ Token.scan c.constants c.functions text := by
    rw [← h]
    exact fun t ht => ht
  obtain ⟨v, hv, hvalue⟩ := exists_value_meaning hfinite hexact hscan
  refine ⟨v, ?_, hvalue⟩
  rw [evaluate_of_scan_eq_yield h, Calculator.run_eq_ok_iff]
  exact Expression.evaluate_postorder (d.wellKinded_meaning c.constants) hv

/-- A derivation of `1.50-.5` in `(1.50-.5)*pi+-2.`. -/
def differenceOfPointed : Derivation .expression :=
  @binary .subtract
    (.lift .chain (.lift .term (.lift .power (.lift .primary
      (.leaf (.number (.ofText .number "1.50" 1)))))))
    (.ofText (.operator .subtract) "-" 5)
    (.lift .power (.lift .primary (.leaf (.number (.ofText .number ".5" 6)))))

/-- A derivation of `(1.50-.5)*pi+-2.`. -/
def sumWithConstant : Derivation .expression :=
  @binary .add
    (.lift .chain (.lift .term (@binary .multiply
      (.lift .power (.lift .primary (.group (.ofText .openBracket "(" 0) differenceOfPointed
        (.ofText .closeBracket ")" 8))))
      (.ofText (.operator .multiply) "*" 9)
      (.lift .primary (.leaf (.constant (.ofText .constant "pi" 10)))))))
    (.ofText (.operator .add) "+" 12)
    (.lift .power (.lift .primary
      (.negated (.ofText (.operator .subtract) "-" 13) (.number (.ofText .number "2." 14)))))

theorem exists_evaluate_sumWithConstant :
    Calculator.standard.scan "(1.50-.5)*pi+-2." = sumWithConstant.yield ∧
      sumWithConstant.IsExact ∧
      ∃ v, Calculator.standard.evaluate "(1.50-.5)*pi+-2." = .ok v ∧
        v.toRat = 1.141592653589793 := by
  have hscan : Calculator.standard.scan "(1.50-.5)*pi+-2." = sumWithConstant.yield := by
    decide +kernel
  have hexact : sumWithConstant.IsExact := by
    simp [sumWithConstant, differenceOfPointed, IsExact, Leaf.IsProper, Operator.isExact,
      TokenOf.ofText, Token.ofText]
  have hvalue : sumWithConstant.exactValue .standard = 1.141592653589793 := by
    decide +kernel
  refine ⟨hscan, hexact, ?_⟩
  rw [← hvalue]
  exact exists_evaluate_of_isExact .standard sumWithConstant _
    (fun name v => ConstantTable.isFinite_of_find?_standard) hexact hscan

end Derivation

end Infix

end Abacus
