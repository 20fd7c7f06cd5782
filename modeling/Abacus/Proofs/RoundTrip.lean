import Abacus.Proofs.Conversion.Acceptance
import Abacus.Proofs.Decimal.Printing
import Abacus.Proofs.Failure.Stage
import Abacus.Proofs.Grammar.Exact
import Abacus.Proofs.Token.Scanning

/-! # Values that are typed back in

  The text of a value can be an expression again, and then it is one for this value or for none
  (`evaluate_text`):

  - digits with a point, and perhaps a minus in front, are a number or a difference from zero, and
    both are exact (`exists_evaluate_withSign`);
  - an exponent is not understood as one. Its letter is a name: no table knows `E`, and `e` is a
    constant, with an operand on its left and no operator in between (`exists_error_of_exponent`).
-/

namespace Abacus

open Decimal Infix

variable {cs rest : List Char} {letter : Char}

/-! ### The tokens of a value's text -/

namespace Token

variable {constants : ConstantTable} {functions : FunctionTable} {offset : Nat}

/-- The token of a leading minus, if there is one. -/
def sign (negative : Bool) : List Token :=
  if negative then [.ofText (.operator .subtract) "-" 0] else []

theorem ofNumeral_of_isMagnitude (h : IsMagnitude cs) :
    ofNumeral cs offset = .ofText .number (String.ofList cs) offset :=
  if_neg (Nat.not_lt.mpr h.count_point_le)

/-- A magnitude is one token. -/
theorem scanFrom_magnitude (h : IsMagnitude cs) (hrest : ∀ c ∈ rest.head?, isNumeral c = false) :
    scanFrom constants functions offset (cs ++ rest) =
      .ofText .number (String.ofList cs) offset ::
        scanFrom constants functions (offset + cs.length) rest := by
  rw [scanFrom_numeral h.ne_nil ⟨h.numerals, hrest⟩, ofNumeral_of_isMagnitude h]

/-- A minus in front is a token of its own. -/
theorem scan_withSign (negative : Bool) (h : IsMagnitude cs)
    (hrest : ∀ c ∈ rest.head?, isNumeral c = false) :
    scan constants functions (String.ofList (withSign negative (cs ++ rest))) =
      sign negative ++ .ofText .number (String.ofList cs) negative.toNat ::
        scanFrom constants functions (negative.toNat + cs.length) rest := by
  rw [scan, String.toList_ofList]
  cases negative with
  | false => exact scanFrom_magnitude h hrest
  | true =>
    have hminus : scanFrom constants functions 0 ('-' :: (cs ++ rest)) =
        .ofText (.operator .subtract) "-" 0 :: scanFrom constants functions 1 (cs ++ rest) :=
      scanFrom_operator .subtract
    exact hminus.trans (congrArg _ (scanFrom_magnitude h hrest))

/-- The sign of an exponent, which has one in any case. -/
def exponentSign (e : ℤ) : Operator :=
  if e < 0 then .subtract else .add

theorem signedExponent_eq (e : ℤ) :
    signedExponent e = (exponentSign e).symbol :: digits e.natAbs := by
  rw [signedExponent, exponentSign]
  split <;> rfl

/-- An exponent is a name, an operator and a number. -/
theorem scanFrom_exponent (h : letter = 'E' ∨ letter = 'e') (e : ℤ) :
    scanFrom constants functions offset (letter :: signedExponent e) =
      [ofName constants functions [letter] offset,
        .ofText (.operator (exponentSign e)) (String.singleton (exponentSign e).symbol) (offset + 1),
        .ofText .number (String.ofList (digits e.natAbs)) (offset + 2)] := by
  have hbegins : beginsName letter = true := by
    rcases h with rfl | rfl <;> decide +kernel
  have hname : Maximal continuesName [letter] ((exponentSign e).symbol :: digits e.natAbs) := by
    refine ⟨List.forall_mem_singleton.mpr (continuesName_of_beginsName hbegins), ?_⟩
    rintro c ⟨⟩
    exact continuesName_symbol _
  have hnumber (offset : Nat) : scanFrom constants functions offset (digits e.natAbs) =
      [.ofText .number (String.ofList (digits e.natAbs)) offset] := by
    have hscan : scanFrom constants functions offset (digits e.natAbs ++ []) = _ :=
      scanFrom_magnitude (isMagnitude_digits e.natAbs) (by simp)
    rw [List.append_nil, scanFrom] at hscan
    exact hscan
  rw [signedExponent_eq]
  refine (scanFrom_name hbegins hname).trans ?_
  rw [scanFrom_operator, hnumber]
  rfl

end Token

/-! ### Numbers with a sign -/

/-- The phrase of a number, with its sign if it has one. -/
def signedNumber (negative : Bool) (cs : List Char) : Derivation .primary :=
  let number : Leaf := .number (.ofText .number (String.ofList cs) negative.toNat)
  if negative then .negated (.ofText (.operator .subtract) "-" 0) number else .leaf number

theorem yield_signedNumber (negative : Bool) (cs : List Char) :
    (signedNumber negative cs).yield =
      Token.sign negative ++ [.ofText .number (String.ofList cs) negative.toNat] := by
  cases negative <;> rfl

theorem exactValue_signedNumber (constants : ConstantTable) (negative : Bool) (h : IsMagnitude cs) :
    (signedNumber negative cs).exactValue constants = reading (withSign negative cs) := by
  -- A magnitude by itself has no sign to read.
  have hleaf : reading cs = magnitudeReading cs := reading_withSign false h
  cases negative with
  | false =>
    show reading (String.ofList cs).toList = _
    rw [String.toList_ofList]
    rfl
  | true =>
    show -reading (String.ofList cs).toList = _
    rw [String.toList_ofList, hleaf]
    exact (reading_withSign true h).symm

theorem isExact_signedNumber (negative : Bool) (h : IsMagnitude cs) :
    (signedNumber negative cs).IsExact := by
  have hproper : String.ofList cs ≠ "." := by
    intro hpoint
    have hcs : cs = ['.'] := by rw [← String.toList_ofList (l := cs), hpoint]; rfl
    have hdigit := isDigit_head_of_isMagnitude h '.' (by rw [hcs]; rfl)
    cases hdigit
  cases negative <;> exact hproper

/-- A number with a sign has the value that it spells. -/
theorem exists_evaluate_withSign (negative : Bool) (h : IsMagnitude cs) :
    ∃ w, Calculator.standard.evaluate (String.ofList (withSign negative cs)) = .ok w ∧
      w.toRat = reading (withSign negative cs) := by
  let d : Derivation .expression :=
    .lift .chain (.lift .term (.lift .power (.lift .primary (signedNumber negative cs))))
  have hscan : Calculator.standard.scan (String.ofList (withSign negative cs)) = d.yield := by
    have htokens : Calculator.standard.scan (String.ofList (withSign negative (cs ++ []))) = _ :=
      Token.scan_withSign negative h (by simp)
    rw [List.append_nil, Token.scanFrom] at htokens
    exact htokens.trans (yield_signedNumber negative cs).symm
  obtain ⟨w, hw, hvalue⟩ := d.exists_value_meaning
    (fun _ _ => ConstantTable.isFinite_of_find?_standard) (isExact_signedNumber negative h)
    (fun t ht => hscan ▸ ht)
  refine ⟨w, ?_, hvalue.trans (exactValue_signedNumber _ negative h)⟩
  rw [Derivation.evaluate_of_scan_eq_yield hscan, Calculator.run_eq_ok_iff]
  exact Expression.evaluate_postorder (d.wellKinded_meaning _) hw

/-! ### Exponents -/

/-- The name `E` is in no table. -/
theorem ofName_upper (offset : Nat) :
    Token.ofName Calculator.standard.constants Calculator.standard.functions ['E'] offset =
      .bad "E" ⟨.unknownIdentifier "E", offset⟩ := by
  have hconstant : Calculator.standard.constants.contains (String.ofList ['E']) = false := by
    decide +kernel
  have hfunction : Calculator.standard.functions.contains (String.ofList ['E']) = false := by
    decide +kernel
  rw [Token.ofName, hconstant, hfunction]
  rfl

/-- The name `e` is that of a constant. -/
theorem ofName_lower (offset : Nat) :
    Token.ofName Calculator.standard.constants Calculator.standard.functions ['e'] offset =
      .ofText .constant "e" offset := by
  have hconstant : Calculator.standard.constants.contains (String.ofList ['e']) = true := by
    decide +kernel
  rw [Token.ofName, hconstant]
  rfl

/-- A constant after a number is one operand more than the operators can take, whether the number
    has a minus in front or not. -/
theorem countP_of_constant_after (negative : Bool) {x c t y : Token} (hx : x.kind = .number)
    (hc : c.kind = .constant) (ht : t.kind.isOperator = true) (hy : y.kind = .number) :
    (normalizeMinus (Token.sign negative ++ [x, c, t, y])).countP (·.kind.isOperand) =
      (normalizeMinus (Token.sign negative ++ [x, c, t, y])).countP (·.kind.isOperator) + 2 := by
  obtain ⟨op, ht⟩ := TokenKind.isOperator_iff.mp ht
  cases negative <;>
    simp [Token.sign, normalizeMinus, normalizeFrom, negated, isMinus, Token.ofText, Token.inserted,
      TokenKind.isOperand, TokenKind.isOperator, TokenKind.endsValue, hx, hy, hc, ht]

/-- A number with an exponent has no value. -/
theorem exists_error_of_exponent (negative : Bool) (h : IsMagnitude cs)
    (hletter : letter = 'E' ∨ letter = 'e') (e : ℤ) :
    ∃ d, Calculator.standard.evaluate
      (String.ofList (withSign negative (cs ++ letter :: signedExponent e))) = .error d := by
  have hscan : Calculator.standard.scan
      (String.ofList (withSign negative (cs ++ letter :: signedExponent e))) = _ :=
    Token.scan_withSign negative h (by rcases hletter with rfl | rfl <;> simp [Token.isNumeral])
  rw [Token.scanFrom_exponent hletter] at hscan
  rcases hletter with rfl | rfl
  · rw [ofName_upper] at hscan
    have hbad : ∃ t ∈ Calculator.standard.scan
        (String.ofList (withSign negative (cs ++ 'E' :: signedExponent e))), t.kind = .bad := by
      rw [hscan]
      exact ⟨_, List.mem_append_right _ (List.mem_cons_of_mem _ List.mem_cons_self), rfl⟩
    obtain ⟨d, hd, -⟩ := Calculator.evaluate_of_bad hbad
    exact ⟨d, hd⟩
  · rw [ofName_lower] at hscan
    cases hvalue : Calculator.standard.evaluate
        (String.ofList (withSign negative (cs ++ 'e' :: signedExponent e))) with
    | error d => exact ⟨d, rfl⟩
    | ok v =>
      obtain ⟨-, htokens⟩ := Calculator.evaluate_eq_ok_iff.mp hvalue
      have hcount := Calculator.countP_isOperand_of_evaluateTokens htokens
      rw [hscan, countP_of_constant_after negative] at hcount
      · omega
      all_goals rfl

/-- **Values typed back in.** The text of a value without an exponent is an expression, whose value is
    the same number. The text of a value with an exponent is refused. So no text of a value is an
    expression for another number. -/
theorem Calculator.evaluate_text (x : Decimal) :
    (hasExponent x.text = false →
      ∃ w, Calculator.standard.evaluate x.text = .ok w ∧ w.toRat = x.toRat) ∧
    (hasExponent x.text = true → ∃ d, Calculator.standard.evaluate x.text = .error d) ∧
    (∀ w, Calculator.standard.evaluate x.text = .ok w → w.toRat = x.toRat) := by
  have hplain : hasExponent x.text = false →
      ∃ w, Calculator.standard.evaluate x.text = .ok w ∧ w.toRat = x.toRat := by
    intro h
    rw [Bool.eq_false_iff, Ne, hasExponent_text_iff] at h
    obtain ⟨negative, cs, hcs, htext, hreading⟩ := exists_plain_text (x := x) (by tauto)
    obtain ⟨w, hw, hvalue⟩ := exists_evaluate_withSign negative hcs
    exact ⟨w, by rw [htext, hw], hvalue.trans hreading⟩
  have hrefused : hasExponent x.text = true →
      ∃ d, Calculator.standard.evaluate x.text = .error d := by
    intro h
    obtain ⟨hzero, hlayout⟩ := hasExponent_text_iff.mp h
    obtain ⟨negative, cs, letter, e, hcs, hletter, htext⟩ := exists_exponent_text hzero hlayout
    rw [htext]
    exact exists_error_of_exponent negative hcs hletter e
  refine ⟨hplain, hrefused, ?_⟩
  intro w hw
  cases h : hasExponent x.text with
  | false =>
    obtain ⟨v, hv, hvalue⟩ := hplain h
    rw [hv] at hw
    cases hw
    exact hvalue
  | true =>
    obtain ⟨d, hd⟩ := hrefused h
    rw [hd] at hw
    cases hw

/-- The scale is kept in the text, so that here even the digits are those of the value. -/
example : Calculator.standard.evaluate (⟨-1500, 3⟩ : Decimal).text = .ok ⟨-1500, 3⟩ := by
  decide +kernel

end Abacus
