import Abacus.Postfix.Operation
import Abacus.Proofs.Decimal.Doubles
import Abacus.Proofs.Failure.Outcome

/-! # Doubles handed from operation to operation

  Functions and powers compute with doubles, but what stands between them on the stack are decimals.
  This makes no difference: the decimal of a finite double is an operand from which that double is read,
  at every position (`finiteFloat_of_ofFloat?`). So a function that is called on the result of another
  one receives the very double that the other has returned, and the result of a power reaches the next
  operation as it was computed. Only a negative zero arrives without its sign, which is an equal number.
-/

namespace Abacus.Postfix

open Binary64

variable {functions : FunctionTable} {t : Token} {f : UnaryFunction} {x y d : Decimal}
  {a : Float} {position : Nat}

/-- What a call of a function yields for a double. -/
def call (f : UnaryFunction) (position : Nat) (a : Float) : Except EvaluationError Decimal :=
  match f a with
  | .error e => .error (ofFunctionError position e)
  | .ok y =>
    match Decimal.ofFloat? y with
    | some value => .ok value
    | none => .error (.functionDomain position)

/-- Of its operand, a function sees the double alone. -/
theorem applyFunction_eq_call (hf : functions.findUpToCase? t.lexeme = some f)
    (ha : finiteFloat x t.position = .ok a) :
    applyFunction functions t x = call f t.position a := by
  unfold applyFunction call
  rw [hf]
  show (finiteFloat x t.position >>= _) = _
  rw [ha]
  rfl

/-- A call with a value has a finite result, and the value is the decimal of it. -/
theorem call_eq_ok (h : call f position a = .ok d) :
    ∃ b, f a = .ok b ∧ Decimal.ofFloat? b = some d := by
  unfold call at h
  cases hf : f a with
  | error e =>
    rw [hf] at h
    cases h
  | ok b =>
    rw [hf] at h
    dsimp only at h
    cases hd : Decimal.ofFloat? b with
    | none =>
      rw [hd] at h
      cases h
    | some value =>
      rw [hd] at h
      exact ⟨b, rfl, hd.trans (congrArg some (Except.ok.inj h))⟩

theorem applyFunction_eq_ok (h : applyFunction functions t x = .ok d) :
    ∃ f a b, functions.findUpToCase? t.lexeme = some f ∧ finiteFloat x t.position = .ok a ∧
      f a = .ok b ∧ Decimal.ofFloat? b = some d := by
  cases hf : functions.findUpToCase? t.lexeme with
  | none =>
    unfold applyFunction at h
    rw [hf] at h
    cases h
  | some f =>
    cases ha : finiteFloat x t.position with
    | error e =>
      unfold applyFunction at h
      rw [hf] at h
      dsimp only at h
      rw [ha] at h
      cases h
    | ok a =>
      rw [applyFunction_eq_call hf ha] at h
      obtain ⟨b, hb, hd⟩ := call_eq_ok h
      exact ⟨f, a, b, rfl, rfl, hb, hd⟩

theorem power_eq_ok (h : power x y position = .ok d) :
    ∃ a b, finiteFloat x position = .ok a ∧ finiteFloat y position = .ok b ∧
      Decimal.ofFloat? (Float.pow a b) = some d := by
  unfold power at h
  obtain ⟨a, ha, h⟩ := Outcome.bind_eq_ok_iff.mp h
  obtain ⟨b, hb, h⟩ := Outcome.bind_eq_ok_iff.mp h
  refine ⟨a, b, ha, hb, ?_⟩
  split at h
  · cases h
  · dsimp only at h
    split at h
    · cases h
    · split at h
      next value hvalue =>
        rw [hvalue]
        exact congrArg some (Except.ok.inj h)
      · cases h

/-- The double that is read from the decimal of a double. -/
theorem finiteFloat_of_ofFloat? (h : Decimal.ofFloat? a = some d) (position : Nat) :
    finiteFloat d position = .ok (unsignedZero a) := by
  obtain ⟨b, hparts, -⟩ := Option.map_eq_some_iff.mp h
  have hfinite : a.isFinite = true := (isSome_ofFloat?_iff a).mp (by rw [hparts]; rfl)
  unfold finiteFloat
  dsimp only
  rw [Decimal.toFloat_of_ofFloat? h, if_pos (isFinite_unsignedZero hfinite)]

/-- **Handover.** A finite double has a decimal, and the operand that is read from it is the double. So
    a function called on the result of another one receives what that one returned, and the result of a
    power is the operand of what comes next. -/
theorem operand_of_result (functions : FunctionTable) :
    (∀ a : Float, a.isFinite = true →
      ∃ d, Decimal.ofFloat? a = some d ∧
        ∀ position, ∃ a', finiteFloat d position = .ok a' ∧ (a' == a) = true ∧
          a' = unsignedZero a) ∧
    (∀ (outer inner : Token) (x d : Decimal), applyFunction functions inner x = .ok d →
      ∃ g a b, functions.findUpToCase? inner.lexeme = some g ∧
        finiteFloat x inner.position = .ok a ∧ g a = .ok b ∧
        (∀ position, finiteFloat d position = .ok (unsignedZero b)) ∧
        ∀ f, functions.findUpToCase? outer.lexeme = some f →
          applyFunction functions outer d = call f outer.position (unsignedZero b)) ∧
    (∀ (x y : Decimal) (position : Nat), (∃ e, power x y position = .error e) ∨
      ∃ d a b, power x y position = .ok d ∧ finiteFloat x position = .ok a ∧
        finiteFloat y position = .ok b ∧
        ∀ next, finiteFloat d next = .ok (unsignedZero (Float.pow a b))) := by
  refine ⟨?_, ?_, ?_⟩
  · intro a ha
    obtain ⟨b, hparts⟩ := Option.isSome_iff_exists.mp ((isSome_ofFloat?_iff a).mpr ha)
    have hd : Decimal.ofFloat? a = some b.toDecimal := Option.map_eq_some_iff.mpr ⟨b, hparts, rfl⟩
    refine ⟨b.toDecimal, hd, ?_⟩
    intro position
    exact ⟨unsignedZero a, finiteFloat_of_ofFloat? hd position, unsignedZero_beq ha, rfl⟩
  · intro outer inner x d h
    obtain ⟨g, a, b, hg, ha, hb, hd⟩ := applyFunction_eq_ok h
    refine ⟨g, a, b, hg, ha, hb, finiteFloat_of_ofFloat? hd, ?_⟩
    intro f hf
    exact applyFunction_eq_call hf (finiteFloat_of_ofFloat? hd _)
  · intro x y position
    cases h : power x y position with
    | error e => exact .inl ⟨e, rfl⟩
    | ok d =>
      obtain ⟨a, b, ha, hb, hd⟩ := power_eq_ok h
      exact .inr ⟨d, a, b, rfl, ha, hb, finiteFloat_of_ofFloat? hd⟩

/-- The root of the root of two is computed from the very double that the inner root is; the least double
    above zero comes back as well. -/
theorem operand_of_result_nestedRoot :
    (Float.ofBits 1).isFinite = true ∧
      (∃ d, Decimal.ofFloat? (Float.ofBits 1) = some d ∧
        ∀ position, finiteFloat d position = .ok (Float.ofBits 1)) ∧
      applyFunction FunctionTable.standard ⟨.function, "sqrt", some 5, none⟩ ⟨2, 0⟩ =
        .ok ⟨14142135623730951454746218587388284504413604736328125, 52⟩ ∧
      FunctionTable.standard.findUpToCase? "sqrt" =
        some (UnaryFunction.except (· < 0) Float.sqrt) ∧
      applyFunction FunctionTable.standard ⟨.function, "sqrt", some 0, none⟩
          ⟨14142135623730951454746218587388284504413604736328125, 52⟩ =
        call (UnaryFunction.except (· < 0) Float.sqrt) 1 (Float.sqrt 2) := by
  have hleast : (Float.ofBits 1).isFinite = true := by decide
  have hroot : applyFunction FunctionTable.standard ⟨.function, "sqrt", some 5, none⟩ ⟨2, 0⟩ =
      .ok ⟨14142135623730951454746218587388284504413604736328125, 52⟩ := by decide +kernel
  have hlookup : FunctionTable.standard.findUpToCase? "sqrt" =
      some (UnaryFunction.except (· < 0) Float.sqrt) := rfl
  obtain ⟨hback, hnested, -⟩ := operand_of_result FunctionTable.standard
  refine ⟨hleast, ?_, hroot, hlookup, ?_⟩
  · obtain ⟨d, hd, hread⟩ := hback _ hleast
    refine ⟨d, hd, ?_⟩
    intro position
    obtain ⟨a', ha', -, rfl⟩ := hread position
    rw [ha', unsignedZero, if_neg (by decide)]
  · obtain ⟨g, a, b, hg, ha, hb, -, houter⟩ :=
      hnested ⟨.function, "sqrt", some 0, none⟩ _ _ _ hroot
    obtain rfl := Option.some.inj (hlookup.symm.trans hg)
    have htwo : finiteFloat ⟨2, 0⟩ 6 = .ok 2 := by decide +kernel
    obtain rfl : (2 : Float) = a := Except.ok.inj (htwo.symm.trans ha)
    have hresult : UnaryFunction.except (· < 0) Float.sqrt 2 = .ok (Float.sqrt 2) := by
      decide +kernel
    obtain rfl : Float.sqrt 2 = b := Except.ok.inj (hresult.symm.trans hb)
    have hnonzero : unsignedZero (Float.sqrt 2) = Float.sqrt 2 := by decide +kernel
    have hcall := houter _ hlookup
    rw [hnonzero] at hcall
    exact hcall

end Abacus.Postfix
