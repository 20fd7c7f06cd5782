import Abacus.Infix
import Abacus.Proofs.Conversion.Mapping
import Abacus.Proofs.Postfix.Height

/-! # Substituting constants early or late

  A substitution turns operands into operands and leaves all other tokens as they are. The expansion
  of minus signs and the conversion to postfix order see no more of an operand than that it is one,
  so constants may as well be replaced at the very end (`substituteConstants_commutes`). The height of
  the stack is the same with and without them.
-/

namespace Abacus

namespace Infix

variable (constants : ConstantTable) {t : Token}

/-! ### One token -/

theorem substitute_of_ne_constant (h : t.kind ≠ .constant) : substitute constants t = t := by
  unfold substitute
  split
  · next hk => exact absurd hk h
  · rfl

/-- A constant that the table knows is replaced by its number, at the same place. -/
theorem substitute_of_find? {v : Float} (h : t.kind = .constant)
    (hv : constants.find? t.lexeme = some v) :
    substitute constants t = t.toNumber (Binary64.textOfFloat v) := by
  simp [substitute, h, ConstantTable.lexeme?, hv]

/-- A substitution keeps the place of the token. -/
theorem offset_substitute : (substitute constants t).offset = t.offset := by
  unfold substitute
  split
  · split <;> rfl
  · rfl

/-- A substituted constant is a number, or still the constant. -/
theorem substitute_constant (h : t.kind = .constant) :
    (substitute constants t).kind = .number ∨ substitute constants t = t := by
  simp only [substitute, h]
  split
  · exact .inl rfl
  · exact .inr rfl

theorem isOperand_substitute :
    (substitute constants t).kind.isOperand = t.kind.isOperand := by
  by_cases h : t.kind = .constant
  · rcases substitute_constant constants h with hn | hs
    · rw [hn, h]
      rfl
    · rw [hs]
  · rw [substitute_of_ne_constant constants h]

theorem substitute_of_not_isOperand (h : t.kind.isOperand = false) :
    substitute constants t = t := by
  apply substitute_of_ne_constant
  intro hk
  rw [hk] at h
  cases h

/-- A substitution turns operands into operands, and changes nothing else. -/
theorem keepsKinds_substitute : KeepsKinds (substitute constants) where
  isOperand _ := isOperand_substitute constants
  kind t h := by rw [substitute_of_not_isOperand constants h]

/-! ### The expansion of minus signs -/

/-- Constants may be replaced after the minus signs were expanded. -/
theorem normalizeMinus_substituteConstants (ts : List Token) :
    normalizeMinus (substituteConstants constants ts) =
      substituteConstants constants (normalizeMinus ts) :=
  normalizeFrom_map (keepsKinds_substitute constants)
    (fun _ _ hk => substitute_of_ne_constant constants hk) false ts

end Infix

/-! ### The conversion to postfix order -/

namespace Postfix

open Infix

variable (constants : ConstantTable)

/-- Constants may be replaced after the conversion. -/
theorem ofInfix_substituteConstants (ts : List Token) :
    ofInfix (substituteConstants constants ts) =
      (ofInfix ts).map (substituteConstants constants) := by
  -- Only operands are replaced, so a problem with another token names it by the same position.
  have hposition : ∀ t : Token, t.kind.isOperand = false →
      (substitute constants t).position = id t.position := by
    intro t h
    rw [substitute_of_not_isOperand constants h]
    rfl
  have hmap := ofInfix_map (keepsKinds_substitute constants) hposition ts
  rw [SyntaxError.mapPosition_id, Failures.map_id, Outcome.mapError_id] at hmap
  exact hmap

/-- **Substitution.** Whether constants are replaced before the minus signs are expanded, after that or
    in the postfix tokens, the result is the same: the same tokens, or the same problems. A constant
    that the table does not know and one whose number is negative or none are no exceptions. -/
theorem substituteConstants_commutes (ts : List Token) :
    normalizeMinus (substituteConstants constants ts) =
        substituteConstants constants (normalizeMinus ts) ∧
      (∀ ps, ofInfix (substituteConstants constants ts) = .ok ps ↔
        ∃ qs, ofInfix ts = .ok qs ∧ substituteConstants constants qs = ps) ∧
      (∀ problems, ofInfix (substituteConstants constants ts) = .error problems ↔
        ofInfix ts = .error problems) ∧
      ofInfix (normalizeMinus (substituteConstants constants ts)) =
        ofInfix (substituteConstants constants (normalizeMinus ts)) ∧
      ofInfix (substituteConstants constants (normalizeMinus ts)) =
        (ofInfix (normalizeMinus ts)).map (substituteConstants constants) := by
  have hminus := normalizeMinus_substituteConstants constants ts
  have hconversion := ofInfix_substituteConstants constants ts
  refine ⟨hminus, ?_, ?_, congrArg ofInfix hminus, ?_⟩
  · intro ps
    rw [hconversion, Outcome.map_eq_ok_iff]
  · intro problems
    rw [hconversion, Outcome.map_eq_error_iff]
  · exact ofInfix_substituteConstants constants (normalizeMinus ts)

/-! ### The height of the stack -/

/-- A substitution leaves the height as it is. -/
theorem height_substituteConstants (n : Nat) (ts : List Token) :
    height n (substituteConstants constants ts) = height n ts := by
  have hstep : ∀ (n : Nat) (t : Token), heightStep n (substitute constants t) = heightStep n t := by
    intro n t
    cases h : t.kind.isOperand with
    | false => rw [substitute_of_not_isOperand constants h]
    | true =>
      have h' : (substitute constants t).kind.isOperand = true := by
        rw [isOperand_substitute, h]
      rw [heightStep_operand n h, heightStep_operand n h']
  induction ts generalizing n with
  | nil => rfl
  | cons t ts ih =>
    show (heightStep n (substitute constants t)).bind _ = _
    rw [hstep, height_cons]
    exact congrArg (Option.bind (heightStep n t)) (funext ih)

end Postfix

end Abacus
