import Abacus.Proofs.Conversion.Success
import Abacus.Proofs.Stages
import Mathlib.Data.List.Basic

/-! # What a compilation keeps

  A compilation substitutes constants, expands minus signs and converts the result. Of the tokens of
  a text it loses the brackets only, and what it adds and keeps is a zero for each minus that it
  expands (`compile_conserves`):

  - tokens with a place are those of the text, tokens without one were put in
    (`filter_placed_normalizeFrom`, `filter_zeros_normalizeFrom`);
  - the conversion rearranges what it is given, without the brackets.
-/

namespace Abacus

namespace Infix

variable {afterValue : Bool} {t : Token} {ts : List Token}

/-! ### What an expansion puts in -/

/-- The number of minus signs without a left operand that stand directly before an operand;
    `afterValue` says whether a value ends just before the sequence. -/
def signCount (afterValue : Bool) : List Token → Nat
  | [] => 0
  | t :: ts =>
    (if isMinus t && !afterValue && ts.head?.any (·.kind.isOperand) then 1 else 0) +
      signCount t.kind.endsValue ts

/-- An operand is no minus, and ends a value. -/
theorem signCount_operand (h : t.kind.isOperand = true) :
    signCount afterValue (t :: ts) = signCount true ts := by
  rw [signCount, isMinus_of_isOperand h, endsValue_of_isOperand h]
  simp

/-- The tokens with a place are those that were there before. -/
theorem filter_placed_normalizeFrom (h : ∀ t ∈ ts, t.offset.isSome = true) :
    (normalizeFrom afterValue ts).filter (·.offset.isSome) = ts := by
  fun_induction normalizeFrom afterValue ts with
  | case1 => rfl
  | case2 afterValue t => simpa using h
  | case3 afterValue m x rest _ ih =>
    obtain ⟨hm, hrest⟩ := List.forall_mem_cons.mp h
    obtain ⟨hx, hrest⟩ := List.forall_mem_cons.mp hrest
    rw [List.filter_append, ih hrest]
    simp [negated, Token.inserted, hm, hx]
  | case4 afterValue m x rest _ ih =>
    obtain ⟨hm, hrest⟩ := List.forall_mem_cons.mp h
    rw [List.filter_cons_of_pos (by exact hm), ih hrest]

/-- Of the tokens without a place, those that are no brackets are zeros, one for each minus that is
    expanded. -/
theorem filter_zeros_normalizeFrom (h : ∀ t ∈ ts, t.offset.isSome = true) :
    (normalizeFrom afterValue ts).filter (fun t => t.offset.isNone && !Postfix.isBracket t) =
      List.replicate (signCount afterValue ts) (.inserted .number "0") := by
  fun_induction normalizeFrom afterValue ts with
  | case1 => rfl
  | case2 afterValue t =>
    have ht : t.offset.isSome = true := by simpa using h
    simp [signCount, Option.isSome_iff_ne_none.mp ht]
  | case3 afterValue m x rest hexpand ih =>
    obtain ⟨hm, hrest⟩ := List.forall_mem_cons.mp h
    obtain ⟨hx, hrest⟩ := List.forall_mem_cons.mp hrest
    simp only [Bool.and_eq_true] at hexpand
    have hcount : signCount afterValue (m :: x :: rest) = signCount true rest + 1 := by
      rw [signCount, signCount_operand hexpand.2]
      simp [hexpand, Nat.add_comm]
    rw [List.filter_append, ih hrest, hcount, List.replicate_succ]
    simp [negated, Token.inserted, Postfix.isBracket, Option.isSome_iff_ne_none.mp hm,
      Option.isSome_iff_ne_none.mp hx]
  | case4 afterValue m x rest hexpand ih =>
    obtain ⟨hm, hrest⟩ := List.forall_mem_cons.mp h
    have hcount : signCount afterValue (m :: x :: rest) =
        signCount m.kind.endsValue (x :: rest) := by
      have hnone : (isMinus m && !afterValue && (x :: rest).head?.any (·.kind.isOperand)) = false :=
        Bool.eq_false_iff.mpr hexpand
      rw [signCount, hnone]
      simp
    rw [List.filter_cons_of_neg (by simp [Option.isSome_iff_ne_none.mp hm]), ih hrest, hcount]

/-- A minus counts before an operand, and not after a value: the text has three, and two count. -/
example : signCount false (Calculator.standard.scan "-3-2*-pi") = 2 := by decide +kernel

/-- A selection of tokens by their places is the same before and after a substitution. -/
theorem filter_substituteConstants (constants : ConstantTable) (p : Option Nat → Bool)
    (ts : List Token) :
    (substituteConstants constants ts).filter (p ·.offset) =
      substituteConstants constants (ts.filter (p ·.offset)) := by
  unfold substituteConstants
  rw [List.filter_map]
  congr 2
  funext t
  exact congrArg p (offset_substitute constants)

end Infix

namespace Calculator

open Infix Postfix

variable {c : Calculator} {ts ps : List Token}

/-! ### The tokens of a compiled sequence -/

/-- The compiled tokens with a place are those of the text, without the brackets and with numbers for
    constants. -/
theorem perm_placed_of_compile (hts : ∀ t ∈ ts, t.offset.isSome = true) (h : c.compile ts = .ok ps) :
    (ps.filter (·.offset.isSome)).Perm
      (substituteConstants c.constants (ts.filter (!isBracket ·))) := by
  obtain ⟨qs, hqs, rfl⟩ := compile_eq_ok_iff_substitute_last.mp h
  have hplaced : ((normalizeMinus ts).filter (!isBracket ·)).filter (·.offset.isSome) =
      ts.filter (!isBracket ·) := by
    rw [List.filter_comm, normalizeMinus, filter_placed_normalizeFrom hts]
  rw [filter_substituteConstants c.constants Option.isSome, ← hplaced]
  exact ((perm_ofInfix hqs).filter _).map _

/-- The compiled tokens without a place are zeros, one for each minus that was expanded. -/
theorem filter_unplaced_of_compile (hts : ∀ t ∈ ts, t.offset.isSome = true)
    (h : c.compile ts = .ok ps) :
    ps.filter (·.offset.isNone) =
      List.replicate (signCount false ts) (.inserted .number "0") := by
  obtain ⟨qs, hqs, rfl⟩ := compile_eq_ok_iff_substitute_last.mp h
  have hperm := (perm_ofInfix hqs).filter (·.offset.isNone)
  rw [List.filter_filter, normalizeMinus, filter_zeros_normalizeFrom hts] at hperm
  rw [filter_substituteConstants c.constants Option.isNone, List.perm_replicate.mp hperm]
  -- A zero is no constant.
  simp [substituteConstants, substitute_of_ne_constant, Token.inserted]

/-- Balanced brackets with nothing in them compile to nothing. -/
theorem compile_eq_nil_iff :
    c.compile ts = .ok [] ↔ (∀ t ∈ ts, isBracket t = true) ∧ Balanced ts := by
  rw [compile_eq_ok_iff_substitute_last]
  constructor
  · rintro ⟨qs, hqs, hnil⟩
    obtain rfl : qs = [] := by simpa [substituteConstants] using hnil
    refine ⟨?_, ?_⟩
    · intro t ht
      by_contra hbracket
      -- A token that is no bracket would be put out.
      have hmem : t ∈ (normalizeMinus ts).filter (!isBracket ·) :=
        List.mem_filter.mpr ⟨mem_normalizeFrom_of_mem ht, by simpa using hbracket⟩
      cases (perm_ofInfix hqs).mem_iff.mpr hmem
    · have hbalanced : depth 0 (normalizeFrom false ts) = some 0 := balanced_of_ofInfix hqs
      rw [depth_normalizeFrom] at hbalanced
      exact hbalanced
  · rintro ⟨hbrackets, hbalanced⟩
    have hkind : ∀ t ∈ ts, t.kind = .openBracket ∨ t.kind = .closeBracket := by
      intro t ht
      simpa [isBracket] using hbrackets t ht
    have hnorm : normalizeMinus ts = ts := by
      apply normalizeFrom_of_forall_ne_minus
      intro t ht
      apply isMinus_eq_false
      rcases hkind t ht with hk | hk <;> simp [hk]
    have hplace : ∀ t ∈ ts, t.kind ≠ .bad ∧ t.kind ≠ .none := by
      intro t ht
      rcases hkind t ht with hk | hk <;> simp [hk]
    obtain ⟨ps, hps⟩ := exists_ofInfix_iff.mpr ⟨hplace, hbalanced⟩
    have hnothing : ts.filter (!isBracket ·) = [] := by
      rw [List.filter_eq_nil_iff]
      intro t ht
      simp [hbrackets t ht]
    have hperm := perm_ofInfix hps
    rw [hnothing, List.perm_nil] at hperm
    rw [hperm] at hps
    exact ⟨[], by rw [hnorm]; exact hps, rfl⟩

/-- **Compilation.** A sequence is converted exactly if each of its tokens has a place in an
    expression, no prefix closes more brackets than it opens, and as many are closed as opened. The
    output is the input without its brackets, rearranged, with the operands in their order. The
    compiled tokens of a text that have a place are the tokens of the text, without the brackets and
    with numbers for constants; the others are zeros, one for each minus that was expanded. -/
theorem compile_conserves (c : Calculator) (ts : List Token) (constants : ConstantTable)
    (functions : FunctionTable) (text : String) :
    ((∃ ps, ofInfix ts = .ok ps) ↔
      (∀ t ∈ ts, t.kind ≠ .bad ∧ t.kind ≠ .none) ∧
        (∀ front, front <+: ts → closed front ≤ opened front) ∧ opened ts = closed ts) ∧
    (∀ ps, ofInfix ts = .ok ps →
      ps.Perm (ts.filter (!isBracket ·)) ∧ (∀ t ∈ ps, isBracket t = false) ∧
        ps.filter (·.kind.isOperand) = ts.filter (·.kind.isOperand)) ∧
    (∀ ps, c.compile (Token.scan constants functions text) = .ok ps →
      (ps.filter (·.offset.isSome)).Perm (substituteConstants c.constants
        ((Token.scan constants functions text).filter (!isBracket ·))) ∧
      ps.filter (·.offset.isNone) =
        List.replicate (signCount false (Token.scan constants functions text))
          (.inserted .number "0")) := by
  have hplaced : ∀ t ∈ Token.scan constants functions text, t.offset.isSome = true := by
    intro t ht
    obtain ⟨n, hn⟩ := Token.exists_offset_of_mem_scan ht
    rw [hn]
    rfl
  refine ⟨?_, ?_, ?_⟩
  · rw [exists_ofInfix_iff, balanced_iff_prefixes]
  · intro ps h
    exact ⟨perm_ofInfix h, fun t ht => isBracket_of_mem_ofInfix h ht, filter_isOperand_ofInfix h⟩
  · intro ps h
    exact ⟨perm_placed_of_compile hplaced h, filter_unplaced_of_compile hplaced h⟩

end Calculator

end Abacus
