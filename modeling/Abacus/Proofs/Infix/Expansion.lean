import Abacus.Proofs.Infix.Minus

/-! # What the expansion of minus signs does

  The expansion goes through the tokens once, two at a time where it finds a sign. Here its result is
  described place by place (`normalizeFrom_eq_expansion`): every token is copied, in order; a bracket
  and a zero are put in before each sign, and a bracket after the operand of a sign. What is a sign is
  said of the given tokens alone (`isSign`).

  - The expansion may just as well look at the last token that it has put out, a bracket of its own
    perhaps, to see whether a minus has a left operand (`expandOnto_eq`).
  - What it puts out has no signs (`isSign_normalizeFrom`), so nothing is left for a second expansion.
-/

namespace Abacus.Infix

variable {afterSign afterValue : Bool} {t : Token} {ts : List Token}

/-! ### Signs -/

/-- Whether a value ends just before the place `i`; `afterValue` says whether one ends before the
    sequence. -/
def valueBefore (afterValue : Bool) (ts : List Token) : Nat → Bool
  | 0 => afterValue
  | i + 1 => ts[i]?.any (·.kind.endsValue)

/-- Whether the token at the place `i` is a sign: a minus without a left operand that stands directly
    before an operand. -/
def isSign (afterValue : Bool) (ts : List Token) (i : Nat) : Bool :=
  ts[i]?.any isMinus && !valueBefore afterValue ts i && ts[i + 1]?.any (·.kind.isOperand)

theorem isSign_zero :
    isSign afterValue (t :: ts) 0 =
      (isMinus t && !afterValue && ts.head?.any (·.kind.isOperand)) := by
  simp [isSign, valueBefore, List.head?_eq_getElem?]

theorem isSign_succ (i : Nat) :
    isSign afterValue (t :: ts) (i + 1) = isSign t.kind.endsValue ts i := by
  cases i with
  | zero => simp [isSign, valueBefore]
  | succ i => simp [isSign, valueBefore]

/-- A sequence has no signs if it does not begin with one and none comes later. -/
theorem forall_isSign_cons :
    (∀ i, isSign afterValue (t :: ts) i = false) ↔
      (isMinus t && !afterValue && ts.head?.any (·.kind.isOperand)) = false ∧
        ∀ i, isSign t.kind.endsValue ts i = false := by
  rw [← isSign_zero]
  constructor
  · intro h
    refine ⟨h 0, ?_⟩
    intro i
    rw [← isSign_succ]
    exact h (i + 1)
  · intro h i
    obtain ⟨hzero, hsucc⟩ := h
    cases i with
    | zero => exact hzero
    | succ i =>
      rw [isSign_succ]
      exact hsucc i

/-! ### The expansion, place by place -/

/-- Whether the token before the place `i` is a sign; `afterSign` says whether one stands before the
    sequence. -/
def signBefore (afterSign afterValue : Bool) (ts : List Token) : Nat → Bool
  | 0 => afterSign
  | i + 1 => isSign afterValue ts i

/-- What is put in before the token at the place `i`. -/
def openingAt (afterValue : Bool) (ts : List Token) (i : Nat) : List Token :=
  if isSign afterValue ts i then [.inserted .openBracket "(", .inserted .number "0"] else []

/-- What is put in after the token at the place `i`. -/
def closingAt (afterSign afterValue : Bool) (ts : List Token) (i : Nat) : List Token :=
  if signBefore afterSign afterValue ts i then [.inserted .closeBracket ")"] else []

/-- The tokens, each with what is put in around it. -/
def expansion (afterSign afterValue : Bool) (ts : List Token) : List Token :=
  ts.zipIdx.flatMap fun (t, i) =>
    openingAt afterValue ts i ++ t :: closingAt afterSign afterValue ts i

theorem signBefore_succ (i : Nat) :
    signBefore afterSign afterValue (t :: ts) (i + 1) =
      signBefore (isSign afterValue (t :: ts) 0) t.kind.endsValue ts i := by
  cases i with
  | zero => rfl
  | succ i => exact isSign_succ i

/-- Of the first token, the others need to know whether a value ends with it and whether it is a
    sign. -/
theorem expansion_cons (afterSign afterValue : Bool) (t : Token) (ts : List Token) :
    expansion afterSign afterValue (t :: ts) =
      openingAt afterValue (t :: ts) 0 ++ t :: closingAt afterSign afterValue (t :: ts) 0 ++
        expansion (isSign afterValue (t :: ts) 0) t.kind.endsValue ts := by
  have hopening : ∀ i, openingAt afterValue (t :: ts) (i + 1) = openingAt t.kind.endsValue ts i := by
    intro i
    unfold openingAt
    rw [isSign_succ]
  have hclosing : ∀ i, closingAt afterSign afterValue (t :: ts) (i + 1) =
      closingAt (isSign afterValue (t :: ts) 0) t.kind.endsValue ts i := by
    intro i
    unfold closingAt
    rw [signBefore_succ]
  rw [expansion, List.zipIdx_cons', List.flatMap_cons, List.flatMap_map]
  simp only [Prod.map_fst, Prod.map_snd, hopening, hclosing]
  rfl

/-- The expansion of minus signs, place by place. -/
theorem normalizeFrom_eq_expansion (afterValue : Bool) (ts : List Token) :
    normalizeFrom afterValue ts = expansion false afterValue ts := by
  fun_induction normalizeFrom afterValue ts with
  | case1 => rfl
  | case2 afterValue t =>
    have hsign : isSign afterValue [t] 0 = false := by
      rw [isSign_zero]
      simp
    rw [expansion_cons, openingAt, hsign]
    rfl
  | case3 afterValue t x rest h ih =>
    simp only [Bool.and_eq_true, Bool.not_eq_true'] at h
    obtain ⟨⟨hm, rfl⟩, hx⟩ := h
    have hsign : isSign false (t :: x :: rest) 0 = true := by
      rw [isSign_zero]
      simp [hm, hx]
    have hoperand : isSign t.kind.endsValue (x :: rest) 0 = false := by
      rw [isSign_zero, isMinus_of_isOperand hx]
      rfl
    rw [expansion_cons, openingAt, hsign, expansion_cons, openingAt, hoperand,
      endsValue_of_isOperand hx, ih]
    rfl
  | case4 afterValue t x rest h ih =>
    have hsign : isSign afterValue (t :: x :: rest) 0 = false := by
      rw [isSign_zero]
      exact Bool.eq_false_iff.mpr h
    rw [expansion_cons, openingAt, hsign, ih]
    rfl

/-! ### The last token put out -/

/-- The expansion as a stream: `out` has been put out so far, and its last token says whether a value
    ends there. -/
def expandOnto (out : List Token) : List Token → List Token
  | [] => out
  | [t] => out ++ [t]
  | t :: x :: rest =>
    if isMinus t && !out.getLast?.any (·.kind.endsValue) && x.kind.isOperand then
      expandOnto (out ++ negated t x) rest
    else expandOnto (out ++ [t]) (x :: rest)

/-- The last token put out ends a value exactly if the one before the tokens at hand does. -/
theorem expandOnto_eq (out ts : List Token) :
    expandOnto out ts = out ++ normalizeFrom (out.getLast?.any (·.kind.endsValue)) ts := by
  fun_induction expandOnto out ts with
  | case1 => simp [normalizeFrom]
  | case2 => simp [normalizeFrom]
  | case3 out t x rest h ih =>
    rw [ih, normalizeFrom, if_pos h, List.append_assoc]
    simp [negated, Token.inserted, TokenKind.endsValue]
  | case4 out t x rest h ih =>
    rw [ih, normalizeFrom, if_neg h, List.append_assoc]
    simp

/-! ### Expanding twice -/

/-- Tokens without signs stay as they are. -/
theorem normalizeFrom_of_forall_isSign (h : ∀ i, isSign afterValue ts i = false) :
    normalizeFrom afterValue ts = ts := by
  have hopening : ∀ i, openingAt afterValue ts i = [] := by
    intro i
    rw [openingAt, h i]
    rfl
  have hclosing : ∀ i, closingAt false afterValue ts i = [] := by
    intro i
    cases i with
    | zero => rfl
    | succ i =>
      rw [closingAt, signBefore, h i]
      rfl
  rw [normalizeFrom_eq_expansion, expansion]
  simp only [hopening, hclosing, List.nil_append]
  rw [← List.map_eq_flatMap]
  exact List.zipIdx_map_fst 0 ts

/-- What is put out begins with an operand only if the given tokens do. -/
theorem any_head?_normalizeFrom (h : (normalizeFrom afterValue ts).head?.any (·.kind.isOperand)) :
    ts.head?.any (·.kind.isOperand) := by
  fun_cases normalizeFrom afterValue ts with
  | case1 => exact h
  | case2 => exact h
  | case3 t x rest hsign =>
    -- A sign is put out after a bracket.
    rw [normalizeFrom, if_pos hsign] at h
    simp [negated, Token.inserted, TokenKind.isOperand] at h
  | case4 t x rest hsign =>
    rw [normalizeFrom, if_neg hsign] at h
    exact h

/-- What is put out has no signs: the minus of a sign now has a zero on its left. -/
theorem isSign_normalizeFrom (afterValue : Bool) (ts : List Token) :
    ∀ i, isSign afterValue (normalizeFrom afterValue ts) i = false := by
  fun_induction normalizeFrom afterValue ts with
  | case1 => simp [isSign]
  | case2 afterValue t => simp [isSign]
  | case3 afterValue t x rest h ih =>
    simp only [Bool.and_eq_true, Bool.not_eq_true'] at h
    simp [negated, forall_isSign_cons, Token.inserted, isMinus, TokenKind.endsValue,
      TokenKind.isOperand, ih]
  | case4 afterValue t x rest h ih =>
    refine forall_isSign_cons.mpr ⟨?_, ih⟩
    rw [Bool.eq_false_iff]
    intro hsign
    rw [Bool.and_eq_true] at hsign
    apply h
    rw [Bool.and_eq_true]
    exact ⟨hsign.1, any_head?_normalizeFrom hsign.2⟩

/-- **Expansion.** The expansion of minus signs copies every token and puts `( 0` before each sign and
    `)` after its operand, where the tokens given decide what is a sign. It is the same if the last
    token put out decides whether a minus has a left operand. Expanding twice is expanding once. -/
theorem normalizeMinus_expands (ts : List Token) :
    normalizeMinus ts = (ts.zipIdx.flatMap fun (t, i) =>
        openingAt false ts i ++ t :: closingAt false false ts i) ∧
      expandOnto [] ts = normalizeMinus ts ∧
      normalizeMinus (normalizeMinus ts) = normalizeMinus ts := by
  refine ⟨normalizeFrom_eq_expansion false ts, ?_, ?_⟩
  · rw [expandOnto_eq]
    rfl
  · exact normalizeFrom_of_forall_isSign (isSign_normalizeFrom false ts)

end Abacus.Infix
