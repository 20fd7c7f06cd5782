import Abacus.Infix

/-! # Expanding minus signs

  One equation for each way in which the expansion treats the token at hand, and the sequences in
  which every minus has a left operand, of which nothing is expanded.
-/

namespace Abacus.Infix

variable {afterValue : Bool} {t : Token} {ts : List Token}

theorem isMinus_iff : isMinus t = true ↔ t.kind = .operator .subtract := by
  simp [isMinus]

theorem isMinus_eq_false (h : t.kind ≠ .operator .subtract) : isMinus t = false := by
  simp [isMinus, h]

theorem isMinus_of_isOperand (h : t.kind.isOperand = true) : isMinus t = false := by
  apply isMinus_eq_false
  intro hk
  rw [hk] at h
  exact Bool.false_ne_true h

theorem endsValue_of_isOperand (h : t.kind.isOperand = true) : t.kind.endsValue = true := by
  cases hk : t.kind with
  | closeBracket => rfl
  | number | constant | identifier | openBracket | function | operator op | bad | none =>
    rw [hk] at h
    exact h

/-- A token is copied if it is no minus, or has a left operand. -/
theorem normalizeFrom_cons (h : isMinus t = true → afterValue = true) :
    normalizeFrom afterValue (t :: ts) = t :: normalizeFrom t.kind.endsValue ts := by
  cases ts with
  | nil => simp [normalizeFrom]
  | cons x rest =>
    rw [normalizeFrom]
    by_cases hm : isMinus t = true
    · simp [h hm]
    · simp [hm]

/-- A token is copied if no operand comes next, a minus included. -/
theorem normalizeFrom_cons_of_head (h : ∀ x ∈ ts.head?, x.kind.isOperand = false) :
    normalizeFrom afterValue (t :: ts) = t :: normalizeFrom t.kind.endsValue ts := by
  cases ts with
  | nil => simp [normalizeFrom]
  | cons x rest =>
    have hx : x.kind.isOperand = false := h x rfl
    rw [normalizeFrom]
    simp [hx]

/-- A minus without a left operand is expanded together with the operand that follows it. -/
theorem normalizeFrom_minus {x : Token} (hm : isMinus t = true) (hx : x.kind.isOperand = true) :
    normalizeFrom false (t :: x :: ts) = negated t x ++ normalizeFrom true ts := by
  simp [normalizeFrom, hm, hx]

/-- An expansion puts in brackets and zeros, and keeps all that is there. -/
theorem mem_normalizeFrom (h : t ∈ normalizeFrom afterValue ts) :
    t ∈ ts ∨ t = .inserted .openBracket "(" ∨ t = .inserted .number "0" ∨
      t = .inserted .closeBracket ")" := by
  fun_induction normalizeFrom afterValue ts with
  | case1 => cases h
  | case2 => exact .inl h
  | case3 afterValue m x rest _ ih =>
    rcases List.mem_append.mp h with hneg | hrest
    · simp only [negated, List.mem_cons, List.not_mem_nil, or_false] at hneg
      rcases hneg with ho | hzero | rfl | rfl | hc
      · exact .inr (.inl ho)
      · exact .inr (.inr (.inl hzero))
      · exact .inl (by simp)
      · exact .inl (by simp)
      · exact .inr (.inr (.inr hc))
    · exact (ih hrest).imp_left fun hmem => by simp [hmem]
  | case4 afterValue m x rest _ ih =>
    rcases List.mem_cons.mp h with rfl | hrest
    · exact .inl List.mem_cons_self
    · exact (ih hrest).imp_left fun hmem => List.mem_cons_of_mem m hmem

/-- No token is lost. -/
theorem mem_normalizeFrom_of_mem (h : t ∈ ts) : t ∈ normalizeFrom afterValue ts := by
  fun_induction normalizeFrom afterValue ts with
  | case1 => exact h
  | case2 => exact h
  | case3 afterValue m x rest _ ih =>
    rw [List.mem_append]
    rcases List.mem_cons.mp h with rfl | h
    · exact .inl (by simp [negated])
    rcases List.mem_cons.mp h with rfl | h
    · exact .inl (by simp [negated])
    · exact .inr (ih h)
  | case4 afterValue m x rest _ ih =>
    rcases List.mem_cons.mp h with rfl | h
    · exact List.mem_cons_self
    · exact List.mem_cons_of_mem m (ih h)

/-- Nothing is expanded where there is no minus. -/
theorem normalizeFrom_of_forall_ne_minus (h : ∀ t ∈ ts, isMinus t = false) :
    normalizeFrom afterValue ts = ts := by
  induction ts generalizing afterValue with
  | nil => rfl
  | cons t ts ih =>
    obtain ⟨ht, hts⟩ := List.forall_mem_cons.mp h
    rw [normalizeFrom_cons (by simp [ht]), ih hts]

/-! ### Sequences in which every minus subtracts -/

/-- Whether each minus stands directly after a token that ends a value; `afterValue` says whether
    such a token stands before the sequence. -/
def minusesSubtract (afterValue : Bool) : List Token → Bool
  | [] => true
  | t :: ts => (!isMinus t || afterValue) && minusesSubtract t.kind.endsValue ts

theorem normalizeFrom_of_minusesSubtract (h : minusesSubtract afterValue ts = true) :
    normalizeFrom afterValue ts = ts := by
  induction ts generalizing afterValue with
  | nil => rfl
  | cons t ts ih =>
    simp only [minusesSubtract, Bool.and_eq_true, Bool.or_eq_true, Bool.not_eq_true'] at h
    obtain ⟨ht, hts⟩ := h
    have hsub : isMinus t = true → afterValue = true := by
      intro hm
      rcases ht with hf | ht
      · rw [hm] at hf
        cases hf
      · exact ht
    rw [normalizeFrom_cons hsub, ih hts]

/-- Whether a value ends just after the sequence. -/
def endsValueAfter (afterValue : Bool) (ts : List Token) : Bool :=
  ts.foldl (fun _ t => t.kind.endsValue) afterValue

theorem minusesSubtract_append (afterValue : Bool) (ts us : List Token) :
    minusesSubtract afterValue (ts ++ us) =
      (minusesSubtract afterValue ts && minusesSubtract (endsValueAfter afterValue ts) us) := by
  induction ts generalizing afterValue with
  | nil => simp [minusesSubtract, endsValueAfter]
  | cons t ts ih =>
    rw [List.cons_append, minusesSubtract, ih, minusesSubtract, Bool.and_assoc]
    rfl

end Abacus.Infix
