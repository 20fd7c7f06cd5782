import Abacus.Proofs.Conversion.Brackets

/-! # The conversion keeps all tokens but the brackets

  A token that is read without a problem is put out or waits, and a token that waits is put out
  later. Only brackets are dropped, and no bracket is ever put out. So the output has as many tokens
  with a property as the input, for every property that brackets do not have (`countP_ofInfix`), and
  is a permutation of the input without its brackets (`perm_ofInfix`). Operands never wait, so they
  come out in the order in which they stand (`filter_isOperand_ofInfix`).
-/

namespace Abacus.Postfix

/-- Whether the token is a bracket. -/
def isBracket (t : Token) : Bool :=
  t.kind = .openBracket || t.kind = .closeBracket

namespace Conversion

variable {s : Conversion} {t : Token} {ts : List Token} {p : Token → Bool}

/-- The number of tokens with the property that were put out or wait. -/
def held (s : Conversion) (p : Token → Bool) : Nat :=
  s.output.countP p + s.pending.countP p

/-- A release only moves tokens. -/
theorem held_release (q : Token → Bool) : (s.release q).held p = s.held p := by
  have hsplit : (s.pending.takeWhile q).countP p + (s.pending.dropWhile q).countP p =
      s.pending.countP p := by
    rw [← List.countP_append, List.takeWhile_append_dropWhile]
  show ((s.pending.takeWhile q).reverse ++ s.output).countP p +
    (s.pending.dropWhile q).countP p = s.output.countP p + s.pending.countP p
  rw [List.countP_append, List.countP_reverse]
  omega

theorem held_push : (s.push t).held p = s.held p + [t].countP p := by
  show s.output.countP p + (t :: s.pending).countP p = _
  rw [List.countP_cons, List.countP_singleton, held]
  omega

theorem held_emit : (s.emit t).held p = s.held p + [t].countP p := by
  show (t :: s.output).countP p + s.pending.countP p = _
  rw [List.countP_cons, List.countP_singleton, held]
  omega

/-- A closed bracket is dropped, and nothing else. -/
theorem held_closeBracket (hp : ∀ t, isBracket t = true → p t = false)
    (h : s.closeBracket.problems = []) : s.closeBracket.held p = s.held p := by
  have hrelease := held_release (s := s) (p := p) (!isOpen ·)
  unfold closeBracket at h ⊢
  cases hpending : (s.release (!isOpen ·)).pending with
  | nil => simp [hpending, note] at h
  | cons o rest =>
    have hpo : p o = false := by
      apply hp
      have ho := isOpen_of_pending_release hpending
      simp only [isOpen, decide_eq_true_eq] at ho
      simp [isBracket, ho]
    -- The property fails for the bracket on top, so dropping it changes no count.
    rw [held, hpending, List.countP_cons_of_neg (by simp [hpo])] at hrelease
    simp only [hpending]
    exact hrelease

/-- A step that notes no problem keeps its token, unless that is a bracket. -/
theorem held_step (hp : ∀ t, isBracket t = true → p t = false)
    (h : (s.step t).problems = []) : (s.step t).held p = s.held p + [t].countP p := by
  have hbracket : isBracket t = true → [t].countP p = 0 := by
    intro hb
    simp [hp t hb]
  unfold step at h ⊢
  cases hk : t.kind with
  | number | identifier | constant => exact held_emit
  | openBracket =>
    show (s.push t).held p = _
    exact held_push
  | closeBracket =>
    rw [hk] at h
    rw [hbracket (by simp [isBracket, hk])]
    exact held_closeBracket hp h
  | function =>
    rw [← held_release (s := s) yieldsToFunction]
    exact held_push
  | operator op =>
    rw [← held_release (s := s) (bindsBefore op)]
    exact held_push
  | bad | none => simp [hk, note] at h

theorem held_read (hp : ∀ t, isBracket t = true → p t = false)
    (h : (s.read ts).problems = []) : (s.read ts).held p = s.held p + ts.countP p := by
  induction ts generalizing s with
  | nil => rfl
  | cons t ts ih =>
    rw [read_cons, ih h, held_step hp (problems_of_read h), Nat.add_assoc, ← List.countP_append]
    rfl

end Conversion

/-- The output of a conversion has the tokens of its input, without the brackets. -/
theorem countP_ofInfix {p : Token → Bool} (hp : ∀ t, isBracket t = true → p t = false)
    {ts ps : List Token} (h : ofInfix ts = .ok ps) : ps.countP p = ts.countP p := by
  obtain ⟨hproblems, -, rfl⟩ := Conversion.ofInfix_eq_ok_iff.mp h
  have hread := Conversion.held_read hp hproblems
  rw [List.countP_append, List.countP_reverse]
  have hstart : Conversion.start.held p = 0 := rfl
  rw [hstart, Nat.zero_add] at hread
  exact hread

/-- A conversion changes no count of tokens by their kind, if brackets are not counted. -/
theorem countP_kind_ofInfix {f : TokenKind → Bool} (ho : f .openBracket = false)
    (hc : f .closeBracket = false) {ts ps : List Token} (h : ofInfix ts = .ok ps) :
    ps.countP (f ·.kind) = ts.countP (f ·.kind) := by
  refine countP_ofInfix ?_ h
  intro t ht
  simp only [isBracket, Bool.or_eq_true, decide_eq_true_eq] at ht
  rcases ht with hk | hk
  · rw [hk, ho]
  · rw [hk, hc]

/-! ### No bracket is put out -/

namespace Conversion

variable {s : Conversion} {t : Token} {ts : List Token} {p : Token → Bool}

/-- No bracket was put out, and no closing one waits. -/
structure Unbracketed (s : Conversion) : Prop where
  /-- What was put out. -/
  output : ∀ t ∈ s.output, isBracket t = false
  /-- What waits. -/
  pending : ∀ t ∈ s.pending, t.kind ≠ .closeBracket

theorem unbracketed_start : start.Unbracketed :=
  ⟨by simp [start], by simp [start]⟩

theorem Unbracketed.emit (h : s.Unbracketed) (ht : isBracket t = false) :
    (s.emit t).Unbracketed :=
  ⟨List.forall_mem_cons.mpr ⟨ht, h.output⟩, h.pending⟩

theorem Unbracketed.push (h : s.Unbracketed) (ht : t.kind ≠ .closeBracket) :
    (s.push t).Unbracketed :=
  ⟨h.output, List.forall_mem_cons.mpr ⟨ht, h.pending⟩⟩

/-- A release that spares opening brackets puts out no bracket. -/
theorem Unbracketed.release (h : s.Unbracketed) (hp : ∀ t, isOpen t = true → p t = false) :
    (s.release p).Unbracketed := by
  refine ⟨?_, fun t ht => h.pending t (List.dropWhile_subset p ht)⟩
  intro t ht
  have ht : t ∈ (s.pending.takeWhile p).reverse ++ s.output := ht
  rcases List.mem_append.mp ht with ht | ht
  · have ht := List.mem_reverse.mp ht
    have hclose : t.kind ≠ .closeBracket := h.pending t (List.takeWhile_subset p ht)
    -- The condition holds of what is released, and of no opening bracket.
    have hopen : t.kind ≠ .openBracket := by
      intro hk
      have hpt : p t = true := List.mem_takeWhile_imp ht
      rw [hp t (by simp [isOpen, hk])] at hpt
      cases hpt
    simp [isBracket, hopen, hclose]
  · exact h.output t ht

theorem Unbracketed.closeBracket (h : s.Unbracketed) : s.closeBracket.Unbracketed := by
  have hrelease : (s.release (!isOpen ·)).Unbracketed := h.release (by simp)
  unfold Conversion.closeBracket
  cases hpending : (s.release (!isOpen ·)).pending with
  | nil =>
    simp only [hpending]
    exact ⟨hrelease.output, by simp [note]⟩
  | cons o rest =>
    simp only [hpending]
    refine ⟨hrelease.output, ?_⟩
    intro t ht
    exact hrelease.pending t (by rw [hpending]; exact List.mem_cons_of_mem o ht)

theorem Unbracketed.step (h : s.Unbracketed) (t : Token) : (s.step t).Unbracketed := by
  unfold Conversion.step
  cases hk : t.kind with
  | number | identifier | constant => exact h.emit (by simp [isBracket, hk])
  | openBracket =>
    have hpush : (s.push t).Unbracketed := h.push (by simp [hk])
    exact ⟨hpush.output, hpush.pending⟩
  | closeBracket => exact h.closeBracket
  | function => exact (h.release fun _ => yieldsToFunction_of_isOpen).push (by simp [hk])
  | operator op => exact (h.release fun _ => bindsBefore_of_isOpen op).push (by simp [hk])
  | bad | none => exact ⟨h.output, h.pending⟩

theorem Unbracketed.read (h : s.Unbracketed) (ts : List Token) : (s.read ts).Unbracketed := by
  induction ts generalizing s with
  | nil => exact h
  | cons t ts ih => exact ih (h.step t)

end Conversion

variable {ts ps : List Token} {t : Token}

/-- The output of a conversion has no brackets. -/
theorem isBracket_of_mem_ofInfix (h : ofInfix ts = .ok ps) (ht : t ∈ ps) : isBracket t = false := by
  obtain ⟨hproblems, hopen, rfl⟩ := Conversion.ofInfix_eq_ok_iff.mp h
  have hunbracketed := Conversion.unbracketed_start.read ts
  rcases List.mem_append.mp ht with ht | ht
  · exact hunbracketed.output t (List.mem_reverse.mp ht)
  · -- As the brackets balance, no opening one waits either.
    obtain ⟨n, -, hclean⟩ := Conversion.clean_start.read hproblems
    have hnone : (Conversion.start.read ts).pending.countP Conversion.isOpen = 0 := by
      have hcounter := hclean.counter
      rw [hclean.waiting]
      omega
    have ho := List.countP_eq_zero.mp hnone t ht
    have hc := hunbracketed.pending t ht
    simp only [Conversion.isOpen, decide_eq_true_eq] at ho
    simp [isBracket, ho, hc]

/-- A conversion rearranges the tokens of its input, without the brackets. -/
theorem perm_ofInfix (h : ofInfix ts = .ok ps) : ps.Perm (ts.filter (!isBracket ·)) := by
  rw [List.perm_iff_count]
  intro t
  by_cases ht : isBracket t = true
  · -- A bracket is on neither side.
    rw [List.count_eq_zero.mpr, List.count_eq_zero.mpr]
    · simp [ht]
    · intro hmem
      rw [isBracket_of_mem_ofInfix h hmem] at ht
      cases ht
  · rw [List.count_filter (by simpa using ht)]
    refine countP_ofInfix ?_ h
    intro u hu
    rw [beq_eq_false_iff_ne]
    rintro rfl
    exact ht hu

/-- Every token of the output is one of the input. -/
theorem mem_of_mem_ofInfix (h : ofInfix ts = .ok ps) (ht : t ∈ ps) :
    t ∈ ts ∧ isBracket t = false := by
  have hmem := (perm_ofInfix h).mem_iff.mp ht
  simpa using List.mem_filter.mp hmem

/-! ### Operands keep their order -/

namespace Conversion

variable {s : Conversion} {t : Token} {ts xs : List Token}

/-- The operands `xs` were put out, in this order, and none waits. -/
structure Delivers (s : Conversion) (xs : List Token) : Prop where
  /-- What was put out. -/
  output : s.output.reverse.filter (·.kind.isOperand) = xs
  /-- What waits. -/
  pending : ∀ t ∈ s.pending, t.kind.isOperand = false

theorem delivers_start : start.Delivers [] :=
  ⟨rfl, by simp [start]⟩

theorem Delivers.push (h : s.Delivers xs) (ht : t.kind.isOperand = false) :
    (s.push t).Delivers xs :=
  ⟨h.output, List.forall_mem_cons.mpr ⟨ht, h.pending⟩⟩

/-- What is released are no operands. -/
theorem Delivers.release (h : s.Delivers xs) (p : Token → Bool) : (s.release p).Delivers xs := by
  have hreleased : (s.pending.takeWhile p).filter (·.kind.isOperand) = [] := by
    rw [List.filter_eq_nil_iff]
    intro t ht
    simp [h.pending t (List.takeWhile_subset p ht)]
  refine ⟨?_, fun t ht => h.pending t (List.dropWhile_subset p ht)⟩
  show ((s.pending.takeWhile p).reverse ++ s.output).reverse.filter _ = xs
  rw [List.reverse_append, List.reverse_reverse, List.filter_append, hreleased, List.append_nil]
  exact h.output

theorem Delivers.closeBracket (h : s.Delivers xs) : s.closeBracket.Delivers xs := by
  have hrelease := h.release (!isOpen ·)
  unfold Conversion.closeBracket
  cases hpending : (s.release (!isOpen ·)).pending with
  | nil =>
    simp only [hpending]
    exact ⟨hrelease.output, by simp [note]⟩
  | cons o rest =>
    simp only [hpending]
    refine ⟨hrelease.output, ?_⟩
    intro t ht
    exact hrelease.pending t (by rw [hpending]; exact List.mem_cons_of_mem o ht)

/-- A step puts its token out if that is an operand, and no other operand. -/
theorem Delivers.step (h : s.Delivers xs) (t : Token) :
    (s.step t).Delivers (xs ++ [t].filter (·.kind.isOperand)) := by
  cases hop : t.kind.isOperand with
  | true =>
    rw [step_operand s hop, List.filter_cons_of_pos (by simp [hop])]
    exact ⟨by simp [h.output, hop], h.pending⟩
  | false =>
    rw [List.filter_cons_of_neg (by simp [hop]), List.filter_nil, List.append_nil]
    unfold Conversion.step
    cases hk : t.kind with
    | number | identifier | constant => simp [hk, TokenKind.isOperand] at hop
    | openBracket =>
      have hpush := h.push hop
      exact ⟨hpush.output, hpush.pending⟩
    | closeBracket => exact h.closeBracket
    | function => exact (h.release yieldsToFunction).push hop
    | operator op => exact (h.release (bindsBefore op)).push hop
    | bad | none => exact ⟨h.output, h.pending⟩

theorem Delivers.read (h : s.Delivers xs) (ts : List Token) :
    (s.read ts).Delivers (xs ++ ts.filter (·.kind.isOperand)) := by
  induction ts generalizing s xs with
  | nil =>
    rw [List.filter_nil, List.append_nil]
    exact h
  | cons t ts ih =>
    have hread := ih (h.step t)
    rwa [List.append_assoc, ← List.filter_append] at hread

end Conversion

/-- A conversion keeps the order of the operands. -/
theorem filter_isOperand_ofInfix (h : ofInfix ts = .ok ps) :
    ps.filter (·.kind.isOperand) = ts.filter (·.kind.isOperand) := by
  obtain ⟨-, -, rfl⟩ := Conversion.ofInfix_eq_ok_iff.mp h
  have hread := Conversion.delivers_start.read ts
  have hpending : (Conversion.start.read ts).pending.filter (·.kind.isOperand) = [] := by
    rw [List.filter_eq_nil_iff]
    intro t ht
    simp [hread.pending t ht]
  rw [List.filter_append, hread.output, hpending, List.append_nil, List.nil_append]

end Abacus.Postfix
