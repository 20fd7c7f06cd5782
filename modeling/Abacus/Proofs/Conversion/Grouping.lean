import Abacus.Proofs.Conversion.Conservation

/-! # A bracket group is a block of the output

  A sequence that is converted by itself is converted to the same output between brackets, in
  whatever context they stand, and leaves nothing waiting there. So a group and a single operand are
  exchangeable, also in contexts that are malformed themselves (`ofInfix_group`).

  The argument is a frame property: above an opening bracket, a run that notes no problem neither
  releases what waits below nor depends on it (`read_above`).
-/

namespace Abacus.Postfix

namespace Conversion

variable {s base : Conversion} {t : Token} {ts : List Token}

/-! ### One conversion above another -/

/-- The conversion `s` with its tokens put out after those of `base`, and waiting on top of them. -/
def above (s base : Conversion) : Conversion where
  output := s.output ++ base.output
  pending := s.pending ++ base.pending
  openBrackets := s.openBrackets + base.openBrackets
  problems := s.problems ++ base.problems

@[simp] theorem start_above (base : Conversion) : start.above base = base := by
  simp [above, start]

/-- A release that stops at what waits below is a release of the upper conversion. -/
theorem release_above {p : Token → Bool} (s : Conversion)
    (hstop : ∀ t ∈ base.pending.head?, p t = false) :
    (s.above base).release p = (s.release p).above base := by
  -- Only the counter and the problems keep the whole from being an extension of `base`.
  let base' : Conversion :=
    { base with
      openBrackets := s.openBrackets + base.openBrackets
      problems := s.problems ++ base.problems }
  have hextend : s.above base = base'.extend s.output.reverse s.pending := by
    simp [above, extend, base']
  rw [hextend, release_extend_of_stops base' s.output.reverse s.pending hstop]
  simp [above, extend, release, base']

/-- A bracket of the upper conversion is closed there. -/
theorem closeBracket_above (s : Conversion) (hstop : ∀ t ∈ base.pending.head?, isOpen t = true)
    (h : s.closeBracket.problems = []) :
    (s.above base).closeBracket = s.closeBracket.above base := by
  have hrelease : (s.above base).release (!isOpen ·) = (s.release (!isOpen ·)).above base :=
    release_above s (fun t ht => by simp [hstop t ht])
  unfold closeBracket at h ⊢
  rw [hrelease]
  cases hp : (s.release (!isOpen ·)).pending with
  | nil => simp [hp, note] at h
  | cons o rest =>
    have hcounter : s.openBrackets + base.openBrackets - 1 =
        s.openBrackets - 1 + base.openBrackets := by omega
    have hdrop : s.pending.dropWhile (!isOpen ·) = o :: rest := hp
    simp [hdrop, above, release, hcounter]

/-- A step that notes no problem does the same above an opening bracket as by itself. -/
theorem step_above (hstop : ∀ t ∈ base.pending.head?, isOpen t = true)
    (h : (s.step t).problems = []) : (s.above base).step t = (s.step t).above base := by
  cases hk : t.kind with
  | number | identifier | constant =>
    have hop : t.kind.isOperand = true := by
      rw [hk]
      rfl
    rw [step_operand _ hop, step_operand _ hop]
    simp [extend, above]
  | openBracket =>
    have hcounter : s.openBrackets + base.openBrackets + 1 =
        s.openBrackets + 1 + base.openBrackets := by omega
    rw [step_openBracket _ hk, step_openBracket _ hk]
    simp [openBracket, push, above, hcounter]
  | closeBracket =>
    rw [step_closeBracket _ hk] at h ⊢
    rw [step_closeBracket _ hk]
    exact closeBracket_above s hstop h
  | function =>
    rw [step_function _ hk, step_function _ hk,
      release_above s (fun t ht => yieldsToFunction_of_isOpen (hstop t ht))]
    rfl
  | operator op =>
    rw [step_operator _ hk, step_operator _ hk,
      release_above s (fun t ht => bindsBefore_of_isOpen op (hstop t ht))]
    rfl
  | bad | none => simp [step, hk, note] at h

/-- Tokens that are read without a problem are read in the same way above an opening bracket: what
    lies below is neither released nor looked at. -/
theorem read_above (hstop : ∀ t ∈ base.pending.head?, isOpen t = true)
    (h : (s.read ts).problems = []) : (s.above base).read ts = (s.read ts).above base := by
  induction ts generalizing s with
  | nil => rfl
  | cons t ts ih =>
    rw [read_cons, step_above hstop (problems_of_read h), ih h, read_cons]

/-! ### Groups -/

/-- A sequence that is converted by itself puts out the same between brackets, and leaves nothing
    waiting. -/
theorem read_group {inner out : List Token} {o c : Token} (ho : o.kind = .openBracket)
    (hc : c.kind = .closeBracket) (h : ofInfix inner = .ok out) (s : Conversion) :
    s.read (o :: inner ++ [c]) = s.extend out [] := by
  obtain ⟨hproblems, hopen, rfl⟩ := ofInfix_eq_ok_iff.mp h
  obtain ⟨n, -, hclean⟩ := clean_start.read hproblems
  have hcounter := hclean.counter
  have hzero : (start.read inner).openBrackets = 0 := by omega
  -- All brackets of the sequence are closed, so none of them waits.
  have hwaiting : ∀ t ∈ (start.read inner).pending, isOpen t = false := by
    have hcount : (start.read inner).pending.countP isOpen = 0 := by
      rw [hclean.waiting]
      omega
    intro t ht
    simpa using List.countP_eq_zero.mp hcount t ht
  have hinner : (s.openBracket o).read inner =
      (s.openBracket o).extend (start.read inner).output.reverse (start.read inner).pending := by
    have hread : (start.above (s.openBracket o)).read inner =
        (start.read inner).above (s.openBracket o) :=
      read_above (forall_mem_head?_cons (by simp [isOpen, ho])) hproblems
    rw [start_above] at hread
    rw [hread]
    simp [above, extend, hproblems, hzero]
  rw [List.cons_append, read_cons, step_openBracket s ho, read_append, hinner, read_cons,
    read_nil, step_closeBracket _ hc]
  exact closeBracket_extend ho hwaiting

end Conversion

/-- **Grouping.** Let the tokens `inner` be converted to `out`. In every context, brackets around
    them stand for `out` just as an operand stands for itself: both sequences are refused for the
    same problems, or both are converted, and then to the same tokens but for that block. -/
theorem ofInfix_group {inner out : List Token} {o c : Token} (ho : o.kind = .openBracket)
    (hc : c.kind = .closeBracket) (h : ofInfix inner = .ok out) :
    (∀ (front back : List Token) (v : Token), v.kind.isOperand = true → v ∉ front → v ∉ back →
      (∃ problems, ofInfix (front ++ [v] ++ back) = .error problems ∧
        ofInfix (front ++ (o :: inner ++ [c]) ++ back) = .error problems) ∨
      (∃ before after, v ∉ before ∧ v ∉ after ∧
        ofInfix (front ++ [v] ++ back) = .ok (before ++ [v] ++ after) ∧
        ofInfix (front ++ (o :: inner ++ [c]) ++ back) = .ok (before ++ out ++ after))) ∧
    ofInfix (o :: inner ++ [c]) = ofInfix inner := by
  have hgroup := Conversion.read_group ho hc h
  constructor
  · intro front back v hv hfront hback
    obtain ⟨before, outcome, haround⟩ := Conversion.exists_ofInfix_between front back
    have hoperand : ∀ s : Conversion, s.read [v] = s.extend [v] [] :=
      fun s => Conversion.step_operand s hv
    rw [haround [v] [v] hoperand, haround _ out hgroup]
    cases houtcome : outcome with
    | error problems => exact .inl ⟨problems, rfl, rfl⟩
    | ok after =>
      -- What stands around the block comes from the context, where the operand does not occur.
      have hnone : ofInfix (front ++ [] ++ back) = .ok (before ++ [] ++ after) := by
        rw [haround [] [] (fun _ => rfl), houtcome]
        rfl
      have habsent : v ∉ before ++ [] ++ after := by
        intro hmem
        have hcontext := (mem_of_mem_ofInfix hnone hmem).1
        rw [List.append_nil, List.mem_append] at hcontext
        exact hcontext.elim hfront hback
      refine .inr ⟨before, after, ?_, ?_, rfl, rfl⟩
      · intro hmem
        exact habsent (by simp [hmem])
      · intro hmem
        exact habsent (by simp [hmem])
  · rw [h, Conversion.ofInfix_eq_ok_iff, hgroup]
    refine ⟨rfl, Int.le_refl _, ?_⟩
    simp [Conversion.start]

/-- The tokens of `3*x^y`, with the given tokens for `x`. -/
def productOfPower (base : List Token) : List Token :=
  let front : List Token := [.ofText .number "3" 0, .ofText (.operator .multiply) "*" 1]
  let back : List Token := [.ofText (.operator .exponent) "^" 12, .ofText .constant "y" 13]
  front ++ base ++ back

/-- The tokens of `1+sqrt 2` in `3*(1+sqrt 2)^y`. -/
def sumWithRoot : List Token :=
  [.ofText .number "1" 3, .ofText (.operator .add) "+" 4, .ofText .function "sqrt" 5,
    .ofText .number "2" 10]

/-- In `3*x^y`, the group `(1+sqrt 2)` may stand for `x`. -/
theorem ofInfix_group_sumWithRoot :
    ∃ before after out : List Token, ofInfix sumWithRoot = .ok out ∧
      ofInfix (productOfPower [.ofText .constant "x" 2]) =
        .ok (before ++ [.ofText .constant "x" 2] ++ after) ∧
      ofInfix (productOfPower
        (.ofText .openBracket "(" 2 :: sumWithRoot ++ [.ofText .closeBracket ")" 11])) =
        .ok (before ++ out ++ after) := by
  have hsum : ofInfix sumWithRoot = .ok [.ofText .number "1" 3, .ofText (.operator .add) "+" 4,
      .ofText .number "2" 10, .ofText .function "sqrt" 5] := by
    decide +kernel
  have hgroup := (ofInfix_group (o := .ofText .openBracket "(" 2)
    (c := .ofText .closeBracket ")" 11) rfl rfl hsum).1
    [.ofText .number "3" 0, .ofText (.operator .multiply) "*" 1]
    [.ofText (.operator .exponent) "^" 12, .ofText .constant "y" 13]
    (.ofText .constant "x" 2) rfl (by decide) (by decide)
  rcases hgroup with ⟨problems, hproblems, -⟩ | ⟨before, after, -, -, hoperand, hblock⟩
  · -- The product has no problems.
    have hok : (ofInfix (productOfPower [.ofText .constant "x" 2])).isOk = true := by
      decide +kernel
    have hproblems : ofInfix (productOfPower [.ofText .constant "x" 2]) = .error problems :=
      hproblems
    rw [hproblems] at hok
    cases hok
  · exact ⟨before, after, _, hsum, hoperand, hblock⟩

end Abacus.Postfix
