import Abacus.Proofs.Conversion.Borrowing
import Abacus.Proofs.Conversion.Matching
import Mathlib.Data.List.Chain
import Mathlib.Data.List.Perm.Subperm

/-! # The order of the tokens that wait

  Opening brackets cut the waiting tokens into groups. In each group functions lie at the bottom, and
  on them operators that bind ever more tightly (`Ascends`), so at most three operators wait between
  two brackets (`groups_ascend`).

  Two facts give this:

  - Neighbours are in order (`InPlace`). A release stops at the first token that does not have to give
    way, and on that one the next token may lie.
  - Inside a group the order of neighbours is transitive, so it holds of any two tokens.
-/

namespace Abacus.Postfix

variable {t below : Token} {ts us g fs ops : List Token}

/-! ### Groups -/

/-- What a group is, its earliest token first: functions, and operators above them. -/
structure Ascends (fs ops : List Token) : Prop where
  /-- The functions. -/
  functions : ∀ t ∈ fs, t.kind = .function
  /-- The operators. -/
  operators : ∀ t ∈ ops, t.kind.isOperator = true
  /-- Each operator binds more tightly than those below it. -/
  increasing : ops.Pairwise (·.kind.precedence < ·.kind.precedence)
  /-- No sum or difference waits above a function. -/
  tight : fs ≠ [] → ∀ t ∈ ops, 2 ≤ t.kind.precedence

/-- No operator of a group lies below a function of it. -/
theorem Ascends.isOperator_below (h : Ascends fs ops) {lower upper : List Token} {f : Token}
    (heq : fs ++ ops = lower ++ f :: upper) (hf : f.kind = .function) :
    ∀ t ∈ lower, t.kind.isOperator = false := by
  intro t ht
  rcases List.append_eq_append_iff.mp heq with ⟨mid, -, hops⟩ | ⟨mid, rfl, -⟩
  · -- The function would be among the operators.
    have hmem : f ∈ ops := by
      rw [hops]
      exact List.mem_append_right mid List.mem_cons_self
    have hop := h.operators f hmem
    simp [hf] at hop
  · have hk := h.functions t (List.mem_append_left mid ht)
    simp [hk]

/-- There are three precedences, so at most three operators wait in a group. -/
theorem Ascends.countP_isOperator_le (h : Ascends fs ops) :
    (fs ++ ops).countP (·.kind.isOperator) ≤ 3 := by
  have hnodup : (ops.map (·.kind.precedence)).Nodup := by
    apply List.pairwise_map.mpr
    apply h.increasing.imp
    intro lower upper hlt
    exact Nat.ne_of_lt hlt
  have hsubset : ops.map (·.kind.precedence) ⊆ [1, 2, 3] := by
    intro n hn
    obtain ⟨t, ht, rfl⟩ := List.mem_map.mp hn
    obtain ⟨op, hop⟩ := TokenKind.isOperator_iff.mp (h.operators t ht)
    cases op <;> simp [hop, TokenKind.precedence, Operator.precedence]
  have hlength : ops.length ≤ 3 := by
    have hle := (List.subperm_of_subset hnodup hsubset).length_le
    rwa [List.length_map] at hle
  calc (fs ++ ops).countP (·.kind.isOperator)
      = fs.countP (·.kind.isOperator) + ops.countP (·.kind.isOperator) := List.countP_append
    _ = ops.countP (·.kind.isOperator) := by
        rw [countP_isOperator_of_functions h.functions, Nat.zero_add]
    _ ≤ ops.length := List.countP_le_length
    _ ≤ 3 := hlength

/-! ### The order in a group -/

/-- Whether a token may lie above another one in a group: a function above a function, and an operator
    above what binds less tightly. -/
def LiesOn (t below : Token) : Prop :=
  match t.kind with
  | .function => below.kind = .function
  | .operator op => below.kind.precedence < op.precedence
  | .bad | .none | .identifier | .constant | .number | .openBracket | .closeBracket => False

theorem liesOn_function (h : t.kind = .function) : LiesOn t below ↔ below.kind = .function := by
  simp [LiesOn, h]

theorem liesOn_operator {op : Operator} (h : t.kind = .operator op) :
    LiesOn t below ↔ below.kind.precedence < op.precedence := by
  simp [LiesOn, h]

/-- Only functions and operators lie above anything. -/
theorem LiesOn.kind (h : LiesOn t below) : t.kind = .function ∨ ∃ op, t.kind = .operator op := by
  unfold LiesOn at h
  cases hk : t.kind with
  | function => exact .inl rfl
  | operator op => exact .inr ⟨op, rfl⟩
  | bad | none | identifier | constant | number | openBracket | closeBracket => simp [hk] at h

theorem LiesOn.trans {mid : Token} (h : LiesOn t mid) (h' : LiesOn mid below) : LiesOn t below := by
  rcases h.kind with hf | ⟨op, hop⟩
  · have hmid := (liesOn_function hf).mp h
    exact (liesOn_function hf).mpr ((liesOn_function hmid).mp h')
  · have hlt := (liesOn_operator hop).mp h
    apply (liesOn_operator hop).mpr
    rcases h'.kind with hmid | ⟨op', hmid⟩
    · -- Two functions bind alike.
      have hbelow := (liesOn_function hmid).mp h'
      rwa [hbelow, ← hmid]
    · have hlt' := (liesOn_operator hmid).mp h'
      rw [hmid] at hlt
      exact Nat.lt_trans hlt' hlt

instance : Trans LiesOn LiesOn LiesOn :=
  ⟨LiesOn.trans⟩

/-- Tokens that lie on each other in this order are a group. -/
theorem exists_ascends_of_pairwise (hkind : ∀ t ∈ g, t.kind = .function ∨ t.kind.isOperator = true)
    (horder : g.Pairwise (fun below t => LiesOn t below)) :
    ∃ fs ops, g = fs ++ ops ∧ Ascends fs ops := by
  -- By induction on the group, with a token put below the others.
  induction g with
  | nil => exact ⟨[], [], rfl, by simp, by simp, List.Pairwise.nil, by simp⟩
  | cons t g ih =>
    obtain ⟨ht, hg⟩ := List.forall_mem_cons.mp hkind
    obtain ⟨habove, hrest⟩ := List.pairwise_cons.mp horder
    obtain ⟨fs, ops, rfl, hfs, hops, hinc, -⟩ := ih hg hrest
    -- An operator of the group binds more tightly than the token that is now below it.
    have hlt : ∀ u ∈ ops, t.kind.precedence < u.kind.precedence := by
      intro u hu
      obtain ⟨op, hop⟩ := TokenKind.isOperator_iff.mp (hops u hu)
      have hlies := habove u (List.mem_append_right fs hu)
      rw [hop]
      exact (liesOn_operator hop).mp hlies
    rcases ht with hf | hop
    · refine ⟨t :: fs, ops, rfl, List.forall_mem_cons.mpr ⟨hf, hfs⟩, hops, hinc, ?_⟩
      intro _ u hu
      have hu := hlt u hu
      rw [hf] at hu
      exact hu
    · -- No function lies on an operator.
      have hnil : fs = [] := by
        apply List.eq_nil_iff_forall_not_mem.mpr
        intro f hmem
        have hlies := habove f (List.mem_append_left ops hmem)
        have hk := (liesOn_function (hfs f hmem)).mp hlies
        simp [hk] at hop
      rw [hnil]
      refine ⟨[], t :: ops, rfl, by simp, List.forall_mem_cons.mpr ⟨hop, hops⟩, ?_, by simp⟩
      exact List.pairwise_cons.mpr ⟨hlt, hinc⟩

namespace Conversion

variable {s : Conversion} {p : Token → Bool}

/-! ### The order of neighbours -/

/-- The tokens, the latest first, are of kinds that wait, and each may lie on the one below it: where a
    bracket is opened, and inside the brackets if their order allows it. -/
structure InPlace (ts : List Token) : Prop where
  /-- What waits. -/
  kind : ∀ t ∈ ts, t.kind = .openBracket ∨ t.kind = .function ∨ t.kind.isOperator = true
  /-- Neighbours. -/
  order : ts.IsChain (fun t below => isOpen t = true ∨ isOpen below = true ∨ LiesOn t below)

theorem inPlace_start : InPlace start.pending :=
  ⟨by simp [start], List.isChain_nil⟩

theorem InPlace.of_suffix (h : InPlace ts) (hus : us <:+ ts) : InPlace us := by
  refine ⟨?_, h.order.suffix hus⟩
  intro t ht
  exact h.kind t (hus.subset ht)

/-- A token that waits after a release lies on the first token that does not give way. -/
theorem InPlace.push_release (h : InPlace s.pending)
    (hkind : t.kind = .function ∨ t.kind.isOperator = true)
    (hlies : ∀ below ∈ s.pending, p below = false → isOpen below = true ∨ LiesOn t below) :
    InPlace ((s.release p).push t).pending := by
  have hkept : InPlace (s.pending.dropWhile p) := h.of_suffix (List.dropWhile_suffix p)
  show InPlace (t :: s.pending.dropWhile p)
  refine ⟨List.forall_mem_cons.mpr ⟨.inr hkind, hkept.kind⟩, ?_⟩
  apply List.isChain_cons.mpr
  refine ⟨?_, hkept.order⟩
  intro below hbelow
  have hmem : below ∈ s.pending := List.dropWhile_subset p (List.mem_of_mem_head? hbelow)
  have hstops : p below = false := by
    have hhead := List.head?_dropWhile_not p s.pending
    rw [Option.mem_def.mp hbelow] at hhead
    exact hhead
  exact .inr (hlies below hmem hstops)

theorem InPlace.closeBracket (h : InPlace s.pending) : InPlace s.closeBracket.pending := by
  have hkept : InPlace (s.release (!isOpen ·)).pending := h.of_suffix (List.dropWhile_suffix _)
  unfold Conversion.closeBracket
  cases hp : (s.release (!isOpen ·)).pending with
  | nil =>
    simp only [hp, note]
    exact ⟨by simp, List.isChain_nil⟩
  | cons o rest =>
    rw [hp] at hkept
    simp only [hp]
    exact hkept.of_suffix (List.suffix_cons o rest)

/-- **One token.** Whatever token is read, those that wait stay in place. -/
theorem InPlace.step (h : InPlace s.pending) (t : Token) : InPlace (s.step t).pending := by
  unfold Conversion.step
  cases hk : t.kind with
  | number | identifier | constant | bad | none => exact h
  | closeBracket => exact h.closeBracket
  | openBracket =>
    show InPlace (t :: s.pending)
    refine ⟨List.forall_mem_cons.mpr ⟨.inl hk, h.kind⟩, ?_⟩
    apply List.isChain_cons.mpr
    refine ⟨?_, h.order⟩
    intro below _
    exact .inl (by simp [isOpen, hk])
  | function =>
    apply h.push_release (.inl hk)
    intro below hbelow hstops
    -- A function spares functions, and opening brackets.
    rcases h.kind below hbelow with hopen | hf | hop
    · exact .inl (by simp [isOpen, hopen])
    · exact .inr ((liesOn_function hk).mpr hf)
    · obtain ⟨op, hop⟩ := TokenKind.isOperator_iff.mp hop
      rw [yieldsToFunction_of_operator hop] at hstops
      cases hstops
  | operator op =>
    apply h.push_release (.inr (by simp [hk]))
    intro below _ hstops
    -- An operator spares what binds less tightly.
    have hlt : below.kind.precedence < op.precedence := by
      simpa [bindsBefore] using hstops
    exact .inr ((liesOn_operator hk).mpr hlt)

theorem InPlace.read (h : InPlace s.pending) (ts : List Token) : InPlace (s.read ts).pending := by
  induction ts generalizing s with
  | nil => exact h
  | cons t ts ih => exact ih (h.step t)

/-! ### From neighbours to groups -/

/-- The waiting tokens, cut at the opening brackets, from the outermost group to the innermost one and
    in each of them from the earliest token to the latest. -/
def groups (s : Conversion) : List (List Token) :=
  s.pending.reverse.splitOnP isOpen

/-- The pieces of a sequence that is cut lie in it, and have none of the tokens where it is cut. -/
theorem piece_of_mem_splitOnPPrepend {acc : List Token} (hacc : ∀ t ∈ acc, p t = false)
    (hg : g ∈ List.splitOnPPrepend p ts acc) :
    g <:+: acc.reverse ++ ts ∧ ∀ t ∈ g, p t = false := by
  induction ts generalizing acc with
  | nil =>
    rw [List.splitOnPPrepend_nil, List.mem_singleton] at hg
    rw [hg]
    exact ⟨(List.prefix_append acc.reverse []).isInfix, by simpa using hacc⟩
  | cons t ts ih =>
    by_cases ht : p t = true
    · rw [List.splitOnPPrepend_cons_pos ht, ← List.splitOnPPrepend_nil_right] at hg
      rcases List.mem_cons.mp hg with rfl | hg
      · exact ⟨(List.prefix_append acc.reverse (t :: ts)).isInfix, by simpa using hacc⟩
      · obtain ⟨hpiece, hnone⟩ := ih (by simp) hg
        have hsuffix : ts <:+ acc.reverse ++ t :: ts :=
          (List.suffix_cons t ts).trans (List.suffix_append acc.reverse (t :: ts))
        exact ⟨hpiece.trans hsuffix.isInfix, hnone⟩
    · have ht : p t = false := by simpa using ht
      rw [List.splitOnPPrepend_cons_neg ht] at hg
      have hcons := ih (List.forall_mem_cons.mpr ⟨ht, hacc⟩) hg
      simpa using hcons

/-- A group is a piece of what waits, and no bracket is opened in it. -/
theorem piece_of_mem_groups (h : g ∈ s.groups) :
    g.reverse <:+: s.pending ∧ ∀ t ∈ g, isOpen t = false := by
  unfold groups at h
  rw [← List.splitOnPPrepend_nil_right] at h
  obtain ⟨hpiece, hnone⟩ := piece_of_mem_splitOnPPrepend (by simp) h
  refine ⟨?_, hnone⟩
  apply List.reverse_infix.mp
  rwa [List.reverse_reverse]

/-- Neighbours in order make groups in order. -/
theorem InPlace.exists_ascends (h : InPlace s.pending) (hg : g ∈ s.groups) :
    ∃ fs ops, g = fs ++ ops ∧ Ascends fs ops := by
  obtain ⟨hpiece, hnone⟩ := piece_of_mem_groups hg
  apply exists_ascends_of_pairwise
  · intro t ht
    have hopen := hnone t ht
    rcases h.kind t (hpiece.subset (List.mem_reverse.mpr ht)) with hk | hk
    · simp [isOpen, hk] at hopen
    · exact hk
  · have hchain : g.reverse.IsChain LiesOn := by
      have hneighbours := List.IsChain.infix h.order hpiece
      apply hneighbours.imp_of_mem_imp
      intro t below ht hbelow horder
      simpa [hnone t (List.mem_reverse.mp ht), hnone below (List.mem_reverse.mp hbelow)] using horder
    exact List.pairwise_reverse.mp hchain.pairwise

/-! ### The invariant -/

/-- The opening brackets that wait are those that the counter has open, and those that closing brackets
    without counterpart took from it. -/
theorem countP_isOpen_read (ts : List Token) :
    ((start.read ts).pending.countP isOpen : Int) =
      (start.read ts).openBrackets + (start.read ts).problems.count .unmatchedCloseBracket := by
  have htracks := tracks_start.read ts
  rw [List.nil_append] at htracks
  rw [htracks.waiting, htracks.counter, htracks.problems, List.count_reverse]
  omega

/-- **What waits.** However many tokens of a sequence were read, the waiting ones are groups between
    opening brackets, and each group has functions first and then operators that bind ever more
    tightly, more tightly than sums if there is a function. So no operator of a group lies below a
    function of it, and there are at most three. The opening brackets are those of the counter, unless a
    closing bracket without counterpart was found. -/
theorem groups_ascend (ts : List Token) (n : Nat) :
    let s := start.read (ts.take n)
    (∀ g ∈ s.groups,
      (∃ fs ops, g = fs ++ ops ∧ Ascends fs ops) ∧
      (∀ lower f upper, g = lower ++ f :: upper → f.kind = .function →
        ∀ t ∈ lower, t.kind.isOperator = false) ∧
      g.countP (·.kind.isOperator) ≤ 3) ∧
    (.unmatchedCloseBracket ∉ s.problems → (s.pending.countP isOpen : Int) = s.openBrackets) := by
  intro s
  have hplace : InPlace s.pending := inPlace_start.read (ts.take n)
  constructor
  · intro g hg
    obtain ⟨fs, ops, rfl, hascends⟩ := hplace.exists_ascends hg
    refine ⟨⟨fs, ops, rfl, hascends⟩, ?_, hascends.countP_isOperator_le⟩
    intro lower f upper heq hf
    exact hascends.isOperator_below heq hf
  · intro hnone
    have hcount := countP_isOpen_read (ts.take n)
    rw [List.count_eq_zero.mpr hnone] at hcount
    simpa using hcount

/-- After `sin cos 2 * (1 + 3 * 4 ^` the product waits above two functions, and all three precedences in
    the bracket. -/
example :
    (start.read (Token.scan .standard .standard "sin cos 2 * (1 + 3 * 4 ^")).groups.map
      (·.map Token.lexeme) = [["sin", "cos", "*"], ["+", "*", "^"]] := by
  decide +kernel

end Conversion

end Abacus.Postfix
