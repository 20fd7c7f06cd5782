import Abacus.Proofs.Conversion.Brackets
import Abacus.Proofs.Grammar.Natural
import Abacus.Proofs.Postfix.Height

/-! # Operators that are put out too early

  A function releases the operators that wait, although the last of them has no right operand yet.
  Put out this early, the operators of a phrase find one value less than they need, and take it from
  below the phrase. `Phrase.borrows` says when a phrase does so.

  `reads` is the invariant of the conversion on unsigned phrases of any shape:

  - an expression leaves operators waiting on top of functions (`Stacked`);
  - what it puts out counts up to one value more than there are operators waiting, unless it borrows
    and there is nothing to borrow (`Yields`).
-/

namespace Abacus

namespace Infix.Phrase

/-- Whether the operand begins with a function. -/
def leads {signed : Bool} : Phrase signed .operand → Bool
  | call _ _ => true
  | number _ | constant _ | group _ _ _ | negate _ _ _ => false

/-- Whether operators of the phrase are put out when fewer than two of its values are there: one of
    them stands directly before a function, and no value of the phrase stands before the innermost
    brackets around the two. -/
def borrows {signed : Bool} : {k : Category} → Phrase signed k → Bool
  | _, number _ | _, constant _ => false
  | _, group _ x _ => x.borrows
  | _, call _ x => x.borrows
  | _, negate _ _ x => x.borrows
  | _, single x => x.borrows
  | _, binary x _ y => x.borrows || y.leads

end Infix.Phrase

namespace Postfix

variable {t : Token} {ts us : List Token}

/-! ### Waiting tokens -/

/-- Operators on top of functions. -/
def Stacked (ts : List Token) : Prop :=
  ∃ ops fs, ts = ops ++ fs ∧ (∀ t ∈ ops, t.kind.isOperator = true) ∧
    (∀ t ∈ fs, t.kind = .function)

theorem stacked_of_functions (h : ∀ t ∈ ts, t.kind = .function) : Stacked ts :=
  ⟨[], ts, rfl, by simp, h⟩

theorem countP_isOperator_of_functions (h : ∀ t ∈ ts, t.kind = .function) :
    ts.countP (·.kind.isOperator) = 0 := by
  rw [List.countP_eq_zero]
  intro t ht
  simp [h t ht]

theorem Stacked.cons (h : Stacked ts) (ht : t.kind.isOperator = true) : Stacked (t :: ts) := by
  obtain ⟨ops, fs, rfl, hops, hfs⟩ := h
  exact ⟨t :: ops, fs, rfl, List.forall_mem_cons.mpr ⟨ht, hops⟩, hfs⟩

theorem Stacked.of_append (h : Stacked (us ++ ts)) : Stacked ts := by
  obtain ⟨ops, fs, heq, hops, hfs⟩ := h
  rcases List.append_eq_append_iff.mp heq with ⟨mid, rfl, rfl⟩ | ⟨mid, rfl, rfl⟩
  · exact ⟨mid, fs, rfl, fun t ht => hops t (List.mem_append_right us ht), hfs⟩
  · exact stacked_of_functions (fun t ht => hfs t (List.mem_append_right mid ht))

theorem Stacked.kind (h : Stacked ts) :
    ∀ t ∈ ts, t.kind.isOperator = true ∨ t.kind = .function := by
  obtain ⟨ops, fs, rfl, hops, hfs⟩ := h
  intro t ht
  rcases List.mem_append.mp ht with ht | ht
  · exact .inl (hops t ht)
  · exact .inr (hfs t ht)

theorem Stacked.isOpen_eq_false (h : Stacked ts) :
    ∀ t ∈ ts, Conversion.isOpen t = false := by
  intro t ht
  rcases h.kind t ht with hop | hf
  · obtain ⟨op, hop⟩ := TokenKind.isOperator_iff.mp hop
    simp [Conversion.isOpen, hop]
  · simp [Conversion.isOpen, hf]

/-! ### The height of waiting tokens -/

/-- Waiting tokens that find one value more than there are operators among them leave one. -/
theorem height_of_waiting (h : ∀ t ∈ ts, t.kind.isOperator = true ∨ t.kind = .function) (n : Nat) :
    height (n + ts.countP (·.kind.isOperator) + 1) ts = some (n + 1) := by
  induction ts with
  | nil => rfl
  | cons t ts ih =>
    obtain ⟨ht, hts⟩ := List.forall_mem_cons.mp h
    have ih := ih hts
    rw [height_cons]
    rcases ht with hop | hf
    · have hcount : (t :: ts).countP (·.kind.isOperator) = ts.countP (·.kind.isOperator) + 1 :=
        List.countP_cons_of_pos hop
      rw [heightStep_operator _ hop, hcount, if_pos (by omega), Option.bind_some]
      exact ih
    · have hcount : (t :: ts).countP (·.kind.isOperator) = ts.countP (·.kind.isOperator) :=
        List.countP_cons_of_neg (by simp [hf])
      rw [heightStep_function _ hf, hcount, if_pos (by omega), Option.bind_some]
      exact ih

/-- Operators that find no more values than there are of them fail at the last one. -/
theorem height_of_operators (h : ∀ t ∈ ts, t.kind.isOperator = true) (hne : ts ≠ []) :
    height ts.length ts = none := by
  induction ts with
  | nil => exact absurd rfl hne
  | cons t ts ih =>
    obtain ⟨ht, hts⟩ := List.forall_mem_cons.mp h
    rw [height_cons, heightStep_operator _ ht]
    by_cases hnil : ts = []
    · simp [hnil]
    · have hpos : 0 < ts.length := List.length_pos_iff.mpr hnil
      rw [List.length_cons, if_pos (by omega), Option.bind_some]
      exact ih hts hnil

/-- The output `out` adds `n` values to those below it, but stops if it borrows and there are
    none. -/
def Yields (borrows : Bool) (out : List Token) (n : Nat) : Prop :=
  ∀ below, height below out =
    if borrows = true ∧ below = 0 then none else some (below + n)

theorem Yields.append {b : Bool} {out out' : List Token} {n m : Nat} (h : Yields b out n)
    (h' : ∀ below, ¬(b = true ∧ below = 0) → height (below + n) out' = some (below + m)) :
    Yields b (out ++ out') m := by
  intro below
  rw [height_append, h below]
  by_cases hb : b = true ∧ below = 0
  · rw [if_pos hb, if_pos hb, Option.bind_none]
  · rw [if_neg hb, if_neg hb, Option.bind_some]
    exact h' below hb

/-- Operators, of which the last one has no right operand yet, borrow a value. -/
theorem Yields.append_operators {b : Bool} {out ops : List Token}
    (h : Yields b out ops.length) (hops : ∀ t ∈ ops, t.kind.isOperator = true) (hne : ops ≠ []) :
    Yields true (out ++ ops) 0 := by
  intro below
  rw [height_append, h below]
  have hcount : ops.countP (·.kind.isOperator) = ops.length := List.countP_eq_length.mpr hops
  cases below with
  | zero =>
    -- With nothing below, the output fails by itself or the last operator does.
    cases b with
    | true => rfl
    | false =>
      have hnone := height_of_operators hops hne
      simpa using hnone
  | succ below =>
    rw [if_neg (by simp), if_neg (by simp), Option.bind_some]
    -- The value on top of those below takes the place of the missing operand.
    have hlast := height_of_waiting (fun t ht => .inl (hops t ht)) below
    rw [hcount] at hlast
    rw [show below + 1 + ops.length = below + ops.length + 1 from by omega]
    exact hlast

theorem yields_operand (h : t.kind.isOperand = true) : Yields false [t] 1 := by
  intro below
  rw [height_cons, heightStep_operand below h, if_neg (by simp)]
  rfl

/-! ### Reading phrases -/

namespace Conversion

open Infix

variable {s : Conversion} {op : Operator}

/-- An opening bracket waits on top, or nothing. -/
def BeginsGroup (s : Conversion) : Prop :=
  ∀ t ∈ s.pending.head?, t.kind = .openBracket

/-- A function or an opening bracket waits on top, or nothing. -/
def BeginsArgument (s : Conversion) : Prop :=
  ∀ t ∈ s.pending.head?, t.kind = .function ∨ t.kind = .openBracket

theorem BeginsGroup.beginsArgument (h : s.BeginsGroup) : s.BeginsArgument :=
  fun t ht => .inr (h t ht)

theorem beginsGroup_openBracket (s : Conversion) {o : Token} (ho : o.kind = .openBracket) :
    (s.openBracket o).BeginsGroup :=
  forall_mem_head?_cons ho

theorem BeginsGroup.extend_functions (h : s.BeginsGroup) (out : List Token) {fs : List Token}
    (hfs : ∀ t ∈ fs, t.kind = .function) : (s.extend out fs).BeginsArgument := by
  cases fs with
  | nil => exact h.beginsArgument
  | cons f fs => exact forall_mem_head?_cons (.inl (hfs f (List.mem_cons_self ..)))

/-- A function puts out the operators on top, and nothing below them. -/
theorem step_function_extend (h : s.BeginsArgument) {ops : List Token} {f : Token}
    (hops : ∀ t ∈ ops, t.kind.isOperator = true) (hf : f.kind = .function) :
    (s.extend [] ops).step f = s.extend ops [f] := by
  have hrel := release_extend (p := yieldsToFunction) s [] ops []
    (by
      intro t ht
      obtain ⟨op, hop⟩ := TokenKind.isOperator_iff.mp (hops t ht)
      exact yieldsToFunction_of_operator hop)
    (by
      intro t ht
      rcases h t ht with hk | hk
      · simp [yieldsToFunction, hk]
      · exact yieldsToFunction_of_isOpen (by simp [isOpen, hk]))
  rw [List.append_nil] at hrel
  rw [step_function _ hf, hrel, extend_push]
  rfl

/-- An operator puts out some of the tokens on top, and nothing below them. -/
theorem exists_step_operator_extend (ts : List Token) {t : Token} (ht : t.kind = .operator op) :
    ∃ released kept, ts = released ++ kept ∧
      ∀ s : Conversion, s.BeginsGroup → ∀ out : List Token,
        (s.extend out ts).step t = s.extend (out ++ released) (t :: kept) := by
  refine ⟨ts.takeWhile (bindsBefore op), ts.dropWhile (bindsBefore op),
    List.takeWhile_append_dropWhile.symm, ?_⟩
  intro s hs out
  have hstop : ∀ u ∈ s.pending.head?, bindsBefore op u = false := by
    intro u hu
    exact bindsBefore_of_isOpen op (by simp [isOpen, hs u hu])
  rw [step_operator _ ht, release_extend_of_stops s out ts hstop, extend_push]

/-- What reading an operand does. It puts out one value. An operand that begins with a function first
    puts out the operators on top of what waits, and leaves functions waiting; any other operand
    changes nothing that waits. -/
def ReadsOperand (y : Phrase false .operand) : Prop :=
  ∃ out, Yields y.borrows out 1 ∧
    (y.leads = true → ∃ fs, (∀ t ∈ fs, t.kind = .function) ∧
      ∀ (s : Conversion) (ops : List Token), s.BeginsArgument →
        (∀ t ∈ ops, t.kind.isOperator = true) →
        (s.extend [] ops).read y.yield = s.extend (ops ++ out) fs) ∧
    (y.leads = false → ∀ s : Conversion, s.read y.yield = s.extend out [])

/-- What reading an expression does. It leaves operators waiting on top of functions, and puts out
    one value more than there are operators. -/
def ReadsExpression (x : Phrase false .expression) : Prop :=
  ∃ out waiting, Stacked waiting ∧
    Yields x.borrows out (waiting.countP (·.kind.isOperator) + 1) ∧
    ∀ s : Conversion, s.BeginsGroup → s.read x.yield = s.extend out waiting

/-- An operand with no operator in front puts out one value and leaves functions waiting. -/
theorem ReadsOperand.alone {y : Phrase false .operand} (h : ReadsOperand y) :
    ∃ out fs, Yields y.borrows out 1 ∧ (∀ t ∈ fs, t.kind = .function) ∧
      ∀ s : Conversion, s.BeginsArgument → s.read y.yield = s.extend out fs := by
  obtain ⟨out, hyields, hleads, hother⟩ := h
  cases hl : y.leads with
  | true =>
    obtain ⟨fs, hfs, hread⟩ := hleads hl
    exact ⟨out, fs, hyields, hfs, fun s hs => hread s [] hs (by simp)⟩
  | false => exact ⟨out, [], hyields, by simp, fun s _ => hother hl s⟩

/-- An expression by itself has the same output as in brackets, where it leaves nothing waiting. -/
theorem ReadsExpression.exists_output {x : Phrase false .expression} (h : ReadsExpression x) :
    ∃ out, Yields x.borrows out 1 ∧ ofInfix x.yield = .ok out ∧
      ∀ (o : TokenOf .openBracket) (c : TokenOf .closeBracket) (s : Conversion),
        s.read (Phrase.group o x c).yield = s.extend out [] := by
  obtain ⟨out, waiting, hstacked, hyields, hread⟩ := h
  refine ⟨out ++ waiting, ?_, ?_, ?_⟩
  · refine hyields.append ?_
    intro below _
    exact height_of_waiting hstacked.kind below
  · rw [ofInfix_eq_ok_iff, hread .start (by simp [BeginsGroup, start])]
    simp [start]
  · intro o c s
    rw [Phrase.yield, read_cons, step_openBracket s o.2, read_append,
      hread _ (beginsGroup_openBracket s o.2), read_cons, read_nil, step_closeBracket _ c.2]
    exact closeBracket_extend o.2 hstacked.isOpen_eq_false

theorem readsOperand_group {x : Phrase false .expression} (o : TokenOf .openBracket)
    (c : TokenOf .closeBracket) (h : ReadsExpression x) : ReadsOperand (.group o x c) := by
  obtain ⟨out, hyields, -, hread⟩ := h.exists_output
  exact ⟨out, hyields, by simp [Phrase.leads], fun _ => hread o c⟩

theorem readsOperand_call {x : Phrase false .operand} (f : TokenOf .function)
    (h : ReadsOperand x) : ReadsOperand (.call f x) := by
  obtain ⟨out, fs, hyields, hfs, hread⟩ := h.alone
  refine ⟨out, hyields, ?_, by simp [Phrase.leads]⟩
  intro _
  refine ⟨fs ++ [f.1], ?_, ?_⟩
  · intro t ht
    rcases List.mem_append.mp ht with ht | ht
    · exact hfs t ht
    · rw [List.mem_singleton.mp ht]
      exact f.2
  · intro s ops hs hops
    have hbase : (s.extend ops [f.1]).BeginsArgument := forall_mem_head?_cons (.inl f.2)
    rw [Phrase.yield, read_cons, step_function_extend hs hops f.2, hread _ hbase, extend_extend]

theorem readsExpression_single {y : Phrase false .operand} (h : ReadsOperand y) :
    ReadsExpression (.single y) := by
  obtain ⟨out, fs, hyields, hfs, hread⟩ := h.alone
  refine ⟨out, fs, stacked_of_functions hfs, ?_, fun s hs => hread s hs.beginsArgument⟩
  rw [countP_isOperator_of_functions hfs]
  exact hyields

/-- After an expression and an operator, as many values are there as operators wait for one more. -/
theorem ReadsExpression.operator {x : Phrase false .expression} (h : ReadsExpression x)
    (t : TokenOf (.operator op)) :
    ∃ out kept, Stacked (t.1 :: kept) ∧
      Yields x.borrows out ((t.1 :: kept).countP (·.kind.isOperator)) ∧
      ∀ s : Conversion, s.BeginsGroup → s.read (x.yield ++ [t.1]) = s.extend out (t.1 :: kept) := by
  obtain ⟨out, waiting, hstacked, hyields, hread⟩ := h
  obtain ⟨released, kept, rfl, hstep⟩ := exists_step_operator_extend waiting t.2
  have ht : t.1.kind.isOperator = true := by
    rw [t.2]
    rfl
  refine ⟨out ++ released, kept, hstacked.of_append.cons ht, ?_, ?_⟩
  · have hcount : (t.1 :: kept).countP (·.kind.isOperator) = kept.countP (·.kind.isOperator) + 1 :=
      List.countP_cons_of_pos ht
    rw [hcount]
    refine hyields.append ?_
    intro below _
    have hlast := height_of_waiting (fun u hu => hstacked.kind u (List.mem_append_left kept hu))
      (below + kept.countP (·.kind.isOperator))
    rw [List.countP_append]
    rw [show below + (released.countP (·.kind.isOperator) + kept.countP (·.kind.isOperator) + 1) =
      below + kept.countP (·.kind.isOperator) + released.countP (·.kind.isOperator) + 1
      from by omega]
    exact hlast
  · intro s hs
    rw [read_append, hread s hs, read_cons, read_nil, hstep s hs]

theorem readsExpression_binary {x : Phrase false .expression} {y : Phrase false .operand}
    (t : TokenOf (.operator op)) (hx : ReadsExpression x) (hy : ReadsOperand y) :
    ReadsExpression (.binary x t y) := by
  obtain ⟨out₁, kept, hstacked, hyields₁, hread₁⟩ := hx.operator t
  obtain ⟨out₂, hyields₂, hleads, hother⟩ := hy
  have hyield : (Phrase.binary x t y).yield = x.yield ++ [t.1] ++ y.yield := by
    simp [Phrase.yield]
  have ht : t.1.kind.isOperator = true := by
    rw [t.2]
    rfl
  cases hl : y.leads with
  | false =>
    -- The operand finds at least one value below it, so it need not borrow from elsewhere.
    have hcount : 0 < (t.1 :: kept).countP (·.kind.isOperator) :=
      List.countP_pos_iff.mpr ⟨t.1, List.mem_cons_self .., ht⟩
    refine ⟨out₁ ++ out₂, t.1 :: kept, hstacked, ?_, ?_⟩
    · rw [Phrase.borrows, hl, Bool.or_false]
      refine hyields₁.append ?_
      intro below _
      rw [hyields₂, if_neg (by omega)]
      rfl
    · intro s hs
      rw [hyield, read_append, hread₁ s hs, hother hl, extend_extend]
      rfl
  | true =>
    -- The function that comes next puts out all operators, the last of them too early.
    obtain ⟨fs₂, hfs₂, hread₂⟩ := hleads hl
    obtain ⟨ops, fs, heq, hops, hfs⟩ := hstacked
    have hne : ops ≠ [] := by
      rintro rfl
      have hmem : t.1 ∈ fs := by
        rw [← List.nil_append fs, ← heq]
        exact List.mem_cons_self ..
      rw [hfs t.1 hmem] at ht
      cases ht
    have hlength : (t.1 :: kept).countP (·.kind.isOperator) = ops.length := by
      rw [heq, List.countP_append, countP_isOperator_of_functions hfs, Nat.add_zero]
      exact List.countP_eq_length.mpr hops
    have hfunctions : ∀ u ∈ fs₂ ++ fs, u.kind = .function :=
      List.forall_mem_append.mpr ⟨hfs₂, hfs⟩
    refine ⟨out₁ ++ ops ++ out₂, fs₂ ++ fs, stacked_of_functions hfunctions, ?_, ?_⟩
    · rw [hlength] at hyields₁
      rw [Phrase.borrows, hl, Bool.or_true, countP_isOperator_of_functions hfunctions]
      refine (hyields₁.append_operators hops hne).append ?_
      intro below hbelow
      have hpos : below ≠ 0 := fun h => hbelow ⟨rfl, h⟩
      rw [Nat.add_zero, hyields₂, if_neg (by omega)]
    · intro s hs
      have hsplit : s.extend out₁ (ops ++ fs) = (s.extend out₁ fs).extend [] ops := by
        rw [extend_extend, List.append_nil]
      rw [hyield, read_append, hread₁ s hs, heq, hsplit,
        hread₂ _ ops (hs.extend_functions _ hfs) hops, extend_extend]
      simp

/-- What reading a phrase does. -/
def Reads : {k : Category} → Phrase false k → Prop
  | .operand, y => ReadsOperand y
  | .expression, x => ReadsExpression x

theorem reads {k : Category} (e : Phrase false k) : Reads e := by
  have hleaf : ∀ t : Token, t.kind.isOperand = true →
      Yields false [t] 1 ∧ ∀ s : Conversion, s.read [t] = s.extend [t] [] :=
    fun t ht => ⟨yields_operand ht, fun s => step_operand s ht⟩
  induction e with
  | number t =>
    obtain ⟨hyields, hread⟩ := hleaf t (by rw [t.2]; rfl)
    exact ⟨[t.1], hyields, by simp [Phrase.leads], fun _ => hread⟩
  | constant t =>
    obtain ⟨hyields, hread⟩ := hleaf t (by rw [t.2]; rfl)
    exact ⟨[t.1], hyields, by simp [Phrase.leads], fun _ => hread⟩
  | group o x c ih => exact readsOperand_group o c ih
  | call f x ih => exact readsOperand_call f ih
  | negate h _ _ _ => cases h
  | single x ih => exact readsExpression_single ih
  | binary x t y ihx ihy => exact readsExpression_binary t ihx ihy

end Conversion

end Postfix

end Abacus
