import Abacus.Proofs.Conversion.Brackets
import Abacus.Proofs.Grammar.Layered
import Abacus.Proofs.Postfix.Assembly
import Abacus.Proofs.Stages
import Mathlib.Control.Monad.Basic

/-! # Precedence

  An expression of the layered grammar is evaluated as its meaning says. The invariant that carries
  the proof has two halves:

  - what waits when a phrase begins binds too loosely to be released by any token of the phrase
    (`Layer.Admits`);
  - what a phrase leaves waiting binds at least as tightly as its layer demands (`Layer.floor`), so
    that the operator or bracket after it releases all of that, and nothing below.

  Between the two, the tokens put out and the tokens left waiting are together the postorder of the
  meaning (`Converts`, `converts_prepared`).
-/

namespace Abacus

namespace Infix.Layer

/-- The least precedence of what a phrase of the layer leaves waiting. -/
def floor : Layer → Nat
  | .expression | .chain => 1
  | .term => 2
  | .power => 3
  | .primary => 4

/-- Whether a phrase of the layer may begin while the token waits: none of its tokens will release
    it. -/
def Admits (l : Layer) (t : Token) : Prop :=
  t.kind.precedence < l.floor ∨ (l = .chain ∧ t.kind = .function)

variable {inner outer : Layer} {t : Token}

theorem Within.floor_le (h : inner.Within outer) : outer.floor ≤ inner.floor := by
  cases h with
  | primary | power | term | chain => decide

theorem Within.admits (h : inner.Within outer) (ha : outer.Admits t) : inner.Admits t := by
  rcases ha with hlt | ⟨rfl, hf⟩
  · exact .inl (Nat.lt_of_lt_of_le hlt h.floor_le)
  · cases h
    left
    rw [hf]
    decide

theorem admits_openBracket (l : Layer) (h : t.kind = .openBracket) : l.Admits t := by
  left
  rw [h]
  cases l <;> decide

theorem admits_chain_function (h : t.kind = .function) : chain.Admits t :=
  .inr ⟨rfl, h⟩

end Infix.Layer

namespace Operator

open Infix

theorem floor_layer (op : Operator) : op.layer.floor = op.precedence := by
  cases op <;> rfl

theorem precedence_lt_floor_rightLayer (op : Operator) :
    op.precedence < op.rightLayer.floor := by
  cases op <;> decide

theorem layer_ne_chain (op : Operator) : op.layer ≠ .chain := by
  cases op <;> decide

end Operator

namespace Postfix.Conversion

open Infix

variable {t : Token} {l : Layer}

/-! ### What is released -/

theorem bindsBefore_of_admits {op : Operator} (h : op.layer.Admits t) :
    bindsBefore op t = false := by
  rcases h with hlt | ⟨hchain, -⟩
  · rw [op.floor_layer] at hlt
    simpa [bindsBefore] using hlt
  · exact absurd hchain op.layer_ne_chain

theorem bindsBefore_of_floor_le {op : Operator} (h : op.layer.floor ≤ t.kind.precedence) :
    bindsBefore op t = true := by
  rw [op.floor_layer] at h
  simpa [bindsBefore] using h

theorem yieldsToFunction_of_admits (h : Layer.chain.Admits t) : yieldsToFunction t = false := by
  rcases h with hlt | ⟨-, hf⟩
  · have hlt : t.kind.precedence < TokenKind.functionPrecedence := hlt
    simp only [yieldsToFunction, Bool.and_eq_false_iff, decide_eq_false_iff_not]
    right
    omega
  · simp [yieldsToFunction, hf]

theorem isOpen_of_floor_le (h : l.floor ≤ t.kind.precedence) : isOpen t = false := by
  have hpos : 1 ≤ l.floor := by cases l <;> decide
  by_cases hk : t.kind = .openBracket
  · rw [hk] at h
    have hzero : TokenKind.precedence .openBracket = 0 := rfl
    omega
  · simp [isOpen, hk]

/-! ### Reading phrases -/

/-- A negated leaf puts out zero, the leaf and the minus. -/
theorem read_negated {m x : Token} (s : Conversion) (hm : m.kind = .operator .subtract)
    (hx : x.kind.isOperand = true) :
    s.read (negated m x) = s.extend [zero, x, m] [] := by
  let o : Token := .inserted .openBracket "("
  let c : Token := .inserted .closeBracket ")"
  have ho : s.step o = s.openBracket o := step_openBracket s rfl
  have hzero : (s.openBracket o).step zero = (s.openBracket o).extend [zero] [] :=
    step_operand _ rfl
  have hminus : ((s.openBracket o).extend [zero] []).step m =
      (s.openBracket o).extend [zero] [m] := by
    -- The bracket in front of the zero keeps the minus from releasing anything.
    rw [step_operator _ hm, release_of_stops]
    · rfl
    · exact forall_mem_head?_cons (bindsBefore_of_isOpen .subtract rfl)
  have hoperand : ((s.openBracket o).extend [zero] [m]).step x =
      (s.openBracket o).extend [zero, x] [m] := by
    rw [step_operand _ hx, extend_extend]
    rfl
  have hclose : ((s.openBracket o).extend [zero, x] [m]).step c = s.extend [zero, x, m] [] := by
    rw [step_closeBracket _ rfl, closeBracket_extend rfl]
    · rfl
    · intro t ht
      have ht : t = m := List.mem_singleton.mp ht
      simp [isOpen, ht, hm]
  calc s.read (negated m x)
      = ((((s.step o).step zero).step m).step x).step c := rfl
    _ = s.extend [zero, x, m] [] := by rw [ho, hzero, hminus, hoperand, hclose]

/-- Reading the tokens `ts` on top of what a phrase of the layer `l` admits puts out some of the
    tokens `ps` and leaves the others waiting, bound at least as tightly as the layer demands. -/
def Converts (l : Layer) (ts ps : List Token) : Prop :=
  ∀ s : Conversion, (∀ t ∈ s.pending.head?, l.Admits t) →
    ∃ out waiting, s.read ts = s.extend out waiting ∧ out ++ waiting = ps ∧
      ∀ t ∈ waiting, l.floor ≤ t.kind.precedence

variable {ts us ps qs : List Token}

theorem converts_operand (l : Layer) (ht : t.kind.isOperand = true) : Converts l [t] [t] := by
  intro s _
  exact ⟨[t], [], step_operand s ht, rfl, by simp⟩

theorem converts_negated {m x : Token} (l : Layer) (hm : m.kind = .operator .subtract)
    (hx : x.kind.isOperand = true) : Converts l (negated m x) [zero, x, m] := by
  intro s _
  exact ⟨[zero, x, m], [], read_negated s hm hx, rfl, by simp⟩

theorem converts_group {o c : Token} (l : Layer) (ho : o.kind = .openBracket)
    (hc : c.kind = .closeBracket) (h : Converts .expression ts ps) :
    Converts l (o :: (ts ++ [c])) ps := by
  intro s _
  obtain ⟨out, waiting, hread, hpost, hfloor⟩ :=
    h (s.openBracket o) (forall_mem_head?_cons (Layer.admits_openBracket _ ho))
  refine ⟨out ++ waiting, [], ?_, ?_, by simp⟩
  · rw [read_cons, step_openBracket s ho, read_append, hread, read_cons, read_nil,
      step_closeBracket _ hc]
    exact closeBracket_extend ho (fun t ht => isOpen_of_floor_le (hfloor t ht))
  · rw [List.append_nil, hpost]

theorem converts_binary {op : Operator} (ht : t.kind = .operator op)
    (hx : Converts op.layer ts ps) (hy : Converts op.rightLayer us qs) :
    Converts op.layer (ts ++ t :: us) (ps ++ qs ++ [t]) := by
  intro s hbase
  obtain ⟨out₁, waiting₁, hread₁, rfl, hfloor₁⟩ := hx s hbase
  -- The operator releases the left operand's tokens, then waits for the right operand.
  have hstep : (s.extend out₁ waiting₁).step t = s.extend (out₁ ++ waiting₁) [t] := by
    have hrel := release_extend (p := bindsBefore op) s out₁ waiting₁ []
      (fun u hu => bindsBefore_of_floor_le (hfloor₁ u hu))
      (fun u hu => bindsBefore_of_admits (hbase u hu))
    rw [List.append_nil] at hrel
    rw [step_operator _ ht, hrel, extend_push]
  have hlt := op.precedence_lt_floor_rightLayer
  have hadmits : op.rightLayer.Admits t := by
    left
    rw [ht]
    exact hlt
  obtain ⟨out₂, waiting₂, hread₂, rfl, hfloor₂⟩ :=
    hy (s.extend (out₁ ++ waiting₁) [t]) (forall_mem_head?_cons hadmits)
  refine ⟨out₁ ++ waiting₁ ++ out₂, waiting₂ ++ [t], ?_, ?_, ?_⟩
  · rw [read_append, hread₁, read_cons, hstep, hread₂, extend_extend]
  · simp only [List.append_assoc]
  · intro u hu
    rw [op.floor_layer]
    rcases List.mem_append.mp hu with hu | hu
    · have hle := hfloor₂ u hu
      omega
    · rw [List.mem_singleton.mp hu, ht]
      exact Nat.le_refl _

theorem converts_call {f : Token} (hf : f.kind = .function) (h : Converts .chain ts ps) :
    Converts .chain (f :: ts) (ps ++ [f]) := by
  intro s hbase
  -- Neither a function below nor anything looser is released.
  have hstep : s.step f = s.push f := by
    rw [step_function s hf, release_of_stops]
    exact fun t ht => yieldsToFunction_of_admits (hbase t ht)
  obtain ⟨out, waiting, hread, rfl, hfloor⟩ :=
    h (s.push f) (forall_mem_head?_cons (Layer.admits_chain_function hf))
  refine ⟨out, waiting ++ [f], ?_, ?_, ?_⟩
  · rw [read_cons, hstep, hread, push_extend]
  · simp only [List.append_assoc]
  · intro t ht
    rcases List.mem_append.mp ht with ht | ht
    · exact hfloor t ht
    · rw [List.mem_singleton.mp ht, hf]
      exact Nat.le_refl _

theorem Converts.lift {inner outer : Layer} (h : Converts inner ts ps)
    (hl : inner.Within outer) : Converts outer ts ps := by
  intro s hbase
  obtain ⟨out, waiting, hread, hpost, hfloor⟩ := h s (fun t ht => hl.admits (hbase t ht))
  exact ⟨out, waiting, hread, hpost, fun t ht => Nat.le_trans hl.floor_le (hfloor t ht)⟩

/-- A phrase is converted to the postorder of its meaning. -/
theorem converts_prepared (constants : ConstantTable) (d : Derivation l) :
    Converts l (d.prepared constants) (d.meaning constants).postorder := by
  have hleaf : ∀ x : Leaf, (x.numeral constants).kind.isOperand = true := by
    intro x
    rw [x.kind_numeral]
    rfl
  induction d with
  | leaf x => exact converts_operand _ (hleaf x)
  | negated m x => exact converts_negated _ m.2 (hleaf x)
  | group o x c ih => exact converts_group _ o.2 c.2 ih
  | binary x t y ihx ihy => exact converts_binary t.2 ihx ihy
  | call f x ih => exact converts_call f.2 ih
  | lift h x ih => exact ih.lift h

end Postfix.Conversion

namespace Infix.Derivation

open Postfix

/-- The conversion takes an expression to the postorder of its meaning. -/
theorem ofInfix_prepared (constants : ConstantTable) (d : Derivation .expression) :
    ofInfix (d.prepared constants) = .ok (d.meaning constants).postorder := by
  obtain ⟨out, waiting, hread, hpost, -⟩ :=
    Conversion.converts_prepared constants d .start (by simp [Conversion.start])
  rw [Conversion.ofInfix_eq_ok_iff, hread, ← hpost]
  refine ⟨rfl, Int.le_refl _, ?_⟩
  simp [Conversion.start]

/-- A text whose tokens are an expression is evaluated by running the postorder of its meaning. -/
theorem evaluate_of_scan_eq_yield {c : Calculator} {d : Derivation .expression} {text : String}
    (h : c.scan text = d.yield) :
    c.evaluate text = c.run (d.meaning c.constants).postorder := by
  have hknown : ∀ t ∈ d.yield, t.kind = .constant → c.constants.contains t.lexeme = true := by
    rw [← h]
    exact fun t ht => Token.contains_of_mem_scan ht
  have hprepared := d.normalizeFrom_yield hknown []
  rw [List.append_nil, normalizeFrom, List.append_nil] at hprepared
  rw [Calculator.evaluate_of_forall_ne_bad (by rw [h]; exact d.ne_bad_of_mem_yield), h]
  apply Calculator.evaluateTokens_of_compile
  rw [Calculator.compile_eq_ok_iff, normalizeMinus, hprepared]
  exact d.ofInfix_prepared c.constants

/-- **Meaning.** A text whose tokens are an expression of the layered grammar compiles to the
    postorder of its meaning, and has exactly the value that this tree has, if any. -/
theorem evaluate_eq_ok_iff_value_meaning (c : Calculator) (d : Derivation .expression)
    (text : String) (h : c.scan text = d.yield) :
    c.compile (c.scan text) = .ok (d.meaning c.constants).postorder ∧
      ∀ v, c.evaluate text = .ok v ↔ (d.meaning c.constants).value c.functions = .ok v := by
  -- The constants of a text that was scanned are in the table.
  have hknown : ∀ t ∈ d.yield, t.kind = .constant → c.constants.contains t.lexeme = true := by
    rw [← h]
    exact fun t ht => Token.contains_of_mem_scan ht
  have hprepared : normalizeMinus (substituteConstants c.constants d.yield) =
      d.prepared c.constants := by
    have hnorm := d.normalizeFrom_yield hknown []
    rwa [List.append_nil, normalizeFrom, List.append_nil] at hnorm
  have hcompile : c.compile (c.scan text) = .ok (d.meaning c.constants).postorder := by
    rw [Calculator.compile_eq_ok_iff, h, hprepared]
    exact d.ofInfix_prepared c.constants
  refine ⟨hcompile, ?_⟩
  intro v
  have hbad : ∀ t ∈ c.scan text, t.kind ≠ .bad := by
    rw [h]
    exact d.ne_bad_of_mem_yield
  have hvalue : Postfix.evaluate c.functions (d.meaning c.constants).postorder = .ok v ↔
      (d.meaning c.constants).value c.functions = .ok v :=
    Expression.evaluate_postorder_eq_ok_iff (d.wellKinded_meaning c.constants)
  rw [Calculator.evaluate_eq_ok_iff, Calculator.evaluateTokens_eq_ok_iff, hcompile, ← hvalue]
  constructor
  · rintro ⟨-, ps, hps, hv⟩
    cases hps
    exact hv
  · intro hv
    exact ⟨hbad, _, rfl, hv⟩

/-- A derivation of `3--1` in `sqrt 4*(3--1)`. -/
def differenceToMinusOne : Derivation .expression :=
  @binary .subtract
    (.lift .chain (.lift .term (.lift .power (.lift .primary
      (.leaf (.number (.ofText .number "3" 8)))))))
    (.ofText (.operator .subtract) "-" 9)
    (.lift .power (.lift .primary
      (.negated (.ofText (.operator .subtract) "-" 10) (.number (.ofText .number "1" 11)))))

/-- A derivation of `sqrt 4*(3--1)`, in which the function takes the whole product. -/
def rootOfProduct : Derivation .expression :=
  .lift .chain (.call (.ofText .function "sqrt" 0) (.lift .term
    (@binary .multiply
      (.lift .power (.lift .primary (.leaf (.number (.ofText .number "4" 5)))))
      (.ofText (.operator .multiply) "*" 6)
      (.lift .primary (.group (.ofText .openBracket "(" 7) differenceToMinusOne
        (.ofText .closeBracket ")" 12))))))

theorem evaluate_rootOfProduct :
    Calculator.standard.scan "sqrt 4*(3--1)" = rootOfProduct.yield ∧
      Calculator.standard.evaluate "sqrt 4*(3--1)" = .ok ⟨4, 0⟩ := by
  have hscan : Calculator.standard.scan "sqrt 4*(3--1)" = rootOfProduct.yield := by
    decide +kernel
  have hvalue : (rootOfProduct.meaning .standard).value .standard = .ok ⟨4, 0⟩ := by
    decide +kernel
  refine ⟨hscan, ?_⟩
  exact ((evaluate_eq_ok_iff_value_meaning .standard rootOfProduct _ hscan).2 ⟨4, 0⟩).mpr hvalue

end Infix.Derivation

end Abacus
