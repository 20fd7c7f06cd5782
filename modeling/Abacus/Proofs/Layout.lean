import Abacus.Proofs.Failure.Position

/-! # Layout does not matter

  No stage after the first looks at where a token stands: it only carries the place along, to name it
  in an error. So moving the tokens of a text moves the places in the errors, and changes nothing else
  (`evaluateTokens_move`).

  If every token is moved to its index in the text, two texts with the same tokens in another layout
  become equal. So they have the same value, or the same errors at the same tokens
  (`evaluate_of_same_tokens`).
-/

namespace Abacus

/-! ### The run of moved tokens -/

namespace Postfix

variable {functions : FunctionTable} {f : Nat → Nat}

theorem finiteFloat_mapPosition (f : Nat → Nat) (x : Decimal) (position : Nat) :
    finiteFloat x (f position) =
      (finiteFloat x position).mapError (EvaluationError.mapPosition f) := by
  unfold finiteFloat
  dsimp only
  split <;> rfl

theorem power_mapPosition (f : Nat → Nat) (x y : Decimal) (position : Nat) :
    power x y (f position) = (power x y position).mapError (EvaluationError.mapPosition f) := by
  unfold power
  rw [finiteFloat_mapPosition, finiteFloat_mapPosition]
  cases finiteFloat x position with
  | error e => rfl
  | ok b =>
    cases finiteFloat y position with
    | error e => rfl
    | ok e =>
      -- With finite operands only the power itself is left to fail.
      dsimp only [Except.mapError, bind, Except.bind]
      split
      · rfl
      · split
        · rfl
        · split <;> rfl

theorem applyOperator_mapPosition (f : Nat → Nat) (op : Operator) (x y : Decimal)
    (position : Nat) :
    applyOperator op x y (f position) =
      (applyOperator op x y position).mapError (EvaluationError.mapPosition f) := by
  cases op with
  | add | subtract | multiply => rfl
  | divide =>
    unfold applyOperator
    dsimp only
    split <;> rfl
  | exponent => exact power_mapPosition f x y position

/-- A function fails in the same way wherever it stands, but for the position that it names. -/
theorem applyFunction_move (f : Nat → Nat) (t : Token) (x : Decimal) :
    applyFunction functions (t.move f) x =
      (applyFunction functions t x).mapError (EvaluationError.mapPosition (movePosition f)) := by
  unfold applyFunction
  rw [Token.lexeme_move, Token.position_move]
  split
  next g _ =>
    rw [Outcome.mapError_bind, finiteFloat_mapPosition]
    congr 1
    funext a
    split
    next e _ => cases e <;> rfl
    next => split <;> rfl
  next => rfl

theorem readNumber_move (f : Nat → Nat) (t : Token) :
    readNumber (t.move f) =
      (readNumber t).mapError (EvaluationError.mapPosition (movePosition f)) := by
  unfold readNumber
  rw [Token.lexeme_move, Token.position_move]
  split <;> rfl

/-- The machine stopped in the same way, at a token that was moved. -/
def Halt.move (f : Nat → Nat) (halt : Halt) : Halt :=
  { halt with cause := halt.cause.mapPosition (movePosition f) }

theorem pushResult_mapError (f : Nat → Nat) (stack : Stack)
    (r : Except EvaluationError Decimal) :
    pushResult stack (r.mapError (EvaluationError.mapPosition (movePosition f))) =
      (pushResult stack r).mapError (Halt.move f) := by
  cases r <;> rfl

/-- A step on a moved token leaves the same values, or stops in the same way. -/
theorem step_move (f : Nat → Nat) (stack : Stack) (t : Token) :
    step functions stack (t.move f) = (step functions stack t).mapError (Halt.move f) := by
  unfold step
  rw [Token.kind_move]
  cases t.kind with
  | number => simp only [readNumber_move, pushResult_mapError]
  | function =>
    cases stack with
    | nil => rfl
    | cons x rest => simp only [applyFunction_move, pushResult_mapError]
  | operator op =>
    match stack with
    | [] => rfl
    | [_] => rfl
    | y :: x :: rest =>
      simp only [Token.position_move, applyOperator_mapPosition, pushResult_mapError]
  | identifier | constant | openBracket | closeBracket | bad | none =>
    simp only [Token.position_move]
    rfl

theorem run_move (f : Nat → Nat) (stack : Stack) (ts : List Token) :
    run functions stack (ts.map (Token.move f)) =
      (run functions stack ts).mapError (Halt.move f) := by
  induction ts generalizing stack with
  | nil => rfl
  | cons t ts ih => simp only [List.map_cons, run_cons, step_move, ih, Outcome.mapError_bind]

/-- The value of moved tokens is the same, and so are their errors, but for the positions. -/
theorem evaluate_move (f : Nat → Nat) (ts : List Token) :
    evaluate functions (ts.map (Token.move f)) =
      (evaluate functions ts).mapError
        (Failures.map (EvaluationError.mapPosition (movePosition f))) := by
  unfold evaluate
  rw [run_move]
  cases run functions [] ts with
  | error halt =>
    -- What is said of the values that are left names no position.
    unfold conclude leftover
    simp only [Except.mapError, Failures.map, Halt.move]
    split <;> rfl
  | ok stack =>
    cases stack with
    | nil => rfl
    | cons x rest => cases rest <;> rfl

end Postfix

/-! ### All stages on moved tokens -/

namespace Infix

theorem keepsKinds_move (f : Nat → Nat) : KeepsKinds (Token.move f) :=
  ⟨fun _ => rfl, fun _ _ => rfl⟩

theorem substitute_move (constants : ConstantTable) (f : Nat → Nat) (t : Token) :
    substitute constants (t.move f) = (substitute constants t).move f := by
  unfold substitute
  rw [Token.kind_move, Token.lexeme_move]
  split
  · split <;> rfl
  · rfl

end Infix

namespace Calculator

open Infix Postfix

variable {c : Calculator} {f : Nat → Nat} {ts : List Token} {text text' : String}
  {d : Diagnostics}

/-- Moved tokens compile to the same tokens, moved in the same way, or fail for the same reasons. -/
theorem compile_move (c : Calculator) (f : Nat → Nat) (ts : List Token) :
    c.compile (ts.map (Token.move f)) =
      ((c.compile ts).map (List.map (Token.move f))).mapError (Failures.map (CalcError.move f)) := by
  have hsubstitute : substituteConstants c.constants (ts.map (Token.move f)) =
      (substituteConstants c.constants ts).map (Token.move f) := by
    simp [substituteConstants, substitute_move]
  have hnormalize : ∀ us : List Token, normalizeMinus (us.map (Token.move f)) =
      (normalizeMinus us).map (Token.move f) :=
    normalizeFrom_map (keepsKinds_move f) (fun k lexeme _ => Token.move_inserted f k lexeme) false
  unfold compile
  rw [hsubstitute, hnormalize,
    ofInfix_map (keepsKinds_move f) (fun t _ => Token.position_move f t)]
  cases ofInfix (normalizeMinus (substituteConstants c.constants ts)) with
  | ok ps => rfl
  | error problems =>
    simp only [Except.map, Except.mapError, Failures.map_map]
    rfl

/-- Moving its tokens changes neither the value of an expression nor its errors, but for the places
    that these name. -/
theorem evaluateTokens_move (c : Calculator) (f : Nat → Nat) (ts : List Token) :
    c.evaluateTokens (ts.map (Token.move f)) =
      (c.evaluateTokens ts).mapError (Failures.map (CalcError.move f)) := by
  unfold evaluateTokens
  rw [compile_move]
  cases c.compile ts with
  | error d => rfl
  | ok ps =>
    show c.run (ps.map (Token.move f)) = (c.run ps).mapError _
    unfold run
    rw [evaluate_move, Outcome.mapError_mapError, Outcome.mapError_mapError]
    congr 1
    funext causes
    show (causes.map _).map _ = (causes.map _).map _
    rw [Failures.map_map, Failures.map_map]
    rfl

theorem evaluateScanned_move (c : Calculator) (f : Nat → Nat) (ts : List Token) :
    c.evaluateScanned (ts.map (Token.move f)) =
      (c.evaluateScanned ts).mapError (Failures.map (CalcError.move f)) := by
  unfold evaluateScanned
  rw [Token.errors_map_move, Failures.ofList?_map]
  cases Failures.ofList? (Token.errors ts) with
  | none => exact evaluateTokens_move c f ts
  | some errors =>
    simp only [Option.map_some, Except.mapError, Failures.map_map]
    rfl

end Calculator

/-! ### Tokens at their indices -/

namespace Token

variable {constants : ConstantTable} {functions : FunctionTable} {text text' : String}

/-- The index of the token that stands at the offset. Offsets at which none stands are told apart from
    the indices, and from each other. -/
def indexAt (ts : List Token) (offset : Nat) : Nat :=
  match ts.findIdx? (·.offset = some offset) with
  | some i => i
  | none => ts.length + offset

/-- The tokens of a text stand at different places, so the place of each leads to its index. -/
theorem indexAt_scan {t : Token} {i n : Nat} (h : (scan constants functions text)[i]? = some t)
    (hn : t.offset = some n) : indexAt (scan constants functions text) n = i := by
  have hordered : (scan constants functions text).Pairwise Precedes :=
    (accounts_scanFrom [] text.toList).ordered
  obtain ⟨hi, hget⟩ := List.getElem?_eq_some_iff.mp h
  have hfind : (scan constants functions text).findIdx? (·.offset = some n) = some i := by
    rw [List.findIdx?_eq_some_iff_getElem]
    refine ⟨hi, by simp [hget, hn], ?_⟩
    intro j hj
    obtain ⟨m, n', hm, hn', hlt, -⟩ :=
      List.pairwise_iff_getElem.mp hordered j i (Nat.lt_trans hj hi) hi hj
    rw [hget, hn] at hn'
    cases hn'
    simp [hm, Nat.ne_of_lt hlt]
  unfold indexAt
  rw [hfind]

/-- Two tokens of the same kind that stand for the same characters are equal once they are moved to
    the same place. -/
theorem StandsFor.move_eq {t t' : Token} {front front' run rest rest' : List Char}
    (h : t.StandsFor constants functions front run rest)
    (h' : t'.StandsFor constants functions front' run rest') (hk : t.kind = t'.kind)
    {f f' : Nat → Nat} (hf : f front.length = f' front'.length) : t.move f = t'.move f' := by
  have hlexeme : t.lexeme = t'.lexeme := by
    rw [← String.toList_inj, h.lexeme, h'.lexeme]
  have herror : t.error.map (LexError.move f) = t'.error.map (LexError.move f') := by
    by_cases hbad : t.kind = .bad
    · obtain ⟨kind, hkind⟩ := exists_error_of_bad constants functions run
      rw [hkind t front rest h hbad, hkind t' front' rest' h' (hk ▸ hbad)]
      simp [LexError.move, hf]
    · rcases h.kind_cases with ⟨hk', -⟩ | ⟨he, -⟩
      · exact absurd hk' hbad
      rcases h'.kind_cases with ⟨hk', -⟩ | ⟨he', -⟩
      · exact absurd (hk.trans hk') hbad
      rw [he, he']
      rfl
  unfold move
  rw [hk, hlexeme, h.offset, h'.offset, herror]
  simp [hf]

/-- Texts with the same kinds and lexemes of tokens are equal up to the places of the tokens. -/
theorem map_move_indexAt_scan
    (h : (scan constants functions text).map (fun t => (t.kind, t.lexeme)) =
      (scan constants functions text').map (fun t => (t.kind, t.lexeme))) :
    (scan constants functions text).map (move (indexAt (scan constants functions text))) =
      (scan constants functions text').map (move (indexAt (scan constants functions text'))) := by
  apply List.ext_getElem?
  intro i
  have hi := congrArg (·[i]?) h
  simp only [List.getElem?_map] at hi ⊢
  cases ht : (scan constants functions text)[i]? with
  | none =>
    rw [ht, Option.map_none] at hi
    rw [Option.map_eq_none_iff.mp hi.symm]
    rfl
  | some t =>
    rw [ht, Option.map_some] at hi
    obtain ⟨t', ht', heq⟩ := Option.map_eq_some_iff.mp hi.symm
    obtain ⟨hk, hlexeme⟩ := Prod.mk.inj heq
    rw [ht', Option.map_some, Option.map_some, Option.some.injEq]
    obtain ⟨front, run, rest, hstands⟩ := exists_standsFor_of_mem_scan (List.mem_of_getElem? ht)
    obtain ⟨front', run', rest', hstands'⟩ :=
      exists_standsFor_of_mem_scan (List.mem_of_getElem? ht')
    obtain rfl : run' = run := by rw [← hstands.lexeme, ← hstands'.lexeme, hlexeme]
    -- Both are moved to the index `i`.
    refine hstands.move_eq hstands' hk.symm ?_
    rw [indexAt_scan ht hstands.offset, indexAt_scan ht' hstands'.offset]

end Token

namespace Calculator

/-! ### Texts with the same tokens -/

/-- **Layout.** Two texts whose tokens agree in kind and lexeme have the same value, or the same
    errors in the same order, where the places in the errors are those of the tokens with the same
    index. -/
theorem evaluate_of_same_tokens (c : Calculator) (text text' : String)
    (h : (c.scan text).map (fun t => (t.kind, t.lexeme)) =
      (c.scan text').map (fun t => (t.kind, t.lexeme))) :
    (∃ v, c.evaluate text = .ok v ∧ c.evaluate text' = .ok v) ∨
    (∃ d d', c.evaluate text = .error d ∧ c.evaluate text' = .error d' ∧
      d.toList.length = d'.toList.length ∧
      d.toList.map (CalcError.move (Token.indexAt (c.scan text))) =
        d'.toList.map (CalcError.move (Token.indexAt (c.scan text')))) := by
  have hmoved := evaluateScanned_move c (Token.indexAt (c.scan text)) (c.scan text)
  have hmoved' := evaluateScanned_move c (Token.indexAt (c.scan text')) (c.scan text')
  have hsame : (c.scan text).map (Token.move (Token.indexAt (c.scan text))) =
      (c.scan text').map (Token.move (Token.indexAt (c.scan text'))) :=
    Token.map_move_indexAt_scan h
  rw [hsame, hmoved', ← evaluate_eq_evaluateScanned, ← evaluate_eq_evaluateScanned] at hmoved
  cases hd : c.evaluate text with
  | ok v =>
    rw [hd] at hmoved
    exact .inl ⟨v, rfl, Outcome.mapError_eq_ok_iff.mp hmoved⟩
  | error d =>
    rw [hd] at hmoved
    obtain ⟨d', hd', heq⟩ := Outcome.mapError_eq_error_iff.mp hmoved
    have hlist : d.toList.map (CalcError.move (Token.indexAt (c.scan text))) =
        d'.toList.map (CalcError.move (Token.indexAt (c.scan text'))) := by
      rw [← Failures.toList_map, ← Failures.toList_map, heq]
    refine .inr ⟨d, d', rfl, hd', ?_, hlist⟩
    simpa using congrArg List.length hlist

/-- Blanks move the division by zero in `1/(2-2)` to another place, but not to another token. -/
theorem evaluate_of_same_tokens_division :
    Calculator.standard.evaluate "1/(2-2)" = .error (.one (.evaluation (.divisionByZero 2))) ∧
    Calculator.standard.evaluate " 1 / ( 2 - 2 )" =
      .error (.one (.evaluation (.divisionByZero 4))) ∧
    Token.indexAt (Calculator.standard.scan "1/(2-2)") 1 =
      Token.indexAt (Calculator.standard.scan " 1 / ( 2 - 2 )") 3 := by
  have htokens : (Calculator.standard.scan "1/(2-2)").map (fun t => (t.kind, t.lexeme)) =
      (Calculator.standard.scan " 1 / ( 2 - 2 )").map (fun t => (t.kind, t.lexeme)) := by
    decide +kernel
  have hd : Calculator.standard.evaluate "1/(2-2)" =
      .error (.one (.evaluation (.divisionByZero 2))) := by
    decide +kernel
  have hd' : Calculator.standard.evaluate " 1 / ( 2 - 2 )" =
      .error (.one (.evaluation (.divisionByZero 4))) := by
    decide +kernel
  refine ⟨hd, hd', ?_⟩
  rcases evaluate_of_same_tokens .standard _ _ htokens with ⟨v, hv, -⟩ | ⟨e, e', he, he', -, hmoved⟩
  · rw [hd] at hv
    cases hv
  · rw [hd] at he
    rw [hd'] at he'
    cases he
    cases he'
    simpa [CalcError.move, EvaluationError.mapPosition, movePosition] using hmoved

end Calculator

end Abacus
