import Abacus.Proofs.Stages
import Abacus.Workspace

/-! # The tokens of a workspace

  In a workspace the stages of an evaluation are applied in any order, to tokens that earlier stages
  have already rewritten, and with tables that change in between. Whatever was done to it, a token
  says the same of itself in all its fields (`Sound`): those of a text do, and so do those that a
  stage puts in; the other stages only choose, rearrange and read as numbers what is there. So the
  ways to count bad tokens agree after any steps (`sound_after`).
-/

namespace Abacus

/-! ### Sound tokens -/

namespace Token

/-- The fields of the token agree with one another. -/
structure Sound (t : Token) : Prop where
  /-- A bad token carries an error, and no other token does. -/
  error : t.error.isSome = true ↔ t.kind = .bad
  /-- The error has the place of the token. -/
  place : ∀ e, t.error = some e → t.offset = some e.offset
  /-- The token has a kind of its own. -/
  kind : t.kind ≠ .none ∧ t.kind ≠ .identifier
  /-- A token without a place is one that the expansion of a minus puts in. -/
  inserted : t.offset = none →
    (t.kind = .openBracket ∧ t.lexeme = "(") ∨ (t.kind = .number ∧ t.lexeme = "0") ∨
      (t.kind = .closeBracket ∧ t.lexeme = ")")
  /-- An operator has the text of its character. -/
  operator : ∀ op, t.kind = .operator op → t.lexeme = String.singleton op.symbol
  /-- A bracket has the text of its character. -/
  bracket : (t.kind = .openBracket → t.lexeme = "(") ∧ (t.kind = .closeBracket → t.lexeme = ")")

variable {constants : ConstantTable} {functions : FunctionTable} {t : Token}

/-- The tokens of a text are sound. -/
theorem sound_of_mem_scan {text : String} (h : t ∈ scan constants functions text) : t.Sound where
  error := isSome_error_iff_of_mem_scan h
  place _ he := (offset_of_error_of_mem_scan h he).2
  kind := kind_ne_of_mem_scan h
  inserted hnone := by
    obtain ⟨n, hn⟩ := exists_offset_of_mem_scan h
    rw [hn] at hnone
    cases hnone
  operator _ := lexeme_of_mem_scan_operator h
  bracket := lexeme_of_mem_scan_bracket h

theorem sound_openBracket : (inserted .openBracket "(").Sound := by
  constructor <;> simp [inserted]

theorem sound_closeBracket : (inserted .closeBracket ")").Sound := by
  constructor <;> simp [inserted]

theorem sound_zero : (inserted .number "0").Sound := by
  constructor <;> simp [inserted]

end Token

/-! ### What the stages keep -/

open Infix

variable {constants : ConstantTable} {t : Token} {ts ps : List Token}

/-- A sound token that is read as a number is sound, if it has a place. -/
theorem Token.Sound.substitute (h : t.Sound) : (substitute constants t).Sound := by
  by_cases hk : t.kind = .constant
  · cases hv : constants.find? t.lexeme with
    | none =>
      have hsame : Infix.substitute constants t = t := by
        simp [Infix.substitute, hk, ConstantTable.lexeme?, hv]
      rw [hsame]
      exact h
    | some v =>
      rw [substitute_of_find? constants hk hv]
      -- A constant has a place, so its number has one, too.
      have hplaced : t.offset ≠ none := by
        intro hnone
        rcases h.inserted hnone with ⟨hk', -⟩ | ⟨hk', -⟩ | ⟨hk', -⟩ <;> simp [hk] at hk'
      constructor <;> simp [Token.toNumber, hplaced]
  · rw [substitute_of_ne_constant constants hk]
    exact h

/-- The tokens after constants were replaced are sound. -/
theorem sound_substituteConstants (h : ∀ t ∈ ts, t.Sound) :
    ∀ t ∈ substituteConstants constants ts, t.Sound := by
  intro t ht
  obtain ⟨u, hu, rfl⟩ := List.mem_map.mp ht
  exact (h u hu).substitute

/-- The tokens after minus signs were expanded are sound. -/
theorem sound_normalizeMinus (h : ∀ t ∈ ts, t.Sound) : ∀ t ∈ normalizeMinus ts, t.Sound := by
  intro t ht
  rcases mem_normalizeFrom ht with ht | rfl | rfl | rfl
  · exact h t ht
  · exact Token.sound_openBracket
  · exact Token.sound_zero
  · exact Token.sound_closeBracket

/-- Converted tokens are sound. -/
theorem sound_ofInfix (h : ∀ t ∈ ts, t.Sound) (hps : Postfix.ofInfix ts = .ok ps) :
    ∀ t ∈ ps, t.Sound := by
  intro t ht
  exact h t (Postfix.mem_of_mem_ofInfix hps ht).1

/-- Compiled tokens are sound. -/
theorem sound_compile {c : Calculator} (h : ∀ t ∈ ts, t.Sound) (hps : c.compile ts = .ok ps) :
    ∀ t ∈ ps, t.Sound :=
  sound_ofInfix (sound_normalizeMinus (sound_substituteConstants h))
    (Calculator.compile_eq_ok_iff.mp hps)

/-! ### Steps -/

namespace Workspace

variable {w w' : Workspace}

/-- A step that succeeds keeps the tokens sound. -/
theorem sound_of_step {s : Step} (h : ∀ t ∈ w.tokens, t.Sound) (hstep : w.step s = .ok w') :
    ∀ t ∈ w'.tokens, t.Sound := by
  cases s with
  | useConstants table =>
    cases hstep
    exact h
  | useFunctions table =>
    cases hstep
    exact h
  | insertConstant name value =>
    cases hstep
    exact h
  | registerFunction name f =>
    cases hstep
    exact h
  | scan text =>
    cases hstep
    intro t ht
    exact Token.sound_of_mem_scan ht
  | scanMore text =>
    cases hstep
    intro t ht
    rcases List.mem_append.mp ht with ht | ht
    · exact h t ht
    · exact Token.sound_of_mem_scan ht
  | substitute =>
    cases hstep
    exact sound_substituteConstants h
  | normalize =>
    cases hstep
    exact sound_normalizeMinus h
  | toPostfix =>
    obtain ⟨ps, hps, rfl⟩ := Outcome.map_eq_ok_iff.mp hstep
    exact sound_ofInfix h (Outcome.mapError_eq_ok_iff.mp hps)
  | compile =>
    obtain ⟨ps, hps, rfl⟩ := Outcome.map_eq_ok_iff.mp hstep
    exact sound_compile h hps

/-- A step that fails changes nothing. -/
theorem advance_of_step_eq_error {s : Step} {d : Diagnostics} (h : w.step s = .error d) :
    w.advance s = w := by
  rw [advance, h]

/-- A step keeps the tokens sound, whether it succeeds or fails. -/
theorem sound_advance (s : Step) (h : ∀ t ∈ w.tokens, t.Sound) :
    ∀ t ∈ (w.advance s).tokens, t.Sound := by
  cases hstep : w.step s with
  | ok next =>
    rw [advance, hstep]
    exact sound_of_step h hstep
  | error d =>
    rw [advance_of_step_eq_error hstep]
    exact h

theorem sound_after (steps : List Step) (h : ∀ t ∈ w.tokens, t.Sound) :
    ∀ t ∈ (w.after steps).tokens, t.Sound := by
  induction steps generalizing w with
  | nil => exact h
  | cons s steps ih => exact ih (sound_advance s h)

theorem after_concat (steps : List Step) (s : Step) :
    w.after (steps ++ [s]) = (w.after steps).advance s :=
  List.foldl_append

/-- **Sound tokens.** After any steps from no tokens, whatever the tables, every token is sound. So
    there are as many errors, and lines of a report, as bad tokens; and a further step that fails
    changes nothing. -/
theorem after_keeps_sound (c : Calculator) (steps : List Step) :
    let w := (⟨c, []⟩ : Workspace).after steps
    (∀ t ∈ w.tokens, t.Sound) ∧
    (Token.errors w.tokens).length = Token.badCount w.tokens ∧
    (Token.report w.tokens).length = Token.badCount w.tokens ∧
    ∀ s d, w.step s = .error d → (⟨c, []⟩ : Workspace).after (steps ++ [s]) = w := by
  intro w
  have hsound : ∀ t ∈ w.tokens, t.Sound := sound_after steps (by simp)
  have hcount : (Token.errors w.tokens).length = Token.badCount w.tokens :=
    Token.length_errors fun t ht => (hsound t ht).error
  refine ⟨hsound, hcount, ?_, ?_⟩
  · rw [Token.report, List.length_map, hcount]
  · intro s d h
    rw [after_concat]
    exact advance_of_step_eq_error h

end Workspace

end Abacus
