import Abacus.Proofs.Token.Coverage

/-! # The first token of a text

  One equation for each way in which a text can begin: with a run of digits and points, with a name, or
  with any other character. A run and a name are as long as their class allows, and are the text of
  their token.
-/

namespace Abacus.Token

open Text

variable {constants : ConstantTable} {functions : FunctionTable} {offset : Nat} {c : Char}
  {run rest : List Char} {p : Char → Bool}

/-! ### The texts of the tokens -/

theorem lexeme_ofNumeral (run : List Char) (offset : Nat) :
    (ofNumeral run offset).lexeme = String.ofList run := by
  unfold ofNumeral
  dsimp only
  split <;> rfl

theorem lexeme_ofName (run : List Char) (offset : Nat) :
    (ofName constants functions run offset).lexeme = String.ofList run := by
  unfold ofName
  dsimp only
  split
  · rfl
  · split <;> rfl

theorem lexeme_ofSymbol (c : Char) (offset : Nat) :
    (ofSymbol c offset).lexeme = String.singleton c := by
  unfold ofSymbol
  split <;> rfl

/-! ### How a text begins -/

/-- A front that goes on as far as the class does is the longest front of this class. -/
theorem Maximal.takeWhile (h : Maximal p run rest) :
    (run ++ rest).takeWhile p = run ∧ (run ++ rest).dropWhile p = rest := by
  obtain ⟨hrun, hrest⟩ := h
  rw [List.takeWhile_append_of_pos hrun, List.dropWhile_append_of_pos hrun]
  cases rest with
  | nil => simp
  | cons c rest =>
    have hc : p c = false := hrest c rfl
    simp [hc]

theorem Maximal.tail (h : Maximal p (c :: run) rest) : Maximal p run rest :=
  ⟨fun d hd => h.1 d (List.mem_cons_of_mem c hd), h.2⟩

/-- A run of digits and points is one token. -/
theorem scanFrom_numeral (hne : run ≠ []) (h : Maximal isNumeral run rest) :
    scanFrom constants functions offset (run ++ rest) =
      ofNumeral run offset :: scanFrom constants functions (offset + run.length) rest := by
  obtain ⟨c, cs, rfl⟩ := List.exists_cons_of_ne_nil hne
  have hc : isNumeral c = true := h.1 c List.mem_cons_self
  obtain ⟨htake, hdrop⟩ := h.tail.takeWhile
  rw [List.cons_append, scanFrom, if_neg (by simp [isBlank_eq_false_of_isNumeral hc]), if_pos hc]
  simp only [htake, hdrop]

/-- A name is one token. -/
theorem scanFrom_name (hc : beginsName c = true) (h : Maximal continuesName (c :: run) rest) :
    scanFrom constants functions offset (c :: run ++ rest) =
      ofName constants functions (c :: run) offset ::
        scanFrom constants functions (offset + (c :: run).length) rest := by
  have hblank : isBlank c = false :=
    isBlank_eq_false_of_continuesName (continuesName_of_beginsName hc)
  have hnumeral : isNumeral c = false := by
    rw [Bool.eq_false_iff]
    intro hnumeral
    rw [beginsName_eq_false_of_isNumeral hnumeral] at hc
    cases hc
  obtain ⟨htake, hdrop⟩ := h.tail.takeWhile
  rw [List.cons_append, scanFrom, if_neg (by simp [hblank]), if_neg (by simp [hnumeral]), if_pos hc]
  simp only [htake, hdrop]

/-- Any other character is a token by itself. -/
theorem scanFrom_symbol (hblank : isBlank c = false) (hnumeral : isNumeral c = false)
    (hname : beginsName c = false) :
    scanFrom constants functions offset (c :: rest) =
      ofSymbol c offset :: scanFrom constants functions (offset + 1) rest := by
  rw [scanFrom, if_neg (by simp [hblank]), if_neg (by simp [hnumeral]), if_neg (by simp [hname])]

/-- A name ends before the symbol of an operator. -/
theorem continuesName_symbol (op : Operator) : continuesName op.symbol = false := by
  cases op <;> decide +kernel

/-- The symbol of an operator is a token by itself. -/
theorem scanFrom_operator (op : Operator) :
    scanFrom constants functions offset (op.symbol :: rest) =
      .ofText (.operator op) (String.singleton op.symbol) offset ::
        scanFrom constants functions (offset + 1) rest := by
  have hclass : isBlank op.symbol = false ∧ isNumeral op.symbol = false ∧
      beginsName op.symbol = false := by
    cases op <;> decide +kernel
  obtain ⟨hblank, hnumeral, hname⟩ := hclass
  rw [scanFrom_symbol hblank hnumeral hname]
  cases op <;> rfl

end Abacus.Token
