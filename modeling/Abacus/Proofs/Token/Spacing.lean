import Abacus.Proofs.Failure.Move
import Abacus.Proofs.Token.Scanning

/-! # Texts with blanks in between

  Two texts with a blank between them have the tokens of the first, then those of the second
  (`scanFrom_append_blank`). A scan looks ahead only to see how far a number or a name goes, and a blank
  belongs to neither. The tokens of the second text are those that it has by itself, moved along
  (`scanFrom_move`).

  What a token stands for, read by itself, is that token again, be it a bad one (`Isolated`). So if the
  tokens of a text are printed with spaces in between, the same tokens are read (`scan_spaced`).
-/

namespace Abacus.Token

open Text

variable {constants : ConstantTable} {functions : FunctionTable} {offset : Nat} {c b : Char}
  {run rest cs more : List Char} {p : Char → Bool} {t : Token} {ts : List Token}

/-! ### Tokens at other places -/

theorem move_ofNumeral (f : Nat → Nat) (run : List Char) (offset : Nat) :
    (ofNumeral run offset).move f = ofNumeral run (f offset) := by
  unfold ofNumeral
  dsimp only
  split <;> rfl

theorem move_ofName (f : Nat → Nat) (run : List Char) (offset : Nat) :
    (ofName constants functions run offset).move f = ofName constants functions run (f offset) := by
  unfold ofName
  dsimp only
  split
  · rfl
  · split <;> rfl

theorem move_ofSymbol (f : Nat → Nat) (c : Char) (offset : Nat) :
    (ofSymbol c offset).move f = ofSymbol c (f offset) := by
  unfold ofSymbol
  split <;> rfl

/-- The tokens of a text that begins further on are the same tokens, further on. -/
theorem scanFrom_move (k offset : Nat) (cs : List Char) :
    scanFrom constants functions (offset + k) cs =
      (scanFrom constants functions offset cs).map (move (· + k)) := by
  fun_induction scanFrom constants functions offset cs with
  | case1 => simp [scanFrom]
  | case2 offset c cs hblank ih =>
    rw [scanFrom, if_pos hblank, Nat.add_right_comm]
    exact ih
  | case3 offset c cs hblank hnumeral run ih =>
    rw [scanFrom, if_neg hblank, if_pos hnumeral, List.map_cons, move_ofNumeral, ← ih,
      Nat.add_right_comm offset]
  | case4 offset c cs hblank hnumeral hname run ih =>
    rw [scanFrom, if_neg hblank, if_neg hnumeral, if_pos hname, List.map_cons, move_ofName, ← ih,
      Nat.add_right_comm offset]
  | case5 offset c cs hblank hnumeral hname ih =>
    rw [scanFrom, if_neg hblank, if_neg hnumeral, if_neg hname, List.map_cons, move_ofSymbol, ← ih,
      Nat.add_right_comm offset]

/-! ### A blank ends every token -/

theorem scanFrom_blank (h : isBlank b = true) :
    scanFrom constants functions offset (b :: more) =
      scanFrom constants functions (offset + 1) more := by
  rw [scanFrom, if_pos h]

theorem isNumeral_eq_false_of_isBlank (h : isBlank b = true) : isNumeral b = false := by
  rw [Bool.eq_false_iff]
  intro hnumeral
  rw [isBlank_eq_false_of_isNumeral hnumeral] at h
  exact Bool.false_ne_true h

theorem continuesName_eq_false_of_isBlank (h : isBlank b = true) : continuesName b = false := by
  rw [Bool.eq_false_iff]
  intro hcontinues
  rw [isBlank_eq_false_of_continuesName hcontinues] at h
  exact Bool.false_ne_true h

/-- A run that goes on as far as its class does goes no further if another character comes after the
    rest. -/
theorem Maximal.append (h : Maximal p run rest) (hb : p b = false) (more : List Char) :
    Maximal p run (rest ++ b :: more) := by
  refine ⟨h.1, ?_⟩
  intro d hd
  cases rest with
  | nil =>
    obtain rfl : b = d := Option.some.inj hd
    exact hb
  | cons c rest => exact h.2 d hd

/-- A text is the run that it begins with and the rest. -/
theorem cons_eq_run_append (p : Char → Bool) (c : Char) (cs : List Char) :
    c :: cs = (c :: cs.takeWhile p) ++ cs.dropWhile p := by
  rw [List.cons_append, List.takeWhile_append_dropWhile]

/-- The tokens of two texts with a blank between them are those of the first, then those of the
    second. -/
theorem scanFrom_append_blank (hb : isBlank b = true) (offset : Nat) (cs more : List Char) :
    scanFrom constants functions offset (cs ++ b :: more) =
      scanFrom constants functions offset cs ++
        scanFrom constants functions (offset + cs.length + 1) more := by
  fun_induction scanFrom constants functions offset cs with
  | case1 offset => exact scanFrom_blank hb
  | case2 offset c cs hblank ih =>
    rw [List.cons_append, scanFrom_blank hblank, ih, List.length_cons, Nat.add_right_comm offset 1,
      Nat.add_assoc offset cs.length]
  | case3 offset c cs hblank hnumeral run ih =>
    -- The run ends at the blank, if not before, so it is the same with and without it.
    have hafter := (maximal_takeWhile hnumeral cs).append (isNumeral_eq_false_of_isBlank hb) more
    rw [cons_eq_run_append isNumeral c cs, List.append_assoc,
      scanFrom_numeral (List.cons_ne_nil _ _) hafter, ih, List.length_append, ← Nat.add_assoc offset,
      List.cons_append]
  | case4 offset c cs hblank hnumeral hname run ih =>
    have hafter := (maximal_takeWhile (continuesName_of_beginsName hname) cs).append
      (continuesName_eq_false_of_isBlank hb) more
    rw [cons_eq_run_append continuesName c cs, List.append_assoc, scanFrom_name hname hafter, ih,
      List.length_append, ← Nat.add_assoc offset, List.cons_append]
  | case5 offset c cs hblank hnumeral hname ih =>
    rw [List.cons_append, scanFrom_symbol (by simpa using hblank) (by simpa using hnumeral)
      (by simpa using hname), ih, List.length_cons, Nat.add_right_comm offset 1,
      Nat.add_assoc offset cs.length, List.cons_append]

/-! ### Tokens by themselves -/

/-- Read by itself, the text of the token is this token. -/
def Isolated (constants : ConstantTable) (functions : FunctionTable) (t : Token) : Prop :=
  ∀ offset, scanFrom constants functions offset t.lexeme.toList = [t.move fun _ => offset]

theorem isolated_ofNumeral (hne : run ≠ []) (h : ∀ c ∈ run, isNumeral c = true) (offset : Nat) :
    Isolated constants functions (ofNumeral run offset) := by
  intro k
  have hmax : Maximal isNumeral run [] := ⟨h, by simp⟩
  have hscan : scanFrom constants functions k (run ++ []) = [ofNumeral run k] := by
    rw [scanFrom_numeral hne hmax, scanFrom]
  rw [List.append_nil] at hscan
  rw [lexeme_ofNumeral, String.toList_ofList, hscan, move_ofNumeral]

theorem isolated_ofName (hc : beginsName c = true)
    (h : ∀ d ∈ c :: run, continuesName d = true) (offset : Nat) :
    Isolated constants functions (ofName constants functions (c :: run) offset) := by
  intro k
  have hmax : Maximal continuesName (c :: run) [] := ⟨h, by simp⟩
  have hscan : scanFrom constants functions k (c :: run ++ []) =
      [ofName constants functions (c :: run) k] := by
    rw [scanFrom_name hc hmax, scanFrom]
  rw [List.append_nil] at hscan
  rw [lexeme_ofName, String.toList_ofList, hscan, move_ofName]

theorem isolated_ofSymbol (hblank : isBlank c = false) (hnumeral : isNumeral c = false)
    (hname : beginsName c = false) (offset : Nat) :
    Isolated constants functions (ofSymbol c offset) := by
  intro k
  rw [lexeme_ofSymbol, String.toList_singleton, scanFrom_symbol hblank hnumeral hname, scanFrom,
    move_ofSymbol]

/-- Whatever stood around it, a token of a text is read again from its characters alone. -/
theorem isolated_of_mem_scanFrom (h : t ∈ scanFrom constants functions offset cs) :
    Isolated constants functions t := by
  fun_induction scanFrom constants functions offset cs with
  | case1 => exact absurd h List.not_mem_nil
  | case2 offset c cs hblank ih => exact ih h
  | case3 offset c cs hblank hnumeral run ih =>
    rcases List.mem_cons.mp h with rfl | h
    · exact isolated_ofNumeral (List.cons_ne_nil _ _) (maximal_takeWhile hnumeral cs).1 offset
    · exact ih h
  | case4 offset c cs hblank hnumeral hname run ih =>
    rcases List.mem_cons.mp h with rfl | h
    · exact isolated_ofName hname
        (maximal_takeWhile (continuesName_of_beginsName hname) cs).1 offset
    · exact ih h
  | case5 offset c cs hblank hnumeral hname ih =>
    rcases List.mem_cons.mp h with rfl | h
    · exact isolated_ofSymbol (by simpa using hblank) (by simpa using hnumeral)
        (by simpa using hname) offset
    · exact ih h

/-! ### Printing tokens and reading them again -/

/-- What a token is and says, apart from where it stands. -/
def content (t : Token) : TokenKind × String × Option LexErrorKind :=
  (t.kind, t.lexeme, t.error.map LexError.kind)

theorem content_move (f : Nat → Nat) (t : Token) : (t.move f).content = t.content := by
  unfold content move
  rw [Option.map_map]
  rfl

theorem format_cons_cons (t u : Token) (ts : List Token) :
    format (t :: u :: ts) = t.lexeme ++ " " ++ format (u :: ts) :=
  String.intercalate_cons_cons

/-- Tokens that are read again by themselves are read again from their texts with spaces in
    between. -/
theorem map_content_scanFrom_format (h : ∀ t ∈ ts, Isolated constants functions t)
    (offset : Nat) :
    (scanFrom constants functions offset (format ts).toList).map content = ts.map content := by
  induction ts generalizing offset with
  | nil =>
    show (scanFrom constants functions offset []).map content = []
    rw [scanFrom, List.map_nil]
  | cons t ts ih =>
    obtain ⟨ht, hts⟩ := List.forall_mem_cons.mp h
    cases ts with
    | nil =>
      have hformat : format [t] = t.lexeme := String.intercalate_singleton
      rw [hformat, ht, List.map_singleton, List.map_singleton, content_move]
    | cons u us =>
      have hspace : isBlank ' ' = true := by decide +kernel
      have htext : (format (t :: u :: us)).toList =
          t.lexeme.toList ++ ' ' :: (format (u :: us)).toList := by
        rw [format_cons_cons, String.toList_append, String.toList_append, List.append_assoc]
        rfl
      rw [htext, scanFrom_append_blank hspace, List.map_append, ht, ih hts, List.map_singleton,
        content_move]
      rfl

/-- **Spaces.** A space between two texts separates their tokens and moves those of the second, with
    their errors, and changes nothing else. The tokens of a text, printed with spaces in between, are
    read again as the same tokens, so what is printed is printed again. -/
theorem scan_spaced (constants : ConstantTable) (functions : FunctionTable) (s t : String) :
    scan constants functions (s ++ " " ++ t) =
        scan constants functions s ++
          (scan constants functions t).map (move (· + (s.length + 1))) ∧
      (scan constants functions (format (scan constants functions s))).map content =
        (scan constants functions s).map content ∧
      format (scan constants functions (format (scan constants functions s))) =
        format (scan constants functions s) := by
  have hspace : isBlank ' ' = true := by decide +kernel
  have hcontent : (scan constants functions (format (scan constants functions s))).map content =
      (scan constants functions s).map content :=
    map_content_scanFrom_format (fun t ht => isolated_of_mem_scanFrom ht) 0
  refine ⟨?_, hcontent, ?_⟩
  · have htext : (s ++ " " ++ t).toList = s.toList ++ ' ' :: t.toList := by
      rw [String.toList_append, String.toList_append, List.append_assoc]
      rfl
    unfold scan
    rw [htext, scanFrom_append_blank hspace, String.length_toList, Nat.add_assoc, scanFrom_move]
  · -- The text of a token is part of its content.
    have hlexemes := congrArg (List.map fun content => content.2.1) hcontent
    rw [List.map_map, List.map_map] at hlexemes
    exact congrArg " ".intercalate hlexemes

/-- The name before the space and the bad number after it stay apart. -/
example : (scan .standard .standard "pi 1.2.3 ²").map content =
    [(.constant, "pi", none), (.bad, "1.2.3", some .multipleDecimalPoints),
      (.bad, "²", some (.unknownChar '²'))] := by
  decide +kernel

end Abacus.Token
