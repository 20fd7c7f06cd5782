import Abacus.Proofs.Token.Coverage

/-! # The tokens that a text can have

  What the kind of a scanned token says about it (`StandsFor.kind_cases`), one kind at a time: a bad
  token carries an error for its place, and no other token carries one; a number is a run of digits
  with at most one point; a constant or a function is in its table; an operator or a bracket has the
  text of its character.
-/

namespace Abacus.Token

variable {constants : ConstantTable} {functions : FunctionTable} {text : String} {t : Token}

/-- A scanned token carries an error exactly if it is a bad one. -/
theorem isSome_error_iff_of_mem_scan (h : t ∈ scan constants functions text) :
    t.error.isSome = true ↔ t.kind = .bad := by
  obtain ⟨front, run, rest, hstands⟩ := exists_standsFor_of_mem_scan h
  rcases hstands.kind_cases with ⟨hk, kind, he⟩ | ⟨he, hk⟩
  · simp [hk, he]
  · rw [he]
    rcases hk with ⟨hk, -⟩ | ⟨hk, -⟩ | ⟨hk, -⟩ | ⟨hk, -⟩ | ⟨hk, -⟩ | ⟨op, hk, -⟩ <;> simp [hk]

/-- A text has no lexical errors exactly if none of its tokens is a bad one. -/
theorem errors_scan_eq_nil_iff :
    errors (scan constants functions text) = [] ↔
      ∀ t ∈ scan constants functions text, t.kind ≠ .bad := by
  rw [errors, List.filterMap_eq_nil_iff]
  -- A token contributes to the errors exactly if it carries one.
  refine forall₂_congr fun t ht => ?_
  rw [ne_eq, ← isSome_error_iff_of_mem_scan ht, Bool.not_eq_true, Option.isSome_eq_false_iff,
    Option.isNone_iff_eq_none]

/-- If the bad tokens carry an error each, and no others do, the errors are those of the bad tokens, in
    order. -/
theorem map_some_errors {ts : List Token} (h : ∀ t ∈ ts, t.error.isSome = true ↔ t.kind = .bad) :
    (errors ts).map some = (ts.filter isBad).map error := by
  induction ts with
  | nil => rfl
  | cons t ts ih =>
    obtain ⟨ht, hts⟩ := List.forall_mem_cons.mp h
    have ih : (ts.filterMap error).map some = (ts.filter isBad).map error := ih hts
    cases he : t.error with
    | none =>
      have hk : isBad t = false := by simpa [isBad, he] using ht
      rw [errors, List.filterMap_cons_none he, List.filter_cons_of_neg (by simp [hk]), ih]
    | some e =>
      have hk : isBad t = true := by simpa [isBad, he] using ht
      rw [errors, List.filterMap_cons_some he, List.filter_cons_of_pos hk, List.map_cons,
        List.map_cons, he, ih]

/-- If the bad tokens carry an error each, and no others do, there are as many errors as bad tokens. -/
theorem length_errors {ts : List Token} (h : ∀ t ∈ ts, t.error.isSome = true ↔ t.kind = .bad) :
    (errors ts).length = badCount ts := by
  have hlength := congrArg List.length (map_some_errors h)
  rw [List.length_map, List.length_map] at hlength
  rw [hlength, badCount, List.countP_eq_length_filter]

/-- A text has one lexical error for each of its bad tokens. -/
theorem length_errors_scan :
    (errors (scan constants functions text)).length = badCount (scan constants functions text) :=
  length_errors fun _ ht => isSome_error_iff_of_mem_scan ht

/-- The error of a scanned token has the place of the token, which is a bad one. -/
theorem offset_of_error_of_mem_scan (h : t ∈ scan constants functions text) {e : LexError}
    (he : t.error = some e) : t.kind = .bad ∧ t.offset = some e.offset := by
  obtain ⟨front, run, rest, hstands⟩ := exists_standsFor_of_mem_scan h
  rcases hstands.kind_cases with ⟨hk, kind, he'⟩ | ⟨he', -⟩
  · rw [he'] at he
    cases he
    exact ⟨hk, hstands.offset⟩
  · rw [he'] at he
    cases he

/-- What is wrong with a bad token depends on its text alone, not on where it stands. -/
theorem exists_error_of_bad (constants : ConstantTable) (functions : FunctionTable)
    (run : List Char) :
    ∃ kind : LexErrorKind, ∀ (t : Token) (front rest : List Char),
      t.StandsFor constants functions front run rest → t.kind = .bad →
        t.error = some ⟨kind, front.length⟩ := by
  cases run with
  | nil =>
    refine ⟨.multipleDecimalPoints, ?_⟩
    intro t front rest hstands _
    exact absurd rfl hstands.nonempty
  | cons c cs =>
    by_cases hnumeral : c.isDigit = true ∨ c = '.'
    · refine ⟨.multipleDecimalPoints, ?_⟩
      intro t front rest hstands hk
      obtain ⟨-, hnumber, hbad⟩ := hstands.numeral c rfl hnumeral
      by_cases hpoints : (c :: cs).count '.' ≤ 1
      · have hk' : t.kind = .number := (hnumber hpoints).1
        rw [hk] at hk'
        cases hk'
      · exact (hbad (by omega)).2
    by_cases hname : Text.isAlphabetic c = true ∨ c = '_'
    · refine ⟨.unknownIdentifier (String.ofList (c :: cs)), ?_⟩
      intro t front rest hstands hk
      obtain ⟨-, hconstant, hfunction, hunknown⟩ := hstands.name c rfl hname
      have hlexeme : t.lexeme = String.ofList (c :: cs) := by
        rw [← hstands.lexeme, String.ofList_toList]
      -- A name that one of the tables knows would be no bad token.
      have hcon : constants.contains t.lexeme = false := by
        rw [Bool.eq_false_iff]
        intro h
        have hk' : t.kind = .constant := (hconstant h).1
        rw [hk] at hk'
        cases hk'
      have hfun : functions.contains t.lexeme = false := by
        rw [Bool.eq_false_iff]
        intro h
        have hk' : t.kind = .function := (hfunction hcon h).1
        rw [hk] at hk'
        cases hk'
      rw [← hlexeme]
      exact (hunknown hcon hfun).2
    · refine ⟨.unknownChar c, ?_⟩
      intro t front rest hstands hk
      obtain ⟨-, hsymbol⟩ := hstands.symbol c rfl hnumeral hname
      rcases hsymbol with ⟨op, -, hk', -⟩ | ⟨-, hk', -⟩ | ⟨-, hk', -⟩ | ⟨-, -, -, -, he⟩
      · simp [hk] at hk'
      · simp [hk] at hk'
      · simp [hk] at hk'
      · exact he

theorem exists_offset_of_mem_scan (h : t ∈ scan constants functions text) :
    ∃ n, t.offset = some n := by
  obtain ⟨front, run, rest, hstands⟩ := exists_standsFor_of_mem_scan h
  exact ⟨front.length, hstands.offset⟩

/-- A scanned token has a kind of its own. -/
theorem kind_ne_of_mem_scan (h : t ∈ scan constants functions text) :
    t.kind ≠ .none ∧ t.kind ≠ .identifier := by
  obtain ⟨front, run, rest, hstands⟩ := exists_standsFor_of_mem_scan h
  rcases hstands.kind_cases with
    ⟨hk, -⟩ | ⟨-, ⟨hk, -⟩ | ⟨hk, -⟩ | ⟨hk, -⟩ | ⟨hk, -⟩ | ⟨hk, -⟩ | ⟨op, hk, -⟩⟩ <;> simp [hk]

/-- A scanned number is a run of digits with at most one point. -/
theorem numerals_of_mem_scan (h : t ∈ scan constants functions text) (hk : t.kind = .number) :
    t.lexeme.toList ≠ [] ∧ (∀ c ∈ t.lexeme.toList, isNumeral c = true) ∧
      t.lexeme.toList.count '.' ≤ 1 := by
  obtain ⟨front, run, rest, hstands⟩ := exists_standsFor_of_mem_scan h
  have hcases := hstands.kind_cases
  simp only [hk, reduceCtorEq, false_and, true_and, false_or, or_false, exists_false] at hcases
  rw [hstands.lexeme]
  exact ⟨hstands.nonempty, hcases.2⟩

/-- A constant of a text is one that the table knows. -/
theorem contains_of_mem_scan (h : t ∈ scan constants functions text) (hk : t.kind = .constant) :
    constants.contains t.lexeme = true := by
  obtain ⟨front, run, rest, hstands⟩ := exists_standsFor_of_mem_scan h
  have hcases := hstands.kind_cases
  simp only [hk, reduceCtorEq, false_and, true_and, false_or, or_false, exists_false] at hcases
  exact hcases.2

/-- A function of a text is one that the table knows. -/
theorem contains_of_mem_scan_function (h : t ∈ scan constants functions text)
    (hk : t.kind = .function) : functions.contains t.lexeme = true := by
  obtain ⟨front, run, rest, hstands⟩ := exists_standsFor_of_mem_scan h
  have hcases := hstands.kind_cases
  simp only [hk, reduceCtorEq, false_and, true_and, false_or, or_false, exists_false] at hcases
  exact hcases.2

/-- An operator of a text has the text of its character. -/
theorem lexeme_of_mem_scan_operator (h : t ∈ scan constants functions text) {op : Operator}
    (hk : t.kind = .operator op) : t.lexeme = String.singleton op.symbol := by
  obtain ⟨front, run, rest, hstands⟩ := exists_standsFor_of_mem_scan h
  have hcases := hstands.kind_cases
  simp only [hk, reduceCtorEq, false_and, false_or, TokenKind.operator.injEq] at hcases
  obtain ⟨-, op', rfl, hlexeme⟩ := hcases
  exact hlexeme

/-- A bracket of a text has the text of its character. -/
theorem lexeme_of_mem_scan_bracket (h : t ∈ scan constants functions text) :
    (t.kind = .openBracket → t.lexeme = "(") ∧ (t.kind = .closeBracket → t.lexeme = ")") := by
  obtain ⟨front, run, rest, hstands⟩ := exists_standsFor_of_mem_scan h
  have hcases := hstands.kind_cases
  constructor
  · intro hk
    simp only [hk, reduceCtorEq, false_and, true_and, false_or, or_false, exists_false] at hcases
    exact hcases.2
  · intro hk
    simp only [hk, reduceCtorEq, false_and, true_and, false_or, or_false, exists_false] at hcases
    exact hcases.2

end Abacus.Token
