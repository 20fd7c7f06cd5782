import Abacus.Token.Scan
import Mathlib.Data.List.TakeWhile

/-! # The tokens of a text are the text

  Finding the tokens of a text loses, invents and reorders nothing (`scan_lossless`):

  - each token stands for the characters at its place, as many as its class allows, and is what
    these characters say (`StandsFor`);
  - the tokens follow one another without overlap (`Precedes`);
  - the characters that no token covers are exactly the blanks.

  `Accounts` says this of the tokens of a suffix of the text. The proof adds the front of that suffix
  bit by bit, a blank or the characters of one token at a time.
-/

namespace Abacus.Token

open Text

variable {constants : ConstantTable} {functions : FunctionTable}

/-! ### What a token stands for -/

/-- All characters of the run are of the class, and the run goes on as far as the class does. -/
def Maximal (p : Char → Bool) (run rest : List Char) : Prop :=
  (∀ c ∈ run, p c = true) ∧ ∀ c ∈ rest.head?, p c = false

/-- The token stands for the characters `run`, which come after `front` and before `rest`. -/
structure StandsFor (constants : ConstantTable) (functions : FunctionTable) (t : Token)
    (front run rest : List Char) : Prop where
  /-- Its place is where the run begins. -/
  offset : t.offset = some front.length
  /-- Its text is the run. -/
  lexeme : t.lexeme.toList = run
  /-- The run is not empty. -/
  nonempty : run ≠ []
  /-- A digit or point begins a run of digits and points, which is a number unless it has several
      points. -/
  numeral : ∀ c ∈ run.head?, c.isDigit = true ∨ c = '.' →
    Maximal isNumeral run rest ∧
      (run.count '.' ≤ 1 → t.kind = .number ∧ t.error = none) ∧
      (1 < run.count '.' → t.kind = .bad ∧
        t.error = some ⟨.multipleDecimalPoints, front.length⟩)
  /-- An alphabetic character or `_` begins a name, which is that of a constant, else of a function,
      else unknown. -/
  name : ∀ c ∈ run.head?, isAlphabetic c = true ∨ c = '_' →
    Maximal continuesName run rest ∧
      (constants.contains t.lexeme = true → t.kind = .constant ∧ t.error = none) ∧
      (constants.contains t.lexeme = false → functions.contains t.lexeme = true →
        t.kind = .function ∧ t.error = none) ∧
      (constants.contains t.lexeme = false → functions.contains t.lexeme = false →
        t.kind = .bad ∧ t.error = some ⟨.unknownIdentifier t.lexeme, front.length⟩)
  /-- Any other character is an operator, a bracket or an unknown character by itself. -/
  symbol : ∀ c ∈ run.head?, ¬(c.isDigit = true ∨ c = '.') →
    ¬(isAlphabetic c = true ∨ c = '_') →
    run = [c] ∧
      ((∃ op : Operator, c = op.symbol ∧ t.kind = .operator op ∧ t.error = none) ∨
        (c = '(' ∧ t.kind = .openBracket ∧ t.error = none) ∨
        (c = ')' ∧ t.kind = .closeBracket ∧ t.error = none) ∨
        ((∀ op : Operator, c ≠ op.symbol) ∧ c ≠ '(' ∧ c ≠ ')' ∧ t.kind = .bad ∧
          t.error = some ⟨.unknownChar c, front.length⟩))

/-- The token ends before the other one begins. -/
def Precedes (t u : Token) : Prop :=
  ∃ m n, t.offset = some m ∧ u.offset = some n ∧ m < n ∧ m + t.lexeme.length ≤ n

/-- The character at the place `k` is one of those that the token stands for. -/
def Covers (t : Token) (k : Nat) : Prop :=
  ∃ n, t.offset = some n ∧ n ≤ k ∧ k < n + t.lexeme.length

/-! ### Classes of characters -/

theorem isNumeral_iff {c : Char} : isNumeral c = true ↔ c.isDigit = true ∨ c = '.' := by
  simp [isNumeral]

theorem beginsName_iff {c : Char} : beginsName c = true ↔ isAlphabetic c = true ∨ c = '_' := by
  simp [beginsName]

theorem continuesName_of_beginsName {c : Char} (h : beginsName c = true) :
    continuesName c = true := by
  rcases beginsName_iff.mp h with ha | rfl
  · simp [continuesName, isAlphanumeric_of_isAlphabetic ha]
  · simp [continuesName]

/-- No character begins both a number and a name. -/
theorem beginsName_eq_false_of_isNumeral {c : Char} (h : isNumeral c = true) :
    beginsName c = false := by
  have halphabetic : isAlphabetic c = false := by
    apply CodePoints.has_eq_false_of_disjoint (b := [(0x2E, 0x2E), (0x30, 0x39)])
    · decide +kernel
    · rcases isNumeral_iff.mp h with hd | rfl
      · obtain ⟨h₁, h₂⟩ := Bool.and_eq_true_iff.1 hd
        exact CodePoints.has_iff.2
          ⟨(0x30, 0x39), by simp, of_decide_eq_true h₁, of_decide_eq_true h₂⟩
      · rfl
  have hunderscore : c ≠ '_' := by
    rintro rfl
    cases h
  simp [beginsName, halphabetic, hunderscore]

theorem isBlank_eq_false_of_isNumeral {c : Char} (h : isNumeral c = true) : isBlank c = false := by
  rcases isNumeral_iff.mp h with hd | rfl
  · exact isBlank_eq_false_of_isAlphanumeric (isAlphanumeric_of_isDigit hd)
  · decide +kernel

theorem isBlank_eq_false_of_continuesName {c : Char} (h : continuesName c = true) :
    isBlank c = false := by
  simp only [continuesName, Bool.or_eq_true, decide_eq_true_eq] at h
  rcases h with ha | rfl
  · exact isBlank_eq_false_of_isAlphanumeric ha
  · decide +kernel

/-- A character and those of a class after it, up to the first of another class. -/
theorem maximal_takeWhile {p : Char → Bool} {c : Char} (hc : p c = true) (cs : List Char) :
    Maximal p (c :: cs.takeWhile p) (cs.dropWhile p) := by
  refine ⟨List.forall_mem_cons.mpr ⟨hc, fun d hd => List.mem_takeWhile_imp hd⟩, ?_⟩
  intro d hd
  have hdrop := List.head?_dropWhile_not p cs
  rw [Option.mem_def.mp hd] at hdrop
  simpa using hdrop

/-! ### The three ways of making a token -/

theorem standsFor_ofNumeral {c : Char} (hc : isNumeral c = true) (front cs : List Char) :
    (ofNumeral (c :: cs.takeWhile isNumeral) front.length).StandsFor constants functions front
      (c :: cs.takeWhile isNumeral) (cs.dropWhile isNumeral) where
  offset := by
    unfold ofNumeral
    dsimp only
    split <;> rfl
  lexeme := by
    unfold ofNumeral
    dsimp only
    split <;> simp [bad, ofText]
  nonempty := List.cons_ne_nil _ _
  numeral := by
    intro d _ _
    refine ⟨maximal_takeWhile hc cs, ?_, ?_⟩
    · intro hpoints
      simp [ofNumeral, ofText, Nat.not_lt.mpr hpoints]
    · intro hpoints
      simp [ofNumeral, bad, hpoints]
  name := by
    intro d hd hname
    cases Option.mem_def.mp hd
    rw [← beginsName_iff, beginsName_eq_false_of_isNumeral hc] at hname
    cases hname
  symbol := by
    intro d hd hnumeral
    cases Option.mem_def.mp hd
    exact absurd (isNumeral_iff.mp hc) hnumeral

theorem standsFor_ofName {c : Char} (hc : beginsName c = true) (front cs : List Char) :
    (ofName constants functions (c :: cs.takeWhile continuesName) front.length).StandsFor
      constants functions front (c :: cs.takeWhile continuesName)
      (cs.dropWhile continuesName) := by
  -- Whatever the tables say of it, the token has the run as its text.
  have hlexeme : (ofName constants functions (c :: cs.takeWhile continuesName)
      front.length).lexeme = String.ofList (c :: cs.takeWhile continuesName) := by
    unfold ofName
    dsimp only
    split
    · rfl
    · split <;> rfl
  refine { offset := ?_, lexeme := ?_, nonempty := List.cons_ne_nil _ _, numeral := ?_,
           name := ?_, symbol := ?_ }
  · unfold ofName
    dsimp only
    split
    · rfl
    · split <;> rfl
  · rw [hlexeme, String.toList_ofList]
  · intro d hd hnumeral
    cases Option.mem_def.mp hd
    rw [← isNumeral_iff] at hnumeral
    rw [beginsName_eq_false_of_isNumeral hnumeral] at hc
    cases hc
  · intro d _ _
    rw [hlexeme]
    unfold ofName
    dsimp only
    refine ⟨maximal_takeWhile (continuesName_of_beginsName hc) cs, ?_, ?_, ?_⟩
    · intro hconstant
      rw [if_pos hconstant]
      exact ⟨rfl, rfl⟩
    · intro hconstant hfunction
      rw [if_neg (Bool.eq_false_iff.mp hconstant), if_pos hfunction]
      exact ⟨rfl, rfl⟩
    · intro hconstant hfunction
      rw [if_neg (Bool.eq_false_iff.mp hconstant), if_neg (Bool.eq_false_iff.mp hfunction)]
      exact ⟨rfl, rfl⟩
  · intro d hd _ hname
    cases Option.mem_def.mp hd
    exact absurd (beginsName_iff.mp hc) hname

theorem ofChar?_eq_some_iff {c : Char} {op : Operator} :
    Operator.ofChar? c = some op ↔ c = op.symbol := by
  constructor
  · intro h
    have hfound := List.find?_some h
    exact (of_decide_eq_true hfound).symm
  · rintro rfl
    cases op <;> rfl

theorem standsFor_ofSymbol {c : Char} (hnumeral : isNumeral c = false)
    (hname : beginsName c = false) (front rest : List Char) :
    (ofSymbol c front.length).StandsFor constants functions front [c] rest where
  offset := by
    unfold ofSymbol
    split <;> rfl
  lexeme := by
    unfold ofSymbol
    split <;> simp [ofText, bad]
  nonempty := List.cons_ne_nil _ _
  numeral := by
    intro d hd hnumeral'
    cases Option.mem_def.mp hd
    rw [← isNumeral_iff, hnumeral] at hnumeral'
    cases hnumeral'
  name := by
    intro d hd hname'
    cases Option.mem_def.mp hd
    rw [← beginsName_iff, hname] at hname'
    cases hname'
  symbol := by
    intro d hd _ _
    cases Option.mem_def.mp hd
    refine ⟨rfl, ?_⟩
    unfold ofSymbol symbolKind?
    split
    next kind hkind =>
      split at hkind
      · cases hkind
        exact .inr (.inl ⟨rfl, rfl, rfl⟩)
      · cases hkind
        exact .inr (.inr (.inl ⟨rfl, rfl, rfl⟩))
      · obtain ⟨op, hop, rfl⟩ := Option.map_eq_some_iff.mp hkind
        exact .inl ⟨op, ofChar?_eq_some_iff.mp hop, rfl, rfl⟩
    next hkind =>
      split at hkind
      · cases hkind
      · cases hkind
      next hopen hclose =>
        refine .inr (.inr (.inr ⟨?_, hopen, hclose, rfl, rfl⟩))
        intro op hop
        rw [Option.map_eq_none_iff] at hkind
        rw [ofChar?_eq_some_iff.mpr hop] at hkind
        cases hkind

/-! ### The tokens of a suffix -/

/-- The tokens account for the characters `cs`, which come after `front`. -/
structure Accounts (constants : ConstantTable) (functions : FunctionTable)
    (front cs : List Char) (ts : List Token) : Prop where
  /-- Each token stands for some of the characters. -/
  standing : ∀ t ∈ ts, ∃ skipped run rest, cs = skipped ++ run ++ rest ∧
    t.StandsFor constants functions (front ++ skipped) run rest
  /-- No token begins before the one before it has ended. -/
  ordered : ts.Pairwise Precedes
  /-- The characters that no token covers are the blanks. -/
  covered : ∀ k c, cs[k]? = some c →
    ((∃ t ∈ ts, t.Covers (front.length + k)) ↔ isBlank c = false)

variable {front cs run rest : List Char} {ts : List Token}

theorem StandsFor.length_lexeme {t : Token} (h : t.StandsFor constants functions front run rest) :
    t.lexeme.length = run.length := by
  rw [← String.length_toList, h.lexeme]

theorem StandsFor.covers_iff {t : Token} (h : t.StandsFor constants functions front run rest)
    (k : Nat) : t.Covers (front.length + k) ↔ k < run.length := by
  unfold Covers
  rw [h.offset, h.length_lexeme]
  constructor
  · rintro ⟨n, hn, -, hlt⟩
    cases hn
    omega
  · intro hlt
    exact ⟨front.length, rfl, by omega, by omega⟩

/-- Tokens of a suffix begin in it. -/
theorem Accounts.exists_offset (h : Accounts constants functions front cs ts) :
    ∀ t ∈ ts, ∃ n, t.offset = some n ∧ front.length ≤ n := by
  intro t ht
  obtain ⟨skipped, run, rest, -, hstands⟩ := h.standing t ht
  refine ⟨_, hstands.offset, ?_⟩
  rw [List.length_append]
  exact Nat.le_add_right _ _

/-- Tokens of a suffix cover nothing before it. -/
theorem Accounts.not_covers (h : Accounts constants functions front cs ts) {k : Nat}
    (hk : k < front.length) : ¬∃ t ∈ ts, t.Covers k := by
  rintro ⟨t, ht, n, hn, hle, -⟩
  obtain ⟨m, hm, hfront⟩ := h.exists_offset t ht
  rw [hn] at hm
  cases hm
  omega

theorem accounts_nil : Accounts constants functions front [] [] :=
  ⟨by simp, List.Pairwise.nil, by simp⟩

/-- The tokens of the characters after a run stand where they stand in the whole. -/
theorem Accounts.standing_append (h : Accounts constants functions (front ++ run) cs ts) :
    ∀ t ∈ ts, ∃ skipped run' rest, run ++ cs = skipped ++ run' ++ rest ∧
      t.StandsFor constants functions (front ++ skipped) run' rest := by
  intro t ht
  obtain ⟨skipped, run', rest, rfl, hstands⟩ := h.standing t ht
  refine ⟨run ++ skipped, run', rest, by simp, ?_⟩
  rw [← List.append_assoc]
  exact hstands

/-- A blank needs no token. -/
theorem Accounts.blank {c : Char} (hc : isBlank c = true)
    (h : Accounts constants functions (front ++ [c]) cs ts) :
    Accounts constants functions front (c :: cs) ts where
  standing := h.standing_append
  ordered := h.ordered
  covered := by
    intro k d hd
    cases k with
    | zero =>
      cases hd
      have hnone := h.not_covers (k := front.length) (by simp)
      simp [hnone, hc]
    | succ k =>
      have hk := h.covered k d hd
      rw [List.length_append, List.length_singleton, Nat.add_assoc, Nat.add_comm 1 k] at hk
      exact hk

/-- A token accounts for the characters that it stands for. -/
theorem Accounts.cons {t : Token} (ht : t.StandsFor constants functions front run rest)
    (hrun : ∀ c ∈ run, isBlank c = false)
    (h : Accounts constants functions (front ++ run) rest ts) :
    Accounts constants functions front (run ++ rest) (t :: ts) where
  standing := by
    refine List.forall_mem_cons.mpr ⟨⟨[], run, rest, rfl, ?_⟩, h.standing_append⟩
    rw [List.append_nil]
    exact ht
  ordered := by
    refine List.pairwise_cons.mpr ⟨?_, h.ordered⟩
    intro u hu
    obtain ⟨n, hn, hle⟩ := h.exists_offset u hu
    have hpos := List.length_pos_iff.mpr ht.nonempty
    rw [List.length_append] at hle
    refine ⟨front.length, n, ht.offset, hn, by omega, ?_⟩
    rw [ht.length_lexeme]
    exact hle
  covered := by
    intro k c hc
    simp only [List.mem_cons, exists_eq_or_imp, ht.covers_iff]
    -- A place within the run, or one after it.
    by_cases hk : k < run.length
    · rw [List.getElem?_append_left hk] at hc
      simp [hk, hrun c (List.mem_of_getElem? hc)]
    · obtain ⟨j, rfl⟩ := Nat.exists_eq_add_of_le (Nat.le_of_not_lt hk)
      rw [List.getElem?_append_right (Nat.le_add_right _ _), Nat.add_sub_cancel_left] at hc
      have hj := h.covered j c hc
      rw [List.length_append, Nat.add_assoc] at hj
      rw [or_iff_right hk]
      exact hj

/-- The tokens found in a suffix account for it. -/
theorem accounts_scanFrom (front cs : List Char) :
    Accounts constants functions front cs (scanFrom constants functions front.length cs) := by
  generalize hoffset : front.length = offset
  fun_induction scanFrom constants functions offset cs generalizing front with
  | case1 => exact accounts_nil
  | case2 offset c cs hblank ih => exact .blank hblank (ih (front ++ [c]) (by simp [hoffset]))
  | case3 offset c cs hblank hnumeral run ih =>
    have hrest := ih (front ++ run) (by simp [hoffset])
    have hstands : (ofNumeral run front.length).StandsFor constants functions front run
        (cs.dropWhile isNumeral) := standsFor_ofNumeral hnumeral front cs
    rw [hoffset] at hstands
    have haccounts := Accounts.cons hstands
      (fun d hd => isBlank_eq_false_of_isNumeral ((maximal_takeWhile hnumeral cs).1 d hd)) hrest
    rwa [List.cons_append, List.takeWhile_append_dropWhile] at haccounts
  | case4 offset c cs hblank hnumeral hname run ih =>
    have hrest := ih (front ++ run) (by simp [hoffset])
    have hcontinues := continuesName_of_beginsName hname
    have hstands : (ofName constants functions run front.length).StandsFor constants functions front
        run (cs.dropWhile continuesName) := standsFor_ofName hname front cs
    rw [hoffset] at hstands
    have haccounts := Accounts.cons hstands
      (fun d hd => isBlank_eq_false_of_continuesName ((maximal_takeWhile hcontinues cs).1 d hd))
      hrest
    rwa [List.cons_append, List.takeWhile_append_dropWhile] at haccounts
  | case5 offset c cs hblank hnumeral hname ih =>
    have hrest := ih (front ++ [c]) (by simp [hoffset])
    have hstands : (ofSymbol c front.length).StandsFor constants functions front [c] cs :=
      standsFor_ofSymbol (by simpa using hnumeral) (by simpa using hname) front cs
    rw [hoffset] at hstands
    have haccounts : Accounts constants functions front ([c] ++ cs) _ :=
      Accounts.cons hstands (by simpa using hblank) hrest
    exact haccounts

theorem exists_standsFor_of_mem_scan {text : String} {t : Token}
    (h : t ∈ scan constants functions text) :
    ∃ front run rest, t.StandsFor constants functions front run rest := by
  obtain ⟨skipped, run, rest, -, hstands⟩ := (accounts_scanFrom [] text.toList).standing t h
  exact ⟨[] ++ skipped, run, rest, hstands⟩

/-- What the kind of a token says about it: a bad token, and no other, carries an error, and the error
    has its place. -/
theorem StandsFor.kind_cases {t : Token} (h : t.StandsFor constants functions front run rest) :
    (t.kind = .bad ∧ ∃ kind, t.error = some ⟨kind, front.length⟩) ∨
    (t.error = none ∧
      ((t.kind = .number ∧ (∀ c ∈ run, isNumeral c = true) ∧ run.count '.' ≤ 1) ∨
      (t.kind = .constant ∧ constants.contains t.lexeme = true) ∨
      (t.kind = .function ∧ functions.contains t.lexeme = true) ∨
      (t.kind = .openBracket ∧ t.lexeme = "(") ∨ (t.kind = .closeBracket ∧ t.lexeme = ")") ∨
      ∃ op, t.kind = .operator op ∧ t.lexeme = String.singleton op.symbol)) := by
  obtain ⟨c, hc⟩ := Option.ne_none_iff_exists'.mp
    (fun hnone => h.nonempty (List.head?_eq_none_iff.mp hnone))
  by_cases hnumeral : c.isDigit = true ∨ c = '.'
  · obtain ⟨hmaximal, hnumber, hbad⟩ := h.numeral c hc hnumeral
    by_cases hpoints : run.count '.' ≤ 1
    · obtain ⟨hk, he⟩ := hnumber hpoints
      exact .inr ⟨he, .inl ⟨hk, hmaximal.1, hpoints⟩⟩
    · obtain ⟨hk, he⟩ := hbad (by omega)
      exact .inl ⟨hk, _, he⟩
  by_cases hname : isAlphabetic c = true ∨ c = '_'
  · obtain ⟨-, hconstant, hfunction, hunknown⟩ := h.name c hc hname
    cases hcon : constants.contains t.lexeme with
    | true =>
      obtain ⟨hk, he⟩ := hconstant hcon
      exact .inr ⟨he, .inr (.inl ⟨hk, rfl⟩)⟩
    | false =>
      cases hfun : functions.contains t.lexeme with
      | true =>
        obtain ⟨hk, he⟩ := hfunction hcon hfun
        exact .inr ⟨he, .inr (.inr (.inl ⟨hk, rfl⟩))⟩
      | false =>
        obtain ⟨hk, he⟩ := hunknown hcon hfun
        exact .inl ⟨hk, _, he⟩
  · obtain ⟨hrun, hsymbol⟩ := h.symbol c hc hnumeral hname
    have hlexeme : t.lexeme = String.singleton c := by
      rw [← String.toList_inj, h.lexeme, hrun, String.toList_singleton]
    rcases hsymbol with ⟨op, rfl, hk, he⟩ | ⟨rfl, hk, he⟩ | ⟨rfl, hk, he⟩ | ⟨-, -, -, hk, he⟩
    · exact .inr ⟨he, .inr (.inr (.inr (.inr (.inr ⟨op, hk, hlexeme⟩))))⟩
    · exact .inr ⟨he, .inr (.inr (.inr (.inl ⟨hk, hlexeme⟩)))⟩
    · exact .inr ⟨he, .inr (.inr (.inr (.inr (.inl ⟨hk, hlexeme⟩))))⟩
    · exact .inl ⟨hk, _, he⟩

/-- **Coverage.** The tokens of a text stand for what is written at their places, one after the other
    and without overlap, and cover all characters but the blanks. -/
theorem scan_lossless (constants : ConstantTable) (functions : FunctionTable) (text : String) :
    (∀ t ∈ scan constants functions text, ∃ front run rest, text.toList = front ++ run ++ rest ∧
      t.StandsFor constants functions front run rest) ∧
    (scan constants functions text).Pairwise Precedes ∧
    ∀ k c, text.toList[k]? = some c →
      ((∃ t ∈ scan constants functions text, t.Covers k) ↔ isBlank c = false) := by
  have haccounts : Accounts constants functions [] text.toList
      (scan constants functions text) := accounts_scanFrom [] text.toList
  refine ⟨haccounts.standing, haccounts.ordered, ?_⟩
  intro k c hc
  have hk := haccounts.covered k c hc
  rwa [List.length_nil, Nat.zero_add] at hk

end Abacus.Token
