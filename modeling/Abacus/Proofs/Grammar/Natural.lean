import Abacus.Proofs.Conversion.Brackets

/-! # The natural grammar of infix expressions

      expression ::= operand | expression operator operand
      operand    ::= number | constant | ( expression ) | function operand | - operand

  A `Phrase` is a derivation in this grammar, with the tokens at its leaves; in an unsigned phrase no
  operand has a minus in front. The sentences are the sequences in which brackets balance and each
  token stands where one of its kind can stand (`sentence_iff`).
-/

namespace Abacus

/-- A token of the given kind. -/
abbrev TokenOf (k : TokenKind) := { t : Token // t.kind = k }

/-- A token of the text. -/
def TokenOf.ofText (k : TokenKind) (lexeme : String) (offset : Nat) : TokenOf k :=
  ⟨.ofText k lexeme offset, rfl⟩

namespace Infix

/-! ### Phrases -/

/-- The two categories of the grammar. -/
inductive Category where
  /-- What an operator joins. -/
  | operand
  /-- Operands joined by operators. -/
  | expression

/-- A derivation in the natural grammar; `signed` says whether an operand may have a minus in
    front. -/
inductive Phrase (signed : Bool) : Category → Type where
  /-- A number. -/
  | number (t : TokenOf .number) : Phrase signed .operand
  /-- A constant. -/
  | constant (t : TokenOf .constant) : Phrase signed .operand
  /-- An expression in brackets. -/
  | group (o : TokenOf .openBracket) (x : Phrase signed .expression)
      (c : TokenOf .closeBracket) : Phrase signed .operand
  /-- A function in front of its argument. -/
  | call (f : TokenOf .function) (x : Phrase signed .operand) : Phrase signed .operand
  /-- A minus in front of an operand. -/
  | negate (h : signed = true) (m : TokenOf (.operator .subtract))
      (x : Phrase signed .operand) : Phrase signed .operand
  /-- An operand by itself. -/
  | single (x : Phrase signed .operand) : Phrase signed .expression
  /-- An operator between an expression and an operand. -/
  | binary {op : Operator} (x : Phrase signed .expression) (t : TokenOf (.operator op))
      (y : Phrase signed .operand) : Phrase signed .expression

variable {signed : Bool} {k : Category}

/-- The tokens of a phrase, in order. -/
def Phrase.yield : {k : Category} → Phrase signed k → List Token
  | _, .number t => [t]
  | _, .constant t => [t]
  | _, .group o x c => ↑o :: (x.yield ++ [↑c])
  | _, .call f x => ↑f :: x.yield
  | _, .negate _ m x => ↑m :: x.yield
  | _, .single x => x.yield
  | _, .binary x t y => x.yield ++ ↑t :: y.yield

/-- Whether the sequence is the yield of an expression. -/
def Sentence (signed : Bool) (ts : List Token) : Prop :=
  ∃ e : Phrase signed .expression, e.yield = ts

/-! ### Where a token can stand -/

/-- Whether each token can stand after the one before it, and a value ends with the last one;
    `afterValue` says whether a value ends just before the sequence. Brackets need not match. -/
def alternates : Bool → List Token → Bool
  | afterValue, [] => afterValue
  | false, t :: ts =>
    match t.kind with
    | .number | .constant => alternates true ts
    | .openBracket | .function | .operator .subtract => alternates false ts
    | .operator _ | .closeBracket | .identifier | .bad | .none => false
  | true, t :: ts =>
    match t.kind with
    | .operator _ => alternates false ts
    | .closeBracket => alternates true ts
    | .number | .constant | .openBracket | .function | .identifier | .bad | .none => false

variable {t : Token} {ts : List Token}

theorem alternates_leaf (h : t.kind = .number ∨ t.kind = .constant) :
    alternates false (t :: ts) = alternates true ts := by
  rcases h with h | h <;> simp [alternates, h]

theorem alternates_opening
    (h : t.kind = .openBracket ∨ t.kind = .function ∨ t.kind = .operator .subtract) :
    alternates false (t :: ts) = alternates false ts := by
  rcases h with h | h | h <;> simp [alternates, h]

theorem alternates_operator {op : Operator} (h : t.kind = .operator op) :
    alternates true (t :: ts) = alternates false ts := by
  simp [alternates, h]

theorem alternates_closeBracket (h : t.kind = .closeBracket) :
    alternates true (t :: ts) = alternates true ts := by
  simp [alternates, h]

/-- A phrase leads from where a value is missing to where one ends. -/
theorem alternates_yield (e : Phrase signed k) (rest : List Token) :
    alternates false (e.yield ++ rest) = alternates true rest := by
  induction e generalizing rest with
  | number t => exact alternates_leaf (.inl t.2)
  | constant t => exact alternates_leaf (.inr t.2)
  | group o x c ih =>
    rw [Phrase.yield, List.cons_append, alternates_opening (.inl o.2), List.append_assoc, ih]
    exact alternates_closeBracket c.2
  | call f x ih =>
    rw [Phrase.yield, List.cons_append, alternates_opening (.inr (.inl f.2)), ih]
  | negate _ m x ih =>
    rw [Phrase.yield, List.cons_append, alternates_opening (.inr (.inr m.2)), ih]
  | single x ih => exact ih rest
  | binary x t y ihx ihy =>
    rw [Phrase.yield, List.append_assoc, ihx, List.cons_append, alternates_operator t.2, ihy]

/-- A phrase closes the brackets that it opens, and no others. -/
theorem depth_yield (e : Phrase signed k) (n : Nat) : depth n e.yield = some n := by
  induction e generalizing n with
  | number t => simp [Phrase.yield, depth_cons, depthStep, t.2]
  | constant t => simp [Phrase.yield, depth_cons, depthStep, t.2]
  | group o x c ih =>
    rw [Phrase.yield, depth_cons, depthStep_openBracket n o.2, Option.bind_some, depth_append, ih,
      Option.bind_some, depth_cons, depthStep_closeBracket (n + 1) c.2]
    simp
  | call f x ih => simp [Phrase.yield, depth_cons, depthStep, f.2, ih]
  | negate _ m x ih => simp [Phrase.yield, depth_cons, depthStep, m.2, ih]
  | single x ih => exact ih n
  | binary x t y ihx ihy =>
    simp [Phrase.yield, depth_append, depth_cons, depthStep, t.2, ihx, ihy]

/-- In an unsigned phrase every minus has a left operand. -/
theorem minusesSubtract_yield (e : Phrase false k) (rest : List Token) :
    minusesSubtract false (e.yield ++ rest) = minusesSubtract true rest := by
  induction e generalizing rest with
  | number t => simp [Phrase.yield, minusesSubtract, isMinus, t.2, TokenKind.endsValue,
      TokenKind.isOperand]
  | constant t => simp [Phrase.yield, minusesSubtract, isMinus, t.2, TokenKind.endsValue,
      TokenKind.isOperand]
  | group o x c ih => simp [Phrase.yield, minusesSubtract, isMinus, o.2, c.2, ih,
      TokenKind.endsValue, TokenKind.isOperand]
  | call f x ih => simp [Phrase.yield, minusesSubtract, isMinus, f.2, ih, TokenKind.endsValue,
      TokenKind.isOperand]
  | negate h _ _ _ => cases h
  | single x ih => exact ih rest
  | binary x t y ihx ihy => simp [Phrase.yield, minusesSubtract, t.2, ihx, ihy,
      TokenKind.endsValue, TokenKind.isOperand]

theorem minusesSubtract_of_sentence (h : Sentence false ts) : minusesSubtract false ts = true := by
  obtain ⟨e, rfl⟩ := h
  have hrest := minusesSubtract_yield e []
  rw [List.append_nil] at hrest
  exact hrest

/-! ### Finding the phrases -/

/-- What is found at the start of a sequence whose tokens alternate, with `d` brackets open before
    it: an operand, and after it a shorter sequence of the same kind. -/
def BeginsWithOperand (d : Nat) (ts : List Token) : Prop :=
  ∃ (x : Phrase true .operand) (rest : List Token),
    ts = x.yield ++ rest ∧ alternates true rest = true ∧ depth d rest = some 0 ∧
      rest.length < ts.length

/-- What is found after an expression `x`: the expression goes on up to the end, or to a bracket that
    it has not opened. -/
def Continues (x : Phrase true .expression) (d : Nat) (ts : List Token) : Prop :=
  ∃ (y : Phrase true .expression) (rest : List Token),
    x.yield ++ ts = y.yield ++ rest ∧ alternates true rest = true ∧ depth d rest = some 0 ∧
      rest.length ≤ ts.length ∧ ∀ t ∈ rest.head?, t.kind = .closeBracket

/-- Every sequence of at most `n` tokens that can begin with an operand does so. -/
def OperandsUpTo (n : Nat) : Prop :=
  ∀ (d : Nat) (ts : List Token), ts.length ≤ n → alternates false ts = true →
    depth d ts = some 0 → BeginsWithOperand d ts

/-- Every sequence of at most `n` tokens that can follow an expression continues it. -/
def ContinuationsUpTo (n : Nat) : Prop :=
  ∀ (x : Phrase true .expression) (d : Nat) (ts : List Token), ts.length ≤ n →
    alternates true ts = true → depth d ts = some 0 → Continues x d ts

/-- A bracket that is opened encloses an expression. -/
theorem beginsWithOperand_group {n d : Nat} (hops : OperandsUpTo n) (hcont : ContinuationsUpTo n)
    (hk : t.kind = .openBracket) (hlen : ts.length ≤ n) (halt : alternates false ts = true)
    (hd : depth (d + 1) ts = some 0) : BeginsWithOperand d (t :: ts) := by
  -- The first operand inside, then what follows it up to the closing bracket.
  obtain ⟨x, mid, rfl, halt', hd', hlt⟩ := hops (d + 1) ts hlen halt hd
  obtain ⟨y, rest, heq, halt'', hd'', hle, hhead⟩ :=
    hcont (.single x) (d + 1) mid (by omega) halt' hd'
  cases rest with
  | nil => simp at hd''
  | cons c rest =>
    have hc : c.kind = .closeBracket := hhead c rfl
    rw [alternates_closeBracket hc] at halt''
    rw [depth_cons, depthStep_closeBracket (d + 1) hc, if_neg (by omega)] at hd''
    refine ⟨.group ⟨t, hk⟩ y ⟨c, hc⟩, rest, ?_, halt'', hd'', ?_⟩
    · rw [Phrase.yield] at heq
      rw [heq]
      simp [Phrase.yield]
    · simp only [List.length_cons] at hle hlt ⊢
      omega

theorem operandsUpTo_succ {n : Nat} (hops : OperandsUpTo n) (hcont : ContinuationsUpTo n) :
    OperandsUpTo (n + 1) := by
  intro d ts hlen halt hd
  cases ts with
  | nil => cases halt
  | cons t ts =>
    have hlen' : ts.length ≤ n := by simpa using hlen
    rw [depth_cons] at hd
    cases hk : t.kind with
    | number =>
      rw [alternates_leaf (.inl hk)] at halt
      rw [depthStep_other d (by simp [hk]) (by simp [hk]), Option.bind_some] at hd
      exact ⟨.number ⟨t, hk⟩, ts, rfl, halt, hd, Nat.lt_succ_self _⟩
    | constant =>
      rw [alternates_leaf (.inr hk)] at halt
      rw [depthStep_other d (by simp [hk]) (by simp [hk]), Option.bind_some] at hd
      exact ⟨.constant ⟨t, hk⟩, ts, rfl, halt, hd, Nat.lt_succ_self _⟩
    | function =>
      rw [alternates_opening (.inr (.inl hk))] at halt
      rw [depthStep_other d (by simp [hk]) (by simp [hk]), Option.bind_some] at hd
      obtain ⟨x, rest, rfl, halt', hd', hlt⟩ := hops d ts hlen' halt hd
      exact ⟨.call ⟨t, hk⟩ x, rest, rfl, halt', hd', Nat.lt_succ_of_lt hlt⟩
    | operator op =>
      cases op with
      | subtract =>
        rw [alternates_opening (.inr (.inr hk))] at halt
        rw [depthStep_other d (by simp [hk]) (by simp [hk]), Option.bind_some] at hd
        obtain ⟨x, rest, rfl, halt', hd', hlt⟩ := hops d ts hlen' halt hd
        exact ⟨.negate rfl ⟨t, hk⟩ x, rest, rfl, halt', hd', Nat.lt_succ_of_lt hlt⟩
      | add | multiply | divide | exponent => simp [alternates, hk] at halt
    | openBracket =>
      rw [alternates_opening (.inl hk)] at halt
      rw [depthStep_openBracket d hk, Option.bind_some] at hd
      exact beginsWithOperand_group hops hcont hk hlen' halt hd
    | closeBracket | identifier | bad | none => simp [alternates, hk] at halt

theorem continuationsUpTo_succ {n : Nat} (hops : OperandsUpTo n) (hcont : ContinuationsUpTo n) :
    ContinuationsUpTo (n + 1) := by
  intro x d ts hlen halt hd
  cases ts with
  | nil => exact ⟨x, [], rfl, halt, hd, Nat.le_refl _, by simp⟩
  | cons t ts =>
    have hlen' : ts.length ≤ n := by simpa using hlen
    cases hk : t.kind with
    | closeBracket => exact ⟨x, t :: ts, rfl, halt, hd, Nat.le_refl _, by simp [hk]⟩
    | operator op =>
      rw [alternates_operator hk] at halt
      rw [depth_cons, depthStep_other d (by simp [hk]) (by simp [hk]), Option.bind_some] at hd
      obtain ⟨y, mid, rfl, halt', hd', hlt⟩ := hops d ts hlen' halt hd
      -- The operator joins its operand to the expression so far, which may go on after that.
      obtain ⟨z, rest, heq, halt'', hd'', hle, hhead⟩ :=
        hcont (.binary x ⟨t, hk⟩ y) d mid (by omega) halt' hd'
      refine ⟨z, rest, ?_, halt'', hd'', ?_, hhead⟩
      · rw [← heq]
        simp [Phrase.yield]
      · simp only [List.length_cons]
        omega
    | number | constant | openBracket | function | identifier | bad | none =>
      simp [alternates, hk] at halt

/-- Operands and continuations are found in sequences of every length. Each of the two needs the
    other in a shorter sequence: brackets hold an expression, and operators are followed by
    operands. -/
theorem operandsUpTo_and_continuationsUpTo (n : Nat) : OperandsUpTo n ∧ ContinuationsUpTo n := by
  induction n with
  | zero =>
    refine ⟨?_, ?_⟩
    · intro d ts hlen halt _
      rw [List.eq_nil_of_length_eq_zero (Nat.le_zero.mp hlen)] at halt
      cases halt
    · intro x d ts hlen halt hd
      have hts := List.eq_nil_of_length_eq_zero (Nat.le_zero.mp hlen)
      exact ⟨x, ts, rfl, halt, hd, Nat.le_refl _, by simp [hts]⟩
  | succ n ih => exact ⟨operandsUpTo_succ ih.1 ih.2, continuationsUpTo_succ ih.1 ih.2⟩

/-- A sequence is a sentence exactly if its brackets balance and its tokens alternate. -/
theorem sentence_iff : Sentence true ts ↔ Balanced ts ∧ alternates false ts = true := by
  constructor
  · rintro ⟨e, rfl⟩
    refine ⟨depth_yield e 0, ?_⟩
    have halt := alternates_yield e []
    rw [List.append_nil] at halt
    exact halt
  · rintro ⟨hd, halt⟩
    obtain ⟨hops, hcont⟩ := operandsUpTo_and_continuationsUpTo ts.length
    obtain ⟨x, mid, rfl, halt', hd', hlt⟩ := hops 0 ts (Nat.le_refl _) halt hd
    obtain ⟨y, rest, heq, -, hd'', -, hhead⟩ :=
      hcont (.single x) 0 mid (Nat.le_of_lt hlt) halt' hd'
    cases rest with
    | nil =>
      -- The expression goes on up to the end.
      refine ⟨y, ?_⟩
      rw [Phrase.yield] at heq
      rw [heq, List.append_nil]
    | cons c rest =>
      -- A closing bracket that is left over has no counterpart.
      have hc : c.kind = .closeBracket := hhead c rfl
      rw [depth_cons, depthStep_closeBracket 0 hc] at hd''
      cases hd''

end Infix

end Abacus
