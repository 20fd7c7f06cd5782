import Abacus.Text.Unicode

/-! # Classes of characters

  What the calculator asks of a character:

  - may it begin a name (`isAlphabetic`) or continue one (`isAlphanumeric`)?
  - does it only separate tokens (`isBlank`)?
  - can a message show it as itself (`isVisible`), or has it to be named by its number?
  - can a quoted name show it as itself (`standsAlone`)? A character that would end the quote, vanish or
    join its neighbour is written as an escape (`quoted`).

  The main statement is `isBlank_eq_false_of_isAlphanumeric`: no character of a name is blank, so a
  blank always ends a name.
-/

namespace Abacus.Text

/-! ### Characters of names -/

/-- A letter of any script, or a mark or number that behaves like one. -/
def isAlphabetic (c : Char) : Bool :=
  Unicode.alphabetic.has c

/-- An alphabetic character, or a number of any script. -/
def isAlphanumeric (c : Char) : Bool :=
  isAlphabetic c || Unicode.numeric.has c

/-- A character that separates tokens and has no other meaning. -/
def isBlank (c : Char) : Bool :=
  Unicode.whiteSpace.has c

/-! ### Characters that a message can show -/

/-- A control character: it has an effect on a terminal and no glyph. -/
def isControl (c : Char) : Bool :=
  c.toNat < 0x20 || (0x7F ≤ c.toNat && c.toNat ≤ 0x9F)

/-- Format characters: they steer the layout of the text around them and have no glyph. -/
def formatCharacters : CodePoints := [
  (0xAD, 0xAD), (0x600, 0x605), (0x61C, 0x61C), (0x6DD, 0x6DD), (0x70F, 0x70F), (0x890, 0x891),
  (0x8E2, 0x8E2), (0x180E, 0x180E), (0x200B, 0x200F), (0x202A, 0x202E), (0x2060, 0x2064),
  (0x2066, 0x206F), (0xFEFF, 0xFEFF), (0xFFF9, 0xFFFB), (0x110BD, 0x110BD), (0x110CD, 0x110CD),
  (0x13430, 0x1343F), (0x1BCA0, 0x1BCA3), (0x1D173, 0x1D17A), (0xE0001, 0xE0001),
  (0xE0020, 0xE007F)]

/-- Private-use characters: what they look like is up to the font. -/
def privateUse : CodePoints := [(0xE000, 0xF8FF), (0xF0000, 0xFFFFD), (0x100000, 0x10FFFD)]

/-- Whether a message shows the character as itself: the plain space does, any other blank, control,
    format or private-use character does not. -/
def isVisible (c : Char) : Bool :=
  c = ' ' || !(isControl c || isBlank c || formatCharacters.has c || privateUse.has c)

/-! ### Relations between the classes -/

theorem isAlphanumeric_of_isAlphabetic {c : Char} (h : isAlphabetic c = true) :
    isAlphanumeric c = true := by
  simp [isAlphanumeric, h]

/-- Every ASCII digit may continue a name. -/
theorem isAlphanumeric_of_isDigit {c : Char} (h : c.isDigit = true) : isAlphanumeric c = true := by
  obtain ⟨h₁, h₂⟩ := Bool.and_eq_true_iff.1 h
  have : Unicode.numeric.has c = true := CodePoints.has_iff.2
    ⟨(0x30, 0x39), by decide +kernel, of_decide_eq_true h₁, of_decide_eq_true h₂⟩
  exact Bool.or_eq_true_iff.2 (.inr this)

/-- A blank neither begins nor continues a name. -/
theorem isBlank_eq_false_of_isAlphanumeric {c : Char} (h : isAlphanumeric c = true) :
    isBlank c = false := by
  rcases Bool.or_eq_true_iff.1 h with h | h
  · exact CodePoints.has_eq_false_of_disjoint (b := Unicode.alphabetic) (by decide +kernel) h
  · exact CodePoints.has_eq_false_of_disjoint (b := Unicode.numeric) (by decide +kernel) h

/-! ### Quoted names -/

/-- Whether a quoted name shows the character as itself: it has a glyph that is never left out and
    does not join the glyph before it. -/
def standsAlone (c : Char) : Bool :=
  Unicode.graphic.has c && !Unicode.defaultIgnorable.has c && !Unicode.extendingMark.has c

/-- The character by its number, as in `\u{301}`. -/
def escapeByNumber (c : Char) : List Char :=
  ['\\', 'u', '{'] ++ Nat.toDigits 16 c.toNat ++ ['}']

/-- The written form of one character of a quoted name. -/
def escape (c : Char) : List Char :=
  match c with
  | '\x00' => ['\\', '0']
  | '\t' => ['\\', 't']
  | '\n' => ['\\', 'n']
  | '\r' => ['\\', 'r']
  | '"' => ['\\', '"']
  | '\\' => ['\\', '\\']
  | c => if standsAlone c then [c] else escapeByNumber c

/-- The name between double quotes, with its characters escaped. -/
def quoted (name : String) : String :=
  String.ofList ('"' :: name.toList.flatMap escape ++ ['"'])

end Abacus.Text
