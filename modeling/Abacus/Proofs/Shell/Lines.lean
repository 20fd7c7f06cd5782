import Abacus.Shell.Terminal

/-! # The lines of a text

  The program cuts its input into lines while it is still bytes, and decodes each line by itself. A
  text is cut the same way if the cut is made between its characters (`readLines_encode`): the byte
  that ends a line occurs in the encoding of the newline character, where it is all there is, and in
  that of no other character.
-/

namespace Abacus.Shell

/-! ### Cutting a list -/

section Cutting

variable {α β : Type}

/-- The parts of a list, with more elements in front of the first part. -/
def extendFirst (front : List α) : List (List α) → List (List α)
  | [] => [front]
  | part :: parts => (front ++ part) :: parts

theorem extendFirst_append (front front' : List α) (parts : List (List α)) :
    extendFirst (front ++ front') parts = extendFirst front (extendFirst front' parts) := by
  cases parts with
  | nil => rfl
  | cons part parts => simp only [extendFirst, List.append_assoc]

theorem map_flatMap_extendFirst (f : α → List β) (front : List α) (parts : List (List α)) :
    (extendFirst front parts).map (·.flatMap f) =
      extendFirst (front.flatMap f) (parts.map (·.flatMap f)) := by
  cases parts with
  | nil => rfl
  | cons part parts => simp only [extendFirst, List.map_cons, List.flatMap_append]

/-- The parts of a list that end at the elements with a property; the last part may end without
    one. -/
def cutAfter (p : α → Bool) : List α → List (List α)
  | [] => []
  | a :: rest => if p a then [a] :: cutAfter p rest else extendFirst [a] (cutAfter p rest)

/-- Elements without the property all go to the next part. -/
theorem cutAfter_append {p : α → Bool} {front : List α} (hne : front ≠ [])
    (hfront : ∀ a ∈ front, p a = false) (rest : List α) :
    cutAfter p (front ++ rest) = extendFirst front (cutAfter p rest) := by
  induction front with
  | nil => exact absurd rfl hne
  | cons a front ih =>
    obtain ⟨ha, hfront⟩ := List.forall_mem_cons.mp hfront
    rw [List.cons_append, cutAfter, ha, if_neg Bool.false_ne_true]
    by_cases hne : front = []
    · rw [hne]
      rfl
    · rw [ih hne hfront, ← extendFirst_append]
      rfl

/-- A list may be cut before or after each element is replaced by several, if the elements to cut at
    become single ones, and no other gives any of those. -/
theorem cutAfter_flatMap {p : α → Bool} {q : β → Bool} {f : α → List β}
    (hcut : ∀ a, p a = true → ∃ b, f a = [b] ∧ q b = true)
    (hkeep : ∀ a, p a = false → f a ≠ [] ∧ ∀ b ∈ f a, q b = false) (l : List α) :
    cutAfter q (l.flatMap f) = (cutAfter p l).map (·.flatMap f) := by
  induction l with
  | nil => rfl
  | cons a l ih =>
    rw [List.flatMap_cons, cutAfter]
    cases ha : p a with
    | true =>
      obtain ⟨b, hb, hq⟩ := hcut a ha
      simp [hb, cutAfter, hq, ih]
    | false =>
      obtain ⟨hne, hq⟩ := hkeep a ha
      rw [cutAfter_append hne hq, ih, if_neg Bool.false_ne_true, map_flatMap_extendFirst,
        List.flatMap_singleton]

end Cutting

/-- The lines of the input are cut off after each byte that ends one. -/
theorem splitLines_eq_cutAfter (bytes : List UInt8) :
    splitLines bytes = cutAfter (· = newline) bytes := by
  induction bytes with
  | nil => rfl
  | cons b rest ih =>
    unfold splitLines cutAfter
    rw [ih]
    by_cases hb : b = newline
    · simp [hb]
    · simp only [hb, if_false, decide_false, Bool.false_eq_true]
      cases cutAfter (· = newline) rest <;> rfl

/-! ### The bytes of a text -/

theorem encode_eq_flatMap (text : String) :
    encode text = text.toList.flatMap String.utf8EncodeChar := by
  rw [encode, String.toUTF8_eq_toByteArray, ← String.utf8Encode_toList, List.utf8Encode,
    List.data_toByteArray]

/-- The byte that ends a line is no part of another character. -/
theorem newline_notMem_utf8EncodeChar {c : Char} (hc : c ≠ '\n') :
    newline ∉ String.utf8EncodeChar c := by
  have hval : c.val.toNat ≠ 10 := fun h => hc (Char.ext (UInt32.toNat_inj.1 h))
  have hbyte (n : Nat) (hn : n % 256 ≠ 10) : newline ≠ UInt8.ofNat n := fun h =>
    hn (by simpa [newline] using (congrArg UInt8.toNat h).symm)
  -- A character is one byte below 128, or several from 128 on.
  unfold String.utf8EncodeChar
  simp only [apply_ite (newline ∈ ·), List.mem_cons, List.not_mem_nil, or_false]
  split
  · exact hbyte _ (by omega)
  · split
    · rintro (h | h)
      all_goals exact hbyte _ (by omega) h
    · split
      · rintro (h | h | h)
        all_goals exact hbyte _ (by omega) h
      · rintro (h | h | h | h)
        all_goals exact hbyte _ (by omega) h

/-! ### The lines of a text -/

/-- The lines of a text, each with the character that ends it; the last line may lack that. -/
def linesOf (text : String) : List String :=
  (cutAfter (· = '\n') text.toList).map String.ofList

/-- The lines of the input are those of the text that it encodes. -/
theorem readLines_encode (text : String) : readLines (encode text) = (linesOf text).map some := by
  have hcut : splitLines (encode text) = (cutAfter (· = '\n') text.toList).map fun line =>
      encode (String.ofList line) := by
    rw [splitLines_eq_cutAfter, encode_eq_flatMap, cutAfter_flatMap (p := (· = '\n'))]
    · simp only [encode_eq_flatMap, String.toList_ofList]
    · intro c hc
      obtain rfl : c = '\n' := of_decide_eq_true hc
      exact ⟨newline, rfl, decide_eq_true rfl⟩
    · intro c hc
      refine ⟨String.utf8EncodeChar_ne_nil, ?_⟩
      intro b hb
      apply decide_eq_false
      rintro rfl
      exact newline_notMem_utf8EncodeChar (of_decide_eq_false hc) hb
  rw [readLines, hcut, linesOf, List.map_map, List.map_map]
  exact List.map_congr_left fun line _ => decode_encode (String.ofList line)

/-- An empty line is a line, and the last line may lack its end. -/
example : linesOf "1+1\n\n2*3" = ["1+1\n", "\n", "2*3"] := by decide

end Abacus.Shell
