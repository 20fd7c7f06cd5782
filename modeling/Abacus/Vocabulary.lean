import Abacus.Binary64.Shortest
import Abacus.Failure.Cause
import Abacus.Text.CharClass

/-! # Names

  A table gives each of some names one entry (`NameTable`). Adding an entry under a name that is taken
  replaces the old one.

  - `find?_insert_self` and `find?_insert_of_ne`: what an insertion does to every look-up;
  - `names` lists the names in the order of their code points, whatever the order of insertion.

  An expression uses two tables. Constants stand for a number, which is held as a double, and of which an
  expression sees the shortest decimal that spells it. Functions have one argument, a double. A function
  may refuse its argument; what it returns need not be finite, which is for the evaluation to notice.
-/

namespace Abacus

/-! ### Tables of names -/

/-- Entries under distinct names. -/
structure NameTable (α : Type) where
  /-- The names with their entries, the latest first. -/
  entries : List (String × α)
  /-- No name has two entries. -/
  distinct : (entries.map Prod.fst).Nodup

namespace NameTable

variable {α : Type}

/-- The table without names. -/
def empty : NameTable α :=
  ⟨[], List.nodup_nil⟩

/-- The table with `value` under `name`, in place of any entry there. -/
def insert (t : NameTable α) (name : String) (value : α) : NameTable α where
  entries := (name, value) :: t.entries.filter (fun e => e.1 ≠ name)
  distinct := by
    rw [List.map_cons, List.nodup_cons]
    refine ⟨?_, ?_⟩
    · simp
    · exact t.distinct.sublist (List.filter_sublist.map _)

/-- The table with all entries of a list, of which the last one under a name counts. -/
def ofList (entries : List (String × α)) : NameTable α :=
  entries.foldl (fun t e => t.insert e.1 e.2) empty

/-- The entry under exactly this name. -/
def find? (t : NameTable α) (name : String) : Option α :=
  (t.entries.find? fun e => e.1 = name).map Prod.snd

/-- Whether there is an entry under exactly this name. -/
def contains (t : NameTable α) (name : String) : Bool :=
  (t.find? name).isSome

/-- Whether two names differ at most in the case of ASCII letters. -/
def sameUpToCase (a b : String) : Bool :=
  a.toList.map Char.toLower = b.toList.map Char.toLower

/-- The entry under exactly this name, or else one under a name that differs from it in case. -/
def findUpToCase? (t : NameTable α) (name : String) : Option α :=
  match t.find? name with
  | some value => some value
  | none => (t.entries.find? fun e => sameUpToCase e.1 name).map Prod.snd

/-- The names, in the order of their code points. -/
def names (t : NameTable α) : List String :=
  (t.entries.map Prod.fst).mergeSort fun a b => decide (a ≤ b)

/-! ### Look-ups after an insertion -/

@[simp] theorem find?_insert_self (t : NameTable α) (name : String) (value : α) :
    (t.insert name value).find? name = some value := by
  simp [find?, insert]

theorem find?_insert_of_ne (t : NameTable α) {name other : String} (value : α)
    (h : other ≠ name) : (t.insert name value).find? other = t.find? other := by
  have h' : ¬name = other := fun e => h e.symm
  simp only [find?, insert, List.find?_cons, h', decide_false, List.find?_filter]
  congr 2
  funext e
  by_cases he : e.1 = other <;> simp [he, h]

end NameTable

/-! ### Constants -/

/-- The constants that an expression may use. -/
abbrev ConstantTable := NameTable Float

/-- The double nearest to the circumference of a circle of unit diameter. -/
def piValue : Float := 3.14159265358979323846

/-- The double nearest to the base of natural logarithms. -/
def eulerValue : Float := 2.71828182845904523536

namespace ConstantTable

/-- The constants that are there from the start: two numbers, and the factors between degrees and
    radians. -/
def standard : ConstantTable :=
  NameTable.ofList [
    ("pi", piValue),
    ("e", eulerValue),
    ("deg2rad", piValue / 180),
    ("rad2deg", 180 / piValue)]

/-- The text of a number that a constant is replaced by. -/
def lexeme? (t : ConstantTable) (name : String) : Option String :=
  (t.find? name).map Binary64.textOfFloat

end ConstantTable

/-! ### Functions -/

/-- A function of one argument that may refuse it. -/
abbrev UnaryFunction := Float → Except FunctionError Float

/-- The functions that an expression may use. -/
abbrev FunctionTable := NameTable UnaryFunction

namespace UnaryFunction

/-- The function that is defined everywhere. -/
def total (f : Float → Float) : UnaryFunction :=
  fun x => .ok (f x)

/-- The function that refuses the arguments for which `refused` holds. -/
def except (refused : Float → Bool) (f : Float → Float) : UnaryFunction :=
  fun x => if refused x then .error .domain else .ok (f x)

/-- The function `1 / f`, which refuses the zeros of `f`. -/
def reciprocal (f : Float → Float) : UnaryFunction :=
  fun x => if f x == 0 then .error .domain else .ok (1 / f x)

/-- Whether the argument lies outside of the range of sine and cosine. -/
def outsideUnit (x : Float) : Bool :=
  !(-1 ≤ x && x ≤ 1)

end UnaryFunction

namespace FunctionTable

open UnaryFunction

/-- The functions that are there from the start. Angles are in radians. -/
def standard : FunctionTable :=
  NameTable.ofList [
    ("sqrt", except (· < 0) Float.sqrt),
    ("log10", except (· ≤ 0) Float.log10),
    ("log2", except (· ≤ 0) Float.log2),
    ("cos", total Float.cos),
    ("sin", total Float.sin),
    ("tan", total Float.tan),
    ("cosec", reciprocal Float.sin),
    ("sec", reciprocal Float.cos),
    ("cot", reciprocal Float.tan),
    ("acos", except outsideUnit Float.acos),
    ("asin", except outsideUnit Float.asin),
    ("atan", total Float.atan)]

/-- The names of a table, for a reader. -/
def describe (t : FunctionTable) : String :=
  "FunctionTable \x7b functions: [" ++ ", ".intercalate (t.names.map Text.quoted) ++ "] \x7d"

end FunctionTable

end Abacus
