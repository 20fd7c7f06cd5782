import Abacus.Failure.Cause

/-! # Reports of failures

  A stage that fails reports at least one cause, and often several at once. `Failures` is a list of
  causes that cannot be empty, in the order in which they are reported; `Diagnostics` are the
  failures of a whole evaluation.
-/

namespace Abacus

/-- One or more causes, in order. -/
structure Failures (ε : Type) where
  /-- The first cause. -/
  first : ε
  /-- The causes after it. -/
  rest : List ε
deriving DecidableEq, Repr

namespace Failures

variable {ε ε' : Type}

/-- All causes, in order. -/
def toList (f : Failures ε) : List ε :=
  f.first :: f.rest

/-- A single cause. -/
def one (e : ε) : Failures ε :=
  ⟨e, []⟩

/-- The causes of a list, unless it is empty. -/
def ofList? : List ε → Option (Failures ε)
  | [] => none
  | e :: es => some ⟨e, es⟩

/-- The causes, each seen as one of another kind. -/
def map (f : ε → ε') (x : Failures ε) : Failures ε' :=
  ⟨f x.first, x.rest.map f⟩

/-- The number of causes. -/
def size (f : Failures ε) : Nat :=
  f.rest.length + 1

@[simp] theorem toList_ne_nil (f : Failures ε) : f.toList ≠ [] := by
  simp [toList]

@[simp] theorem length_toList (f : Failures ε) : f.toList.length = f.size := rfl

@[simp] theorem toList_one (e : ε) : (one e).toList = [e] := rfl

@[simp] theorem toList_map (g : ε → ε') (f : Failures ε) :
    (f.map g).toList = f.toList.map g := rfl

theorem mem_toList_map {g : ε → ε'} {f : Failures ε} {x : ε'} :
    x ∈ (f.map g).toList ↔ ∃ e ∈ f.toList, g e = x := by
  rw [toList_map, List.mem_map]

theorem ofList?_eq_some_iff {es : List ε} {f : Failures ε} :
    ofList? es = some f ↔ es = f.toList := by
  obtain ⟨e, rest⟩ := f
  cases es with
  | nil => simp [ofList?, toList]
  | cons x xs => simp [ofList?, toList]

end Failures

/-- What a failed evaluation reports. -/
abbrev Diagnostics := Failures CalcError

namespace Diagnostics

/-- The report of a list of errors. An empty list says of an expression only that it has no value. -/
def ofErrors (errors : List CalcError) : Diagnostics :=
  (Failures.ofList? errors).getD (.one (.evaluation .emptyExpression))

/-- The messages, in order. -/
def messages (d : Diagnostics) : List String :=
  d.toList.map CalcError.message

/-- The messages, one on a line. -/
def text (d : Diagnostics) : String :=
  "\n".intercalate (messages d)

/-- Whether some error concerns a token. -/
def hasLexErrors (d : Diagnostics) : Bool :=
  d.toList.any CalcError.isLexical

end Diagnostics

end Abacus
