import Abacus.Proofs.Stages
import Abacus.Proofs.Token.Scanning
import Abacus.Workspace

/-! # Names that do not matter

  A text is evaluated with two tables, and each stage that looks into one looks up names of the text
  only. So two calculators that agree on the names of a text agree on its value or its errors
  (`AgreeOn.evaluate_eq`), and entering a name that the text does not use changes nothing
  (`evaluate_unaffected`).

  The functions are the delicate part: a function is looked up without regard to case if its own name
  is not in the table, and that look-up would see all other names. It is never reached, because a token
  is a function only if the table has its very name (`findUpToCase?_of_find?`).
-/

namespace Abacus

/-! ### The names of a text -/

namespace Token

open Text

variable {constants constants' : ConstantTable} {functions functions' : FunctionTable}
  {offset : Nat} {cs : List Char} {text : String} {t : Token} {name : String}

/-- The names among some characters, as long as each can be. -/
def namesFrom : List Char → List String
  | [] => []
  | c :: cs =>
    if isBlank c then namesFrom cs
    else if isNumeral c then namesFrom (cs.dropWhile isNumeral)
    else if beginsName c then
      String.ofList (c :: cs.takeWhile continuesName) :: namesFrom (cs.dropWhile continuesName)
    else namesFrom cs
termination_by cs => cs.length
decreasing_by
  · simp
  · exact length_dropWhile_lt isNumeral c cs
  · exact length_dropWhile_lt continuesName c cs
  · simp

/-- The names of a text, whether they stand for anything or not. -/
def names (text : String) : List String :=
  namesFrom text.toList

/-- Whether the text of the token begins as a name does. -/
def IsName (t : Token) : Prop :=
  ∃ c ∈ t.lexeme.toList.head?, beginsName c = true

theorem mem_namesFrom_iff :
    name ∈ namesFrom cs ↔
      ∃ t ∈ scanFrom constants functions offset cs, t.lexeme = name ∧ t.IsName := by
  fun_induction scanFrom constants functions offset cs with
  | case1 => simp [namesFrom]
  | case2 offset c cs hblank ih =>
    rw [namesFrom, if_pos hblank]
    exact ih
  | case3 offset c cs hblank hnumeral run ih =>
    -- A digit or point begins no name.
    have hnot : ¬(ofNumeral run offset).IsName := by
      unfold IsName
      rw [lexeme_ofNumeral, String.toList_ofList]
      intro h
      obtain ⟨d, hd, hname⟩ := h
      cases Option.mem_def.mp hd
      rw [beginsName_eq_false_of_isNumeral hnumeral] at hname
      cases hname
    rw [namesFrom, if_neg hblank, if_pos hnumeral, ih]
    simp only [List.mem_cons, exists_eq_or_imp, hnot, and_false, false_or]
  | case4 offset c cs hblank hnumeral hname run ih =>
    have his : (ofName constants functions run offset).IsName := by
      unfold IsName
      rw [lexeme_ofName, String.toList_ofList]
      exact ⟨c, rfl, hname⟩
    rw [namesFrom, if_neg hblank, if_neg hnumeral, if_pos hname, List.mem_cons, ih]
    simp only [List.mem_cons, exists_eq_or_imp, his, and_true, lexeme_ofName]
    exact or_congr_left eq_comm
  | case5 offset c cs hblank hnumeral hname ih =>
    have hnot : ¬(ofSymbol c offset).IsName := by
      unfold IsName
      rw [lexeme_ofSymbol, String.toList_singleton]
      intro h
      obtain ⟨d, hd, hbegins⟩ := h
      cases Option.mem_def.mp hd
      exact hname hbegins
    rw [namesFrom, if_neg hblank, if_neg hnumeral, if_neg hname, ih]
    simp only [List.mem_cons, exists_eq_or_imp, hnot, and_false, false_or]

/-- The names of a text are the texts of those tokens that begin as a name does, whatever the tables
    make of them. -/
theorem mem_names_iff (constants : ConstantTable) (functions : FunctionTable) :
    name ∈ names text ↔
      ∃ t ∈ scan constants functions text, t.lexeme = name ∧ t.IsName :=
  mem_namesFrom_iff

/-- A constant or a function of a text is one of its names. -/
theorem lexeme_mem_names (h : t ∈ scan constants functions text)
    (hk : t.kind = .constant ∨ t.kind = .function) : t.lexeme ∈ names text := by
  refine (mem_names_iff constants functions).mpr ⟨t, h, rfl, ?_⟩
  obtain ⟨front, run, rest, hstands⟩ := exists_standsFor_of_mem_scan h
  obtain ⟨c, hc⟩ := Option.ne_none_iff_exists'.mp
    (fun hnone => hstands.nonempty (List.head?_eq_none_iff.mp hnone))
  rw [IsName, hstands.lexeme]
  refine ⟨c, hc, ?_⟩
  by_contra hname
  rw [beginsName_iff] at hname
  -- A token that begins as no name does is a number, a symbol or a bad token.
  by_cases hnumeral : c.isDigit = true ∨ c = '.'
  · obtain ⟨-, hnumber, hbad⟩ := hstands.numeral c hc hnumeral
    by_cases hpoints : run.count '.' ≤ 1
    · simp [(hnumber hpoints).1] at hk
    · simp [(hbad (by omega)).1] at hk
  · obtain ⟨-, hsymbol⟩ := hstands.symbol c hc hnumeral hname
    rcases hsymbol with ⟨op, -, hk', -⟩ | ⟨-, hk', -⟩ | ⟨-, hk', -⟩ | ⟨-, -, -, hk', -⟩ <;>
      simp [hk'] at hk

/-! ### Finding the tokens -/

theorem ofName_congr {run : List Char}
    (hconstant : constants.contains (String.ofList run) = constants'.contains (String.ofList run))
    (hfunction : functions.contains (String.ofList run) = functions'.contains (String.ofList run)) :
    ofName constants functions run offset = ofName constants' functions' run offset := by
  unfold ofName
  dsimp only
  rw [hconstant, hfunction]

/-- What the tokens are depends on the names of the text only. -/
theorem scanFrom_congr
    (h : ∀ name ∈ namesFrom cs, constants.contains name = constants'.contains name ∧
      functions.contains name = functions'.contains name) :
    scanFrom constants functions offset cs = scanFrom constants' functions' offset cs := by
  fun_induction scanFrom constants functions offset cs with
  | case1 => rw [scanFrom]
  | case2 offset c cs hblank ih =>
    rw [namesFrom, if_pos hblank] at h
    rw [scanFrom, if_pos hblank]
    exact ih h
  | case3 offset c cs hblank hnumeral run ih =>
    rw [namesFrom, if_neg hblank, if_pos hnumeral] at h
    rw [scanFrom, if_neg hblank, if_pos hnumeral, ih h]
  | case4 offset c cs hblank hnumeral hname run ih =>
    rw [namesFrom, if_neg hblank, if_neg hnumeral, if_pos hname, List.forall_mem_cons] at h
    obtain ⟨⟨hconstant, hfunction⟩, hrest⟩ := h
    rw [scanFrom, if_neg hblank, if_neg hnumeral, if_pos hname, ih hrest,
      ofName_congr hconstant hfunction]
  | case5 offset c cs hblank hnumeral hname ih =>
    rw [namesFrom, if_neg hblank, if_neg hnumeral, if_neg hname] at h
    rw [scanFrom, if_neg hblank, if_neg hnumeral, if_neg hname, ih h]

end Token

/-! ### Looking up functions -/

namespace NameTable

variable {α : Type} {table table' : NameTable α} {name : String}

/-- A look-up without regard to case finds the entry of the very name, if there is one. -/
theorem findUpToCase?_of_find? {value : α} (h : table.find? name = some value) :
    table.findUpToCase? name = some value := by
  unfold findUpToCase?
  rw [h]

/-- So it depends on this entry only, if there is one. -/
theorem findUpToCase?_congr (h : table.find? name = table'.find? name)
    (hknown : table.contains name = true) :
    table.findUpToCase? name = table'.findUpToCase? name := by
  obtain ⟨value, hvalue⟩ := Option.isSome_iff_exists.mp hknown
  rw [findUpToCase?_of_find? hvalue]
  rw [h] at hvalue
  rw [findUpToCase?_of_find? hvalue]

end NameTable

namespace Postfix

variable {functions functions' : FunctionTable} {stack : Stack} {t : Token} {ts : List Token}

theorem step_congr (h : t.kind = .function →
    functions.findUpToCase? t.lexeme = functions'.findUpToCase? t.lexeme) :
    step functions stack t = step functions' stack t := by
  by_cases hk : t.kind = .function
  · have happly : ∀ x, applyFunction functions t x = applyFunction functions' t x := by
      intro x
      unfold applyFunction
      rw [h hk]
    simp only [step, hk, happly]
  · -- No other token has anything looked up.
    unfold step
    cases hkind : t.kind with
    | function => exact absurd hkind hk
    | number | operator op | identifier | constant | openBracket | closeBracket | bad | none => rfl

/-- A run looks up the names of its functions only. -/
theorem run_congr (h : ∀ t ∈ ts, t.kind = .function →
    functions.findUpToCase? t.lexeme = functions'.findUpToCase? t.lexeme) :
    run functions stack ts = run functions' stack ts := by
  induction ts generalizing stack with
  | nil => rfl
  | cons t ts ih =>
    obtain ⟨ht, hts⟩ := List.forall_mem_cons.mp h
    rw [run_cons, run_cons, step_congr ht]
    exact congrArg _ (funext fun stack => ih hts)

end Postfix

/-! ### Calculators that agree on names -/

namespace Calculator

open Infix Postfix

variable {c c' : Calculator} {text : String} {ts ps : List Token}

/-- The two calculators have the same entries under the names. -/
structure AgreeOn (names : List String) (c c' : Calculator) : Prop where
  /-- The same constants. -/
  constants : ∀ name ∈ names, c.constants.find? name = c'.constants.find? name
  /-- The same functions. -/
  functions : ∀ name ∈ names, c.functions.find? name = c'.functions.find? name

namespace AgreeOn

theorem scan_eq (h : AgreeOn (Token.names text) c c') : c.scan text = c'.scan text := by
  apply Token.scanFrom_congr
  intro name hname
  unfold NameTable.contains
  rw [h.constants name hname, h.functions name hname]
  exact ⟨rfl, rfl⟩

/-- The constants of the text stand for the same numbers. -/
theorem substituteConstants_eq (h : AgreeOn (Token.names text) c c') :
    substituteConstants c.constants (c.scan text) =
      substituteConstants c'.constants (c.scan text) := by
  apply List.map_congr_left
  intro t ht
  by_cases hk : t.kind = .constant
  · have hfind := h.constants t.lexeme (Token.lexeme_mem_names ht (.inl hk))
    simp only [substitute, ConstantTable.lexeme?, hfind]
  · rw [substitute_of_ne_constant c.constants hk, substitute_of_ne_constant c'.constants hk]

theorem compile_eq (h : AgreeOn (Token.names text) c c') :
    c.compile (c.scan text) = c'.compile (c.scan text) := by
  unfold compile
  rw [h.substituteConstants_eq]

/-- The functions of the text are the same ones when they are called. -/
theorem run_eq (h : AgreeOn (Token.names text) c c') (hcompile : c.compile (c.scan text) = .ok ps) :
    c.run ps = c'.run ps := by
  have hrun : Postfix.run c.functions [] ps = Postfix.run c'.functions [] ps := by
    apply run_congr
    intro t ht hk
    -- A compiled function is one of the text, so its name is in the table.
    rcases source_of_mem_compile hcompile ht with rfl | ⟨u, hu, rfl, -⟩
    · cases hk
    have hku : u.kind = .function := by
      by_cases hconstant : u.kind = .constant
      · rcases substitute_constant c.constants hconstant with hnumber | hsame
        · rw [hnumber] at hk
          cases hk
        · rw [← hsame, hk]
      · rw [substitute_of_ne_constant c.constants hconstant] at hk
        exact hk
    rw [substitute_of_ne_constant c.constants (by simp [hku])]
    exact NameTable.findUpToCase?_congr
      (h.functions u.lexeme (Token.lexeme_mem_names hu (.inr hku)))
      (Token.contains_of_mem_scan_function hu hku)
  unfold Calculator.run Postfix.evaluate
  rw [hrun]

/-- Calculators that agree on the names of a text evaluate it alike. -/
theorem evaluate_eq (h : AgreeOn (Token.names text) c c') : c.evaluate text = c'.evaluate text := by
  have htokens : c.evaluateTokens (c.scan text) = c'.evaluateTokens (c.scan text) := by
    unfold evaluateTokens
    rw [← h.compile_eq]
    cases hcompile : c.compile (c.scan text) with
    | error d => rfl
    | ok ps => exact h.run_eq hcompile
  rw [evaluate_eq_evaluateScanned, evaluate_eq_evaluateScanned, evaluateScanned, evaluateScanned,
    ← h.scan_eq, htokens]

end AgreeOn

/-- A constant under a name that does not occur changes no name that does. -/
theorem agreeOn_insertConstant {names : List String} {name : String} (hname : name ∉ names)
    (c : Calculator) (value : Float) :
    AgreeOn names { c with constants := c.constants.insert name value } c where
  constants other hother := by
    apply NameTable.find?_insert_of_ne
    rintro rfl
    exact hname hother
  functions _ _ := rfl

/-- Nor does a function. -/
theorem agreeOn_registerFunction {names : List String} {name : String} (hname : name ∉ names)
    (c : Calculator) (f : UnaryFunction) :
    AgreeOn names { c with functions := c.functions.insert name f } c where
  constants _ _ := rfl
  functions other hother := by
    apply NameTable.find?_insert_of_ne
    rintro rfl
    exact hname hother

end Calculator

/-! ### Entries after many steps -/

namespace Workspace

variable {w : Workspace} {s : Step}

/-- The constant under a name after a step, from the one before it. -/
def Step.constantAfter (name : String) (entry : Option Float) : Step → Option Float
  | .useConstants table => table.find? name
  | .insertConstant other value => if other = name then some value else entry
  | .useFunctions _ | .registerFunction _ _ | .scan _ | .scanMore _ | .substitute | .normalize
  | .toPostfix | .compile => entry

/-- The function under a name after a step, from the one before it. -/
def Step.functionAfter (name : String) (entry : Option UnaryFunction) :
    Step → Option UnaryFunction
  | .useFunctions table => table.find? name
  | .registerFunction other f => if other = name then some f else entry
  | .useConstants _ | .insertConstant _ _ | .scan _ | .scanMore _ | .substitute | .normalize
  | .toPostfix | .compile => entry

/-- The constant under a name after some steps: the one that was entered last, or else the one that
    was there before. -/
def finalConstant (w : Workspace) (steps : List Step) (name : String) : Option Float :=
  steps.foldl (Step.constantAfter name) (w.calculator.constants.find? name)

/-- The function under a name after some steps. -/
def finalFunction (w : Workspace) (steps : List Step) (name : String) : Option UnaryFunction :=
  steps.foldl (Step.functionAfter name) (w.calculator.functions.find? name)

theorem find?_insert {α : Type} (table : NameTable α) (other name : String) (value : α) :
    (table.insert other value).find? name =
      if other = name then some value else table.find? name := by
  by_cases h : other = name
  · rw [if_pos h, h, NameTable.find?_insert_self]
  · rw [if_neg h, NameTable.find?_insert_of_ne table value (Ne.symm h)]

/-- A conversion or compilation leaves the calculator alone, whether it succeeds or fails. -/
theorem calculator_advance_of_map {outcome : Except Diagnostics (List Token)}
    (h : w.step s = outcome.map w.withTokens) : (w.advance s).calculator = w.calculator := by
  unfold advance
  rw [h]
  cases outcome <;> rfl

/-- A step changes the entries under a name as it says. -/
theorem find?_advance (w : Workspace) (s : Step) (name : String) :
    (w.advance s).calculator.constants.find? name =
        s.constantAfter name (w.calculator.constants.find? name) ∧
      (w.advance s).calculator.functions.find? name =
        s.functionAfter name (w.calculator.functions.find? name) := by
  cases s with
  | useConstants table | useFunctions table => exact ⟨rfl, rfl⟩
  | insertConstant other value => exact ⟨find?_insert _ other name value, rfl⟩
  | registerFunction other f => exact ⟨rfl, find?_insert _ other name f⟩
  | scan text | scanMore text => exact ⟨rfl, rfl⟩
  | substitute | normalize => exact ⟨rfl, rfl⟩
  | toPostfix | compile =>
    rw [calculator_advance_of_map rfl]
    exact ⟨rfl, rfl⟩

/-- After some steps the tables hold the final entries. -/
theorem find?_after (w : Workspace) (steps : List Step) (name : String) :
    (w.after steps).calculator.constants.find? name = w.finalConstant steps name ∧
      (w.after steps).calculator.functions.find? name = w.finalFunction steps name := by
  induction steps generalizing w with
  | nil => exact ⟨rfl, rfl⟩
  | cons s steps ih =>
    obtain ⟨hconstant, hfunction⟩ := find?_advance w s name
    obtain ⟨hconstants, hfunctions⟩ := ih (w.advance s)
    constructor
    · show ((w.advance s).after steps).calculator.constants.find? name = _
      rw [hconstants, finalConstant, hconstant]
      rfl
    · show ((w.advance s).after steps).calculator.functions.find? name = _
      rw [hfunctions, finalFunction, hfunction]
      rfl

/-- **Unused names.** To enter a constant or a function under a name that a text does not use leaves
    its evaluation unchanged. So after any steps the value of a text, or its errors, depend on the
    final entries under its names only. -/
theorem evaluate_unaffected (text : String) :
    (∀ (c : Calculator) (name : String), name ∉ Token.names text →
      (∀ value, { c with constants := c.constants.insert name value }.evaluate text =
        c.evaluate text) ∧
      ∀ f, { c with functions := c.functions.insert name f }.evaluate text = c.evaluate text) ∧
    ∀ (w w' : Workspace) (steps steps' : List Step),
      (∀ name ∈ Token.names text, w.finalConstant steps name = w'.finalConstant steps' name ∧
        w.finalFunction steps name = w'.finalFunction steps' name) →
      (w.after steps).calculator.evaluate text = (w'.after steps').calculator.evaluate text := by
  constructor
  · intro c name hname
    constructor
    · intro value
      exact (Calculator.agreeOn_insertConstant hname c value).evaluate_eq
    · intro f
      exact (Calculator.agreeOn_registerFunction hname c f).evaluate_eq
  · intro w w' steps steps' hfinal
    refine Calculator.AgreeOn.evaluate_eq ⟨?_, ?_⟩
    · intro name hname
      rw [(find?_after w steps name).1, (find?_after w' steps' name).1]
      exact (hfinal name hname).1
    · intro name hname
      rw [(find?_after w steps name).2, (find?_after w' steps' name).2]
      exact (hfinal name hname).2

/-- A function that always fails does not get in the way of `sqrt` under the name `SQRT`, nor under
    `sqrt` itself once another one is entered there. -/
theorem evaluate_unaffected_root :
    { Calculator.standard with
      functions := Calculator.standard.functions.insert "SQRT" fun _ => .error .domain }.evaluate
        "sqrt(16)" = .ok ⟨4, 0⟩ ∧
    (start.after [.registerFunction "sqrt" fun _ => .error .domain, .insertConstant "x" 1,
        .registerFunction "sqrt" (UnaryFunction.total id)]).calculator.evaluate "sqrt(16)" =
      (start.after [.registerFunction "sqrt" (UnaryFunction.total id)]).calculator.evaluate
        "sqrt(16)" := by
  have hnames : Token.names "sqrt(16)" = ["sqrt"] := by
    decide +kernel
  have hvalue : Calculator.standard.evaluate "sqrt(16)" = .ok ⟨4, 0⟩ := by
    decide +kernel
  obtain ⟨hunused, hsteps⟩ := evaluate_unaffected "sqrt(16)"
  constructor
  · rw [← hvalue]
    apply (hunused .standard "SQRT" _).2
    simp [hnames]
  · apply hsteps
    intro name hname
    rw [hnames, List.mem_singleton] at hname
    subst hname
    exact ⟨rfl, rfl⟩

end Workspace

end Abacus
