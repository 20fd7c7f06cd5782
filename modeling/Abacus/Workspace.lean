import Abacus.Calculator

/-! # Workspaces

  A workspace holds a calculator and a list of tokens, and changes step by step: names are entered,
  texts are read, and the stages of an evaluation are applied one at a time and in any order. A step
  that fails leaves the workspace as it was.
-/

namespace Abacus

/-- A calculator together with the tokens that are being worked on. -/
structure Workspace where
  /-- The current tables. -/
  calculator : Calculator
  /-- The current tokens. -/
  tokens : List Token

namespace Workspace

/-- The standard calculator and no tokens. -/
def start : Workspace :=
  ⟨.standard, []⟩

/-- The ways to change a workspace. -/
inductive Step where
  /-- Takes another table of constants. -/
  | useConstants (table : ConstantTable)
  /-- Takes another table of functions. -/
  | useFunctions (table : FunctionTable)
  /-- Enters a constant. -/
  | insertConstant (name : String) (value : Float)
  /-- Enters a function. -/
  | registerFunction (name : String) (f : UnaryFunction)
  /-- Reads a text, in place of the current tokens. -/
  | scan (text : String)
  /-- Reads a text, after the current tokens. -/
  | scanMore (text : String)
  /-- Replaces the constants among the tokens. -/
  | substitute
  /-- Expands the minus signs without a left operand. -/
  | normalize
  /-- Converts the tokens to postfix order. -/
  | toPostfix
  /-- Does the three steps before in one. -/
  | compile

/-- The workspace with other tokens. -/
def withTokens (w : Workspace) (ts : List Token) : Workspace :=
  { w with tokens := ts }

/-- The workspace with another table of constants. -/
def withConstants (w : Workspace) (table : ConstantTable) : Workspace :=
  { w with calculator := { w.calculator with constants := table } }

/-- The workspace with another table of functions. -/
def withFunctions (w : Workspace) (table : FunctionTable) : Workspace :=
  { w with calculator := { w.calculator with functions := table } }

/-- The workspace after a step, or why the step fails. -/
def step (w : Workspace) : Step → Except Diagnostics Workspace
  | .useConstants table => .ok (w.withConstants table)
  | .useFunctions table => .ok (w.withFunctions table)
  | .insertConstant name value =>
    .ok (w.withConstants (w.calculator.constants.insert name value))
  | .registerFunction name f => .ok (w.withFunctions (w.calculator.functions.insert name f))
  | .scan text => .ok (w.withTokens (w.calculator.scan text))
  | .scanMore text => .ok (w.withTokens (w.tokens ++ w.calculator.scan text))
  | .substitute =>
    .ok (w.withTokens (Infix.substituteConstants w.calculator.constants w.tokens))
  | .normalize => .ok (w.withTokens (Infix.normalizeMinus w.tokens))
  | .toPostfix => ((Postfix.ofInfix w.tokens).mapError (·.map .structural)).map w.withTokens
  | .compile => (w.calculator.compile w.tokens).map w.withTokens

/-- The workspace after a step, unchanged if the step fails. -/
def advance (w : Workspace) (s : Step) : Workspace :=
  match w.step s with
  | .ok next => next
  | .error _ => w

/-- The workspace after a sequence of steps. -/
def after (w : Workspace) (steps : List Step) : Workspace :=
  steps.foldl advance w

end Workspace

end Abacus
