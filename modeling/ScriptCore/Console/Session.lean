import ScriptCore.Console.Line
import ScriptCore.Engine.Dispatch

/-!
# Sessions

A session evaluates lines on an engine, each as a script of its own. An error of
a line ends up among its reports, and the engine stays usable.
-/

namespace ScriptCore
namespace Session

open Engine

/-- What a line yields: a result that is not void, and reports. -/
structure Evaluation where
  value? : Option Value
  reports : List String

/-- The pending reports, which are gone afterwards. -/
def takeReports : StateM Engine (List String) := do
  let engine ← get
  set { engine with reports := [] }
  return engine.reports

variable [KeyHash]

/-- The value of a literal. -/
def resolve : Literal → Run Value
  | .value value => return value
  | .reference name => getVariable name

/-- The values of literals, from left to right. -/
def resolveAll : List Literal → Run (List Value)
  | [] => return []
  | literal :: literals => do
      let value ← resolve literal
      let values ← resolveAll literals
      return value :: values

/-- Bind a variable. -/
def bindLine (name : String) (literal : Literal) : Run Value := do
  let value ← resolve literal
  assign name value
  return .void

/-- Call a function. -/
def callLine (name : String) (args : List Literal) : Run Value := do
  let values ← resolveAll args
  Engine.call name values

/-- The value of a script unless it failed or is void. -/
def visible? : Except Failure Value → Option Value
  | .ok value => if value.isVoid then none else some value
  | .error _ => none

/-- Run a line that has been read. -/
def runLine : Line → StateM Engine (Option Value)
  | .empty => return none
  | .command _ => return none
  | .binding name literal => do
      let _ ← (Engine.run (bindLine name literal)).run
      return none
  | .call name args => do
      let outcome ← (Engine.run (callLine name args)).run
      return visible? outcome

/-- Evaluate a line. -/
def evalLine (line : String) : StateM Engine (Except LineError Evaluation) := do
  match Line.parse line with
  | .error error => return .error error
  | .ok line =>
      let value? ← runLine line
      let reports ← takeReports
      return .ok { value?, reports }

/-- Turn safe mode on, unless the flag has been set either way. -/
def enableSafeMode : StateM Engine (Except AppError Unit) := do
  let engine ← get
  match engine.safeMode.set true with
  | .ok safeMode =>
      set { engine with safeMode }
      return .ok ()
  | .error error => return .error (.safeMode error)

/-- Registered functions, one a line. -/
def functionLines (engine : Engine) : List String :=
  engine.functions.map Signature.toText

/-- Global variables with their values, one a line. -/
def variableLines (engine : Engine) : List String :=
  engine.scopes.global.entries.filterMap fun (_, name?, binding) =>
    if binding.isFunction then none
    else some (name?.getD "_" ++ " = " ++ (binding.value engine.scopes.cells).display)

end Session
end ScriptCore
