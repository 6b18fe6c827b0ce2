import ScriptCore.Engine.Registry

/-!
# Guards and handlers

A guard opens a scope around a body; on every exit it closes the scopes opened
since and restores the depth of calls. A handler catches exceptions; every other
error passes through it. The outermost `run` reports an error that nobody handled.
Neither handlers nor `run` see a fault of the host.
-/

namespace ScriptCore
namespace Engine

variable {α : Type}

/-- Run a body in a scope of its own. However the body ends, the scopes opened
since are closed and the depth of calls is that from before. -/
def guarded (body : StateM Engine α) : StateM Engine α := do
  let engine ← get
  let scopeDepth := engine.depth
  let callDepth := engine.callDepth
  modify (mapScopes ScopeStack.push)
  let result ← body
  modify (restore scopeDepth callDepth)
  return result

/-- Run a body in a scope of its own. -/
def inScope (body : Run α) : Run α :=
  ExceptT.mk (guarded body.run)

/-! ## Exceptions -/

/-- Raise an exception. -/
def throwValue (payload : Value) : Run α := do
  modify fun engine => { engine with exception := .raised payload }
  Run.fail (.thrown payload)

/-- How a handled body ended. -/
inductive Outcome where
  | completed (value : Value)
  | caught (payload : Value)

variable [KeyHash]

namespace Outcome

/-- The outcome as a value with one key. -/
def toValue : Outcome → Value
  | completed value => .array (.ofPairs [("completed", value)])
  | caught payload => .array (.ofPairs [("caught", payload)])

end Outcome

/-- Run a body and catch its exception. The depths of scopes and calls are
restored, whether the body succeeds or fails. -/
def attempt (body : Run Value) : Run Outcome := ExceptT.mk do
  let engine ← get
  let scopeDepth := engine.depth
  let callDepth := engine.callDepth
  match ← body.run with
  | .ok value =>
      modify (restore scopeDepth callDepth)
      return .ok (.completed value)
  | .error (.error error) =>
      modify (restore scopeDepth callDepth)
      match error.payload? with
      | some payload =>
          modify fun engine => { engine with exception := .caught payload }
          return .ok (.caught payload)
      | none => return .error (.error error)
  | .error failure => return .error failure

/-- The engine after an error that nobody handled: at rest, with a report. -/
def settle (error : ScriptError) (engine : Engine) : Engine :=
  let rested := engine.restore 1 0
  match error.payload? with
  | some payload =>
      { rested.report ("Unhandled exception: " ++ payload.display) with
        exception := .unhandled payload }
  | none => rested.report error.message

/-- Run a body as a script of its own. The exception state starts as normal; an
error is reported and passed on. -/
def run (body : Run Value) : Run Value := ExceptT.mk do
  modify fun engine => { engine with exception := .normal }
  match ← body.run with
  | .error (.error error) =>
      modify (settle error)
      return .error (.error error)
  | result => return result

/-- Run a body and turn its error into an exception. -/
def wrapped (body : Run Value) : Run Value := ExceptT.mk do
  match ← body.run with
  | .error (.error error) => return .error (.error error.intoThrown)
  | result => return result

/-! ## Modules -/

/-- Run the init routine of a module and note every global name it registers. A
failed routine leaves none of its names behind. The result tells whether the
module was loaded. -/
def loadModule (name : String) (init : Run Unit) : Run Bool := do
  if ← allowPrivileged "module loading" then
    if (← get).modules.contains name then
      modify (report ("module " ++ name ++ " is already loaded"))
      return false
    else ExceptT.mk do
      let outer := (← get).loading
      modify fun engine => { engine with loading := some .empty }
      match ← init.run with
      | .ok _ =>
          modify fun engine =>
            { engine with
              loading := outer
              modules := engine.modules.insert name (engine.loading.getD .empty) }
          return .ok true
      | .error (.error error) =>
          modify fun engine =>
            removeNames (engine.loading.getD .empty) { engine with loading := outer }
          return .error (.error error)
      | .error failure => return .error failure
  else return false

end Engine
end ScriptCore
