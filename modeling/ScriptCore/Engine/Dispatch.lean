import ScriptCore.Program.Eval

/-!
# Dispatch

A dispatcher runs a call in a scope of its own, one level deeper. A native gets
its bound arguments as slots, with the receiver of a method in front. A
user-defined body finds them as variables: its parameters, `varargs` for the
arguments past them, and `self` for the receiver.

Calls nest through a supply of frames. At the cap on nested calls a call fails
with a script error; the supply is larger than the cap, so that it only runs out
in a program that keeps resetting the call depth.
-/

namespace ScriptCore
namespace Engine

/-- The name under which a method body finds its receiver. -/
def receiverName : String := "self"

/-- The name under which a body finds the arguments past its parameters. -/
def surplusName : String := "varargs"

variable [KeyHash]

/-- Define parameters in the innermost scope. A missing argument is void;
surplus arguments become an array. -/
def bindParams (scopes : ScopeStack) : List String → List Value → ScopeStack
  | [], [] => scopes
  | [], surplus => scopes.define surplusName (.ofList surplus)
  | name :: names, args => bindParams (scopes.define name (args.headD .void)) names args.tail

/-- Run a body with the given argument slots. The result has the slots as the
body left them; the slots from before are back afterwards. -/
def withSlots (slots : List Value) (body : Run Value) :
    StateM Engine (Except Failure Value × List Value) := do
  let outer := (← get).slots
  modify fun engine => { engine with slots }
  let outcome ← body.run
  let left := (← get).slots
  modify fun engine => { engine with slots := outer }
  return (outcome, left)

/-- Run a native. The receiver takes the place of its bound copy. -/
def invokeNative (call : Call) (body : Run Value) : StateM Engine Reply := do
  match call.receiver? with
  | none =>
      match call.signature.bind call.args with
      | .error error => return { outcome := .error (.error error), receiver? := none }
      | .ok bound =>
          let (outcome, _) ← withSlots bound body
          return { outcome, receiver? := none }
  | some receiver =>
      match call.signature.bind (receiver :: call.args) with
      | .error error => return { outcome := .error (.error error), receiver? := some receiver }
      | .ok bound =>
          let (outcome, left) ← withSlots (receiver :: bound.tail) body
          return { outcome, receiver? := some (left.headD .void) }

/-- The variable of a name in the scope at a depth. -/
def bindingAt? (engine : Engine) (index : Nat) (name : String) : Option Value :=
  ((engine.scopes.scopeAt? index).bind fun scope => scope.get? name).map
    (Binding.value engine.scopes.cells)

/-- Run a user-defined body. The receiver is read back from the scope of the
call, whatever scopes the body left open; it is void if that scope is gone. -/
def invokeUser (call : Call) (params : List String) (body : Run Value) : StateM Engine Reply := do
  if (← get).hasEvaluator then
    match call.signature.bind call.args with
    | .error error => return { outcome := .error (.error error), receiver? := call.receiver? }
    | .ok bound =>
        modify (mapScopes fun scopes => bindParams scopes params bound)
        match call.receiver? with
        | none =>
            let (outcome, _) ← withSlots [] body
            return { outcome, receiver? := none }
        | some receiver =>
            let frame := (← get).depth - 1
            modify (define receiverName receiver)
            let (outcome, _) ← withSlots [] body
            let left := (← get).bindingAt? frame receiverName
            return { outcome, receiver? := some (left.getD .void) }
  else
    let missing : ScriptError := { cause := .missingEvaluator call.signature.name }
    return { outcome := .error (.error missing), receiver? := call.receiver? }

/-- Run the implementation of a call. -/
def invoke (dispatch : Dispatcher) (call : Call) : StateM Engine Reply :=
  match call.signature.implementation with
  | .library function _ => invokeNative call (Library.exec dispatch function)
  | .native _ body => invokeNative call (Program.exec dispatch body)
  | .user params body => invokeUser call params (Program.exec dispatch body)

/-- Count one more nested call. -/
def deepen (engine : Engine) : Engine :=
  { engine with callDepth := engine.callDepth + 1 }

/-- Run a call with a supply of frames. -/
def dispatch : Nat → Dispatcher
  | frames, call => do
    let engine ← get
    if engine.maxCallDepth ≤ engine.callDepth then
      let overflow : ScriptError := { cause := .stackOverflow engine.maxCallDepth }
      return { outcome := .error (.error overflow), receiver? := call.receiver? }
    else
      match frames with
      | 0 => return { outcome := .error .exhausted, receiver? := call.receiver? }
      | frames + 1 =>
          guarded do
            modify deepen
            invoke (dispatch frames) call

/-- Frames beyond the cap on nested calls. -/
def spareFrames : Nat := 1000000

/-- The dispatcher of an engine: its frames outlast the cap on nested calls. -/
def dispatcher : Dispatcher := fun call => do
  dispatch ((← get).maxCallDepth + spareFrames) call

/-! ## Programs -/

/-- Run a step on an engine. -/
def execStep (step : Step) : Run Value :=
  Program.execStep dispatcher step

/-- Evaluate an expression on an engine. -/
def evalExpr (expr : Expr) : Run Value :=
  expr.eval dispatcher

/-- Evaluate expressions on an engine, from left to right. -/
def evalExprs (exprs : List Expr) : Run (List Value) :=
  evalArgs dispatcher exprs

/-- Call a function by name. -/
def call (name : String) (args : List Value) : Run Value :=
  callByName dispatcher name args

end Engine
end ScriptCore
