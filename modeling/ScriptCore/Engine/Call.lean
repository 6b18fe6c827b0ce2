import ScriptCore.Engine.Handler
import ScriptCore.Signature.Bind

/-!
# Calls

A call names a function, a method or a class; here the signature to run is
chosen. Running it is the job of a dispatcher, which is a parameter of this
module: bodies make calls through the dispatcher that runs them.
-/

namespace ScriptCore

/-- A signature with arguments and, for a method, its receiver. -/
structure Call where
  signature : Signature
  args : List Value
  receiver? : Option Value

/-- How a call ended, and what it left of its receiver. -/
structure Reply where
  outcome : Except Failure Value
  receiver? : Option Value

/-- A way to run calls. -/
abbrev Dispatcher := Call → StateM Engine Reply

namespace Engine

/-- Call one signature. -/
def callSignature (dispatch : Dispatcher) (signature : Signature) (args : List Value) :
    Run Value := ExceptT.mk do
  let reply ← dispatch { signature, args, receiver? := none }
  return reply.outcome

/-- Call the most recent overload that accepts the arguments. -/
def callFunction (dispatch : Dispatcher) (function : Function) (args : List Value) : Run Value :=
  match function.resolve? args.length with
  | some signature => callSignature dispatch signature args
  | none => Run.fail (.undefinedFunction function.name)

variable [KeyHash]

/-- Call a function by name. -/
def callByName (dispatch : Dispatcher) (name : String) (args : List Value) : Run Value := do
  let engine ← get
  match engine.scopes.lookupFunction? name with
  | some function => callFunction dispatch function args
  | none => Run.failWithHint (.undefinedFunction name) (engine.hintFor name)

/-- Call a function value, or the function that a string names. -/
def callValue (dispatch : Dispatcher) (callee : Value) (args : List Value) : Run Value :=
  match callee with
  | .function function => callFunction dispatch function args
  | .str bytes => callByName dispatch (Utf8.text bytes) args
  | other => Run.fail (.notCallable other.tag.name)

/-- Number of argument positions that a receiver takes: natives see it as their
first argument. -/
def receiverSlots (signature : Signature) : Nat :=
  match signature.origin with
  | .native => 1
  | .userDefined => 0

/-- The overload of a method to run: the most recent one that accepts the
arguments, else the most recent one. -/
def selectMethod? (function : Function) (argc : Nat) : Option Signature :=
  function.select? fun signature => signature.arity.accepts (argc + receiverSlots signature)

/-- The signature that a method call runs. -/
def resolveMethod (receiver : Value) (name : String) (argc : Nat) :
    Except ScriptError Signature :=
  match receiver with
  | .record content =>
      match content.method? name with
      | none => .error { cause := .undefinedMethod (content.className.getD "record") name }
      | some function =>
          match selectMethod? function argc with
          | some signature => .ok signature
          | none => .error { cause := .undefinedMethod function.name name }
  | other => .error { cause := .undefinedMethod other.tag.name name }

/-- Call a method. The reply has the receiver as the method left it, also when
the call failed. -/
def callMethod (dispatch : Dispatcher) (receiver : Value) (name : String) (args : List Value) :
    StateM Engine Reply :=
  match resolveMethod receiver name args.length with
  | .ok signature => dispatch { signature, args, receiver? := some receiver }
  | .error error => return { outcome := .error (.error error), receiver? := some receiver }

/-- Make an instance of a class and run its constructor. -/
def instantiate (dispatch : Dispatcher) (className : String) (args : List Value) : Run Value := do
  match (← get).class? className with
  | none => Run.fail (.undefinedClass className)
  | some cls =>
      let fresh := Value.record cls.template
      match cls.findConstructor? with
      | none => return fresh
      | some signature => ExceptT.mk do
          let reply ← dispatch { signature, args, receiver? := some fresh }
          return reply.outcome.map fun _ => reply.receiver?.getD fresh

end Engine
end ScriptCore
