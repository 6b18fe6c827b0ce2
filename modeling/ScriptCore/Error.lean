import ScriptCore.Value.Display

/-!
# Errors

An error of a running script has a cause and possibly a hint. Its message is a
function of the two. A script exception carries its payload; every other error
can be turned into an exception whose payload is the message.
-/

namespace ScriptCore

/-- Why a script operation failed. -/
inductive Cause where
  | undefinedVariable (name : String)
  | undefinedFunction (name : String)
  | undefinedMethod (receiver name : String)
  | undefinedClass (name : String)
  | notCallable (typeName : String)
  | coercion (function : String) (param : Nat) (cast : CastError)
  | assignment (name : String) (cast : CastError)
  | arityMismatch (name : String) (expected : Arity) (got : Nat)
  | invalidPrototype (prototype reason : String)
  | missingEvaluator (name : String)
  | stackOverflow (limit : Nat)
  | thrown (payload : Value)

namespace Cause

/-- The cause in words. -/
def message : Cause → String
  | undefinedVariable name => "undefined variable: " ++ name
  | undefinedFunction name => "undefined function: " ++ name
  | undefinedMethod receiver name => "undefined method: " ++ receiver ++ "." ++ name
  | undefinedClass name => "undefined class: " ++ name
  | notCallable typeName => "value of type " ++ typeName ++ " is not callable"
  | coercion function param cast =>
      function ++ ": parameter " ++ toString param ++ ": " ++ cast.message
  | assignment name cast => "cannot assign to " ++ name ++ ": " ++ cast.message
  | arityMismatch name expected got =>
      "function " ++ name ++ " expects " ++ expected.toText ++ " argument(s), got " ++ toString got
  | invalidPrototype prototype reason =>
      "invalid prototype " ++ Text.quoted prototype ++ ": " ++ reason
  | missingEvaluator name => "no evaluator installed to run user-defined function " ++ name
  | stackOverflow limit => "stack overflow: call depth exceeded " ++ toString limit
  | thrown payload => "uncaught exception: " ++ payload.display

/-- The payload of an exception. -/
def payload? : Cause → Option Value
  | thrown payload => some payload
  | _ => none

end Cause

/-- An error of a running script. -/
structure ScriptError where
  cause : Cause
  hint : String := ""

namespace ScriptError

/-- The message, with the hint at its end. -/
def message (error : ScriptError) : String :=
  error.cause.message ++ error.hint

/-- The message as a host shows it. -/
def display (error : ScriptError) : String :=
  "Runtime error: " ++ error.message

/-- Add a hint. -/
def withHint (error : ScriptError) (hint : String) : ScriptError :=
  { error with hint := error.hint ++ hint }

/-- The payload of an exception. -/
def payload? (error : ScriptError) : Option Value :=
  error.cause.payload?

def isThrown (error : ScriptError) : Bool :=
  error.payload?.isSome

/-- The error of an exception with the given payload. -/
def thrown (payload : Value) : ScriptError :=
  { cause := .thrown payload }

/-- The payload of an exception, or the message of another error. -/
def intoPayload (error : ScriptError) : Value :=
  error.payload?.getD (.ofText error.message)

/-- The error as an exception. -/
def intoThrown (error : ScriptError) : ScriptError :=
  if error.isThrown then error else thrown (.ofText error.message)

end ScriptError

/-- Why a program stopped early. An error may be handled. A fault of the host
and exhausted frames end the whole program. -/
inductive Failure where
  | error (error : ScriptError)
  | fault (message : String)
  | exhausted

end ScriptCore
