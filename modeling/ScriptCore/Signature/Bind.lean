import ScriptCore.Error

/-!
# Binding arguments

Binding checks the argument count of a signature and converts the arguments at
forced positions. All other arguments pass through unchanged.
-/

namespace ScriptCore
namespace Signature

/-- Convert one argument as its position demands. -/
def bindArg (signature : Signature) (position : Nat) (arg : Value) : Except ScriptError Value :=
  match signature.prototype.specAt position with
  | .forced tag =>
      match arg.coerce tag with
      | .ok converted => .ok converted
      | .error cast => .error { cause := .coercion signature.name position cast }
  | _ => .ok arg

/-- Convert the arguments from a position on, up to the first failure. -/
def bindFrom (signature : Signature) (position : Nat) :
    List Value → Except ScriptError (List Value)
  | [] => .ok []
  | arg :: args => do
      let bound ← signature.bindArg position arg
      let others ← signature.bindFrom (position + 1) args
      return bound :: others

/-- Check the argument count and convert the arguments. -/
def bind (signature : Signature) (args : List Value) : Except ScriptError (List Value) :=
  if signature.arity.accepts args.length then signature.bindFrom 0 args
  else .error { cause := .arityMismatch signature.name signature.arity args.length }

end Signature
end ScriptCore
