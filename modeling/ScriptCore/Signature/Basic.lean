import ScriptCore.Program.Syntax
import ScriptCore.Signature.Prototype
import ScriptCore.Text.Quoted

/-!
# Signatures and overload sets

A signature is the contract of one callable: name, declared argument count,
prototype and return letter, with the implementation behind it. Each signature
is built once and shared afterwards, so it has an identity of its own. The
signatures registered under one name form an overload set, oldest first.
-/

namespace ScriptCore

/-- Where an implementation comes from. -/
inductive Origin where
  | native
  | userDefined
deriving DecidableEq

namespace Origin

def name : Origin → String
  | native => "Native"
  | userDefined => "UserDefined"

end Origin

namespace Implementation

def origin : Implementation → Origin
  | library _ _ => .native
  | native _ _ => .native
  | user _ _ => .userDefined

/-- The declared argument count; for a user-defined body, the number of its
parameters. -/
def argCount : Implementation → Nat
  | library _ argCount => argCount
  | native argCount _ => argCount
  | user params _ => params.length

end Implementation

namespace SignatureSpec

def name : SignatureSpec → String
  | mk name _ _ _ => name

def prototype : SignatureSpec → String
  | mk _ prototype _ _ => prototype

end SignatureSpec

/-- The contract of one callable. -/
structure Signature where
  id : Nat
  name : String
  prototype : Prototype
  returns : Char
  implementation : Implementation

namespace Signature

/-- Check the prototype of a signature and give it an identity. -/
def build (id : Nat) : SignatureSpec → Except PrototypeFault Signature
  | .mk name prototype returns implementation => do
      let prototype ← Prototype.parse prototype
      return { id, name, prototype, returns, implementation }

/-- A signature has what is specified, with the prototype that was read. -/
theorem build_eq_ok_iff
    {id : Nat}
    {name text : String}
    {returns : Char}
    {implementation : Implementation}
    {signature : Signature} :
    build id (.mk name text returns implementation) = .ok signature ↔
      ∃ prototype, Prototype.parse text = .ok prototype ∧
        signature = { id, name, prototype, returns, implementation } := by
  rw [build]
  cases Prototype.parse text <;> simp [bind, Except.bind, pure, Except.pure, eq_comm]

def origin (signature : Signature) : Origin :=
  signature.implementation.origin

def argCount (signature : Signature) : Nat :=
  signature.implementation.argCount

/-- Accepted argument counts. A `*` relaxes the count to the positions before
it; a leading `?` accepts arguments past the declared count. -/
def arity (signature : Signature) : Arity :=
  match signature.prototype.restPosition? with
  | some rest => .atLeast rest
  | none =>
      if signature.prototype.params.head? == some .any then .atLeast signature.argCount
      else .exactly signature.argCount

/-- The signature in one line. -/
def toText (signature : Signature) : String :=
  signature.name ++ "(" ++ signature.prototype.toText ++ ") -> " ++
    String.singleton signature.returns

/-- The fields of a signature. -/
def describe (signature : Signature) : String :=
  "Signature \x7b name: " ++ Text.quoted signature.name ++
    ", origin: " ++ signature.origin.name ++
    ", arg_count: " ++ toString signature.argCount ++
    ", prototype: " ++ Text.quoted signature.prototype.toText ++
    ", return_type: " ++ Text.quotedChar signature.returns ++ " \x7d"

end Signature

/-- The signatures registered under one name, oldest first. -/
structure Function where
  name : String
  overloads : List Signature

namespace Function

/-- The overload set of a single signature. -/
def ofSignature (signature : Signature) : Function :=
  { name := signature.name, overloads := [signature] }

/-- Add a signature; it takes precedence over older ones. -/
def push (function : Function) (signature : Signature) : Function :=
  { function with overloads := function.overloads ++ [signature] }

/-- The most recent signature. -/
def newest? (function : Function) : Option Signature :=
  function.overloads.getLast?

/-- The most recent signature that satisfies a condition, else the most recent
one. -/
def select? (function : Function) (condition : Signature → Bool) : Option Signature :=
  (function.overloads.reverse.find? condition).or function.newest?

/-- The most recent signature whose arity accepts the count, else the most
recent one. -/
def resolve? (function : Function) (argc : Nat) : Option Signature :=
  function.select? fun signature => signature.arity.accepts argc

/-- Two overload sets are the same when they share name and signatures. -/
def same (left right : Function) : Bool :=
  left.name == right.name &&
    left.overloads.map Signature.id == right.overloads.map Signature.id

/-- The displayed form of a function value. -/
def toText (function : Function) : String :=
  if 1 < function.overloads.length then
    "<function " ++ function.name ++ " x" ++ toString function.overloads.length ++ ">"
  else "<function " ++ function.name ++ ">"

end Function
end ScriptCore
