import ScriptCore.Config.Settings
import ScriptCore.Engine.SafeMode
import ScriptCore.Error
import ScriptCore.Host.Command
import ScriptCore.Host.Resource
import ScriptCore.Record.Class
import ScriptCore.Scope.Stack
import ScriptCore.Suggest.Distance

/-!
# The state of an engine

An engine holds the scope stack, the registered classes, the loaded modules,
the safe-mode flag, the depth of nested calls, the pending reports and the
exception state. What belongs to the host is kept apart: its shell, its
environment, the shell commands it ran, its resources, its named cells and its
log.

Operations are state transformers that may fail. A failure keeps the state as
it is at that moment, so that a handler can continue from it.
-/

namespace ScriptCore

/-- What became of the last exception. -/
inductive ExceptionState where
  | normal
  | raised (payload : Value)
  | caught (payload : Value)
  | unhandled (payload : Value)

namespace ExceptionState

/-- The state in one word. -/
def name : ExceptionState → String
  | normal => "normal"
  | raised _ => "raised"
  | caught _ => "caught"
  | unhandled _ => "unhandled"

def payload? : ExceptionState → Option Value
  | normal => none
  | raised payload => some payload
  | caught payload => some payload
  | unhandled payload => some payload

end ExceptionState

/-- Global names and classes that one module registered, in order. -/
structure ModuleNames where
  globals : List String
  classes : List String
deriving DecidableEq

namespace ModuleNames

def empty : ModuleNames :=
  { globals := [], classes := [] }

/-- Note a global name once. -/
def addGlobal (names : ModuleNames) (name : String) : ModuleNames :=
  if names.globals.contains name then names
  else { names with globals := names.globals ++ [name] }

def addClass (names : ModuleNames) (name : String) : ModuleNames :=
  { names with classes := names.classes ++ [name] }

end ModuleNames

/-- What belongs to the host of an engine. The newest shell command comes
first; the log is in order. -/
structure Host where
  shell : CommandShell
  environment : Environment
  commands : List String
  resources : ResourceTable
  cellNames : List (String × Nat)
  log : List String

namespace Host

/-- A host with a shell, an environment and nothing else. -/
def new (shell : CommandShell) (environment : Environment) : Host :=
  { shell, environment, commands := [], resources := .empty, cellNames := [], log := [] }

/-- A host without a shell and with an empty environment. -/
def bare : Host :=
  .new .missing .empty

end Host

/-- The state of an engine. -/
structure Engine where
  scopes : ScopeStack
  classes : List (String × Class)
  modules : OrderedMap ModuleNames
  loading : Option ModuleNames
  hasEvaluator : Bool
  safeMode : SafeMode
  callDepth : Nat
  maxCallDepth : Nat
  reports : List String
  exception : ExceptionState
  slots : List Value
  nextSignature : Nat
  host : Host

/-- An operation on an engine that may fail. -/
abbrev Run (α : Type) := ExceptT Failure (StateM Engine) α

namespace Run

/-- Fail with a script error. -/
def fail {α : Type} (cause : Cause) : Run α :=
  throw (.error { cause })

/-- Fail with a script error and a hint. -/
def failWithHint {α : Type} (cause : Cause) (hint : String) : Run α :=
  throw (.error { cause, hint })

/-- The value of a computation, or its script error. -/
def ofExcept {α : Type} : Except ScriptError α → Run α
  | .ok value => pure value
  | .error error => throw (.error error)

end Run

namespace Engine

/-- A new engine with an empty global scope. -/
def new (settings : Settings) (host : Host) : Engine :=
  { scopes := .withOrder settings.initialOrder
    classes := []
    modules := .empty
    loading := none
    hasEvaluator := false
    safeMode := ⟨settings.safeMode⟩
    callDepth := 0
    maxCallDepth := settings.maxCallDepth
    reports := []
    exception := .normal
    slots := []
    nextSignature := 0
    host }

/-- Number of scopes. -/
def depth (engine : Engine) : Nat :=
  engine.scopes.depth

/-- Change the scopes. -/
def mapScopes (f : ScopeStack → ScopeStack) (engine : Engine) : Engine :=
  { engine with scopes := f engine.scopes }

/-- Go back to recorded depths of scopes and calls. -/
def restore (scopeDepth callDepth : Nat) (engine : Engine) : Engine :=
  { engine with scopes := engine.scopes.truncate scopeDepth, callDepth }

/-! ## Reports -/

/-- Largest number of pending reports. -/
def maxReports : Nat := 256

/-- Add a message at the end of a buffer; when the buffer is full, its first
message goes. -/
def pushReport (reports : List String) (message : String) : List String :=
  let kept := if maxReports ≤ reports.length then reports.tail else reports
  kept ++ [message]

@[simp] theorem pushReport_nil (message : String) : pushReport [] message = [message] := rfl

/-- Add a report; the oldest one goes when there are too many. -/
def report (message : String) (engine : Engine) : Engine :=
  { engine with reports := pushReport engine.reports message }

/-- Report a recoverable problem and go on with a default. -/
def nonfatal (message : String) (default : Value) : StateM Engine Value := do
  modify (report message)
  return default

/-- Whether a privileged operation may go on. In safe mode it is refused with a
report. -/
def allowPrivileged (operation : String) : StateM Engine Bool := do
  if (← get).safeMode.isEnabled then
    modify (report (operation ++ " is disabled in safe mode"))
    return false
  else return true

/-! ## Names -/

/-- The hint for a name that is not bound. -/
def hintFor (engine : Engine) (name : String) : String :=
  Suggest.hintFor name engine.scopes.visibleNames

variable [KeyHash]

/-- The value of a variable. -/
def getVariable (name : String) : Run Value := do
  let engine ← get
  match engine.scopes.get? name with
  | some value => return value
  | none => Run.failWithHint (.undefinedVariable name) (engine.hintFor name)

/-- Assign to the nearest binding of a name, or define it in the innermost
scope. -/
def assign (name : String) (value : Value) : Run Unit := do
  let engine ← get
  match engine.scopes.assign name value with
  | .ok scopes => set { engine with scopes }
  | .error cast => Run.fail (.assignment name cast)

/-- Define a variable in the innermost scope. -/
def define (name : String) (value : Value) (engine : Engine) : Engine :=
  engine.mapScopes fun scopes => scopes.define name value

/-! ## Signatures -/

/-- Build a signature with an identity of its own. -/
def buildSignature (spec : SignatureSpec) : Run Signature := do
  let engine ← get
  match Signature.build engine.nextSignature spec with
  | .ok signature =>
      set { engine with nextSignature := engine.nextSignature + 1 }
      return signature
  | .error fault => Run.fail (.invalidPrototype spec.prototype fault.message)

/-- Build several signatures, in order. -/
def buildSignatures : List SignatureSpec → Run (List Signature)
  | [] => return []
  | spec :: specs => do
      let signature ← buildSignature spec
      let signatures ← buildSignatures specs
      return signature :: signatures

end Engine
end ScriptCore
