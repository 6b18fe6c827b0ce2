import ScriptCore.Engine.State

/-!
# Registration

Functions, linked variables and classes are registered under global names.
While a module is loading, the names it registers are noted, so that unloading
it removes them again.
-/

namespace ScriptCore
namespace Engine

/-- Note a global name for the module that is loading. -/
def noteGlobal (name : String) (engine : Engine) : Engine :=
  { engine with loading := engine.loading.map fun names => names.addGlobal name }

/-- Note a class for the module that is loading. -/
def noteClass (name : String) (engine : Engine) : Engine :=
  { engine with loading := engine.loading.map fun names => names.addClass name }

/-! ## Functions -/

variable [KeyHash]

/-- Register a signature as a global function. -/
def registerSignature (signature : Signature) (engine : Engine) : Engine :=
  (engine.noteGlobal signature.name).mapScopes fun scopes => scopes.defineFunction signature

/-- Build and register a signature. -/
def register (spec : SignatureSpec) : Run Signature := do
  let signature ← buildSignature spec
  modify (registerSignature signature)
  return signature

/-- Remove a global binding that satisfies a condition, and tell whether there
was one. -/
def unbindWhere (condition : Binding → Bool) (name : String) : StateM Engine Bool := do
  match (← get).scopes.global.get? name with
  | some binding =>
      if condition binding then
        modify (mapScopes fun scopes => scopes.unbindGlobal name)
        return true
      else return false
  | none => return false

/-- Remove every overload of a global function. -/
def unregister (name : String) : StateM Engine Bool :=
  unbindWhere Binding.isFunction name

/-- Signatures of all global functions, in order of registration. -/
def functions (engine : Engine) : List Signature :=
  engine.scopes.global.values.flatMap fun
    | .function overloads => overloads.overloads
    | _ => []

/-! ## Linked variables -/

/-- Link a global name to a cell. -/
def registerVariable (name : String) (tag : Tag) (cell : Nat) (engine : Engine) : Engine :=
  (engine.noteGlobal name).mapScopes fun scopes => scopes.link name tag cell

/-- Remove a linked variable. -/
def unregisterVariable (name : String) : StateM Engine Bool :=
  unbindWhere Binding.isLinked name

/-- Make a named cell of the host; it replaces a cell of the same name. -/
def newCell (name : String) (value : Value) (engine : Engine) : Engine :=
  let cell := engine.scopes.cells.size
  let others := engine.host.cellNames.filter fun entry => entry.1 != name
  { engine with
    scopes := engine.scopes.newCell value
    host := { engine.host with cellNames := (name, cell) :: others } }

/-- The number of a named cell. -/
def cell? (engine : Engine) (name : String) : Option Nat :=
  engine.host.cellNames.lookup name

/-! ## Classes -/

/-- The class registered under a name. -/
def class? (engine : Engine) (name : String) : Option Class :=
  engine.classes.lookup name

/-- Remove a class. -/
def removeClass (name : String) (engine : Engine) : Engine :=
  { engine with classes := engine.classes.filter fun entry => entry.1 != name }

/-- Register a class; it replaces a class of the same name. -/
def registerClass (cls : Class) (engine : Engine) : Engine :=
  let cleared := (engine.noteClass cls.name).removeClass cls.name
  { cleared with classes := (cls.name, cls) :: cleared.classes }

/-! ## Modules -/

/-- Remove the names of a module. -/
def removeNames (names : ModuleNames) (engine : Engine) : Engine :=
  let unbound := names.globals.foldl
    (fun engine name => engine.mapScopes fun scopes => scopes.unbindGlobal name) engine
  names.classes.foldl (fun engine name => engine.removeClass name) unbound

/-- Remove a loaded module with everything that it registered. -/
def unloadModule (name : String) : StateM Engine Bool := do
  if ← allowPrivileged "module unloading" then
    match (← get).modules.get? name with
    | none =>
        modify (report ("module " ++ name ++ " is not loaded"))
        return false
    | some names =>
        modify fun engine =>
          removeNames names { engine with modules := (engine.modules.erase name).compact }
        return true
  else return false

/-- Names of the loaded modules. -/
def moduleNames (engine : Engine) : List String :=
  engine.modules.keys

/-! ## Description -/

/-- The state of an engine in one line. -/
def describe (engine : Engine) : String :=
  "Runtime \x7b depth: " ++ toString engine.depth ++
    ", call_depth: " ++ toString engine.callDepth ++
    ", classes: " ++ toString engine.classes.length ++
    ", modules: " ++ toString engine.modules.liveCount ++
    ", safe_mode: " ++ toString engine.safeMode.isEnabled ++
    ", has_evaluator: " ++ toString engine.hasEvaluator ++ ", .. \x7d"

/-! ## Resources -/

/-- Numbers of the cells that a scope is linked to. -/
def linkedCells (scope : Scope) : List Nat :=
  scope.values.filterMap fun
    | .linked _ cell => some cell
    | _ => none

/-- Values of the variables of a scope. -/
def plainValues (scope : Scope) : List Value :=
  scope.values.filterMap fun
    | .plain value => some value
    | _ => none

/-- Every value that the engine or its host holds. -/
def heldValues (engine : Engine) : List Value :=
  let scopes := engine.scopes.scopes
  let cells := engine.host.cellNames.map Prod.snd ++ scopes.flatMap linkedCells
  scopes.flatMap plainValues ++ cells.map (fun cell => engine.scopes.cells.getD cell .void) ++
    engine.classes.flatMap (fun entry => entry.2.chain.flatMap fun decl => decl.fields.values) ++
    engine.exception.payload?.toList

/-- Release the resources that nothing refers to, and give their texts. -/
def releaseResources : StateM Engine (List String) := do
  let engine ← get
  let reachable := engine.heldValues.flatMap Value.resourceIds
  let (texts, resources) := engine.host.resources.release reachable
  set { engine with host := { engine.host with resources } }
  return texts

/-- Release every resource that is left, and give their texts. -/
def releaseAll : StateM Engine (List String) := do
  let engine ← get
  let (texts, resources) := engine.host.resources.release []
  set { engine with host := { engine.host with resources } }
  return texts

/-- The log of the host, which is empty afterwards. -/
def takeLog : StateM Engine (List String) := do
  let engine ← get
  set { engine with host := { engine.host with log := [] } }
  return engine.host.log

end Engine
end ScriptCore
