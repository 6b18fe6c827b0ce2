import ScriptCore.Library.Natives
import ScriptCore.Value.Json

/-!
# Evaluation of programs

Expressions, actions and steps run on an engine. Calls go through a dispatcher
that is a parameter here, so evaluation is by recursion on the syntax alone; the
dispatcher decides how deeply calls may nest.
-/

namespace ScriptCore

open Engine

/-! ## Primitives -/

variable [KeyHash]

namespace Primitive

/-- The integer of a value, zero for any other tag. -/
def number (value : Value) : Int64 :=
  value.asInt?.getD 0

/-- The joined strings among some values. -/
def joined (values : List Value) : Bytes :=
  values.flatMap fun value => value.asBytes?.getD []

/-- The value of an operation. Joining takes the elements of an array. -/
def apply (operation : Primitive) (args : List Value) : Value :=
  let first := args.getD 0 .void
  let second := args.getD 1 .void
  match operation with
  | add => .int (number first + number second)
  | less => .int (if number first < number second then 1 else 0)
  | concat => .str (joined ((first.asArray?.map OrderedMap.values).getD []))
  | isRecord => .bool first.asRecord?.isSome
  | field name => ((first.asRecord?.bind fun content => content.field? name)).getD .void

end Primitive

/-! ## Expressions -/

/-- Make a resource of the host. -/
def newResource (kind : String) (handle : Handle) (hasDestructor : Bool) :
    StateM Engine Value := do
  let engine ← get
  let table := engine.host.resources
  set { engine with
    host := { engine.host with resources := table.create kind handle hasDestructor } }
  return .resource { id := table.nextId, kind }

/-- Add a vacant slot at the end of a container. -/
def appendVacant (items : OrderedMap Value) : OrderedMap Value :=
  (items.append .void).deleteAt items.size

mutual

/-- The value of an expression. -/
def Expr.eval (dispatch : Dispatcher) : Expr → Run Value
  | .void => return .void
  | .bool value => return .bool value
  | .int value => return .int value
  | .float value => return .float value
  | .str bytes => return .str bytes
  | .array slots => return .array (← evalSlots dispatch .empty slots)
  | .record className fields methods => do
      let fields ← evalSlots dispatch .empty fields
      let signatures ← buildSignatures methods
      return .record (signatures.foldl RecordOf.addMethod
        { className, fields, methods := .empty })
  | .function first others => do
      let first ← buildSignature first
      let others ← buildSignatures others
      return .function (others.foldl Function.push (.ofSignature first))
  | .resource kind handle hasDestructor => newResource kind handle hasDestructor
  | .var name => getVariable name
  | .call name args => do callByName dispatch name (← evalArgs dispatch args)
  | .slot index => arg index
  | .slots => return .ofList (← get).slots
  | .slotCount => return .ofNat (← get).slots.length
  | .primitive operation args => return operation.apply (← evalArgs dispatch args)
  | .fault message => throw (.fault message)
termination_by structural expr => expr

/-- The values of expressions, from left to right. -/
def evalArgs (dispatch : Dispatcher) : List Expr → Run (List Value)
  | [] => return []
  | expr :: exprs => do
      let value ← expr.eval dispatch
      let values ← evalArgs dispatch exprs
      return value :: values
termination_by structural exprs => exprs

/-- Add the slots of a container expression to a container, in order. -/
def evalSlots (dispatch : Dispatcher) (items : OrderedMap Value) :
    List (Slot Expr) → Run (OrderedMap Value)
  | [] => return items
  | .vacant :: slots => evalSlots dispatch (appendVacant items) slots
  | .item expr :: slots => do
      let value ← expr.eval dispatch
      evalSlots dispatch (items.append value) slots
  | .entry key expr :: slots => do
      let value ← expr.eval dispatch
      evalSlots dispatch (items.insert key value) slots
termination_by structural slots => slots

end

/-! ## Changes -/

/-- Change a value of the right tag; the result has the new value and what the
change yields. Another tag gives no result. -/
def Change.apply (change : Change) (target operand : Value) : Run (Option (Value × Value)) := do
  match change, target with
  | .pushBytes, .str bytes => return some (.str (bytes ++ operand.asBytes?.getD []), .void)
  | .append, .array items =>
      let appended := items.appendReturning operand
      return some (.array appended.2, .ofNat appended.1)
  | .insert key, .array items =>
      let inserted := items.insertReturning key operand
      return some (.array inserted.2, .ofOption inserted.1)
  | .setAt index, .array items =>
      let written := items.setAtReturning index operand
      return some (.array written.2, .bool written.1)
  | .deleteAt index, .array items =>
      let removed := items.deleteAtReturning index
      return some (.array removed.2, .ofOption removed.1)
  | .erase key, .array items =>
      let removed := items.eraseReturning key
      return some (.array removed.2, .ofOption removed.1)
  | .setField name, .record content =>
      let written := content.setFieldReturning name operand
      return some (.record written.2, .ofOption written.1)
  | .removeField name, .record content =>
      let removed := content.removeFieldReturning name
      return some (.record removed.2, .ofOption removed.1)
  | .addMethod spec, target =>
      let signature ← buildSignature spec
      match target with
      | .record content => return some (.record (content.addMethod signature), .void)
      | _ => return none
  | _, _ => return none

/-! ## Actions -/

namespace Program

/-- The handle of a resource value. -/
def handleOf? (engine : Engine) (value : Value) : Option (Nat × Handle) :=
  match value with
  | .resource ref => (engine.host.resources.handle? ref.id).map fun handle => (ref.id, handle)
  | _ => none

/-- The bindings of a scope as an array of kinds and values. -/
def dumpScope (cells : Array Value) (scope : Scope) : OrderedMap Value :=
  scope.mapValues fun binding => .ofList [.ofText binding.kind, binding.value cells]

/-- Evaluate the default fields of a class, in order. -/
def evalFields (dispatch : Dispatcher) (fields : OrderedMap Value) :
    List (String × Expr) → Run (OrderedMap Value)
  | [] => return fields
  | (name, expr) :: rest => do
      let value ← expr.eval dispatch
      evalFields dispatch (fields.insert name value) rest

/-- Declare a class over its parent. -/
def declareClass
    (dispatch : Dispatcher)
    (name : String)
    (parent : Option String)
    (fields : List (String × Expr))
    (methods : List SignatureSpec)
    (constructor : Option SignatureSpec) :
    Run Value := do
  let parent? ←
    match parent with
    | none => pure none
    | some parentName =>
        match (← get).class? parentName with
        | some cls => pure (some cls)
        | none => Run.fail (.undefinedClass parentName)
  let fields ← evalFields dispatch .empty fields
  let methods ← buildSignatures methods
  let constructor? ←
    match constructor with
    | none => pure none
    | some spec => some <$> buildSignature spec
  modify (registerClass (.extending { name, fields, methods, constructor? } parent?))
  return .ofText name

/-- Name, parent, constructor and template of a class. -/
def classInfo (cls : Class) : Value :=
  let nameOr (name? : Option String) : Value := (name?.map Value.ofText).getD .void
  .ofList [.ofText cls.name, nameOr (cls.parent?.map Class.name),
    nameOr (cls.findConstructor?.map Signature.name), .record cls.template]

/-- Call a method of the value of a variable, and assign the receiver back even
when the call failed. -/
def callMethodOn (dispatch : Dispatcher) (target name : String) (args : List Value) :
    Run Value := do
  let receiver ← getVariable target
  let reply ← callMethod dispatch receiver name args
  match reply.outcome with
  | .error (.error error) =>
      assign target (reply.receiver?.getD .void)
      throw (.error error)
  | .error failure => throw failure
  | .ok value =>
      assign target (reply.receiver?.getD .void)
      return value

/-- Run an action. -/
def execAction (dispatch : Dispatcher) (action : Action) : Run Value := do
  let eval (expr : Expr) : Run Value := expr.eval dispatch
  match action with
  | .value expr => eval expr
  | .display expr => return .ofText (← eval expr).display
  | .json expr => return .ofText (← eval expr).jsonText
  | .truthy expr => return .bool (← eval expr).isTruthy
  | .deepCopy expr => return (← eval expr).deepCopy
  | .compare left right =>
      let left ← eval left
      let right ← eval right
      return .ofList [.bool (left.ordered right), .bool (left.equal right),
        .bool (left.strictEq right)]
  | .field expr name =>
      let value ← eval expr
      return .ofOption (value.asRecord?.bind fun content => content.field? name)
  | .handleText expr =>
      let value ← eval expr
      match handleOf? (← get) value with
      | some (_, .text text) => return .ofOption (some (.ofText text))
      | _ => return .ofOption none
  | .handleNumber expr =>
      let value ← eval expr
      match handleOf? (← get) value with
      | some (_, .number n) => return .ofOption (some (.int n))
      | _ => return .ofOption none
  | .handleAdd expr amount =>
      let value ← eval expr
      match handleOf? (← get) value with
      | some (id, .number n) =>
          modify fun engine =>
            { engine with
              host := { engine.host with
                resources := engine.host.resources.setHandle id (.number (n + amount)) } }
          return .ofOption (some (.int (n + amount)))
      | _ => return .ofOption none
  | .mutate target operand change =>
      let operand ← eval operand
      let value ← getVariable target
      match ← change.apply value operand with
      | some (changed, result) =>
          assign target changed
          return .ofOption (some result)
      | none => return .ofOption none
  | .enter =>
      let depth := (← get).scopes.pushReturning.1
      modify (mapScopes ScopeStack.push)
      return .ofNat depth
  | .leave =>
      match (← get).scopes.pop? with
      | some scopes =>
          modify (mapScopes fun _ => scopes)
          return .bool true
      | none => return .bool false
  | .define name expr =>
      let value ← eval expr
      modify (define name value)
      return .void
  | .assign name expr =>
      let value ← eval expr
      assign name value
      return .void
  | .lookup name => return .ofOption ((← get).scopes.get? name)
  | .names => return .ofTexts (← get).scopes.visibleNames
  | .scope index =>
      let scopes := (← get).scopes
      return .ofOption ((scopes.scopeAt? index).map fun scope =>
        .array (dumpScope scopes.cells scope))
  | .globalStats =>
      let scope := (← get).scopes.global
      return .ofList [.ofNat scope.size, .ofNat scope.liveCount, .ofNat scope.order]
  | .register spec =>
      let signature ← register spec
      return .ofText signature.toText
  | .unregister name => return .bool (← unregister name)
  | .link name tag expr cellName =>
      let value ← eval expr
      let cell := (← get).scopes.cells.size
      modify (newCell cellName value)
      modify (registerVariable name tag cell)
      return .void
  | .unlink name => return .bool (← unregisterVariable name)
  | .cellGet cellName =>
      let engine ← get
      match engine.cell? cellName with
      | some cell => return engine.scopes.cells.getD cell .void
      | none => return .void
  | .cellSet cellName expr =>
      let value ← eval expr
      let engine ← get
      match engine.cell? cellName with
      | some cell =>
          modify (mapScopes fun scopes =>
            { scopes with cells := scopes.cells.setIfInBounds cell value })
          return engine.scopes.cells.getD cell .void
      | none => return .void
  | .defineClass name parent fields methods constructor =>
      declareClass dispatch name parent fields methods constructor
  | .removeClass name =>
      let known := ((← get).class? name).isSome
      modify (removeClass name)
      return .bool known
  | .classInfo name => return .ofOption (((← get).class? name).map classInfo)
  | .classIsA name target =>
      return .ofOption (((← get).class? name).map fun cls => .bool (cls.isA target))
  | .functions => return .ofTexts ((← get).functions.map Signature.toText)
  | .install =>
      installLibrary
      return .void
  | .call name args => callByName dispatch name (← evalArgs dispatch args)
  | .callValue callee args =>
      let callee ← eval callee
      callValue dispatch callee (← evalArgs dispatch args)
  | .callSignature name index args =>
      let args ← evalArgs dispatch args
      match ((← get).scopes.lookupFunction? name).bind fun function =>
          function.overloads[index]? with
      | some signature => callSignature dispatch signature args
      | none => Run.fail (.undefinedFunction name)
  | .method target name args => callMethodOn dispatch target name (← evalArgs dispatch args)
  | .instantiate className args => instantiate dispatch className (← evalArgs dispatch args)
  | .throw expr =>
      let payload ← eval expr
      throwValue payload
  | .exceptionState =>
      let state := (← get).exception
      return .ofList (.ofText state.name :: state.payload?.toList)
  | .nonfatal expr default =>
      let message ← eval expr
      match default with
      | none => nonfatal message.display .void
      | some expr =>
          let value ← eval expr
          nonfatal message.display value
  | .reports => return .ofTexts (← get).reports
  | .takeReports =>
      let reports := (← get).reports
      modify fun engine => { engine with reports := [] }
      return .ofTexts reports
  | .safeModeGet => return .bool (← get).safeMode.isEnabled
  | .safeModeSet flag =>
      match (← get).safeMode.set flag with
      | .ok safeMode =>
          modify fun engine => { engine with safeMode }
          return .bool true
      | .error error => return .ofText error.message
  | .privileged operation => return .bool (← allowPrivileged operation)
  | .unload name => return .bool (← unloadModule name)
  | .modules => return .ofTexts (← get).moduleNames
  | .setEvaluator =>
      modify fun engine => { engine with hasEvaluator := true }
      return .void
  | .hasEvaluator => return .bool (← get).hasEvaluator
  | .debug => return .ofText (← get).describe
  | .setSlot index expr =>
      let value ← eval expr
      modify (setSlot index value)
      return .void
  | .takeSlot index => takeArg index
  | .setSlotField index name expr =>
      let value ← eval expr
      match (← get).slotAt index with
      | .record content =>
          modify (setSlot index (.record (content.setField name value)))
          return .void
      | _ => return .void
  | .log expr =>
      let values := ((← eval expr).asArray?.map OrderedMap.values).getD []
      let line := String.intercalate "," (values.map Value.display)
      modify fun engine =>
        { engine with host := { engine.host with log := engine.host.log ++ [line] } }
      return .void
  | .notCallable typeName => Run.fail (.notCallable typeName)

/-! ## Steps -/

/-- Repeat a body; the result is that of the last round. -/
def repeated (body : Run Value) (last : Value) : Nat → Run Value
  | 0 => return last
  | count + 1 => do
      let value ← body
      repeated body value count

mutual

/-- Run a step. -/
def execStep (dispatch : Dispatcher) : Step → Run Value
  | .action action => execAction dispatch action
  | .scoped body => inScope (execSteps dispatch .void body)
  | .attempt body => return (← attempt (execSteps dispatch .void body)).toValue
  | .run body => run (execSteps dispatch .void body)
  | .wrap body => wrapped (execSteps dispatch .void body)
  | .load name init =>
      return .bool (← loadModule name (discard (execSteps dispatch .void init)))
  | .loop count body => repeated (execSteps dispatch .void body) .void count
  | .branch condition onTrue onFalse => do
      let value ← condition.eval dispatch
      if value.isTruthy then execSteps dispatch .void onTrue
      else execSteps dispatch .void onFalse
termination_by structural step => step

/-- Run steps in order; the result is that of the last one. -/
def execSteps (dispatch : Dispatcher) (last : Value) : List Step → Run Value
  | [] => return last
  | step :: steps => do
      let value ← execStep dispatch step
      execSteps dispatch value steps
termination_by structural steps => steps

end

/-- Run a program. -/
def exec (dispatch : Dispatcher) (program : Program) : Run Value :=
  execSteps dispatch .void program

end Program
end ScriptCore
