import ScriptCore.Engine.Dispatch
import ScriptCore.Proofs.Library.Fallbacks

/-!
# Edits of an engine

Computations change an engine in small edits: a binding, a report, a cell, a
call. The edits are listed here once, each with the condition under which it
happens; those that change scopes need a right to do so. The operations on
names, signatures, modules and calls are shown to be chains of edits within
their rights.
-/

namespace ScriptCore

/-! ## Rights and edits -/

/-- What a computation may do to the scopes of an engine: open or close a scope,
define or assign a variable, register or remove a global name, and fail out of a
nested script, which closes every inner scope. -/
structure Rights where
  enters : Bool
  leaves : Engine → Bool
  defines : Engine → String → Value → Bool
  assigns : Engine → String → Value → Bool
  registers : String → Bool
  removes : String → Bool
  resets : Bool

namespace Rights

/-- Everything is allowed. -/
def all : Rights where
  enters := true
  leaves _ := true
  defines _ _ _ := true
  assigns _ _ _ := true
  registers _ := true
  removes _ := true
  resets := true

end Rights

namespace Engine

variable [KeyHash]

/-- One edit of an engine by a computation with the given dispatcher and
rights. Privileged edits need safe mode to be off. -/
inductive Edit (dispatch : Dispatcher) (rights : Rights) : Engine → Engine → Prop where
  | call (call : Call) (engine : Engine) :
      Edit dispatch rights engine (dispatch call engine).2
  | enter (engine : Engine) (may : rights.enters) :
      Edit dispatch rights engine (engine.mapScopes ScopeStack.push)
  | leave (engine : Engine) (scopes : ScopeStack) (may : rights.leaves engine)
      (popped : engine.scopes.pop? = some scopes) :
      Edit dispatch rights engine (engine.mapScopes fun _ => scopes)
  | define (engine : Engine) (name : String) (value : Value)
      (may : rights.defines engine name value) :
      Edit dispatch rights engine (engine.define name value)
  | assign (engine : Engine) (name : String) (value : Value) (scopes : ScopeStack)
      (may : rights.assigns engine name value)
      (assigned : engine.scopes.assign name value = .ok scopes) :
      Edit dispatch rights engine { engine with scopes }
  | register (engine : Engine) (signature : Signature)
      (may : rights.registers signature.name) :
      Edit dispatch rights engine (engine.registerSignature signature)
  | link (engine : Engine) (name : String) (tag : Tag) (cell : Nat)
      (may : rights.registers name) :
      Edit dispatch rights engine (engine.registerVariable name tag cell)
  | unbind (engine : Engine) (name : String) (may : rights.removes name) :
      Edit dispatch rights engine
        (engine.mapScopes fun scopes => scopes.unbindGlobal name)
  | unload (engine : Engine) (name : String) (names : ModuleNames)
      (allowed : engine.safeMode.isEnabled = false)
      (loaded : engine.modules.get? name = some names)
      (may : ∀ name ∈ names.globals, rights.removes name) :
      Edit dispatch rights engine
        (removeNames names { engine with modules := (engine.modules.erase name).compact })
  | newCell (engine : Engine) (name : String) (value : Value) :
      Edit dispatch rights engine (engine.newCell name value)
  | setCell (engine : Engine) (cell : Nat) (value : Value) :
      Edit dispatch rights engine (engine.mapScopes fun scopes =>
        { scopes with cells := scopes.cells.setIfInBounds cell value })
  | registerClass (engine : Engine) (cls : Class) :
      Edit dispatch rights engine (engine.registerClass cls)
  | removeClass (engine : Engine) (name : String) :
      Edit dispatch rights engine (engine.removeClass name)
  | numberSignature (engine : Engine) :
      Edit dispatch rights engine { engine with nextSignature := engine.nextSignature + 1 }
  | report (engine : Engine) (message : String) :
      Edit dispatch rights engine (engine.report message)
  | takeReports (engine : Engine) :
      Edit dispatch rights engine { engine with reports := [] }
  | throwValue (engine : Engine) (payload : Value) :
      Edit dispatch rights engine { engine with exception := .raised payload }
  | setSlots (engine : Engine) (slots : List Value) :
      Edit dispatch rights engine { engine with slots }
  | setEvaluator (engine : Engine) :
      Edit dispatch rights engine { engine with hasEvaluator := true }
  | setSafeMode (engine : Engine) (flag : Bool) (safeMode : SafeMode)
      (accepted : engine.safeMode.set flag = .ok safeMode) :
      Edit dispatch rights engine { engine with safeMode }
  | createResource (engine : Engine) (kind : String) (handle : Handle) (hasDestructor : Bool) :
      Edit dispatch rights engine
        { engine with
          host := { engine.host with
            resources := engine.host.resources.create kind handle hasDestructor } }
  | setHandle (engine : Engine) (id : Nat) (handle : Handle) :
      Edit dispatch rights engine
        { engine with
          host := { engine.host with resources := engine.host.resources.setHandle id handle } }
  | setEnvironment (engine : Engine) (change : Environment → Environment)
      (allowed : engine.safeMode.isEnabled = false) :
      Edit dispatch rights engine (Library.mapEnvironment change engine)
  | noteCommand (engine : Engine) (command : String)
      (allowed : engine.safeMode.isEnabled = false) :
      Edit dispatch rights engine (Library.noteCommand command engine)
  | log (engine : Engine) (line : String) :
      Edit dispatch rights engine
        { engine with host := { engine.host with log := engine.host.log ++ [line] } }

/-- A chain of edits. -/
def Edits (dispatch : Dispatcher) (rights : Rights) : Engine → Engine → Prop :=
  Relation.ReflTransGen (Edit dispatch rights)

/-- A computation started on an engine edits it within its rights. -/
def Stays
    {α : Type}
    (dispatch : Dispatcher)
    (rights : Rights)
    (body : StateM Engine α)
    (engine : Engine) : Prop :=
  Edits dispatch rights engine (body engine).2

namespace Stays

variable {α β : Type} {dispatch : Dispatcher} {rights : Rights} {engine : Engine}

/-- A computation that leaves the engine as it is. -/
theorem same
    {body : StateM Engine α}
    (unchanged : (body engine).2 = engine) :
    Stays dispatch rights body engine := by
  rw [Stays, unchanged]
  exact Relation.ReflTransGen.refl

/-- A computation that makes a single edit. -/
theorem edit
    {body : StateM Engine α}
    (step : Edit dispatch rights engine (body engine).2) :
    Stays dispatch rights body engine :=
  Relation.ReflTransGen.single step

/-- Two computations in a row. -/
theorem bind
    {first : StateM Engine α}
    {next : α → StateM Engine β}
    (firstStays : Stays dispatch rights first engine)
    (nextStays : Stays dispatch rights (next (first engine).1) (first engine).2) :
    Stays dispatch rights (first >>= next) engine :=
  Relation.ReflTransGen.trans firstStays nextStays

/-- Two computations in a row, the second of which runs only if the first one
succeeds. -/
theorem andThen
    {first : Run α}
    {next : α → Run β}
    (firstStays : Stays dispatch rights first.run engine)
    (nextStays : ∀ value middle, first engine = (.ok value, middle) →
      Stays dispatch rights (next value).run middle) :
    Stays dispatch rights (first >>= next).run engine := by
  rcases outcome : first engine with ⟨result, middle⟩
  unfold Stays at firstStays ⊢
  change Edits dispatch rights engine (first engine).2 at firstStays
  change Edits dispatch rights engine ((first >>= next) engine).2
  rw [outcome] at firstStays
  cases result with
  | error failure =>
      rw [Run.bind_error outcome]
      exact firstStays
  | ok value =>
      rw [Run.bind_ok outcome]
      exact firstStays.trans (nextStays value middle outcome)

/-- A computation that cannot fail, as a part of one that can. -/
theorem lift
    {body : StateM Engine α}
    (stays : Stays dispatch rights body engine) :
    Stays dispatch rights (liftM body : Run α).run engine :=
  stays

theorem pure (value : α) : Stays dispatch rights (Pure.pure value : Run α).run engine :=
  same rfl

theorem fail (cause : Cause) : Stays dispatch rights (Run.fail cause : Run α).run engine :=
  same rfl

theorem throw (failure : Failure) :
    Stays dispatch rights (MonadExcept.throw failure : Run α).run engine :=
  same rfl

/-- A computation whose result is passed through a function. -/
theorem andReturn
    {first : Run α}
    (firstStays : Stays dispatch rights first.run engine)
    (result : α → β) :
    Stays dispatch rights (first >>= fun value => Pure.pure (result value)).run engine :=
  firstStays.andThen fun value _ _ => pure (result value)

/-- The engine is read before a computation. -/
theorem reading
    {next : Engine → Run α}
    (nextStays : Stays dispatch rights (next engine).run engine) :
    Stays dispatch rights (get >>= next).run engine :=
  nextStays

/-- A value is read off the engine before a computation. -/
theorem afterRead
    {first : Run α}
    {value : α}
    {next : α → Run β}
    (read : first engine = (.ok value, engine))
    (nextStays : Stays dispatch rights (next value).run engine) :
    Stays dispatch rights (first >>= next).run engine := by
  have unchanged : (first engine).2 = engine := by rw [read]
  refine (same unchanged).andThen fun other middle outcome => ?_
  cases read.symm.trans outcome
  exact nextStays

/-- The engine is read before a computation that cannot fail. -/
theorem readingState
    {next : Engine → StateM Engine α}
    (nextStays : Stays dispatch rights (next engine) engine) :
    Stays dispatch rights (get >>= next) engine :=
  nextStays

/-- A single edit before a computation. -/
theorem afterEdit
    {change : Engine → Engine}
    {next : Run α}
    (step : Edit dispatch rights engine (change engine))
    (nextStays : Stays dispatch rights next.run (change engine)) :
    Stays dispatch rights (modify change >>= fun _ => next).run engine :=
  Relation.ReflTransGen.head step nextStays

end Stays

/-! ## Names, signatures and registration -/

section Operations

variable {dispatch : Dispatcher} {rights : Rights} {engine after : Engine} {name : String}
variable {spec : SignatureSpec} {signature : Signature}

/-- Reading a variable changes nothing. -/
theorem getVariable_state (name : String) (engine : Engine) :
    (getVariable name engine).2 = engine := by
  unfold getVariable
  rw [Run.get_bind]
  cases engine.scopes.get? name <;> rfl

theorem getVariable_stays (name : String) (engine : Engine) :
    Stays dispatch rights (getVariable name).run engine :=
  Stays.same (getVariable_state name engine)

/-- An assignment stays within the rights if it is among them. -/
theorem assign_stays
    {value : Value}
    (may : rights.assigns engine name value) :
    Stays dispatch rights (assign name value).run engine := by
  unfold assign
  apply Stays.reading
  cases assigned : engine.scopes.assign name value with
  | ok scopes => exact Stays.edit (.assign engine name value scopes may assigned)
  | error cast => exact Stays.fail _

theorem buildSignature_stays (spec : SignatureSpec) (engine : Engine) :
    Stays dispatch rights (buildSignature spec).run engine := by
  unfold buildSignature
  apply Stays.reading
  cases Signature.build engine.nextSignature spec with
  | ok signature => exact Stays.edit (.numberSignature engine)
  | error fault => exact Stays.fail _

theorem buildSignatures_stays (specs : List SignatureSpec) (engine : Engine) :
    Stays dispatch rights (buildSignatures specs).run engine := by
  induction specs generalizing engine with
  | nil => exact Stays.pure _
  | cons spec specs ih =>
      apply (buildSignature_stays spec engine).andThen
      intro signature middle _
      exact (ih middle).andReturn _

omit [KeyHash] in
/-- A built signature has the name of its description. -/
theorem name_of_build
    {id : Nat}
    (built : Signature.build id spec = .ok signature) :
    signature.name = spec.name := by
  obtain ⟨name, text, returns, implementation⟩ := spec
  obtain ⟨prototype, -, rfl⟩ := Signature.build_eq_ok_iff.mp built
  rfl

omit [KeyHash] in
/-- A signature with a faulty prototype is an error and takes no number. -/
theorem buildSignature_refused
    {fault : PrototypeFault}
    (refused : Signature.build engine.nextSignature spec = .error fault) :
    buildSignature spec engine =
      (.error (.error { cause := .invalidPrototype spec.prototype fault.message }), engine) := by
  unfold buildSignature
  rw [Run.get_bind, refused]
  rfl

omit [KeyHash] in
/-- A signature takes the next number. -/
theorem buildSignature_built
    (built : Signature.build engine.nextSignature spec = .ok signature) :
    buildSignature spec engine =
      (.ok signature, { engine with nextSignature := engine.nextSignature + 1 }) := by
  unfold buildSignature
  rw [Run.get_bind, built]
  rfl

omit [KeyHash] in
/-- A signature has the name that was specified. -/
theorem name_of_buildSignature
    (built : buildSignature spec engine = (.ok signature, after)) :
    signature.name = spec.name := by
  cases outcome : Signature.build engine.nextSignature spec with
  | error fault =>
      rw [buildSignature_refused outcome] at built
      cases built
  | ok other =>
      rw [buildSignature_built outcome] at built
      cases built
      exact name_of_build outcome

/-- A registration stays within the rights if its name is among them. -/
theorem register_stays
    (may : rights.registers spec.name)
    (engine : Engine) :
    Stays dispatch rights (register spec).run engine := by
  apply (buildSignature_stays spec engine).andThen
  intro signature middle built
  refine Stays.afterEdit (.register middle signature ?_) (Stays.pure _)
  rw [name_of_buildSignature built]
  exact may

theorem installLibrary_stays
    (may : ∀ function : LibraryFunction, rights.registers function.name)
    (engine : Engine) :
    Stays dispatch rights installLibrary.run engine := by
  unfold installLibrary
  generalize LibraryFunction.all = functions
  induction functions generalizing engine with
  | nil => exact Stays.pure _
  | cons function functions ih =>
      refine Stays.andThen ?_ fun _ middle _ => ih middle
      exact (register_stays (may function) engine).andReturn _

/-- Unbinding a name stays within the rights if it may be removed. -/
theorem unbindWhere_stays
    (condition : Binding → Bool)
    (may : rights.removes name)
    (engine : Engine) :
    Stays dispatch rights (unbindWhere condition name) engine := by
  unfold unbindWhere
  apply Stays.readingState
  cases engine.scopes.global.get? name with
  | none => exact Stays.same rfl
  | some binding =>
      by_cases holds : condition binding = true
      · simp only [holds, if_true]
        exact Stays.edit (.unbind engine name may)
      · simp only [holds]
        exact Stays.same rfl

theorem nonfatal_stays (message : String) (default : Value) (engine : Engine) :
    Stays dispatch rights (nonfatal message default) engine :=
  Stays.edit (.report engine message)

theorem allowPrivileged_stays (operation : String) (engine : Engine) :
    Stays dispatch rights (allowPrivileged operation) engine := by
  rcases allowPrivileged_cases operation engine with refused | ⟨-, allowed⟩
  · rw [Stays, refused]
    exact Relation.ReflTransGen.single (.report engine _)
  · exact Stays.same (by rw [allowed])

/-- A computation that goes on only if a privileged operation is allowed. -/
theorem Stays.privileged
    {α : Type}
    {operation : String}
    {onAllowed onRefused : Run α}
    (allowedStays : engine.safeMode.isEnabled = false →
      Stays dispatch rights onAllowed.run engine)
    (refusedStays : ∀ engine, Stays dispatch rights onRefused.run engine) :
    Stays dispatch rights
      (liftM (allowPrivileged operation) >>= fun allowed =>
        if allowed then onAllowed else onRefused).run engine := by
  apply (Stays.lift (allowPrivileged_stays operation engine)).andThen
  intro allowed middle outcome
  change (Except.ok (allowPrivileged operation engine).1, (allowPrivileged operation engine).2) =
    (Except.ok allowed, middle) at outcome
  rcases allowPrivileged_cases operation engine with refused | ⟨off, granted⟩
  · rw [refused] at outcome
    cases outcome
    exact refusedStays _
  · rw [granted] at outcome
    cases outcome
    exact allowedStays off

/-- Unloading a module stays within the rights if all its names may be removed. -/
theorem unloadModule_stays
    (may : engine.safeMode.isEnabled = false →
      ∀ names, engine.modules.get? name = some names →
        ∀ name ∈ names.globals, rights.removes name) :
    Stays dispatch rights (unloadModule name) engine := by
  unfold unloadModule
  apply (allowPrivileged_stays "module unloading" engine).bind
  rcases allowPrivileged_cases "module unloading" engine with refused | ⟨off, granted⟩
  · rw [refused]
    exact Stays.same rfl
  · rw [granted]
    rw [if_pos rfl]
    apply Stays.readingState
    cases loaded : engine.modules.get? name with
    | none => exact Stays.edit (.report engine _)
    | some names => exact Stays.edit (.unload engine name names off loaded (may off names loaded))

/-! ## Calls -/

theorem callSignature_stays (signature : Signature) (args : List Value) (engine : Engine) :
    Stays dispatch rights (callSignature dispatch signature args).run engine :=
  Stays.edit (.call { signature, args, receiver? := none } engine)

theorem callFunction_stays (function : Function) (args : List Value) (engine : Engine) :
    Stays dispatch rights (callFunction dispatch function args).run engine := by
  unfold callFunction
  cases function.resolve? args.length with
  | none => exact Stays.fail _
  | some signature => exact callSignature_stays signature args engine

theorem callByName_stays (name : String) (args : List Value) (engine : Engine) :
    Stays dispatch rights (callByName dispatch name args).run engine := by
  unfold callByName
  apply Stays.reading
  cases engine.scopes.lookupFunction? name with
  | none => exact Stays.same rfl
  | some function => exact callFunction_stays function args engine

theorem callValue_stays (callee : Value) (args : List Value) (engine : Engine) :
    Stays dispatch rights (callValue dispatch callee args).run engine := by
  cases callee with
  | function function => exact callFunction_stays function args engine
  | str bytes => exact callByName_stays (Utf8.text bytes) args engine
  | _ => exact Stays.fail _

/-- A call of a method is one dispatched call, or none. -/
theorem callMethod_stays
    (receiver : Value)
    (name : String)
    (args : List Value)
    (engine : Engine) :
    Stays dispatch rights (callMethod dispatch receiver name args) engine := by
  unfold callMethod
  cases resolveMethod receiver name args.length with
  | ok signature => exact Stays.edit (.call _ engine)
  | error error => exact Stays.same rfl

/-- Instantiating a class makes at most one dispatched call, for its
constructor. -/
theorem instantiate_stays (className : String) (args : List Value) (engine : Engine) :
    Stays dispatch rights (instantiate dispatch className args).run engine := by
  unfold instantiate
  apply Stays.reading
  cases engine.class? className with
  | none => exact Stays.fail _
  | some cls =>
      dsimp only
      cases cls.findConstructor? with
      | none => exact Stays.pure _
      | some signature => exact Stays.edit (.call _ engine)

end Operations
end Engine
end ScriptCore
