import ScriptCore.OrderedMap.Spread
import ScriptCore.Proofs.Engine.Reachable

/-!
# Undoing a module

An init routine makes registering calls and then succeeds or fails. While it
runs, the engine notes the names of everything that it registers. A failed load
and the unloading of a loaded module remove the noted names, and nothing else: a
name that the routine did not register resolves as before the load, and one that
it did register is gone, whatever was bound to it before.

So the engine is back where it was exactly if the routine registered only names
that were free. A routine that adds an overload to a function of the host, or
that registers a variable or a class anew, takes these down with it.
-/

namespace ScriptCore

/-- A call that an init routine makes: it registers a function, a linked
variable or a class, or it makes a cell of the host to link a variable to. -/
inductive Registration where
  | function (spec : SignatureSpec)
  | link (name : String) (tag : Tag) (number : Nat)
  | declare (cls : Class)
  | cell (name : String) (value : Value)

namespace Registration

open Engine

variable [KeyHash]

/-- Make the call. A signature that cannot be built is not registered. -/
def perform (engine : Engine) : Registration → Engine
  | function spec => (register spec engine).2
  | link name tag number => engine.registerVariable name tag number
  | declare cls => engine.registerClass cls
  | cell name value => engine.newCell name value

/-- The global name that the call registers. -/
def global? : Registration → Option String
  | function spec => if (Prototype.parse spec.prototype).isOk then some spec.name else none
  | link name _ _ => some name
  | _ => none

/-- The class that the call registers. -/
def class? : Registration → Option String
  | declare cls => some cls.name
  | _ => none

end Registration

/-- Calls in order, and the result after them. A routine that stops at a refused
call has that error as its result, and one that goes on makes further calls. -/
structure InitRoutine where
  calls : List Registration
  result : Except ScriptError Unit

namespace InitRoutine

variable [KeyHash]

/-- Run the routine. -/
def exec (routine : InitRoutine) : Run Unit := do
  modify fun engine => routine.calls.foldl Registration.perform engine
  Run.ofExcept routine.result

/-- The global names that the routine registers. -/
def globals (routine : InitRoutine) : List String :=
  routine.calls.filterMap Registration.global?

/-- The classes that the routine registers. -/
def classes (routine : InitRoutine) : List String :=
  routine.calls.filterMap Registration.class?

theorem exec_eq (routine : InitRoutine) (engine : Engine) :
    routine.exec engine =
      (routine.result.mapError .error, routine.calls.foldl Registration.perform engine) := by
  unfold exec
  cases routine.result <;> rfl

end InitRoutine

namespace Engine

/-! ## Registering -/

section

variable [KeyHash]

/-- Some global names and classes have been registered, and noted for the module
that is loading. Everything else resolves as before. -/
structure Registered (globals classes : List String) (before after : Engine) : Prop where
  coherent : after.Coherent
  global : ∀ name, name ∉ globals →
    after.scopes.global.get? name = before.scopes.global.get? name
  inner : after.scopes.inner = before.scopes.inner
  cells : before.scopes.cells.toList <+: after.scopes.cells.toList
  class? : ∀ name, name ∉ classes → after.class? name = before.class? name
  modules : after.modules = before.modules
  safeMode : after.safeMode = before.safeMode
  noted : ∀ {names}, before.loading = some names → ∃ more, after.loading = some more ∧
    (∀ name, name ∈ more.globals ↔ name ∈ names.globals ∨ name ∈ globals) ∧
    ∀ name, name ∈ more.classes ↔ name ∈ names.classes ∨ name ∈ classes

namespace Registered

variable {globals classes moreGlobals moreClasses : List String} {before middle after : Engine}

theorem refl (coherent : before.Coherent) : Registered [] [] before before where
  coherent := coherent
  global _ _ := rfl
  inner := rfl
  cells := List.prefix_rfl
  class? _ _ := rfl
  modules := rfl
  safeMode := rfl
  noted {names} loading := ⟨names, loading, by simp, by simp⟩

/-- Calls one after the other register the names of both. -/
theorem trans
    (first : Registered globals classes before middle)
    (second : Registered moreGlobals moreClasses middle after) :
    Registered (globals ++ moreGlobals) (classes ++ moreClasses) before after where
  coherent := second.coherent
  global name absent := by
    rw [List.mem_append, not_or] at absent
    rw [second.global name absent.2, first.global name absent.1]
  inner := second.inner.trans first.inner
  cells := first.cells.trans second.cells
  class? name absent := by
    rw [List.mem_append, not_or] at absent
    rw [second.class? name absent.2, first.class? name absent.1]
  modules := second.modules.trans first.modules
  safeMode := second.safeMode.trans first.safeMode
  noted loading := by
    obtain ⟨some, between, someGlobals, someClasses⟩ := first.noted loading
    obtain ⟨more, loaded, allGlobals, allClasses⟩ := second.noted between
    refine ⟨more, loaded, fun name => ?_, fun name => ?_⟩
    · rw [allGlobals, someGlobals, List.mem_append, or_assoc]
    · rw [allClasses, someClasses, List.mem_append, or_assoc]

end Registered

variable {engine : Engine} {name : String} {names : ModuleNames}

omit [KeyHash] in
theorem mem_addGlobal (names : ModuleNames) (name other : String) :
    other ∈ (names.addGlobal name).globals ↔ other ∈ names.globals ∨ other = name := by
  unfold ModuleNames.addGlobal
  split
  · next known =>
    rw [List.contains_iff_mem] at known
    constructor
    · exact Or.inl
    · rintro (member | rfl)
      · exact member
      · exact known
  · simp

/-- Binding a global name and noting it. -/
theorem registered_global
    (coherent : engine.Coherent)
    (name : String)
    (binding : Binding) :
    Registered [name] [] engine
      ((engine.noteGlobal name).mapScopes fun scopes =>
        { scopes with global := scopes.global.insert name binding }) where
  coherent := ⟨coherent.global.insert name binding, coherent.modules⟩
  global other absent := by
    rw [List.mem_singleton] at absent
    exact (coherent.global.get?_insert name other binding).trans (if_neg absent)
  inner := rfl
  cells := List.prefix_rfl
  class? _ _ := rfl
  modules := rfl
  safeMode := rfl
  noted {names} loading := by
    refine ⟨names.addGlobal name, ?_, fun other => ?_, fun other => ?_⟩
    · simp only [noteGlobal, mapScopes, loading, Option.map_some]
    · rw [mem_addGlobal, List.mem_singleton]
    · have same : (names.addGlobal name).classes = names.classes := by
        unfold ModuleNames.addGlobal
        split <;> rfl
      simp [same]

omit [KeyHash] in
/-- Removing a class changes no other. -/
theorem class?_removeClass (engine : Engine) (name other : String) :
    (engine.removeClass name).class? other =
      if other = name then none else engine.class? other := by
  unfold class? removeClass
  dsimp only
  induction engine.classes with
  | nil => simp
  | cons entry entries ih =>
      obtain ⟨key, cls⟩ := entry
      by_cases removed : key = name
      · subst removed
        rw [List.filter_cons_of_neg (by simp), ih]
        by_cases same : other = key
        · rw [if_pos same, if_pos same]
        · rw [if_neg same, if_neg same, List.lookup_cons, beq_eq_false_iff_ne.mpr same]
      · rw [List.filter_cons_of_pos (by simpa using removed), List.lookup_cons,
          List.lookup_cons, ih]
        by_cases same : other = key
        · subst same
          rw [beq_self_eq_true]
          exact (if_neg removed).symm
        · rw [beq_eq_false_iff_ne.mpr same]

/-- Registering a class notes its name and changes no other. -/
theorem registered_class (coherent : engine.Coherent) (cls : Class) :
    Registered [] [cls.name] engine (engine.registerClass cls) where
  coherent := ⟨coherent.global, coherent.modules⟩
  global _ _ := rfl
  inner := rfl
  cells := List.prefix_rfl
  class? other absent := by
    rw [List.mem_singleton] at absent
    have cleared := class?_removeClass (engine.noteClass cls.name) cls.name other
    rw [if_neg absent] at cleared
    have passed : (other == cls.name) = false := beq_eq_false_iff_ne.mpr absent
    rw [class?, registerClass, List.lookup_cons, passed]
    exact cleared
  modules := rfl
  safeMode := rfl
  noted {names} loading := by
    refine ⟨names.addClass cls.name, ?_, fun other => ?_, fun other => ?_⟩
    · simp only [registerClass, noteClass, removeClass, loading, Option.map_some]
    · simp [ModuleNames.addClass]
    · simp [ModuleNames.addClass]

/-- What leaves the names alone. -/
theorem registered_nothing
    {before after : Engine}
    (coherent : before.Coherent)
    (global : after.scopes.global = before.scopes.global)
    (inner : after.scopes.inner = before.scopes.inner)
    (cells : before.scopes.cells.toList <+: after.scopes.cells.toList)
    (classes : after.classes = before.classes)
    (modules : after.modules = before.modules)
    (safeMode : after.safeMode = before.safeMode)
    (loading : after.loading = before.loading) :
    Registered [] [] before after where
  coherent := ⟨global ▸ coherent.global, modules ▸ coherent.modules⟩
  global _ _ := by rw [global]
  inner := inner
  cells := cells
  class? _ _ := by rw [class?, class?, classes]
  modules := modules
  safeMode := safeMode
  noted {names} noting := ⟨names, loading.trans noting, by simp, by simp⟩

/-- A signature is refused and nothing changes, or it gets a number and is
registered. -/
theorem register_cases (spec : SignatureSpec) (engine : Engine) :
    ((Registration.function spec).global? = none ∧ (register spec engine).2 = engine) ∨
      ∃ signature, (Registration.function spec).global? = some signature.name ∧
        (register spec engine).2 = registerSignature signature
          { engine with nextSignature := engine.nextSignature + 1 } := by
  have prototypeOk : (Prototype.parse spec.prototype).isOk =
      (Signature.build engine.nextSignature spec).isOk := by
    obtain ⟨name, prototype, returns, implementation⟩ := spec
    change (Prototype.parse prototype).isOk = (Prototype.parse prototype >>= _).isOk
    cases Prototype.parse prototype <;> rfl
  rw [Registration.global?, prototypeOk]
  cases built : Signature.build engine.nextSignature spec with
  | error fault =>
      left
      rw [register, Run.bind_error (buildSignature_refused built)]
      exact ⟨rfl, rfl⟩
  | ok signature =>
      right
      rw [register, Run.bind_ok (buildSignature_built built)]
      exact ⟨signature, by rw [name_of_build built]; rfl, rfl⟩

theorem registered_function
    (coherent : engine.Coherent)
    (spec : SignatureSpec) :
    Registered (Registration.function spec).global?.toList [] engine (register spec engine).2 := by
  rcases register_cases spec engine with ⟨unnamed, same⟩ | ⟨signature, named, registered⟩
  · rw [unnamed, same]
    exact .refl coherent
  · rw [named, registered]
    have numbered : Registered [] [] engine
        { engine with nextSignature := engine.nextSignature + 1 } :=
      registered_nothing coherent rfl rfl List.prefix_rfl rfl rfl rfl rfl
    exact numbered.trans (registered_global numbered.coherent signature.name _)

/-- What one call does. -/
theorem registered_perform
    (coherent : engine.Coherent)
    (call : Registration) :
    Registered call.global?.toList call.class?.toList engine (call.perform engine) := by
  cases call with
  | function spec => exact registered_function coherent spec
  | link name tag number => exact registered_global coherent name (.linked tag number)
  | declare cls => exact registered_class coherent cls
  | cell name value =>
      refine registered_nothing coherent rfl rfl ?_ rfl rfl rfl rfl
      simp [Registration.perform, newCell, ScopeStack.newCell]

/-- What calls in a row do. -/
theorem registered_foldl
    (coherent : engine.Coherent)
    (calls : List Registration) :
    Registered (calls.filterMap Registration.global?) (calls.filterMap Registration.class?) engine
      (calls.foldl Registration.perform engine) := by
  induction calls generalizing engine with
  | nil => exact .refl coherent
  | cons call calls ih =>
      have first := registered_perform coherent call
      have both := first.trans (ih first.coherent)
      have split {α : Type} (name? : Registration → Option α) :
          (call :: calls).filterMap name? = (name? call).toList ++ calls.filterMap name? := by
        cases found : name? call <;> simp [found]
      rw [split, split]
      exact both

/-! ## Removing -/

/-- Removing the names of a module removes its classes and no others. -/
theorem class?_removeNames (names : ModuleNames) (engine : Engine) (other : String) :
    (removeNames names engine).class? other =
      if other ∈ names.classes then none else engine.class? other := by
  have untouched : (names.globals.foldl
      (fun engine name => engine.mapScopes fun scopes => scopes.unbindGlobal name) engine).class?
        other = engine.class? other :=
    foldl_untouched (fun engine => engine.class? other)
      (fun engine name => engine.mapScopes fun scopes => scopes.unbindGlobal name) (fun _ _ => rfl)
      names.globals engine
  rw [removeNames, ← untouched]
  generalize names.globals.foldl
    (fun engine name => engine.mapScopes fun scopes => scopes.unbindGlobal name) engine = engine
  induction names.classes generalizing engine with
  | nil => simp
  | cons name names ih =>
      rw [List.foldl_cons, ih, class?_removeClass]
      by_cases same : other = name <;> simp [same]

/-- The engine after a routine has been undone: what the routine registered is
gone, and all else resolves as before. -/
structure Undone (routine : InitRoutine) (before after : Engine) : Prop where
  global : ∀ name, after.scopes.global.get? name =
    if name ∈ routine.globals then none else before.scopes.global.get? name
  class? : ∀ name, after.class? name =
    if name ∈ routine.classes then none else before.class? name
  inner : after.scopes.inner = before.scopes.inner
  cells : before.scopes.cells.toList <+: after.scopes.cells.toList
  modules : after.moduleNames = before.moduleNames

/-- Removing what was noted of a routine undoes it. -/
theorem Registered.undone
    {routine : InitRoutine}
    {before after final : Engine}
    (registered : Registered routine.globals routine.classes before after)
    (globals : ∀ name, name ∈ names.globals ↔ name ∈ routine.globals)
    (classes : ∀ name, name ∈ names.classes ↔ name ∈ routine.classes)
    (sameScopes : final.scopes = after.scopes)
    (sameClasses : final.classes = after.classes)
    (modules : final.moduleNames = before.moduleNames) :
    Undone routine before (removeNames names final) where
  global name := by
    rw [scopes_removeNames, sameScopes,
      ScopeStack.get?_foldl_unbindGlobal registered.coherent.global]
    simp only [globals]
    by_cases member : name ∈ routine.globals
    · rw [if_pos member, if_pos member]
    · rw [if_neg member, if_neg member, registered.global name member]
  class? name := by
    rw [class?_removeNames, Engine.class?, sameClasses]
    simp only [classes]
    by_cases member : name ∈ routine.classes
    · rw [if_pos member, if_pos member]
    · rw [if_neg member, if_neg member]
      exact registered.class? name member
  inner := by
    obtain ⟨global, removed⟩ := ScopeStack.foldl_unbindGlobal_eq names.globals after.scopes
    rw [scopes_removeNames, sameScopes, removed]
    exact registered.inner
  cells := by
    obtain ⟨global, removed⟩ := ScopeStack.foldl_unbindGlobal_eq names.globals after.scopes
    rw [scopes_removeNames, sameScopes, removed]
    exact registered.cells
  modules := by
    rw [moduleNames, modules_removeNames]
    exact modules

/-- An undone routine that registered only free names leaves no trace: every name
and every class resolves as before. -/
theorem Undone.resolves
    {routine : InitRoutine}
    {before after : Engine}
    (undone : Undone routine before after)
    (globals : ∀ name ∈ routine.globals, before.scopes.global.get? name = none)
    (classes : ∀ name ∈ routine.classes, before.class? name = none)
    (name : String) :
    after.scopes.binding? name = before.scopes.binding? name ∧
      after.class? name = before.class? name := by
  constructor
  · rw [ScopeStack.binding?, ScopeStack.binding?, undone.inner, undone.global]
    by_cases member : name ∈ routine.globals
    · rw [if_pos member, globals name member]
    · rw [if_neg member]
  · rw [undone.class?]
    by_cases member : name ∈ routine.classes
    · rw [if_pos member, classes name member]
    · rw [if_neg member]

/-! ## Loading and unloading -/

theorem unloadModule_known
    (off : engine.safeMode.isEnabled = false)
    (known : engine.modules.get? name = some names) :
    unloadModule name engine =
      (true, removeNames names
        { engine with modules := (engine.modules.erase name).compact }) := by
  simp only [unloadModule, bind, StateT.bind, allowPrivileged_off off, if_true, get, getThe,
    MonadStateOf.get, StateT.get, pure, known]
  rfl

/-- The keys of a container after a new key has come and gone. -/
theorem keys_erase_insert
    {modules : OrderedMap ModuleNames}
    (coherent : modules.Coherent)
    (unknown : modules.contains name = false)
    (names : ModuleNames) :
    ((modules.insert name names).erase name).compact.keys = modules.keys := by
  have absent : name ∉ modules.keys := by
    rw [← coherent.keyIndex?_eq_none_iff]
    exact Option.isNone_iff_eq_none.mp (Option.isSome_eq_false_iff.mp unknown)
  rw [OrderedMap.keys_compact, (coherent.insert name names).keys_erase, OrderedMap.keys_insert,
    unknown, if_neg Bool.false_ne_true, List.erase_append_right _ absent, List.erase_cons_head,
    List.append_nil]

section Loading

variable {routine : InitRoutine}

/-- A routine leaves modules and safe mode alone, and removing what was noted
while it ran undoes it. -/
theorem exists_noted (coherent : engine.Coherent) (routine : InitRoutine) :
    ∃ ended names,
      routine.exec { engine with loading := some .empty } =
        (routine.result.mapError .error, ended) ∧
      ended.loading = some names ∧
      ended.modules = engine.modules ∧
      ended.safeMode = engine.safeMode ∧
      ∀ final : Engine, final.scopes = ended.scopes → final.classes = ended.classes →
        final.moduleNames = engine.moduleNames →
          Undone routine engine (removeNames names final) := by
  have started : Engine.Coherent { engine with loading := some .empty } :=
    ⟨coherent.global, coherent.modules⟩
  have registered := registered_foldl started routine.calls
  obtain ⟨names, noted, globals, classes⟩ := registered.noted rfl
  refine ⟨_, names, routine.exec_eq _, noted, registered.modules, registered.safeMode, ?_⟩
  intro final sameScopes sameClasses modules
  have undone :
      Undone routine { engine with loading := some .empty } (removeNames names final) := by
    refine registered.undone (fun name => ?_) (fun name => ?_) sameScopes sameClasses modules
    · exact (globals name).trans (or_iff_right List.not_mem_nil)
    · exact (classes name).trans (or_iff_right List.not_mem_nil)
  exact ⟨undone.global, undone.class?, undone.inner, undone.cells, undone.modules⟩

/-- A failed load is undone at once. -/
theorem failed_load_undone
    (coherent : engine.Coherent)
    (off : engine.safeMode.isEnabled = false)
    (unknown : engine.modules.contains name = false)
    {error : ScriptError}
    (fails : routine.result = .error error) :
    ∃ after, loadModule name routine.exec engine = (.error (.error error), after) ∧
      Undone routine engine after := by
  obtain ⟨ended, names, ran, noted, modules, -, undone⟩ := exists_noted coherent routine
  rw [loadModule_fresh off unknown, ran, fails]
  refine ⟨_, rfl, ?_⟩
  rw [noted]
  exact undone _ rfl rfl (congrArg OrderedMap.keys modules)

/-- A successful load is undone by unloading the module. -/
theorem unloaded_undone
    (coherent : engine.Coherent)
    (off : engine.safeMode.isEnabled = false)
    (unknown : engine.modules.contains name = false)
    {value : Unit}
    (succeeds : routine.result = .ok value) :
    ∃ loaded after, loadModule name routine.exec engine = (.ok true, loaded) ∧
      unloadModule name loaded = (true, after) ∧ Undone routine engine after := by
  obtain ⟨ended, names, ran, noted, modules, safeMode, undone⟩ := exists_noted coherent routine
  have listed : (ended.modules.insert name names).get? name = some names := by
    rw [modules, coherent.modules.get?_insert, if_pos rfl]
  have allowed : ended.safeMode.isEnabled = false := by
    rw [safeMode, off]
  let loaded : Engine :=
    { ended with
      loading := engine.loading
      modules := ended.modules.insert name names }
  refine ⟨loaded, _, ?_, unloadModule_known allowed listed, undone _ rfl rfl ?_⟩
  · rw [loadModule_fresh off unknown, ran, succeeds, Except.mapError, loadedBy, noted]
    rfl
  · rw [moduleNames]
    change ((ended.modules.insert name names).erase name).compact.keys = engine.modules.keys
    rw [modules]
    exact keys_erase_insert coherent.modules unknown names

end Loading

/-- Undoing a module removes what its init routine registered, and nothing else.
In every reachable state with safe mode off and for every module that is not
loaded: the load of a failing routine fails with its error and is undone, and
the load of any other routine succeeds and is undone by unloading the module. If
the routine registered only free names, every name and every class then resolves
as before the load. -/
theorem undoing_a_module_removes_its_names
    {engine : Engine}
    {name : String}
    (reachable : Reachable engine)
    (off : engine.safeMode.isEnabled = false)
    (unloaded : engine.modules.contains name = false)
    (routine : InitRoutine) :
    ∃ after, Undone routine engine after ∧
      (match routine.result with
        | .error error => loadModule name routine.exec engine = (.error (.error error), after)
        | .ok _ => ∃ loaded, loadModule name routine.exec engine = (.ok true, loaded) ∧
            unloadModule name loaded = (true, after)) ∧
      ((∀ global ∈ routine.globals, engine.scopes.global.get? global = none) →
        (∀ cls ∈ routine.classes, engine.class? cls = none) →
        ∀ other, after.scopes.binding? other = engine.scopes.binding? other ∧
          after.class? other = engine.class? other) := by
  cases result : routine.result with
  | error error =>
      obtain ⟨after, failed, undone⟩ :=
        failed_load_undone reachable.coherent off unloaded result
      exact ⟨after, undone, failed, undone.resolves⟩
  | ok value =>
      obtain ⟨loaded, after, loads, unloads, undone⟩ :=
        unloaded_undone reachable.coherent off unloaded result
      exact ⟨after, undone, ⟨loaded, loads, unloads⟩, undone.resolves⟩

end

/-- A function that does nothing, with the given parameters. -/
def sampleFunction (prototype : String) : SignatureSpec :=
  .mk "f" prototype 'v' (.native 0 [])

/-- An engine whose host has registered a function. -/
def sampleHost : Engine :=
  (HostEvent.step (.action (.register (sampleFunction "")))).perform
    (Engine.new {} .bare)

/-- A routine that adds an overload to the function of the host. -/
def overloading (result : Except ScriptError Unit) : InitRoutine :=
  { calls := [.function (sampleFunction "?")], result }

/-- A module that added an overload takes the function of the host down with it,
when its routine fails as well as when it is unloaded. -/
theorem undone_overload_removes_the_function :
    Reachable sampleHost ∧ sampleHost.safeMode.isEnabled = false ∧
      sampleHost.modules.contains "m" = false ∧
      (sampleHost.scopes.global.get? "f").isSome = true ∧
      (loadModule "m" (overloading (.error { cause := .thrown .void })).exec sampleHost).1.isOk =
        false ∧
      ((loadModule "m" (overloading (.error { cause := .thrown .void })).exec
        sampleHost).2.scopes.global.get? "f").isNone = true ∧
      (unloadModule "m" (loadModule "m" (overloading (.ok ())).exec sampleHost).2).1 = true ∧
      ((unloadModule "m" (loadModule "m" (overloading (.ok ())).exec
        sampleHost).2).2.scopes.global.get? "f").isNone = true := by
  refine ⟨.event _ (.new _ _), ?_⟩
  decide +kernel

/-- A routine that registers two free names twice, and whose second call is
refused. -/
def freeNames (result : Except ScriptError Unit) : InitRoutine :=
  { calls :=
      [.function (.mk "g" "" 'v' (.native 0 [])), .function (.mk "f" "!" 'v' (.native 0 [])),
        .cell "c" (.int 1), .link "x" .int 0, .function (.mk "g" "?" 'v' (.native 0 [])),
        .link "x" .bool 0]
    result }

/-- A routine that fails after two free names, and one that succeeds and is
unloaded. -/
theorem undone_free_names_leave_no_trace :
    (∃ after,
      loadModule "m" (freeNames (.error { cause := .thrown .void })).exec sampleHost =
        (.error (.error { cause := .thrown .void }), after) ∧
      ∀ other, after.scopes.binding? other = sampleHost.scopes.binding? other ∧
        after.class? other = sampleHost.class? other) ∧
    ∃ after loaded, loadModule "m" (freeNames (.ok ())).exec sampleHost = (.ok true, loaded) ∧
      unloadModule "m" loaded = (true, after) ∧
      ∀ other, after.scopes.binding? other = sampleHost.scopes.binding? other ∧
        after.class? other = sampleHost.class? other := by
  have reachable : Reachable sampleHost := .event _ (.new _ _)
  have off : sampleHost.safeMode.isEnabled = false := by decide +kernel
  have unloaded : sampleHost.modules.contains "m" = false := by decide +kernel
  have globals (result : Except ScriptError Unit) :
      (freeNames result).globals = ["g", "x", "g", "x"] := by
    have fixed : (freeNames (.ok ())).globals = ["g", "x", "g", "x"] := by decide +kernel
    exact fixed
  have free (result : Except ScriptError Unit) :
      ∀ global ∈ (freeNames result).globals, sampleHost.scopes.global.get? global = none := by
    have unbound : ∀ global ∈ ["g", "x", "g", "x"],
        (sampleHost.scopes.global.get? global).isNone = true := by decide +kernel
    rw [globals]
    exact fun global member => Option.isNone_iff_eq_none.mp (unbound global member)
  have failing := undoing_a_module_removes_its_names reachable off unloaded
    (freeNames (.error { cause := .thrown .void }))
  have succeeding := undoing_a_module_removes_its_names reachable off unloaded (freeNames (.ok ()))
  obtain ⟨failed, -, fails, failedResolves⟩ := failing
  obtain ⟨after, -, ⟨loaded, loads, unloads⟩, resolves⟩ := succeeding
  refine ⟨⟨failed, fails, failedResolves (free _) ?_⟩, after, loaded, loads, unloads,
    resolves (free _) ?_⟩
  · exact fun _ member => nomatch member
  · exact fun _ member => nomatch member

end Engine
end ScriptCore
