import ScriptCore.Proofs.Engine.Enforcement
import ScriptCore.Proofs.Scope.Names

/-!
# Changes to the scopes of an engine

Of all the edits of an engine, those that are not calls fall into six kinds by
what they do to the scopes. A relation that every kind respects, and every call,
is kept by every body that runs within its rights.
-/

namespace ScriptCore
namespace Engine

variable [KeyHash]

/-- What a body does to the scopes of an engine within its rights, calls
apart. -/
inductive ScopeChange (rights : Rights) (engine : Engine) : ScopeStack → Prop where
  | cells (cells : Array Value) : ScopeChange rights engine { engine.scopes with cells }
  | push : ScopeChange rights engine engine.scopes.push
  | pop (scopes : ScopeStack) (may : rights.leaves engine)
      (popped : engine.scopes.pop? = some scopes) :
      ScopeChange rights engine scopes
  | define (name : String) (value : Value) (may : rights.defines engine name value) :
      ScopeChange rights engine (engine.scopes.define name value)
  | assign (name : String) (value : Value) (scopes : ScopeStack)
      (may : rights.assigns engine name value)
      (rebinds : engine.scopes.Rebinds (engine.scopes.home name) name (.plain value) scopes)
      (place : engine.scopes.Binds (engine.scopes.home name) name ∨
        engine.scopes.home name = engine.scopes.inner.length) :
      ScopeChange rights engine scopes
  | register (name : String) (binding : Binding) (scopes : ScopeStack)
      (may : rights.registers name)
      (rebinds : engine.scopes.Rebinds 0 name binding scopes) :
      ScopeChange rights engine scopes
  | remove (names : List String) (may : ∀ name ∈ names, rights.removes name) :
      ScopeChange rights engine (names.foldl ScopeStack.unbindGlobal engine.scopes)

omit [KeyHash] in
/-- What no step of a fold touches is as it was. -/
theorem foldl_untouched
    {α : Type}
    (field : Engine → α)
    (step : Engine → String → Engine)
    (untouched : ∀ engine name, field (step engine name) = field engine)
    (names : List String)
    (engine : Engine) :
    field (names.foldl step engine) = field engine := by
  induction names generalizing engine with
  | nil => rfl
  | cons name names ih =>
      rw [List.foldl_cons, ih, untouched]

/-- Removing the names of a module unbinds its global names, one after the
other. -/
theorem scopes_removeNames (names : ModuleNames) (engine : Engine) :
    (removeNames names engine).scopes =
      names.globals.foldl ScopeStack.unbindGlobal engine.scopes := by
  rw [removeNames, foldl_untouched Engine.scopes (fun engine name => engine.removeClass name)
    fun _ _ => rfl]
  exact (List.foldl_hom Engine.scopes fun _ _ => rfl).symm

/-- Removing names leaves alone what neither scopes nor classes are part of. -/
theorem removeNames_untouched
    {α : Type}
    (field : Engine → α)
    (scopes : ∀ engine change, field (engine.mapScopes change) = field engine)
    (classes : ∀ engine name, field (removeClass name engine) = field engine)
    (names : ModuleNames)
    (engine : Engine) :
    field (removeNames names engine) = field engine := by
  rw [removeNames, foldl_untouched field (fun engine name => engine.removeClass name) classes]
  exact foldl_untouched field
    (fun engine name => engine.mapScopes fun scopes => scopes.unbindGlobal name)
    (fun engine _ => scopes engine _) names.globals engine

theorem callDepth_removeNames (names : ModuleNames) (engine : Engine) :
    (removeNames names engine).callDepth = engine.callDepth :=
  removeNames_untouched Engine.callDepth (fun _ _ => rfl) (fun _ _ => rfl) names engine

theorem exception_removeNames (names : ModuleNames) (engine : Engine) :
    (removeNames names engine).exception = engine.exception :=
  removeNames_untouched Engine.exception (fun _ _ => rfl) (fun _ _ => rfl) names engine

theorem reports_removeNames (names : ModuleNames) (engine : Engine) :
    (removeNames names engine).reports = engine.reports :=
  removeNames_untouched Engine.reports (fun _ _ => rfl) (fun _ _ => rfl) names engine

variable {dispatch : Dispatcher} {rights : Rights}

/-- An edit is a call, or it changes the scopes in one of the listed ways and
leaves the depth of calls alone. -/
theorem Edit.call_or_change {engine after : Engine} (edit : Edit dispatch rights engine after) :
    (∃ call, after = (dispatch call engine).2) ∨
      after.callDepth = engine.callDepth ∧ ScopeChange rights engine after.scopes := by
  have still : ScopeChange rights engine engine.scopes := .cells engine.scopes.cells
  cases edit with
  | call call _ => exact .inl ⟨call, rfl⟩
  | enter _ may => exact .inr ⟨rfl, .push⟩
  | leave _ scopes may popped => exact .inr ⟨rfl, .pop scopes may popped⟩
  | define _ name value may => exact .inr ⟨rfl, .define name value may⟩
  | assign _ name value scopes may assigned =>
      right
      refine ⟨rfl, ?_⟩
      rcases ScopeStack.assign_cases assigned with ⟨cells, rfl⟩ | ⟨rebinds, place⟩
      · exact .cells cells
      · exact .assign name value scopes may rebinds place
  | register _ signature may =>
      obtain ⟨binding, rebinds⟩ := engine.scopes.defineFunction_rebinds signature
      exact .inr ⟨rfl, .register signature.name binding _ may rebinds⟩
  | link _ name tag cell may =>
      exact .inr ⟨rfl, .register name _ _ may (engine.scopes.rebinds_global name _)⟩
  | unbind _ name may =>
      refine .inr ⟨rfl, .remove [name] ?_⟩
      intro other member
      rw [List.mem_singleton] at member
      rw [member]
      exact may
  | unload _ name names allowed loaded may =>
      refine .inr ⟨callDepth_removeNames names _, ?_⟩
      rw [scopes_removeNames]
      exact .remove names.globals may
  | newCell _ name value => exact .inr ⟨rfl, .cells _⟩
  | setCell _ cell value => exact .inr ⟨rfl, .cells _⟩
  | registerClass _ cls => exact .inr ⟨rfl, still⟩
  | removeClass _ name => exact .inr ⟨rfl, still⟩
  | numberSignature => exact .inr ⟨rfl, still⟩
  | report _ message =>
      unfold Engine.report
      exact .inr ⟨rfl, still⟩
  | takeReports => exact .inr ⟨rfl, still⟩
  | throwValue _ payload => exact .inr ⟨rfl, still⟩
  | setSlots _ slots => exact .inr ⟨rfl, still⟩
  | setEvaluator => exact .inr ⟨rfl, still⟩
  | setSafeMode _ flag safeMode accepted => exact .inr ⟨rfl, still⟩
  | createResource _ kind handle hasDestructor => exact .inr ⟨rfl, still⟩
  | setHandle _ id handle => exact .inr ⟨rfl, still⟩
  | setEnvironment _ change allowed => exact .inr ⟨rfl, still⟩
  | noteCommand _ command allowed => exact .inr ⟨rfl, still⟩
  | log _ line => exact .inr ⟨rfl, still⟩

/-- A relation that calls, guards and every change to the scopes respect is kept
by every body that must not fail out of a nested script. -/
theorem Kept.of_changes
    {relation : Engine → Engine → Prop}
    (final : rights.resets = false)
    (trans : ∀ {first second third},
      relation first second → relation second third → relation first third)
    (calls : ∀ call, Respects relation (dispatch call))
    (changes : ∀ {engine after : Engine}, after.callDepth = engine.callDepth →
      ScopeChange rights engine after.scopes → relation engine after)
    (guards : ∀ {engine after}, relation (engine.mapScopes ScopeStack.push) after →
      relation engine (after.restore engine.depth engine.callDepth))
    (handlers : ∀ {engine after}, relation engine after →
      relation engine (after.restore engine.depth engine.callDepth)) :
    Kept dispatch rights relation where
  refl engine := changes rfl (.cells engine.scopes.cells)
  trans := trans
  edit edit := by
    rcases edit.call_or_change with ⟨call, rfl⟩ | ⟨sameCalls, change⟩
    · exact calls call _
    · exact changes sameCalls change
  exception engine _ := changes rfl (.cells engine.scopes.cells)
  loading engine _ := changes rfl (.cells engine.scopes.cells)
  loaded {_ after} _ _ _ _ before := trans before (changes rfl (.cells after.scopes.cells))
  rollback {_ after} loading names _ before removable := by
    refine trans before (changes (callDepth_removeNames names _) ?_)
    rw [scopes_removeNames]
    exact .remove names.globals (List.all_eq_true.mp removable)
  guarded := guards
  handled := handlers
  settled resets := by
    rw [final] at resets
    cases resets

end Engine
end ScriptCore
