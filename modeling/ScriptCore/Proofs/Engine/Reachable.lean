import ScriptCore.Proofs.Engine.Hosts

/-!
# Reachable engines

An engine is coherent if the tables of its global scope and of its modules are.
Every edit keeps it so, hence every body, every call and every event of a host.
The states that an engine can be in, between two events as well as in the middle
of a call, are therefore coherent, and looking up a name in them finds what was
last written under it.
-/

namespace ScriptCore
namespace Engine

variable [KeyHash]

/-- The global scope and the modules of an engine are coherent. -/
structure Coherent (engine : Engine) : Prop where
  global : engine.scopes.global.Coherent
  modules : engine.modules.Coherent

/-- A change keeps a coherent engine coherent. -/
def Coheres (before after : Engine) : Prop :=
  before.Coherent → after.Coherent

namespace Coheres

theorem trans
    {first second third : Engine}
    (before : Coheres first second)
    (after : Coheres second third) :
    Coheres first third :=
  fun coherent => after (before coherent)

/-- What leaves global scope and modules alone keeps them coherent. -/
theorem of_same
    {before after : Engine}
    (global : after.scopes.global = before.scopes.global)
    (modules : after.modules = before.modules) :
    Coheres before after := by
  rintro ⟨coherentGlobal, coherentModules⟩
  exact ⟨global ▸ coherentGlobal, modules ▸ coherentModules⟩

/-- A change of the scopes keeps them coherent. -/
theorem of_change
    {rights : Rights}
    {before after : Engine}
    (change : ScopeChange rights before after.scopes)
    (modules : after.modules = before.modules) :
    Coheres before after := by
  rintro ⟨coherentGlobal, coherentModules⟩
  refine ⟨?_, modules ▸ coherentModules⟩
  generalize after.scopes = scopes at change
  cases change with
  | cells cells => exact coherentGlobal
  | push => exact coherentGlobal
  | pop _ _ popped =>
      obtain ⟨scope, rebuilt⟩ := ScopeStack.pop?_eq_some popped
      rw [rebuilt] at coherentGlobal
      exact coherentGlobal
  | define name value _ => exact (before.scopes.define_rebinds name value).coherent coherentGlobal
  | assign _ _ _ _ rebinds _ => exact rebinds.coherent coherentGlobal
  | register _ _ _ _ rebinds => exact rebinds.coherent coherentGlobal
  | remove names _ => exact ScopeStack.coherent_foldl_unbindGlobal coherentGlobal names

end Coheres

theorem modules_removeNames (names : ModuleNames) (engine : Engine) :
    (removeNames names engine).modules = engine.modules :=
  removeNames_untouched Engine.modules (fun _ _ => rfl) (fun _ _ => rfl) names engine

/-- Removing the names of a module keeps an engine coherent. -/
theorem Coherent.removeNames {engine : Engine} (coherent : engine.Coherent) (names : ModuleNames) :
    (removeNames names engine).Coherent where
  global := by
    rw [scopes_removeNames]
    exact ScopeStack.coherent_foldl_unbindGlobal coherent.global names.globals
  modules := by
    rw [modules_removeNames]
    exact coherent.modules

/-- Of all edits that are not calls, only unloading changes the modules. -/
theorem Edit.modules_cases
    {dispatch : Dispatcher}
    {rights : Rights}
    {engine after : Engine}
    (edit : Edit dispatch rights engine after) :
    (∃ call, after = (dispatch call engine).2) ∨
      (∃ name names, after = removeNames names
        { engine with modules := (engine.modules.erase name).compact }) ∨
      after.modules = engine.modules := by
  cases edit with
  | call call _ => exact .inl ⟨call, rfl⟩
  | unload _ name names _ _ _ => exact .inr (.inl ⟨name, names, rfl⟩)
  | report _ message => exact .inr (.inr (by simp only [Engine.report]))
  | _ => exact .inr (.inr rfl)

theorem Coheres.kept
    {dispatch : Dispatcher}
    {rights : Rights}
    (calls : ∀ call, Respects Coheres (dispatch call)) :
    Kept dispatch rights Coheres where
  refl _ coherent := coherent
  trans := Coheres.trans
  edit {engine after} edit := by
    rcases edit.modules_cases with ⟨call, rfl⟩ | ⟨name, names, rfl⟩ | modules
    · exact calls call engine
    · intro coherent
      apply Coherent.removeNames
      exact ⟨coherent.global, (coherent.modules.erase name).compact⟩
    · rcases edit.call_or_change with ⟨call, rfl⟩ | ⟨-, change⟩
      · exact calls call engine
      · exact .of_change change modules
  exception _ _ := .of_same rfl rfl
  loading _ _ := .of_same rfl rfl
  loaded _ name names _ before coherent := by
    have inside := before coherent
    exact ⟨inside.global, inside.modules.insert name names⟩
  rollback _ names _ before _ coherent := by
    have inside := before coherent
    apply Coherent.removeNames
    exact ⟨inside.global, inside.modules⟩
  guarded before coherent := by
    have inside := before ⟨coherent.global, coherent.modules⟩
    exact ⟨inside.global, inside.modules⟩
  handled before coherent := by
    have inside := before coherent
    exact ⟨inside.global, inside.modules⟩
  settled _ engine error := by
    unfold settle
    cases error.payload? <;> exact .of_same rfl rfl

/-- A call keeps an engine coherent, with any number of frames. -/
theorem dispatch_coheres (frames : Nat) (call : Call) :
    Respects Coheres (dispatch frames call) := by
  refine dispatch_keeps (fun _ coherent => coherent) Coheres.kept ?_ frames call
  intro engine after closes coherent
  have inside := closes ⟨coherent.global, coherent.modules⟩
  exact ⟨inside.global, inside.modules⟩

theorem kept_coheres : Kept dispatcher .all Coheres :=
  Coheres.kept (dispatcher_respects dispatch_coheres)

/-! ## Reachable states -/

/-- A state that an engine can be in. Between two events of its host it is one
that the events so far have led to. In the middle of an event it is one that a
body sees: in the frame of a call with its variables and its arguments, in a
script of its own, or in the init routine of a module, after any steps of the
body. -/
inductive Reachable : Engine → Prop where
  | new (settings : Settings) (host : Host) : Reachable (Engine.new settings host)
  | event {engine : Engine} (event : HostEvent) (before : Reachable engine) :
      Reachable (event.perform engine)
  | frame {engine : Engine} (before : Reachable engine) : Reachable engine.opened
  | parameter {engine : Engine} (name : String) (value : Value) (before : Reachable engine) :
      Reachable (engine.define name value)
  | arguments {engine : Engine} (slots : List Value) (before : Reachable engine) :
      Reachable { engine with slots }
  | script {engine : Engine} (before : Reachable engine) :
      Reachable { engine with exception := .normal }
  | init {engine : Engine} (before : Reachable engine) :
      Reachable { engine with loading := some .empty }
  | step {engine : Engine} (frames : Nat) (program : Program) (before : Reachable engine) :
      Reachable (Program.exec (dispatch frames) program engine).2

/-- Every reachable engine is coherent. -/
theorem Reachable.coherent {engine : Engine} (reachable : Reachable engine) : engine.Coherent := by
  induction reachable with
  | new settings host =>
      exact ⟨OrderedMap.coherent_withOrder settings.initialOrder, OrderedMap.coherent_empty⟩
  | event event _ coherent => exact kept_coheres.perform event _ coherent
  | frame _ coherent => exact ⟨coherent.global, coherent.modules⟩
  | @parameter engine name value _ coherent =>
      exact kept_coheres.edit (.define engine name value rfl) coherent
  | arguments _ _ coherent => exact ⟨coherent.global, coherent.modules⟩
  | script _ coherent => exact ⟨coherent.global, coherent.modules⟩
  | init _ coherent => exact ⟨coherent.global, coherent.modules⟩
  | step frames program _ coherent =>
      exact (Coheres.kept (dispatch_coheres frames)).exec program _ coherent

end Engine
end ScriptCore
