import ScriptCore.OrderedMap.Spread
import ScriptCore.Proofs.Engine.Modules
import ScriptCore.Proofs.Scope.Tidy

/-!
# Unbinding global names

Functions, linked variables and modules can be removed from an engine at any time.
Each removal takes exactly the names it is asked to take: every other binding stays
as it is, in the same order, and so do the inner scopes, the cells and the other
modules. Vacant slots never pile up: in every reachable state at least half of the
global slots are live, and no inner scope has a vacant slot.
-/

namespace ScriptCore
namespace Engine

/-! ## Scopes of reachable engines -/

section

variable [KeyHash]

/-- A change that operations on the scopes make up. -/
def Builds (before after : Engine) : Prop :=
  before.scopes.Built → after.scopes.Built

namespace Builds

theorem of_same {before after : Engine} (same : after.scopes = before.scopes) :
    Builds before after := by
  intro built
  rw [same]
  exact built

/-- Settling an error leads from a built stack to another. -/
theorem settle (engine : Engine) (error : ScriptError) : Builds engine (settle error engine) := by
  intro built
  unfold Engine.settle
  cases error.payload? <;> exact .truncate 1 built

/-- A single edit leads from a built stack to another if calls do. -/
theorem of_edit
    {dispatch : Dispatcher}
    {rights : Rights}
    (calls : ∀ call, Respects Builds (dispatch call))
    {engine after : Engine}
    (edit : Edit dispatch rights engine after) :
    Builds engine after := by
  cases edit with
  | call call _ => exact calls call engine
  | enter _ _ => exact .push
  | leave _ scopes _ popped => exact fun built => .pop built popped
  | define _ name value _ => exact .define name value
  | assign _ name value scopes _ assigned => exact fun built => .assign built assigned
  | register _ signature _ => exact .register signature
  | link _ name tag cell _ => exact .link name tag cell
  | unbind _ name _ => exact .unbind name
  | unload _ name names _ _ _ =>
      intro built
      rw [scopes_removeNames]
      exact built.unbindAll names.globals
  | newCell _ name value => exact .cells _
  | setCell _ cell value => exact .cells _
  | report _ message => exact of_same (by rw [Engine.report])
  -- No other edit touches the scopes.
  | _ => exact of_same rfl

theorem kept
    {dispatch : Dispatcher}
    {rights : Rights}
    (calls : ∀ call, Respects Builds (dispatch call)) :
    Kept dispatch rights Builds where
  refl _ built := built
  trans before after built := after (before built)
  edit := of_edit calls
  exception _ _ := of_same rfl
  loading _ _ := of_same rfl
  loaded _ _ _ _ before := before
  rollback _ names _ before _ built := by
    rw [scopes_removeNames]
    exact (before built).unbindAll names.globals
  guarded before built := .truncate _ (before (.push built))
  handled before built := .truncate _ (before built)
  settled _ := settle

end Builds

theorem dispatch_builds (frames : Nat) (call : Call) : Respects Builds (dispatch frames call) :=
  dispatch_keeps (fun _ built => built) Builds.kept
    (fun closes built => .truncate _ (closes (.push built))) frames call

theorem kept_builds : Kept dispatcher .all Builds :=
  Builds.kept (dispatcher_respects dispatch_builds)

/-- The scopes of every reachable engine are built. -/
theorem Reachable.built {engine : Engine} (reachable : Reachable engine) :
    engine.scopes.Built := by
  induction reachable with
  | new settings host => exact .new settings.initialOrder
  | event event _ built => exact kept_builds.perform event _ built
  | frame _ built => exact .push built
  | parameter name value _ built => exact .define name value built
  | arguments _ _ built => exact built
  | script _ built => exact built
  | init _ built => exact built
  | step frames program _ built => exact (Builds.kept (dispatch_builds frames)).exec program _ built

/-! ## Vacant slots -/

/-- At least half of the global slots are live, and no slot of an inner scope is
vacant. -/
structure Uncluttered (scopes : ScopeStack) : Prop where
  vacant_le : scopes.global.vacant ≤ scopes.global.liveCount
  size_le : scopes.global.size ≤ 2 * scopes.global.liveCount
  liveCount_eq : scopes.global.liveCount = scopes.global.liveSlots.length
  inner : ∀ scope ∈ scopes.inner, scope.vacant = 0 ∧ scope.liveSlots = scope.toList

/-- In a built stack vacant slots do not outnumber the live ones. -/
theorem uncluttered_of_built {scopes : ScopeStack} (built : scopes.Built) :
    Uncluttered scopes := by
  have vacant_le := built.tidy.global.vacant_le
  rw [if_pos rfl] at vacant_le
  refine ⟨vacant_le, ?_, built.tidy.global.coherent.length_liveSlots.symm, ?_⟩
  · unfold OrderedMap.liveCount OrderedMap.size at *
    omega
  · intro scope member
    obtain ⟨index, found⟩ := List.mem_iff_getElem?.mp (List.mem_reverse.mpr member)
    rw [← ScopeStack.scopeAt?_succ] at found
    have tidy := built.tidy (index + 1) scope found
    have none : scope.vacant = 0 := Nat.le_zero.mp tidy.vacant_le
    refine ⟨none, List.filter_eq_self.mpr fun slot inside => ?_⟩
    have occupied := tidy.coherent.vacant_eq
    rw [none, eq_comm, Slot.vacantCount, List.countP_eq_zero] at occupied
    simpa using occupied slot inside

/-! ## Removals -/

/-- Two engines that differ in nothing but the global scope, the classes and the
modules: they have the same inner scopes and the same cells. -/
def SameElsewhere (before after : Engine) : Prop :=
  ∃ global classes modules, after =
    { before with scopes := { before.scopes with global }, classes, modules }

/-- What is left of an engine after some global names, classes and modules are
removed. -/
structure Removes (globals classes modules : List String) (before after : Engine) : Prop where
  elsewhere : SameElsewhere before after
  /-- The live bindings of the global scope are those of the other names, in order. -/
  liveSlots : after.scopes.global.liveSlots =
    before.scopes.global.liveSlots.filter fun slot => !globals.any fun name => slot.hasKey name
  get? : ∀ name, after.scopes.global.get? name =
    if name ∈ globals then none else before.scopes.global.get? name
  /-- The functions are those of the other names, in order. -/
  functions : after.functions =
    before.functions.filter fun signature => signature.name ∉ globals
  class? : ∀ name, after.class? name = if name ∈ classes then none else before.class? name
  /-- The other modules stay, in order. -/
  module? : ∀ name, after.modules.get? name =
    if name ∈ modules then none else before.modules.get? name
  moduleNames : after.moduleNames = before.moduleNames.filter fun name => name ∉ modules
  uncluttered : Uncluttered after.scopes

omit [KeyHash] in
/-- The functions are those of the live global slots, in order. -/
theorem functions_eq (engine : Engine) :
    engine.functions = engine.scopes.global.liveSlots.flatMap Slot.signatures := by
  unfold functions OrderedMap.values OrderedMap.liveSlots
  induction engine.scopes.global.toList with
  | nil => rfl
  | cons slot slots ih =>
      cases slot with
      | vacant => exact ih
      | item binding | entry _ binding =>
          simp only [List.filterMap_cons, Slot.value?_item, Slot.value?_entry, List.flatMap_cons,
            ih]
          cases binding <;> rfl

/-- Removing the names of a module changes the global scope and the classes
alone. -/
theorem SameElsewhere.removeNames
    {before after : Engine}
    (same : SameElsewhere before after)
    (names : ModuleNames) :
    SameElsewhere before (removeNames names after) := by
  unfold Engine.removeNames
  refine List.foldlRecOn (motive := SameElsewhere before) names.classes _
    (List.foldlRecOn (motive := SameElsewhere before) names.globals _ same ?_) ?_
  · rintro _ ⟨global, classes, modules, rfl⟩ name -
    exact ⟨_, _, _, rfl⟩
  · rintro _ ⟨global, classes, modules, rfl⟩ name -
    exact ⟨_, _, _, rfl⟩

section Removals

variable {engine : Engine}

/-- Removing global names and classes, with another table of modules. -/
theorem Reachable.removes_names
    (reachable : Reachable engine)
    (names : ModuleNames)
    {modules : List String}
    {left : OrderedMap ModuleNames}
    (module? : ∀ name, left.get? name =
      if name ∈ modules then none else engine.modules.get? name)
    (moduleNames : left.keys = engine.modules.keys.filter fun name => name ∉ modules) :
    Removes names.globals names.classes modules engine
      (removeNames names { engine with modules := left }) := by
  have tidy := reachable.built.tidy.global
  have scopes := scopes_removeNames names { engine with modules := left }
  have liveSlots : (removeNames names { engine with modules := left }).scopes.global.liveSlots =
      _ := scopes ▸ ScopeStack.liveSlots_foldl_unbindGlobal tidy.coherent names.globals
  have remaining := modules_removeNames names { engine with modules := left }
  refine ⟨?_, liveSlots, fun name => ?_, ?_, class?_removeNames names _, fun name => ?_, ?_, ?_⟩
  · exact SameElsewhere.removeNames ⟨_, _, _, rfl⟩ names
  · rw [scopes]
    exact ScopeStack.get?_foldl_unbindGlobal tidy.coherent names.globals name
  · rw [functions_eq, functions_eq, liveSlots, flatMap_signatures_filter tidy.named]
  · rw [remaining]
    exact module? name
  · rw [Engine.moduleNames, remaining]
    exact moduleNames
  · rw [scopes]
    exact uncluttered_of_built (reachable.built.unbindAll names.globals)

/-- A function or a linked variable is removed if the name is bound to one;
otherwise nothing happens. -/
def RemovesIf
    (condition : Binding → Bool)
    (name : String)
    (engine : Engine)
    (ended : Bool × Engine) : Prop :=
  if (engine.scopes.global.get? name).any condition then
    ended.1 = true ∧ Removes [name] [] [] engine ended.2
  else ended = (false, engine)

/-- A loaded module is removed with its names, unless safe mode is on; otherwise
there is a report and nothing else. -/
def Unloads (name : String) (engine : Engine) (ended : Bool × Engine) : Prop :=
  match if engine.safeMode.isEnabled then none else engine.modules.get? name with
  | some names => ended.1 = true ∧ Removes names.globals names.classes [name] engine ended.2
  | none => ∃ message, ended = (false, engine.report message)

/-- Unbinding a name under a condition removes that name alone, or nothing. -/
theorem Reachable.removesIf
    (reachable : Reachable engine)
    (condition : Binding → Bool)
    (name : String) :
    RemovesIf condition name engine (unbindWhere condition name engine) := by
  unfold RemovesIf unbindWhere
  rw [get_bind_eq]
  cases found : engine.scopes.global.get? name with
  | none => rfl
  | some binding =>
      rw [Option.any_some]
      dsimp only
      split
      · exact ⟨rfl, reachable.removes_names ⟨[name], []⟩ (fun _ => by simp) (by simp)⟩
      · rfl

/-- Unloading a module removes the names noted for it, or reports and removes
nothing. -/
theorem Reachable.unloads (reachable : Reachable engine) (name : String) :
    Unloads name engine (unloadModule name engine) := by
  have coherent := reachable.coherent.modules
  unfold Unloads
  cases safe : engine.safeMode.isEnabled with
  | true =>
      rcases allowPrivileged_cases "module unloading" engine with refused | ⟨off, -⟩
      · simp only [unloadModule, bind, StateT.bind, refused]
        exact ⟨_, rfl⟩
      · cases safe.symm.trans off
  | false =>
      rw [if_neg Bool.false_ne_true]
      cases known : engine.modules.get? name with
      | none =>
          simp only [unloadModule, bind, StateT.bind, allowPrivileged_off safe, if_true, get,
            getThe, MonadStateOf.get, StateT.get, pure, known]
          exact ⟨_, rfl⟩
      | some names =>
          rw [unloadModule_known safe known]
          refine ⟨rfl, reachable.removes_names names (fun other => ?_) ?_⟩
          · rw [(coherent.erase name).get?_compact, coherent.get?_erase]
            simp
          · rw [OrderedMap.keys_compact, coherent.keys_erase, coherent.keys_nodup.erase_eq_filter]
            simp [bne, BEq.beq]

/-- Unbinding global names leaves no clutter and disturbs no other name. In every
reachable state vacant slots of the global scope do not outnumber the live ones, and
inner scopes have none. Removing a function, a linked variable or a module removes
exactly the names asked for: every other binding, class and module stays as it is
and in its place among the others, and so do the inner scopes. -/
theorem unbinding_removes_exactly_the_names (reachable : Reachable engine) :
    Uncluttered engine.scopes ∧
      (∀ name, RemovesIf Binding.isFunction name engine (unregister name engine)) ∧
      (∀ name, RemovesIf Binding.isLinked name engine (unregisterVariable name engine)) ∧
      ∀ name, Unloads name engine (unloadModule name engine) :=
  ⟨uncluttered_of_built reachable.built, reachable.removesIf Binding.isFunction,
    reachable.removesIf Binding.isLinked, reachable.unloads⟩

end Removals

end

/-- A native that does nothing. -/
def sampleNative (name : String) : SignatureSpec :=
  .mk name "" 'v' (.native 0 [])

/-- Three functions of a host, the first of which is gone, and a module with two
more. -/
def crowdedEngine : Engine :=
  [HostEvent.step (.action (.register (sampleNative "a"))),
    .step (.action (.register (sampleNative "b"))),
    .step (.action (.register (sampleNative "c"))),
    .step (.load "m" [.action (.register (sampleNative "x")),
      .action (.register (sampleNative "y"))]),
    .step (.action (.unregister "a"))].foldl HostEvent.perform
      (Engine.new {} .bare)

/-- Unloading the module compacts the global scope, as the slots of its two
functions and of the one that is gone outnumber those left. -/
theorem crowdedEngine_unloads_module :
    Reachable crowdedEngine ∧
      (crowdedEngine.scopes.global.vacant, crowdedEngine.scopes.global.size) = (1, 5) ∧
      crowdedEngine.functions.map Signature.name = ["b", "c", "x", "y"] ∧
      (unloadModule "m" crowdedEngine).1 = true ∧
      (unloadModule "m" crowdedEngine).2.scopes.global.size = 2 ∧
      (unloadModule "m" crowdedEngine).2.functions.map Signature.name = ["b", "c"] ∧
      Unloads "m" crowdedEngine (unloadModule "m" crowdedEngine) := by
  have reachable : Reachable crowdedEngine :=
    List.foldlRecOn (motive := Reachable) _ _ (.new _ _) fun _ before event _ => .event event before
  refine ⟨reachable, ?_, ?_, ?_, ?_, ?_, (unbinding_removes_exactly_the_names reachable).2.2.2 "m"⟩
  all_goals decide +kernel

end Engine
end ScriptCore
