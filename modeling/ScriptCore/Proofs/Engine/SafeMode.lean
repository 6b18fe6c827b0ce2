import ScriptCore.OrderedMap.Spread
import ScriptCore.Proofs.Engine.Hosts

/-!
# Safe mode

Once safe mode is on, nothing that an engine is asked to do turns it off again,
changes the environment of the process, runs a shell command or changes the
table of modules. This holds of host operations in any order, and of every call
and every body, however deeply nested and whatever called it.

Every operation that safe mode refuses leaves one report and yields its
default.
-/

namespace ScriptCore
namespace Engine

/-! ## What safe mode protects -/

/-- Flag, process environment, shell commands and modules are as they were. -/
structure Protected (before after : Engine) : Prop where
  safeMode : after.safeMode = before.safeMode
  environment : after.host.environment = before.host.environment
  commands : after.host.commands = before.host.commands
  modules : after.modules = before.modules

namespace Protected

theorem refl (engine : Engine) : Protected engine engine :=
  ⟨rfl, rfl, rfl, rfl⟩

/-- An engine that is protected twice is protected. -/
theorem trans
    {first second third : Engine}
    (before : Protected first second)
    (after : Protected second third) :
    Protected first third where
  safeMode := after.safeMode.trans before.safeMode
  environment := after.environment.trans before.environment
  commands := after.commands.trans before.commands
  modules := after.modules.trans before.modules

end Protected

/-- An engine in safe mode is protected by a change. -/
def Protects (before after : Engine) : Prop :=
  before.safeMode = .preset true → Protected before after

variable [KeyHash]

namespace Protects

omit [KeyHash] in
theorem refl (engine : Engine) : Protects engine engine :=
  fun _ => Protected.refl engine

omit [KeyHash] in
/-- What protects an engine twice protects it. -/
theorem trans
    {first second third : Engine}
    (before : Protects first second)
    (after : Protects second third) :
    Protects first third := by
  intro on
  have protectedBefore := before on
  exact protectedBefore.trans (after (protectedBefore.safeMode.trans on))

omit [KeyHash] in
/-- What needs safe mode to be off does not happen. -/
theorem of_off {before after : Engine} (off : before.safeMode.isEnabled = false) :
    Protects before after := by
  intro on
  rw [on] at off
  cases off

variable {dispatch : Dispatcher} {rights : Rights}

/-- A single edit protects the host and the setting if calls do. -/
theorem of_edit
    (calls : ∀ call, Respects Protects (dispatch call))
    {engine after : Engine}
    (edit : Edit dispatch rights engine after) :
    Protects engine after := by
  cases edit with
  | call call _ => exact calls call engine
  | unload _ _ _ off _ _ => exact of_off off
  | setEnvironment _ _ off => exact of_off off
  | noteCommand _ _ off => exact of_off off
  | setSafeMode _ flag safeMode accepted =>
      intro on
      rw [on, SafeMode.set_preset] at accepted
      cases accepted
  | report _ message =>
      unfold Engine.report
      exact fun _ => ⟨rfl, rfl, rfl, rfl⟩
  | _ => exact fun _ => ⟨rfl, rfl, rfl, rfl⟩

omit [KeyHash] in
theorem settle (error : ScriptError) (engine : Engine) :
    Protects engine (Engine.settle error engine) := by
  intro _
  unfold Engine.settle
  cases error.payload? <;> exact ⟨rfl, rfl, rfl, rfl⟩

/-- Protection is a relation that edits keep. -/
theorem kept (calls : ∀ call, Respects Protects (dispatch call)) :
    Kept dispatch rights Protects where
  refl := refl
  trans := trans
  edit edit := of_edit calls edit
  exception _ _ _ := ⟨rfl, rfl, rfl, rfl⟩
  loading _ _ _ := ⟨rfl, rfl, rfl, rfl⟩
  loaded _ _ _ off _ := of_off off
  rollback _ _ off _ _ := of_off off
  guarded before on :=
    have inside := before on
    ⟨inside.safeMode, inside.environment, inside.commands, inside.modules⟩
  handled before on :=
    have inside := before on
    ⟨inside.safeMode, inside.environment, inside.commands, inside.modules⟩
  settled _ engine error := settle error engine

end Protects

/-! ## Calls and bodies -/

omit [KeyHash] in
theorem restore_report (message : String) (scopeDepth callDepth : Nat) (engine : Engine) :
    (engine.report message).restore scopeDepth callDepth =
      (engine.restore scopeDepth callDepth).report message := by
  simp only [Engine.report, restore]

/-- A call of any depth protects an engine in safe mode. -/
theorem dispatch_protects (frames : Nat) (call : Call) :
    Respects Protects (dispatch frames call) := by
  refine dispatch_keeps Protects.refl Protects.kept ?_ frames call
  intro engine after inside on
  have ended := inside on
  exact ⟨ended.safeMode, ended.environment, ended.commands, ended.modules⟩

theorem kept_dispatcher : Kept dispatcher Rights.all Protects :=
  Protects.kept (dispatcher_respects dispatch_protects)

/-- A body protects an engine in safe mode if the calls it makes do. -/
theorem exec_protects
    {dispatch : Dispatcher}
    (calls : ∀ call, Respects Protects (dispatch call))
    (program : Program) :
    Respects Protects (Program.exec dispatch program).run :=
  (Protects.kept calls).exec program

end Engine

namespace Session

/-- In safe mode, turning it on again fails and changes nothing. -/
theorem enableSafeMode_eq {engine : Engine} (on : engine.safeMode = .preset true) :
    enableSafeMode engine = (.error (.safeMode { current := true }), engine) := by
  have refused : engine.safeMode.set true = .error { current := true } := by
    rw [on, SafeMode.set_preset]
  simp only [enableSafeMode, bind, StateT.bind, get, getThe, MonadStateOf.get, StateT.get, pure,
    refused]
  rfl

end Session

/-! ## Refusals -/

/-- What safe mode refuses: three natives, loading and unloading a module, and
whatever else a native asks leave for. -/
inductive Restricted where
  | setenv
  | unsetenv
  | system
  | load (name : String) (init : Program)
  | unload (name : String)
  | other (operation : String)

namespace Restricted

open Engine

variable [KeyHash]

/-- The operation as it is run. -/
def body (dispatch : Dispatcher) : Restricted → Run Value
  | setenv => Library.exec dispatch .setenv
  | unsetenv => Library.exec dispatch .unsetenv
  | system => Library.exec dispatch .system
  | load name init => Program.execStep dispatch (.load name init)
  | unload name => Program.execAction dispatch (.unload name)
  | other operation => Program.execAction dispatch (.privileged operation)

/-- What a refusal yields. -/
def default : Restricted → Value
  | system => .void
  | _ => .bool false

/-- The operation in the words of its refusal. -/
def title : Restricted → String
  | setenv => "setenv"
  | unsetenv => "unsetenv"
  | system => "system"
  | load _ _ => "module loading"
  | unload _ => "module unloading"
  | other operation => operation

/-- The report on a refusal. -/
def refusal (operation : Restricted) : String :=
  operation.title ++ " is disabled in safe mode"

section Refused

variable {engine : Engine}

omit [KeyHash] in
/-- In safe mode an operation is refused with a report. -/
theorem allowPrivileged_eq (on : engine.safeMode = .preset true) (title : String) :
    allowPrivileged title engine =
      (false, engine.report (title ++ " is disabled in safe mode")) := by
  rcases allowPrivileged_cases title engine with refused | ⟨off, -⟩
  · exact refused
  · rw [on] at off
    cases off

omit [KeyHash] in
/-- In safe mode what depends on permission goes on without it. -/
theorem asking_eq
    {α : Type}
    (on : engine.safeMode = .preset true)
    (title : String)
    (next : Bool → Run α) :
    ((liftM (allowPrivileged title) : Run Bool) >>= next) engine =
      next false (engine.report (title ++ " is disabled in safe mode")) := by
  refine Run.bind_ok ?_
  rw [Run.lift_eq, allowPrivileged_eq on]

theorem unloadModule_eq (on : engine.safeMode = .preset true) (name : String) :
    unloadModule name engine =
      (false, engine.report "module unloading is disabled in safe mode") := by
  have refused := allowPrivileged_eq on "module unloading"
  simp only [unloadModule, bind, StateT.bind, refused]
  rfl

/-- In safe mode loading a module is refused with a report, and its routine does
not run. -/
theorem loadModule_eq (on : engine.safeMode = .preset true) (name : String) (init : Run Unit) :
    loadModule name init engine =
      (.ok false, engine.report "module loading is disabled in safe mode") := by
  unfold loadModule
  rw [asking_eq on]
  rfl

/-- In safe mode an operation leaves its report and yields its default. -/
theorem body_eq
    (dispatch : Dispatcher)
    (operation : Restricted)
    (on : engine.safeMode = .preset true) :
    operation.body dispatch engine = (.ok operation.default, engine.report operation.refusal) := by
  cases operation with
  | setenv => exact asking_eq on "setenv" _
  | unsetenv => exact asking_eq on "unsetenv" _
  | system => exact asking_eq on "system" _
  | load name init =>
      change (loadModule name (discard (Program.execSteps dispatch .void init)) >>= fun loaded =>
        pure (Value.bool loaded)) engine = _
      rw [Run.bind_ok (loadModule_eq on name _)]
      rfl
  | unload name =>
      change ((liftM (unloadModule name) : Run Bool) >>= fun unloaded =>
        pure (Value.bool unloaded)) engine = _
      rw [Run.bind_ok (by rw [Run.lift_eq, unloadModule_eq on])]
      rfl
  | other title => exact asking_eq on title _

end Refused

/-- The native that an operation is. -/
def native? : Restricted → Option LibraryFunction
  | setenv => some .setenv
  | unsetenv => some .unsetenv
  | system => some .system
  | _ => none

theorem body_native
    {operation : Restricted}
    {function : LibraryFunction}
    (native : operation.native? = some function)
    (dispatch : Dispatcher) :
    operation.body dispatch = Library.exec dispatch function := by
  cases operation <;> cases native <;> rfl

/-- A call of a native that safe mode refuses, whatever its signature and
wherever it comes from. -/
theorem dispatch_eq
    {operation : Restricted}
    {function : LibraryFunction}
    {call : Call}
    {argCount : Nat}
    {bound : List Value}
    {engine : Engine}
    (native : operation.native? = some function)
    (implemented : call.signature.implementation = .library function argCount)
    (binds : call.signature.bind (call.receiver?.toList ++ call.args) = .ok bound)
    (on : engine.safeMode = .preset true)
    (room : engine.callDepth < engine.maxCallDepth)
    (frames : Nat) :
    dispatch (frames + 1) call engine =
      ({ outcome := .ok operation.default, receiver? := call.receiver? },
        engine.report operation.refusal) := by
  have slotted (slots : List Value) :
      withSlots slots (Library.exec (dispatch frames) function) engine.opened =
        ((.ok operation.default, slots), engine.opened.report operation.refusal) := by
    have opened : ({ engine.opened with slots } : Engine).safeMode = .preset true := on
    have refused := operation.body_eq (dispatch frames) opened
    rw [body_native native] at refused
    rw [withSlots_eq, refused]
    simp only [Engine.report]
  have invoked : invoke (dispatch frames) call engine.opened =
      ({ outcome := .ok operation.default, receiver? := call.receiver? },
        engine.opened.report operation.refusal) := by
    rw [invoke, implemented]
    change invokeNative call (Library.exec (dispatch frames) function) engine.opened = _
    cases receiver : call.receiver? with
    | none =>
        rw [receiver] at binds
        rw [invokeNative_function receiver binds, slotted]
    | some value =>
        rw [receiver] at binds
        rw [invokeNative_method receiver binds, slotted]
        rfl
  rw [dispatch_below room]
  change ((invoke (dispatch frames) call engine.opened).1,
    (invoke (dispatch frames) call engine.opened).2.restore engine.depth engine.callDepth) = _
  rw [invoked, restore_report, restore_opened]

end Restricted

/-! ## Hosts -/

namespace HostEvent

open Engine

variable [KeyHash]

/-- The events of a host, one after the other. -/
theorem foldl_protects (events : List HostEvent) (engine : Engine) :
    Protects engine (events.foldl perform engine) := by
  induction events generalizing engine with
  | nil => exact Protects.refl engine
  | cons event events ih =>
      exact Protects.trans (kept_dispatcher.perform event engine) (ih _)

end HostEvent

namespace Engine

section

variable [KeyHash]

theorem installLibrary_protects : Respects Protects installLibrary.run := by
  intro engine
  exact kept_dispatcher.of_edits (installLibrary_stays (fun _ => rfl) engine)

/-- Settings that enable safe mode have it on in a new engine. -/
theorem safeMode_newEngine
    {settings : Settings}
    (on : settings.safeMode = some true)
    (shell : CommandShell)
    (environment : Environment) :
    (Application.newEngine settings shell environment).safeMode = .preset true := by
  have preset : (Engine.new settings (.new shell environment)).safeMode = .preset true := by
    change (⟨settings.safeMode⟩ : SafeMode) = .preset true
    rw [on]
    rfl
  have installed :=
    installLibrary_protects (Engine.new settings (.new shell environment)) preset
  rw [Application.newEngine, StateT.run]
  exact installed.safeMode.trans preset

omit [KeyHash] in
theorem safeMode_enableSafeMode {engine : Engine} (unset : engine.safeMode = .unset) :
    (Session.enableSafeMode engine).2.safeMode = .preset true := by
  have accepted : engine.safeMode.set true = .ok (.preset true) := by
    rw [unset, SafeMode.set_unset]
  simp only [Session.enableSafeMode, bind, StateT.bind, get, getThe, MonadStateOf.get, StateT.get,
    pure, accepted]
  rfl

/-- What setting the flag does. -/
theorem execAction_setting (dispatch : Dispatcher) (flag : Bool) (engine : Engine) :
    Program.execAction dispatch (.safeModeSet flag) engine =
      match engine.safeMode.set flag with
      | .ok safeMode => (.ok (.bool true), { engine with safeMode })
      | .error error => (.ok (.ofText error.message), engine) := by
  change (get >>= fun state => match state.safeMode.set flag with
    | .ok safeMode => do
        modify fun engine => { engine with safeMode }
        return .bool true
    | .error error => return .ofText error.message : Run Value) engine = _
  rw [Run.get_bind]
  cases engine.safeMode.set flag <;> rfl

theorem safeMode_safeModeSet
    (dispatch : Dispatcher)
    {engine : Engine}
    (unset : engine.safeMode = .unset) :
    (Program.execAction dispatch (.safeModeSet true) engine).2.safeMode = .preset true := by
  rw [execAction_setting, unset, SafeMode.set_unset]

/-- A set mode cannot be set again, and the attempt changes nothing. -/
theorem execAction_safeModeSet
    (dispatch : Dispatcher)
    (flag : Bool)
    {engine : Engine}
    (on : engine.safeMode = .preset true) :
    Program.execAction dispatch (.safeModeSet flag) engine =
      (.ok (.ofText "safe mode was already set to true"), engine) := by
  rw [execAction_setting, on, SafeMode.set_preset]
  rfl

/-- An engine that stays in safe mode and apart from its host: whatever the host
does with it, and in every call and every body that it runs. The flag reads as
on and cannot be set, and a refused operation leaves one report and yields its
default, be it run by a step or called as a native. -/
structure Isolated (engine : Engine) : Prop where
  events : ∀ events : List HostEvent, Protected engine (events.foldl HostEvent.perform engine)
  calls : ∀ frames call, Protected engine (dispatch frames call engine).2
  bodies : ∀ frames program, Protected engine (Program.exec (dispatch frames) program engine).2
  reads : ∀ dispatch, Program.execAction dispatch .safeModeGet engine = (.ok (.bool true), engine)
  sets : ∀ dispatch flag, Program.execAction dispatch (.safeModeSet flag) engine =
    (.ok (.ofText "safe mode was already set to true"), engine)
  enables : Session.enableSafeMode engine = (.error (.safeMode { current := true }), engine)
  refuses : ∀ dispatch (operation : Restricted), operation.body dispatch engine =
    (.ok operation.default, engine.report operation.refusal)
  natives : ∀ (operation : Restricted) (function : LibraryFunction) (call : Call)
    (argCount frames : Nat) (bound : List Value), operation.native? = some function →
    call.signature.implementation = .library function argCount →
    call.signature.bind (call.receiver?.toList ++ call.args) = .ok bound →
    engine.callDepth < engine.maxCallDepth →
    dispatch (frames + 1) call engine =
      ({ outcome := .ok operation.default, receiver? := call.receiver? },
        engine.report operation.refusal)

/-- Safe mode is turned on by the settings, by a step or by the session, if the
flag has not been set before; and then for good. -/
theorem safe_mode_is_irrevocable :
    (∀ settings shell environment, settings.safeMode = some true →
      (Application.newEngine settings shell environment).safeMode = .preset true) ∧
    (∀ engine : Engine, engine.safeMode = .unset →
      (Session.enableSafeMode engine).2.safeMode = .preset true ∧
        ∀ dispatch, (Program.execAction dispatch (.safeModeSet true) engine).2.safeMode =
          .preset true) ∧
    ∀ engine : Engine, engine.safeMode = .preset true → Isolated engine := by
  refine ⟨fun _ shell environment on => safeMode_newEngine on shell environment, ?_, ?_⟩
  · intro engine unset
    exact ⟨safeMode_enableSafeMode unset, fun dispatch => safeMode_safeModeSet dispatch unset⟩
  · intro engine on
    constructor
    case events => exact fun events => HostEvent.foldl_protects events engine on
    case calls => exact fun frames call => dispatch_protects frames call engine on
    case bodies =>
      intro frames program
      exact exec_protects (dispatch_protects frames) program engine on
    case reads =>
      intro dispatch
      have enabled : engine.safeMode.isEnabled = true := by rw [on]; rfl
      have read : Program.execAction dispatch .safeModeGet engine =
          (.ok (.bool engine.safeMode.isEnabled), engine) := rfl
      rw [read, enabled]
    case sets => exact fun dispatch flag => execAction_safeModeSet dispatch flag on
    case enables => exact Session.enableSafeMode_eq on
    case refuses => exact fun dispatch operation => operation.body_eq dispatch on
    case natives =>
      intro operation function call argCount frames bound native implemented binds room
      exact Restricted.dispatch_eq native implemented binds on room frames

end

/-- An engine whose settings enable safe mode. -/
theorem safe_mode_from_settings_is_irrevocable :
    (Application.newEngine { safeMode := some true } .missing .empty).safeMode = .preset true ∧
      Isolated (Application.newEngine { safeMode := some true } .missing .empty) ∧
      (Session.enableSafeMode (Engine.new {} .bare)).2.safeMode =
        .preset true := by
  have on := safe_mode_is_irrevocable.1 { safeMode := some true } .missing .empty rfl
  exact ⟨on, safe_mode_is_irrevocable.2.2 _ on, (safe_mode_is_irrevocable.2.1 _ rfl).1⟩

end Engine
end ScriptCore
