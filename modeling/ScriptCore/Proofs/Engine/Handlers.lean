import Mathlib
import ScriptCore.Engine.Handler

/-!
# How handlers end

Computations on engines are taken apart here: sequences, exception
handlers and module loading. For every handler there is one equation for each
way its body can end. A script error is caught, reported or passed on; a fault
of the host passes through every handler untouched.
-/

namespace ScriptCore

/-! ## Computations on engines -/

namespace Run

variable {α β : Type}

/-- After a success the sequence goes on. -/
theorem bind_ok
    {first : Run α}
    {next : α → Run β}
    {engine middle : Engine}
    {value : α}
    (done : first engine = (.ok value, middle)) :
    (first >>= next) engine = next value middle := by
  change (ExceptT.bindCont next (first engine).1) (first engine).2 = _
  rw [done]
  rfl

/-- A failure ends the sequence. -/
theorem bind_error
    {first : Run α}
    {next : α → Run β}
    {engine middle : Engine}
    {failure : Failure}
    (failed : first engine = (.error failure, middle)) :
    (first >>= next) engine = (.error failure, middle) := by
  change (ExceptT.bindCont next (first engine).1) (first engine).2 = _
  rw [failed]
  rfl

/-- A computation whose result goes through a function. -/
theorem bind_pure_eq (first : Run α) (f : α → β) (engine : Engine) :
    (first >>= fun value => pure (f value)) engine =
      ((first engine).1.map f, (first engine).2) := by
  rcases made : first engine with ⟨outcome, after⟩
  cases outcome with
  | error failure => rw [bind_error made]; rfl
  | ok value => rw [bind_ok made]; rfl

theorem get_bind (next : Engine → Run β) (engine : Engine) :
    (get >>= next) engine = next engine engine := rfl

theorem lift_eq (body : StateM Engine α) (engine : Engine) :
    (liftM body : Run α) engine = (.ok (body engine).1, (body engine).2) := rfl

end Run

namespace Engine

theorem get_bind_eq {α : Type} (next : Engine → StateM Engine α) (engine : Engine) :
    (get >>= next) engine = next engine engine := rfl

theorem allowPrivileged_off
    {engine : Engine}
    (off : engine.safeMode.isEnabled = false)
    (operation : String) :
    allowPrivileged operation engine = (true, engine) := by
  simp [allowPrivileged, bind, StateT.bind, get, getThe, MonadStateOf.get, StateT.get, pure,
    off, StateT.pure]

/-- A privileged operation is refused with a report, or safe mode is off and
nothing changes. -/
theorem allowPrivileged_cases (operation : String) (engine : Engine) :
    allowPrivileged operation engine =
        (false, engine.report (operation ++ " is disabled in safe mode")) ∨
      engine.safeMode.isEnabled = false ∧ allowPrivileged operation engine = (true, engine) := by
  cases enabled : engine.safeMode.isEnabled with
  | true =>
      left
      simp [allowPrivileged, bind, StateT.bind, get, getThe, MonadStateOf.get, StateT.get, pure,
        enabled, modify, modifyGet, MonadStateOf.modifyGet, StateT.modifyGet, StateT.pure]
  | false => exact .inr ⟨rfl, allowPrivileged_off enabled operation⟩

/-! ## Exceptions -/

variable {body : Run Value} {engine after : Engine} {error : ScriptError}

theorem attempt_ok
    {value : Value}
    (done : body engine = (.ok value, after)) :
    attempt body engine =
      (.ok (.completed value), after.restore engine.depth engine.callDepth) := by
  unfold attempt
  simp only [ExceptT.mk, ExceptT.run, bind, StateT.bind, get, getThe, MonadStateOf.get, StateT.get,
    pure]
  rw [done]
  rfl

/-- An exception is caught and put on record. -/
theorem attempt_thrown
    {payload : Value}
    (failed : body engine = (.error (.error error), after))
    (thrown : error.payload? = some payload) :
    attempt body engine = (.ok (.caught payload),
      { after.restore engine.depth engine.callDepth with exception := .caught payload }) := by
  unfold attempt
  simp only [ExceptT.mk, ExceptT.run, bind, StateT.bind, get, getThe, MonadStateOf.get, StateT.get,
    pure]
  rw [failed]
  simp only [thrown]
  rfl

/-- Any other error is passed on. -/
theorem attempt_plain
    (failed : body engine = (.error (.error error), after))
    (plain : error.payload? = none) :
    attempt body engine =
      (.error (.error error), after.restore engine.depth engine.callDepth) := by
  unfold attempt
  simp only [ExceptT.mk, ExceptT.run, bind, StateT.bind, get, getThe, MonadStateOf.get, StateT.get,
    pure]
  rw [failed]
  simp only [plain]
  rfl

/-- Whether it catches an error or lets it pass, a handler restores the depths. -/
theorem attempt_error
    (failed : body engine = (.error (.error error), after)) :
    ∃ exception, (attempt body engine).2 =
      { after.restore engine.depth engine.callDepth with exception } := by
  cases payload : error.payload? with
  | none =>
      rw [attempt_plain failed payload]
      exact ⟨after.exception, rfl⟩
  | some value =>
      rw [attempt_thrown failed payload]
      exact ⟨.caught value, rfl⟩

/-- What is no error of a script passes a handler and restores nothing. -/
theorem attempt_pass
    {failure : Failure}
    (passes : ∀ error, failure ≠ .error error)
    (failed : body engine = (.error failure, after)) :
    attempt body engine = (.error failure, after) := by
  unfold attempt
  simp only [ExceptT.mk, ExceptT.run, bind, StateT.bind, get, getThe, MonadStateOf.get, StateT.get,
    pure]
  rw [failed]
  cases failure with
  | error error => exact absurd rfl (passes error)
  | fault message => rfl
  | exhausted => rfl

/-- A script that fails is settled with its error. -/
theorem run_error
    (failed : body { engine with exception := .normal } = (.error (.error error), after)) :
    run body engine = (.error (.error error), settle error after) := by
  unfold run
  simp only [ExceptT.mk, ExceptT.run, bind, StateT.bind, modify, modifyGet, MonadStateOf.modifyGet,
    StateT.modifyGet, pure]
  rw [failed]
  rfl

/-- A script that does not fail with an error ends as its body does. -/
theorem run_pass
    {outcome : Except Failure Value}
    (passes : ∀ error, outcome ≠ .error (.error error))
    (ended : body { engine with exception := .normal } = (outcome, after)) :
    run body engine = (outcome, after) := by
  unfold run
  simp only [ExceptT.mk, ExceptT.run, bind, StateT.bind, modify, modifyGet, MonadStateOf.modifyGet,
    StateT.modifyGet, pure]
  rw [ended]
  rcases outcome with failure | value
  · cases failure with
    | error error => exact absurd rfl (passes error)
    | fault message => rfl
    | exhausted => rfl
  · rfl

/-- How a wrapped body ends, by the end of the body. -/
def wrappedBy : Except Failure Value × Engine → Except Failure Value × Engine
  | (.error (.error error), after) => (.error (.error error.intoThrown), after)
  | ended => ended

theorem wrapped_eq (body : Run Value) (engine : Engine) :
    wrapped body engine = wrappedBy (body engine) := by
  unfold wrapped
  simp only [ExceptT.mk, ExceptT.run, bind, StateT.bind]
  rcases body engine with ⟨outcome, after⟩
  rcases outcome with failure | value
  · cases failure <;> rfl
  · rfl

theorem wrapped_state (body : Run Value) (engine : Engine) :
    (wrapped body engine).2 = (body engine).2 := by
  rw [wrapped_eq]
  rcases body engine with ⟨outcome, after⟩
  rcases outcome with failure | value
  · cases failure <;> rfl
  · rfl

/-! ## Modules -/

variable [KeyHash]

/-- How the loading of a module ends, by the end of its init routine. -/
def loadedBy (name : String) (engine : Engine) :
    Except Failure Unit × Engine → Except Failure Bool × Engine
  | (.ok _, after) =>
      (.ok true, { after with
        loading := engine.loading
        modules := after.modules.insert name (after.loading.getD .empty) })
  | (.error (.error error), after) =>
      (.error (.error error),
        removeNames (after.loading.getD .empty) { after with loading := engine.loading })
  | (.error failure, after) => (.error failure, after)

/-- The init routine of a module that is not loaded runs while names are noted
for it. -/
theorem loadModule_fresh
    {name : String}
    {engine : Engine}
    (off : engine.safeMode.isEnabled = false)
    (unknown : engine.modules.contains name = false)
    (init : Run Unit) :
    loadModule name init engine =
      loadedBy name engine (init { engine with loading := some .empty }) := by
  unfold loadModule
  rw [Run.bind_ok (by rw [Run.lift_eq, allowPrivileged_off off]), if_pos rfl, Run.get_bind,
    if_neg (by rw [unknown]; exact Bool.false_ne_true)]
  simp only [ExceptT.mk, ExceptT.run, bind, StateT.bind, get, getThe, MonadStateOf.get,
    StateT.get, modify, modifyGet, MonadStateOf.modifyGet, StateT.modifyGet, pure]
  rcases init { engine with loading := some .empty } with ⟨outcome, after⟩
  rcases outcome with failure | value
  · cases failure <;> rfl
  · rfl

/-- Loading a module is refused with a report, or its init routine runs while
names are noted for it. -/
theorem loadModule_cases (name : String) (init : Run Unit) (engine : Engine) :
    (∃ message, loadModule name init engine = (.ok false, engine.report message)) ∨
      engine.safeMode.isEnabled = false ∧
        loadModule name init engine =
          loadedBy name engine (init { engine with loading := some .empty }) := by
  rcases allowPrivileged_cases "module loading" engine with refused | ⟨off, granted⟩
  · left
    refine ⟨"module loading" ++ " is disabled in safe mode", ?_⟩
    unfold loadModule
    rw [Run.bind_ok (by rw [Run.lift_eq, refused])]
    rfl
  · cases known : engine.modules.contains name with
    | true =>
        left
        unfold loadModule
        rw [Run.bind_ok (by rw [Run.lift_eq, granted]), if_pos rfl, Run.get_bind, if_pos known]
        exact ⟨_, rfl⟩
    | false =>
        exact .inr ⟨off, loadModule_fresh off known init⟩

end Engine
end ScriptCore
