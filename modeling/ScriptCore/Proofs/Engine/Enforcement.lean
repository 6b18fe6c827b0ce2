import ScriptCore.Proofs.Engine.Actions

/-!
# Enforced rights

Every body has rights to change the scopes, which depend on the number of
scopes that are open when it starts. An enforced run is an ordinary run, except
that the first action without a right to it is refused, and no handler catches
the refusal.

A run stays within its rights if enforcing them makes no difference to it. What
enforced runs keep of an engine is therefore kept by every such run.
-/

namespace ScriptCore

open Engine

/-! ## Enforced evaluation -/

variable [KeyHash]

namespace Rights

/-- Refuse to go on. -/
def refuse {α : Type} : Run α :=
  throw .exhausted

/-- An outcome whose script error is kept or refused. -/
def confine {α : Type} (may : Bool) : Except Failure α → Except Failure α
  | .error (.error error) => if may then .error (.error error) else .error .exhausted
  | outcome => outcome

/-- Let a body fail only if a condition holds of the engine it leaves. -/
def failOnlyIf {α : Type} (condition : Engine → Bool) (body : Run α) : Run α := ExceptT.mk do
  let outcome ← body.run
  return confine (condition (← get)) outcome

/-- Whether the names that a failed module has registered may be removed. -/
def allowsRollback (rights : Rights) (engine : Engine) : Bool :=
  (engine.loading.getD .empty).globals.all rights.removes

mutual

/-- Run a step within rights. -/
def execStep (rights : Rights) (dispatch : Dispatcher) : Step → Run Value
  | .action action => do
      if rights.allows dispatch (← get) action then Program.execAction dispatch action
      else refuse
  | .scoped body => inScope (execSteps rights dispatch .void body)
  | .attempt body => return (← attempt (execSteps rights dispatch .void body)).toValue
  | .run body => run (failOnlyIf (fun _ => rights.resets) (execSteps rights dispatch .void body))
  | .wrap body => wrapped (execSteps rights dispatch .void body)
  | .load name init =>
      return .bool (← loadModule name
        (failOnlyIf rights.allowsRollback (discard (execSteps rights dispatch .void init))))
  | .loop count body => Program.repeated (execSteps rights dispatch .void body) .void count
  | .branch condition onTrue onFalse => do
      let value ← condition.eval dispatch
      if value.isTruthy then execSteps rights dispatch .void onTrue
      else execSteps rights dispatch .void onFalse
termination_by structural step => step

/-- Run steps in order within rights. -/
def execSteps (rights : Rights) (dispatch : Dispatcher) (last : Value) : List Step → Run Value
  | [] => return last
  | step :: steps => do
      let value ← execStep rights dispatch step
      execSteps rights dispatch value steps
termination_by structural steps => steps

end

/-- Run a program within rights. -/
def exec (rights : Rights) (dispatch : Dispatcher) (program : Program) : Run Value :=
  execSteps rights dispatch .void program

end Rights

/-- The rights of a body, given the number of scopes at its start. The scope of
its own call is the innermost of them. -/
abbrev Policy := Nat → Rights

namespace Policy

/-- Run the implementation of a call within its rights. -/
def invoke (policy : Policy) (dispatch : Dispatcher) (call : Call) : StateM Engine Reply := do
  let rights := policy (← get).depth
  match call.signature.implementation with
  | .library function _ => invokeNative call (Library.exec dispatch function)
  | .native _ body => invokeNative call (rights.exec dispatch body)
  | .user params body => invokeUser call params (rights.exec dispatch body)

/-- Run a call with a supply of frames, every body within its rights. -/
def dispatch (policy : Policy) : Nat → Dispatcher
  | frames, call => do
    let engine ← get
    if engine.maxCallDepth ≤ engine.callDepth then
      let overflow : ScriptError := { cause := .stackOverflow engine.maxCallDepth }
      return { outcome := .error (.error overflow), receiver? := call.receiver? }
    else
      match frames with
      | 0 => return { outcome := .error .exhausted, receiver? := call.receiver? }
      | frames + 1 =>
          guarded do
            modify deepen
            policy.invoke (dispatch policy frames) call

end Policy

/-! ## Enforcing nothing -/

namespace Rights

/-- Full rights allow every action. -/
theorem allows_all (dispatch : Dispatcher) (engine : Engine) (action : Action) :
    all.allows dispatch engine action = true := by
  have afterwards : ∀ {α : Type} (outcome : Except Failure α × Engine) (write : Engine → α → Bool),
      (∀ engine value, write engine value = true) → allowsAfter outcome write = true := by
    intro α outcome write holds
    rcases outcome with ⟨result, after⟩
    cases result with
    | ok value => exact holds after value
    | error failure => rfl
  cases action with
  | define name expr => exact afterwards _ _ fun _ _ => rfl
  | assign name expr => exact afterwards _ _ fun _ _ => rfl
  | mutate target operand change =>
      refine afterwards _ _ fun engine result => ?_
      cases result <;> rfl
  | method target name args =>
      refine afterwards _ _ fun engine reply => ?_
      unfold allowsReceiver
      split <;> rfl
  | install => simp [allows, all]
  | unload name =>
      have removable : (engine.modules.get? name).all
          (fun names => names.globals.all all.removes) = true := by
        cases engine.modules.get? name <;> simp [all]
      simp [allows, removable]
  | _ => rfl

omit [KeyHash] in
@[simp] theorem confine_true {α : Type} (outcome : Except Failure α) :
    confine true outcome = outcome := by
  rcases outcome with failure | value
  · cases failure <;> rfl
  · rfl

omit [KeyHash] in
theorem failOnlyIf_eq {α : Type} (condition : Engine → Bool) (body : Run α) (engine : Engine) :
    failOnlyIf condition body engine =
      (confine (condition (body engine).2) (body engine).1, (body engine).2) := rfl

omit [KeyHash] in
/-- A body that may fail runs as it is. -/
theorem failOnlyIf_of_true
    {α : Type}
    {condition : Engine → Bool}
    (holds : ∀ engine, condition engine = true)
    (body : Run α) :
    failOnlyIf condition body = body := by
  funext engine
  rw [failOnlyIf_eq, holds, confine_true]
  rfl

mutual

/-- A step with every right is an ordinary step. -/
theorem execStep_all (dispatch : Dispatcher) :
    ∀ step : Step, all.execStep dispatch step = Program.execStep dispatch step
  | .action action => by
      funext engine
      change (if all.allows dispatch engine action then Program.execAction dispatch action
        else refuse) engine = Program.execAction dispatch action engine
      rw [allows_all, if_pos rfl]
  | .scoped body => by
      simp only [execStep, Program.execStep, execSteps_all dispatch .void body]
  | .attempt body => by
      simp only [execStep, Program.execStep, execSteps_all dispatch .void body]
  | .run body => by
      simp only [execStep, Program.execStep, execSteps_all dispatch .void body]
      exact congrArg run (failOnlyIf_of_true (fun _ => rfl) _)
  | .wrap body => by
      simp only [execStep, Program.execStep, execSteps_all dispatch .void body]
  | .load name init => by
      simp only [execStep, Program.execStep, execSteps_all dispatch .void init]
      rw [failOnlyIf_of_true fun engine => by simp [allowsRollback, all]]
  | .loop count body => by
      simp only [execStep, Program.execStep, execSteps_all dispatch .void body]
  | .branch condition onTrue onFalse => by
      simp only [execStep, Program.execStep, execSteps_all dispatch .void onTrue,
        execSteps_all dispatch .void onFalse]

/-- With full rights steps run as they are. -/
theorem execSteps_all (dispatch : Dispatcher) (last : Value) :
    ∀ steps : List Step, all.execSteps dispatch last steps = Program.execSteps dispatch last steps
  | [] => rfl
  | step :: steps => by
      simp only [execSteps, Program.execSteps, execStep_all dispatch step]
      congr 1
      funext value
      exact execSteps_all dispatch value steps

end

end Rights

namespace Policy

/-- With full rights for every body a call is invoked as it is. -/
theorem invoke_all (dispatch : Dispatcher) (call : Call) :
    invoke (fun _ => .all) dispatch call = Engine.invoke dispatch call := by
  funext engine
  unfold invoke Engine.invoke
  rw [get_bind_eq]
  cases call.signature.implementation with
  | library function argCount => rfl
  | native argCount body =>
      simp only [Rights.exec, Program.exec, Rights.execSteps_all]
  | user params body =>
      simp only [Rights.exec, Program.exec, Rights.execSteps_all]

/-- With every right, enforced calls are ordinary calls. -/
theorem dispatch_all (frames : Nat) :
    dispatch (fun _ => .all) frames = Engine.dispatch frames := by
  induction frames with
  | zero => rfl
  | succ frames ih =>
      funext call
      rw [dispatch, Engine.dispatch]
      simp only [ih, invoke_all]

end Policy

/-! ## What enforced runs keep -/

namespace Engine

/-- The engine after a computation is related to the one before it. -/
def Respects {α : Type} (relation : Engine → Engine → Prop) (body : StateM Engine α) : Prop :=
  ∀ engine, relation engine (body engine).2

/-- A relation between the engines before and after a change, for every change
that a body makes within its rights. -/
structure Kept
    (dispatch : Dispatcher)
    (rights : Rights)
    (relation : Engine → Engine → Prop) : Prop where
  refl : ∀ engine, relation engine engine
  trans : ∀ {first second third},
    relation first second → relation second third → relation first third
  edit : ∀ {engine after}, Edit dispatch rights engine after → relation engine after
  exception : ∀ engine exception, relation engine { engine with exception }
  loading : ∀ engine loading, relation engine { engine with loading }
  loaded : ∀ {engine after} loading name names, engine.safeMode.isEnabled = false →
    relation engine after →
    relation engine { after with loading, modules := after.modules.insert name names }
  rollback : ∀ {engine after} loading names, engine.safeMode.isEnabled = false →
    relation engine after → names.globals.all rights.removes = true →
    relation engine (removeNames names { after with loading })
  guarded : ∀ {engine after}, relation (engine.mapScopes ScopeStack.push) after →
    relation engine (after.restore engine.depth engine.callDepth)
  handled : ∀ {engine after}, relation engine after →
    relation engine (after.restore engine.depth engine.callDepth)
  settled : rights.resets = true → ∀ engine error, relation engine (settle error engine)

namespace Kept

variable {dispatch : Dispatcher} {rights : Rights} {relation : Engine → Engine → Prop}

/-- A relation that single edits keep is kept by any number of them. -/
theorem of_edits
    (kept : Kept dispatch rights relation)
    {engine after : Engine}
    (edits : Edits dispatch rights engine after) :
    relation engine after := by
  induction edits with
  | refl => exact kept.refl engine
  | tail _ last ih => exact kept.trans ih (kept.edit last)

/-- A sequence respects a relation if its parts do. -/
theorem andThen
    {α β : Type}
    (kept : Kept dispatch rights relation)
    {first : Run α}
    {next : α → Run β}
    (firstRespects : Respects relation first.run)
    (nextRespects : ∀ value, Respects relation (next value).run) :
    Respects relation (first >>= next).run := by
  intro engine
  change relation engine ((first >>= next) engine).2
  have before : relation engine (first engine).2 := firstRespects engine
  rcases outcome : first engine with ⟨result, middle⟩
  rw [outcome] at before
  cases result with
  | error failure =>
      rw [Run.bind_error outcome]
      exact before
  | ok value =>
      rw [Run.bind_ok outcome]
      exact kept.trans before (nextRespects value middle)

theorem inScope
    {α : Type}
    (kept : Kept dispatch rights relation)
    {body : Run α}
    (respects : Respects relation body.run) :
    Respects relation (inScope body).run :=
  fun engine => kept.guarded (respects (engine.mapScopes ScopeStack.push))

theorem attempt
    (kept : Kept dispatch rights relation)
    {body : Run Value}
    (respects : Respects relation body.run) :
    Respects relation (attempt body).run := by
  intro engine
  change relation engine (Engine.attempt body engine).2
  have before : relation engine (body engine).2 := respects engine
  rcases ended : body engine with ⟨outcome, after⟩
  rw [ended] at before
  rcases outcome with failure | value
  · cases failure with
    | error error =>
        obtain ⟨exception, left⟩ := attempt_error ended
        rw [left]
        exact kept.trans (kept.handled before) (kept.exception _ exception)
    | fault message =>
        rw [attempt_pass (by simp) ended]
        exact before
    | exhausted =>
        rw [attempt_pass (by simp) ended]
        exact before
  · rw [attempt_ok ended]
    exact kept.handled before

/-- A nested script that may fail only with the right to reset the stack. -/
theorem run
    (kept : Kept dispatch rights relation)
    {body : Run Value}
    (respects : Respects relation body.run) :
    Respects relation (run (Rights.failOnlyIf (fun _ => rights.resets) body)).run := by
  intro engine
  change relation engine (Engine.run (Rights.failOnlyIf (fun _ => rights.resets) body) engine).2
  have before : relation engine (body { engine with exception := .normal }).2 :=
    kept.trans (kept.exception engine .normal) (respects _)
  rcases ended : body { engine with exception := .normal } with ⟨outcome, after⟩
  rw [ended] at before
  have confined := Rights.failOnlyIf_eq (fun _ => rights.resets) body
    { engine with exception := .normal }
  rw [ended] at confined
  rcases outcome with failure | value
  · cases failure with
    | error error =>
        cases resets : rights.resets with
        | true =>
            rw [resets, Rights.confine_true] at confined
            rw [run_error confined]
            exact kept.trans before (kept.settled resets after error)
        | false =>
            rw [resets] at confined
            rw [run_pass (by simp [Rights.confine]) confined]
            exact before
    | fault message =>
        rw [run_pass (by simp [Rights.confine]) confined]
        exact before
    | exhausted =>
        rw [run_pass (by simp [Rights.confine]) confined]
        exact before
  · rw [run_pass (by simp [Rights.confine]) confined]
    exact before

theorem loadModule
    (kept : Kept dispatch rights relation)
    (name : String)
    {init : Run Unit}
    (respects : Respects relation init.run) :
    Respects relation (loadModule name (Rights.failOnlyIf rights.allowsRollback init)).run := by
  intro engine
  change relation engine
    (Engine.loadModule name (Rights.failOnlyIf rights.allowsRollback init) engine).2
  rcases loadModule_cases name (Rights.failOnlyIf rights.allowsRollback init) engine with
    ⟨message, refused⟩ | ⟨off, loaded⟩
  · rw [refused]
    exact kept.edit (.report engine message)
  have before : relation engine (init { engine with loading := some .empty }).2 :=
    kept.trans (kept.loading engine (some .empty)) (respects _)
  rw [loaded, Rights.failOnlyIf_eq]
  rcases ended : init { engine with loading := some .empty } with ⟨outcome, after⟩
  rw [ended] at before
  rcases outcome with failure | value
  · cases failure with
    | error error =>
        cases allowed : rights.allowsRollback after with
        | true => exact kept.rollback engine.loading _ off before allowed
        | false => exact before
    | fault message => exact before
    | exhausted => exact before
  · exact kept.loaded _ name _ off before

theorem repeated
    (kept : Kept dispatch rights relation)
    {body : Run Value}
    (respects : Respects relation body.run)
    (last : Value)
    (count : Nat) :
    Respects relation (Program.repeated body last count).run := by
  induction count generalizing last with
  | zero => exact kept.refl
  | succ count ih => exact kept.andThen respects ih

theorem eval
    (kept : Kept dispatch rights relation)
    (expr : Expr) :
    Respects relation (expr.eval dispatch).run :=
  fun engine => kept.of_edits (eval_stays engine expr)

/-- Every action that the rights allow respects a relation that edits keep. -/
theorem action
    (kept : Kept dispatch rights relation)
    (action : Action) :
    Respects relation (rights.execStep dispatch (.action action)).run := by
  intro engine
  change relation engine
    ((if rights.allows dispatch engine action then Program.execAction dispatch action
      else Rights.refuse) engine).2
  by_cases allowed : rights.allows dispatch engine action = true
  · rw [if_pos allowed]
    exact kept.of_edits (Program.execAction_stays allowed)
  · rw [if_neg allowed]
    exact kept.refl engine

mutual

/-- A step within its rights. -/
theorem execStep
    (kept : Kept dispatch rights relation) :
    ∀ step : Step, Respects relation (rights.execStep dispatch step).run
  | .action action => kept.action action
  | .scoped body => kept.inScope (kept.execSteps .void body)
  | .attempt body =>
      kept.andThen (kept.attempt (kept.execSteps .void body)) fun _ => kept.refl
  | .run body => kept.run (kept.execSteps .void body)
  | .wrap body => fun engine => by
      have before := kept.execSteps .void body engine
      rw [← wrapped_state] at before
      exact before
  | .load name init =>
      kept.andThen
        (kept.loadModule name (kept.andThen (kept.execSteps .void init) fun _ => kept.refl))
        fun _ => kept.refl
  | .loop count body => kept.repeated (kept.execSteps .void body) .void count
  | .branch condition onTrue onFalse =>
      kept.andThen (kept.eval condition) fun value => by
        by_cases truthy : value.isTruthy = true
        · rw [if_pos truthy]
          exact kept.execSteps .void onTrue
        · rw [if_neg truthy]
          exact kept.execSteps .void onFalse

/-- A body within its rights. -/
theorem execSteps
    (kept : Kept dispatch rights relation)
    (last : Value) :
    ∀ steps : List Step, Respects relation (rights.execSteps dispatch last steps).run
  | [] => kept.refl
  | step :: steps => kept.andThen (kept.execStep step) fun value => kept.execSteps value steps

end

end Kept
end Engine
end ScriptCore
