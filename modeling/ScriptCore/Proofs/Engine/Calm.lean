import ScriptCore.Proofs.Engine.CallDepth
import ScriptCore.Proofs.Program.Disciplines

/-!
# Exceptions in flight

Raising an exception puts it on record, and it stays there until a handler
catches it or a script ends with it. A computation is calm if, started while no
exception is in flight, it leaves none in flight when it succeeds, and if it
fails, no script has ended in the meantime.

Everything but a failing script within a script is calm. Counted evaluation does
not let that happen inside a call, so there the argument goes by the structure
of programs and by the depth of calls. It carries over to plain evaluation of
tame programs, which is the same.
-/

namespace ScriptCore

open Engine

/-- No exception is in flight, and no script has ended with one. -/
def Engine.Quiet (engine : Engine) : Prop :=
  ∀ payload, engine.exception ≠ .raised payload ∧ engine.exception ≠ .unhandled payload

/-- No script has ended with an exception. -/
def Engine.Unsettled (engine : Engine) : Prop :=
  ∀ payload, engine.exception ≠ .unhandled payload

/-- How a calm computation ends. Nothing is said of a program that is stopped
from outside. -/
def Engine.EndsCalm {α : Type} : Except Failure α × Engine → Prop
  | (.ok _, after) => after.Quiet
  | (.error failure, after) => failure ≠ .exhausted → after.Unsettled

/-- A computation that leaves no exception in flight unless it fails. -/
def Calm {α : Type} (body : Run α) : Prop :=
  ∀ engine : Engine, engine.Quiet → EndsCalm (body engine)

namespace Engine

variable {engine after : Engine}

/-- An engine is unsettled by its exception state alone. -/
theorem Unsettled.of_same (unsettled : engine.Unsettled)
    (same : after.exception = engine.exception) : after.Unsettled := by
  intro payload
  rw [same]
  exact unsettled payload

namespace Quiet

theorem unsettled (quiet : engine.Quiet) : engine.Unsettled :=
  fun payload => (quiet payload).2

theorem endsCalm {α : Type} (quiet : engine.Quiet) (failure : Failure) :
    EndsCalm ((.error failure, engine) : Except Failure α × Engine) :=
  fun _ => quiet.unsettled

theorem of_same (quiet : engine.Quiet) (same : after.exception = engine.exception) :
    after.Quiet := by
  intro payload
  rw [same]
  exact quiet payload

end Quiet
end Engine

/-! ## Parts of programs -/

variable [KeyHash]

section

variable {α β : Type}

omit [KeyHash] in
/-- A silent computation is calm. -/
theorem Silent.calm {body : Run α} (silent : Silent body) : Calm body := by
  intro engine quiet
  have same := silent.exception engine
  generalize body engine = result at same ⊢
  obtain ⟨outcome, after⟩ := result
  cases outcome with
  | ok value => exact quiet.of_same same
  | error failure => exact (quiet.of_same same).endsCalm failure

omit [KeyHash] in
/-- A sequence is calm if its first part is, and the rest is for every value that
the first part yields. -/
theorem Calm.bindYields
    {first : Run α}
    {next : α → Run β}
    (begins : Calm first)
    (goesOn : ∀ value, first.Yields value → Calm (next value)) :
    Calm (first >>= next) := by
  intro engine quiet
  have ended := begins engine quiet
  rcases begun : first engine with ⟨outcome, middle⟩
  rw [begun] at ended
  cases outcome with
  | ok value =>
      rw [Run.bind_ok begun]
      exact goesOn value ⟨engine, middle, begun⟩ middle ended
  | error failure =>
      rw [Run.bind_error begun]
      exact ended

omit [KeyHash] in
/-- A sequence is calm if its parts are. -/
theorem Calm.bind {first : Run α} {next : α → Run β} (begins : Calm first)
    (goesOn : ∀ value, Calm (next value)) : Calm (first >>= next) :=
  begins.bindYields fun value _ => goesOn value

omit [KeyHash] in
theorem calm_pure (value : α) : Calm (pure value) :=
  fun _ quiet => quiet

omit [KeyHash] in
theorem Calm.andReturn {first : Run α} (begins : Calm first) (f : α → β) :
    Calm (first >>= fun value => pure (f value)) :=
  begins.bind fun value => calm_pure (f value)

omit [KeyHash] in
theorem calm_throwValue (payload : Value) : Calm (throwValue payload : Run α) :=
  fun _ _ _ _ same => nomatch same

omit [KeyHash] in
theorem Calm.answerWith
    {dispatch : Dispatcher}
    {call : Call}
    (calm : Calm (answer dispatch call))
    (f : Reply → Value → Value) :
    Calm (answerWith dispatch call f) := by
  intro engine quiet
  have ended := calm engine quiet
  change EndsCalm ((dispatch call engine).1.outcome, (dispatch call engine).2) at ended
  change EndsCalm ((dispatch call engine).1.outcome.map (f (dispatch call engine).1),
    (dispatch call engine).2)
  generalize dispatch call engine = result at ended ⊢
  obtain ⟨⟨outcome, left⟩, after⟩ := result
  cases outcome <;> exact ended

/-- A call is calm with its receiver written back. -/
theorem Calm.writeBack
    {dispatch : Dispatcher}
    {call : Call}
    (calm : Calm (answer dispatch call))
    (target : String) :
    Calm (liftM (dispatch call) >>= writeBack target) := by
  intro engine quiet
  have ended := calm engine quiet
  change EndsCalm ((dispatch call engine).1.outcome, (dispatch call engine).2) at ended
  rw [Run.bind_ok (Run.lift_eq _ engine)]
  generalize dispatch call engine = result at ended ⊢
  obtain ⟨⟨outcome, left⟩, after⟩ := result
  have assigns : Silent (assign target (left.getD .void)) := fun _ => silent_assign _ _
  cases outcome with
  | ok value => exact assigns.calm.andReturn (fun _ => value) after ended
  | error failure =>
      cases failure with
      | error error =>
          -- The receiver is written back while the exception is in flight.
          have unsettled : after.Unsettled := ended nofun
          have same := assigns.exception after
          change EndsCalm
            ((assign target (left.getD .void) >>= fun _ => throw (.error error)) after)
          rcases written : assign target (left.getD .void) after with ⟨outcome, last⟩
          rw [written] at same
          cases outcome with
          | ok _ =>
              rw [Run.bind_ok written]
              exact fun _ => unsettled.of_same same
          | error failure =>
              rw [Run.bind_error written]
              exact fun _ => unsettled.of_same same
      | fault message => exact ended
      | exhausted => exact ended

/-- Being calm is a discipline. -/
def calmness : Discipline where
  holds := Calm
  silent := Silent.calm
  bindYields := Calm.bindYields
  throwValue := calm_throwValue
  kept f calm := calm.answerWith f
  method target calm := calm.writeBack target

end

/-! ## Calls in frames of their own -/

/-- A call is calm if its body is. -/
theorem calm_framed
    {body : Run Value}
    (calm : Calm body)
    (call : Call)
    {engine : Engine}
    (quiet : engine.Quiet) :
    EndsCalm ((framed call body engine).1.outcome, (framed call body engine).2) := by
  rcases framed_cases call body engine with ⟨failure, -, refused⟩ | ⟨start, left, entered, ran⟩
  · rw [refused]
    exact quiet.endsCalm failure
  · obtain ⟨scopes, slots, rfl⟩ := Call.exists_entry entered
    rw [ran]
    have ended := calm { engine.opened with scopes, slots } (quiet.of_same rfl)
    generalize body { engine.opened with scopes, slots } = result at ended ⊢
    obtain ⟨outcome, after⟩ := result
    cases outcome with
    | ok value => exact ended.of_same rfl
    | error failure => exact fun other => (ended other).of_same rfl

/-! ## Guards and handlers -/

section Handlers

variable {body : Run Value}

omit [KeyHash] in
theorem Calm.inScope (calm : Calm body) : Calm (inScope body) := by
  intro engine quiet
  have ended := calm (engine.mapScopes ScopeStack.push) quiet
  change EndsCalm ((body (engine.mapScopes ScopeStack.push)).1,
    (body (engine.mapScopes ScopeStack.push)).2.restore engine.depth engine.callDepth)
  generalize body (engine.mapScopes ScopeStack.push) = result at ended ⊢
  obtain ⟨outcome, after⟩ := result
  cases outcome <;> exact ended

omit [KeyHash] in
/-- A handler around a calm body is calm. -/
theorem Calm.attempt (calm : Calm body) : Calm (attempt body) := by
  intro engine quiet
  have ended := calm engine quiet
  rcases done : body engine with ⟨outcome, after⟩
  rw [done] at ended
  cases outcome with
  | ok value =>
      rw [attempt_ok done]
      exact ended.of_same rfl
  | error failure =>
      cases failure with
      | error error =>
          cases thrown : error.payload? with
          | none =>
              rw [attempt_plain done thrown]
              exact fun _ => (ended nofun).of_same rfl
          | some payload =>
              rw [attempt_thrown done thrown]
              exact fun _ => ⟨nofun, nofun⟩
      | fault message =>
          rw [attempt_pass (by simp) done]
          exact ended
      | exhausted =>
          rw [attempt_pass (by simp) done]
          exact ended

omit [KeyHash] in
/-- Turning the errors of a calm body into exceptions is calm. -/
theorem Calm.wrapped (calm : Calm body) : Calm (wrapped body) := by
  intro engine quiet
  have ended := calm engine quiet
  rw [wrapped_eq]
  generalize body engine = result at ended ⊢
  obtain ⟨outcome, after⟩ := result
  cases outcome with
  | ok value => exact ended
  | error failure =>
      cases failure with
      | error error => exact fun _ => ended nofun
      | fault message => exact ended
      | exhausted => exact ended

/-- A module with a calm routine loads calmly. -/
theorem Calm.loadModule {init : Run Unit} (calm : Calm init) (name : String) :
    Calm (loadModule name init) := by
  intro engine quiet
  rcases loadModule_cases name init engine with ⟨message, refused⟩ | ⟨-, loaded⟩
  · rw [refused]
    exact quiet.of_same (by simp only [Engine.report])
  · have ended := calm { engine with loading := some .empty } quiet
    rw [loaded]
    generalize init { engine with loading := some .empty } = result at ended ⊢
    obtain ⟨outcome, after⟩ := result
    cases outcome with
    | ok value => exact ended.of_same rfl
    | error failure =>
        cases failure with
        | error error => exact fun _ => (ended (by simp)).of_same (exception_removeNames _ _)
        | fault message => exact ended
        | exhausted => exact ended

omit [KeyHash] in
theorem Calm.repeated (calm : Calm body) (last : Value) (count : Nat) :
    Calm (Program.repeated body last count) := by
  induction count generalizing last with
  | zero => exact calm_pure last
  | succ count ih => exact calm.bind fun value => ih value

end Handlers

/-! ## Counted evaluation -/

namespace Counted

variable {dispatch : Dispatcher} {active : Nat}

omit [KeyHash] in
/-- A check stops the program, or it makes no difference. -/
theorem checked_cases (active : Nat) (body : Run Value) (engine : Engine) :
    (∃ after, checked active body engine = (.error .exhausted, after)) ∨
      checked active body engine = body engine ∧
        (body engine).2.countsCalls active = true := by
  cases before : engine.countsCalls active with
  | false =>
      left
      refine ⟨engine, ?_⟩
      unfold checked
      simp only [ExceptT.mk, ExceptT.run, bind, StateT.bind, get, getThe, MonadStateOf.get,
        StateT.get, pure, before]
      rfl
  | true =>
      cases after : (body engine).2.countsCalls active with
      | true => exact .inr ⟨checked_eq before after, rfl⟩
      | false =>
          left
          refine ⟨(body engine).2, ?_⟩
          rcases ended : body engine with ⟨outcome, left⟩
          rw [ended] at after
          unfold checked
          simp only [ExceptT.mk, ExceptT.run, bind, StateT.bind, get, getThe, MonadStateOf.get,
            StateT.get, pure, before, if_true, ended, after]
          rfl

omit [KeyHash] in
/-- The check on the count of calls keeps a body calm. -/
theorem calm_checked {body : Run Value} (calm : Calm body) : Calm (checked active body) := by
  intro engine quiet
  rcases checked_cases active body engine with ⟨after, stopped⟩ | ⟨same, -⟩
  · rw [stopped]
    exact fun other => absurd rfl other
  · rw [same]
    exact calm engine quiet

omit [KeyHash] in
/-- Inside a call, a script that fails is stopped by the check after it: it has
put the depth of calls back to zero. -/
theorem calm_checked_run
    {body : Run Value}
    (calm : Calm body)
    (inside : 0 < active) :
    Calm (checked active (run body)) := by
  intro engine quiet
  rcases checked_cases active (run body) engine with ⟨after, stopped⟩ | ⟨same, counts⟩
  · rw [stopped]
    exact fun other => absurd rfl other
  · rw [same]
    have ended := calm { engine with exception := .normal } fun _ => ⟨nofun, nofun⟩
    rcases done : body { engine with exception := .normal } with ⟨outcome, after⟩
    rw [done] at ended
    cases outcome with
    | ok value =>
        rw [run_pass (by simp) done]
        exact ended
    | error failure =>
        cases failure with
        | error error =>
            rw [run_error done] at counts
            have depth : (settle error after).callDepth = active := by
              simpa [Engine.countsCalls] using (Bool.and_eq_true_iff.mp counts).1
            have rests := (depths_settle error after).2
            omega
        | fault message =>
            rw [run_pass (by simp) done]
            exact ended
        | exhausted =>
            rw [run_pass (by simp) done]
            exact ended

mutual

/-- A step is calm if it is inside a call, or if it starts no script. -/
theorem calm_execStep (calls : calmness.Calls dispatch) :
    ∀ step : Step, 0 < active ∨ step.isTame false = true →
      Calm (checked active (execStep active dispatch step))
  | .action action, _ => calm_checked (Discipline.holds_execAction calls action)
  | .scoped body, placed => calm_checked (calm_execSteps calls body placed .void).inScope
  | .attempt body, placed =>
      calm_checked ((calm_execSteps calls body placed .void).attempt.andReturn _)
  | .run body, placed =>
      have inside : 0 < active := placed.resolve_right nofun
      calm_checked_run (calm_execSteps calls body (.inl inside) .void) inside
  | .wrap body, placed => calm_checked (calm_execSteps calls body placed .void).wrapped
  | .load name init, placed =>
      calm_checked
        ((((calm_execSteps calls init placed .void).andReturn _).loadModule name).andReturn _)
  | .loop count body, placed =>
      calm_checked ((calm_execSteps calls body placed .void).repeated .void count)
  | .branch condition onTrue onFalse, placed => by
      have parts : (0 < active ∨ Program.isTame false onTrue = true) ∧
          (0 < active ∨ Program.isTame false onFalse = true) := by
        rcases placed with inside | tame
        · exact ⟨.inl inside, .inl inside⟩
        · obtain ⟨tameRest, tameFalse⟩ := Bool.and_eq_true_iff.mp tame
          exact ⟨.inr (Bool.and_eq_true_iff.mp tameRest).2, .inr tameFalse⟩
      refine calm_checked (Calm.bind (Discipline.holds_eval calls condition) fun value => ?_)
      split
      · exact calm_execSteps calls onTrue parts.1 .void
      · exact calm_execSteps calls onFalse parts.2 .void

/-- Steps are calm within a call, and outside of one if they are tame. -/
theorem calm_execSteps (calls : calmness.Calls dispatch) :
    ∀ steps : List Step, 0 < active ∨ Program.isTame false steps = true →
      ∀ last : Value, Calm (execSteps active dispatch last steps)
  | [], _, last => calm_pure last
  | step :: steps, placed, last => by
      have parts : (0 < active ∨ step.isTame false = true) ∧
          (0 < active ∨ Program.isTame false steps = true) := by
        rcases placed with inside | tame
        · exact ⟨.inl inside, .inl inside⟩
        · obtain ⟨first, rest⟩ := Bool.and_eq_true_iff.mp tame
          exact ⟨.inr first, .inr rest⟩
      exact (calm_execStep calls step parts.1).bind
        fun value => calm_execSteps calls steps parts.2 value

end

/-! ## Counted calls -/

/-- The body of a call, which is one of the active ones. -/
def body (active : Nat) (dispatch : Dispatcher) (call : Call) : Run Value :=
  match call.signature.implementation with
  | .library function _ => checked active (Library.exec dispatch function)
  | .native _ body => exec active dispatch body
  | .user _ body => exec active dispatch body

theorem invoke_eq (active : Nat) (dispatch : Dispatcher) (call : Call) :
    invoke active dispatch call = call.invoking (body active dispatch call) := by
  unfold invoke Call.invoking body
  cases call.signature.implementation <;> rfl

/-- Within a call the body of a signature is calm. -/
theorem calm_body (calls : calmness.Calls dispatch) (inside : 0 < active) (call : Call) :
    Calm (body active dispatch call) := by
  unfold body
  cases call.signature.implementation with
  | library function argCount => exact calm_checked (Discipline.holds_exec calls function)
  | native argCount steps => exact calm_execSteps calls steps (.inl inside) .void
  | user params steps => exact calm_execSteps calls steps (.inl inside) .void

/-- A counted call is refused at once, or it runs in a frame of its own. -/
theorem dispatch_cases (active frames : Nat) (call : Call) (engine : Engine) :
    (∃ failure, Counted.dispatch active frames call engine =
        ({ outcome := .error failure, receiver? := call.receiver? }, engine)) ∨
      ∃ fewer, frames = fewer + 1 ∧ Counted.dispatch active frames call engine =
        framed call (body (active + 1) (Counted.dispatch (active + 1) fewer) call) engine := by
  cases counts : engine.countsCalls active with
  | false =>
      left
      refine ⟨.exhausted, ?_⟩
      unfold Counted.dispatch
      simp only [bind, StateT.bind, get, getThe, MonadStateOf.get, StateT.get, pure, counts]
      rfl
  | true =>
      rcases Nat.lt_or_ge engine.callDepth engine.maxCallDepth with room | full
      · cases frames with
        | zero =>
            have below : ¬ engine.maxCallDepth ≤ engine.callDepth := Nat.not_le.mpr room
            left
            refine ⟨.exhausted, ?_⟩
            unfold Counted.dispatch
            simp only [bind, StateT.bind, get, getThe, MonadStateOf.get, StateT.get, pure, counts,
              below, if_true]
            rfl
        | succ fewer =>
            refine .inr ⟨fewer, rfl, ?_⟩
            rw [dispatch_below counts room, invoke_eq]
            rfl
      · exact .inl ⟨_, dispatch_at_cap counts full frames call⟩

/-- Counted calls are calm, with any number of frames. -/
theorem calm_dispatch (frames active : Nat) : calmness.Calls (Counted.dispatch active frames) := by
  -- By the supply of frames: the calls of a body have fewer of them.
  induction frames using Nat.strongRecOn generalizing active with
  | ind frames ih =>
      intro call engine quiet
      change EndsCalm
        ((Counted.dispatch active frames call engine).1.outcome,
          (Counted.dispatch active frames call engine).2)
      rcases dispatch_cases active frames call engine with
        ⟨failure, refused⟩ | ⟨fewer, rfl, ran⟩
      · rw [refused]
        exact quiet.endsCalm failure
      · have calls := ih fewer (Nat.lt_succ_self fewer) (active + 1)
        rw [ran]
        exact calm_framed (calm_body calls (Nat.succ_pos active) call) call quiet

theorem calm_supplied (active : Nat) (supply : Engine → Nat) :
    calmness.Calls (Counted.supplied active supply) := by
  intro call engine quiet
  exact calm_dispatch (supply engine) active call engine quiet

end Counted

/-! ## Tame programs -/

/-- A tame program that starts no script is calm, and it ends by itself. -/
theorem Engine.Tame.exec_calm
    {engine : Engine}
    {program : Program}
    (tame : engine.Tame)
    (bounded : engine.callDepth ≤ engine.maxCallDepth)
    (tameProgram : Program.isTame false program = true)
    (quiet : engine.Quiet) :
    EndsCalm (Program.exec dispatcher program engine) ∧
      (Program.exec dispatcher program engine).1 ≠ .error .exhausted := by
  have ends : Bounded id (fun dispatch => (Program.exec dispatch program).run)
      (fun dispatch => (Counted.exec engine.callDepth dispatch program).run) engine := by
    refine Bounded.of_alike tame bounded ?_ fun _ proper => proper
    intro first second twins
    have inCall : false = true → engine.callDepth = 0 := fun top => nomatch top
    exact Counted.agree_execSteps twins bounded inCall program tameProgram Value.tame_void
  have calls := Counted.calm_supplied engine.callDepth Engine.maxCallDepth
  have calm : Calm (Counted.exec engine.callDepth _ program) :=
    Counted.calm_execSteps calls program (.inr tameProgram) .void
  have same : Counted.exec engine.callDepth _ program engine =
      Program.exec dispatcher program engine :=
    ends.counted Engine.maxCallDepth ample_maxCallDepth
  rw [← same]
  refine ⟨calm engine quiet, ?_⟩
  rw [same]
  exact ends.ends

end ScriptCore
