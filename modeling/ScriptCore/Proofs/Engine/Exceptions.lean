import ScriptCore.OrderedMap.Spread
import ScriptCore.Proofs.Engine.Calm

/-!
# Exceptions and their handlers

A path leads from a computation to something that runs as part of it. It goes
through scopes, calls and modules that are being loaded, past what has already
succeeded. An error goes the same way back: it comes out of the computation just
as it was, and on its way the exception state and the reports do not change. An
exception stops at the first handler, and other errors pass all of them.

Conversely, an exception comes out of a program only if there is a path to where
it was thrown.
-/

namespace ScriptCore

open Engine

/-! ## Paths -/

section

variable [KeyHash]

/-- The source runs as part of a computation. There are handlers on the path only
if it is one that goes through them. -/
inductive Reaches (through : Bool) {β : Type} (source : Run β) (there : Engine) :
    {α : Type} → Run α → Engine → Prop
  | here : Reaches through source there source there
  | first
      {α γ : Type}
      {first : Run α}
      {next : α → Run γ}
      {engine : Engine}
      (path : Reaches through source there first engine) :
      Reaches through source there (first >>= next) engine
  | next
      {α γ : Type}
      {first : Run α}
      {next : α → Run γ}
      {engine middle : Engine}
      {value : α}
      (done : first engine = (.ok value, middle))
      (path : Reaches through source there (next value) middle) :
      Reaches through source there (first >>= next) engine
  | scope
      {α : Type}
      {body : Run α}
      {engine : Engine}
      (path : Reaches through source there body (engine.mapScopes ScopeStack.push)) :
      Reaches through source there (inScope body) engine
  | load
      {name : String}
      {init : Run Unit}
      {engine : Engine}
      (ran : loadModule name init engine =
        loadedBy name engine (init { engine with loading := some .empty }))
      (path : Reaches through source there init { engine with loading := some .empty }) :
      Reaches through source there (loadModule name init) engine
  | call
      {dispatch inner : Dispatcher}
      {call : Call}
      {engine start : Engine}
      (ran : dispatch call engine = framed call (call.body inner) engine)
      (entered : call.entry engine.opened = .ok start)
      (path : Reaches through source there (call.body inner) start) :
      Reaches through source there (answer dispatch call) engine
  | construct
      {dispatch : Dispatcher}
      {call : Call}
      {f : Reply → Value → Value}
      {engine : Engine}
      (path : Reaches through source there (answer dispatch call) engine) :
      Reaches through source there (answerWith dispatch call f) engine
  | method
      {dispatch : Dispatcher}
      {call : Call}
      {target : String}
      {engine after : Engine}
      (written : assign target ((dispatch call engine).1.receiver?.getD .void)
        (dispatch call engine).2 = (.ok (), after))
      (path : Reaches through source there (answer dispatch call) engine) :
      Reaches through source there (liftM (dispatch call) >>= writeBack target) engine
  | handler
      {body : Run Value}
      {engine : Engine}
      (passes : through = true)
      (path : Reaches through source there body engine) :
      Reaches through source there (attempt body) engine

/-- An assignment changes the scopes alone. -/
theorem exists_scopes_of_assign
    {name : String}
    {value : Value}
    {engine after : Engine}
    (assigned : assign name value engine = (.ok (), after)) :
    ∃ scopes, after = { engine with scopes } := by
  unfold assign at assigned
  rw [Run.get_bind] at assigned
  cases written : engine.scopes.assign name value with
  | ok scopes =>
      rw [written] at assigned
      cases assigned
      exact ⟨scopes, rfl⟩
  | error cast =>
      rw [written] at assigned
      cases assigned

/-- A computation fails with an error while the exception state and the reports
are those of the given engine. -/
def FailsAs {α : Type} (error : ScriptError) (left : Engine)
    (ended : Except Failure α × Engine) : Prop :=
  ended.1 = .error (.error error) ∧ ended.2.exception = left.exception ∧
    ended.2.reports = left.reports

namespace FailsAs

variable {α γ : Type} {error : ScriptError} {engine left : Engine}
variable {dispatch : Dispatcher} {call : Call} {body : Run Value}

omit [KeyHash] in
/-- A failure of the first part is one of the sequence. -/
theorem bind
    {first : Run α}
    (failed : FailsAs error left (first engine))
    (next : α → Run γ) :
    FailsAs error left ((first >>= next) engine) := by
  rcases ended : first engine with ⟨outcome, after⟩
  rw [ended] at failed
  obtain ⟨rfl, same⟩ := failed
  rw [Run.bind_error ended]
  exact ⟨rfl, same⟩

theorem loadedBy
    {ended : Except Failure Unit × Engine}
    (failed : FailsAs error left ended)
    (name : String)
    (engine : Engine) :
    FailsAs error left (loadedBy name engine ended) := by
  obtain ⟨outcome, after⟩ := ended
  obtain ⟨rfl, exception, reports⟩ := failed
  exact ⟨rfl, (exception_removeNames _ _).trans exception, (reports_removeNames _ _).trans reports⟩

/-- A failure of its body is one of the call. -/
theorem framed
    {engine start : Engine}
    (entered : call.entry engine.opened = .ok start)
    (failed : FailsAs error left (body start)) :
    FailsAs error left
      ((Engine.framed call body engine).1.outcome, (Engine.framed call body engine).2) := by
  obtain ⟨receiver, ended⟩ := framed_of_ok entered body
  rw [ended]
  exact failed

omit [KeyHash] in
/-- An error that is no exception passes a handler. -/
theorem attempt
    (failed : FailsAs error left (body engine))
    (plain : error.payload? = none) :
    FailsAs error left (attempt body engine) := by
  rcases ended : body engine with ⟨outcome, after⟩
  rw [ended] at failed
  obtain ⟨rfl, same⟩ := failed
  rw [attempt_plain ended plain]
  exact ⟨rfl, same⟩

omit [KeyHash] in
theorem answerWith
    (failed : FailsAs error left (answer dispatch call engine))
    (f : Reply → Value → Value) :
    FailsAs error left (answerWith dispatch call f engine) := by
  change FailsAs error left ((dispatch call engine).1.outcome, (dispatch call engine).2) at failed
  change FailsAs error left ((dispatch call engine).1.outcome.map (f (dispatch call engine).1),
    (dispatch call engine).2)
  generalize dispatch call engine = result at failed ⊢
  obtain ⟨⟨outcome, receiver⟩, after⟩ := result
  obtain ⟨rfl, same⟩ := failed
  exact ⟨rfl, same⟩

/-- A failure of a call stays one with its receiver written back. -/
theorem writeBack
    {target : String}
    {engine after : Engine}
    (written : assign target ((dispatch call engine).1.receiver?.getD .void)
      (dispatch call engine).2 = (.ok (), after))
    (failed : FailsAs error left (answer dispatch call engine)) :
    FailsAs error left ((liftM (dispatch call) >>= writeBack target) engine) := by
  change FailsAs error left ((dispatch call engine).1.outcome, (dispatch call engine).2) at failed
  rw [Run.bind_ok (Run.lift_eq _ engine)]
  generalize dispatch call engine = result at failed written ⊢
  obtain ⟨⟨outcome, receiver⟩, between⟩ := result
  obtain ⟨rfl, same⟩ := failed
  obtain ⟨scopes, rfl⟩ := exists_scopes_of_assign written
  change FailsAs error left
    ((assign target (receiver.getD .void) >>= fun _ => throw (.error error)) between)
  rw [Run.bind_ok written]
  exact ⟨rfl, same⟩

end FailsAs

/-- An error comes out of every computation that reaches where it arises. -/
theorem Reaches.failsAs
    {through : Bool}
    {α β : Type}
    {source : Run β}
    {there left engine : Engine}
    {error : ScriptError}
    {body : Run α}
    (path : Reaches through source there body engine)
    (plain : through = true → error.payload? = none)
    (failed : FailsAs error left (source there)) :
    FailsAs error left (body engine) := by
  induction path with
  | here => exact failed
  | first path ih => exact ih.bind _
  | next done path ih =>
      rw [Run.bind_ok done]
      exact ih
  | scope path ih => exact ih
  | load ran path ih =>
      rw [ran]
      exact ih.loadedBy _ _
  | call ran entered path ih =>
      have ended := ih.framed entered
      rw [← ran] at ended
      exact ended
  | construct path ih => exact ih.answerWith _
  | method written path ih => exact ih.writeBack written
  | handler passes path ih => exact ih.attempt (plain passes)

/-! ## Where exceptions end -/

section

variable {payload : Value} {there engine left : Engine} {error : ScriptError} {body : Run Value}

omit [KeyHash]

theorem failsAs_throwValue {α : Type} (payload : Value) (there : Engine) :
    FailsAs (.thrown payload) { there with exception := .raised payload }
      ((throwValue payload : Run α) there) :=
  ⟨rfl, rfl, rfl⟩

/-- An exception is caught by the handler around it and is on record as caught. -/
theorem FailsAs.caught
    (failed : FailsAs error left (body engine))
    (thrown : error.payload? = some payload) :
    (Engine.attempt body engine).1 = .ok (.caught payload) ∧
      (Engine.attempt body engine).2.exception = .caught payload := by
  rcases ended : body engine with ⟨outcome, after⟩
  rw [ended] at failed
  obtain ⟨rfl, -⟩ := failed
  rw [attempt_thrown ended thrown]
  exact ⟨rfl, rfl⟩

/-- An exception ends the script around it, which has it on record as unhandled
and adds one report. -/
theorem FailsAs.unhandled
    (failed : FailsAs error left (body { engine with exception := .normal }))
    (thrown : error.payload? = some payload) :
    (run body engine).1 = .error (.error error) ∧
      (run body engine).2.exception = .unhandled payload ∧
      (run body engine).2.reports =
        (left.report ("Unhandled exception: " ++ payload.display)).reports := by
  rcases ended : body { engine with exception := .normal } with ⟨outcome, after⟩
  rw [ended] at failed
  obtain ⟨rfl, -, reports⟩ := failed
  rw [run_error ended]
  refine ⟨rfl, ?_⟩
  simp only [settle, thrown, report, Engine.restore]
  exact ⟨trivial, by rw [reports]⟩

end

/-- The payload of the exception with which a computation ends. -/
def Engine.thrown? {α : Type} : Except Failure α → Option Value
  | .ok _ => none
  | .error failure => failure.payload?

omit [KeyHash] in
/-- A script whose body is calm leaves an exception on record exactly if it fails
with that exception. -/
theorem unhandled_iff_of_endsCalm
    {body : Run Value}
    {engine : Engine}
    (calm : EndsCalm (body { engine with exception := .normal }))
    (ends : (body { engine with exception := .normal }).1 ≠ .error .exhausted)
    (payload : Value) :
    (run body engine).2.exception = .unhandled payload ↔
      thrown? (run body engine).1 = some payload := by
  rcases ended : body { engine with exception := .normal } with ⟨outcome, after⟩
  rw [ended] at calm ends
  cases outcome with
  | ok value =>
      have none : after.exception ≠ .unhandled payload := (calm payload).2
      rw [run_pass (by simp) ended]
      simp [thrown?, none]
  | error failure =>
      cases failure with
      | error error =>
          have none : after.exception ≠ .unhandled payload := calm (by simp) payload
          rw [run_error ended]
          cases thrown : error.payload? <;>
            simp [settle, thrown, thrown?, Failure.payload?, report, Engine.restore, none]
      | fault message =>
          have none : after.exception ≠ .unhandled payload := calm (by simp) payload
          rw [run_pass (by simp) ended]
          simp [thrown?, Failure.payload?, none]
      | exhausted => exact absurd rfl ends

/-- A script of a tame program has an unhandled exception on record exactly if it
fails with it. -/
theorem Engine.Tame.unhandled_iff
    {engine : Engine}
    {program : Program}
    (tame : engine.Tame)
    (bounded : engine.callDepth ≤ engine.maxCallDepth)
    (tameProgram : Program.isTame false program = true)
    (payload : Value) :
    (run (Program.exec dispatcher program) engine).2.exception = .unhandled payload ↔
      thrown? (run (Program.exec dispatcher program) engine).1 = some payload := by
  have started : Tame { engine with exception := .normal } :=
    { tame with exception := fun _ member => nomatch member }
  obtain ⟨calm, ends⟩ := started.exec_calm bounded tameProgram fun _ => ⟨nofun, nofun⟩
  exact unhandled_iff_of_endsCalm calm ends payload

/-! ## Where exceptions come from -/

/-- An exception arises: it is thrown, or an error is turned into one, or it
comes out of a script within the script. -/
inductive Raises (payload : Value) (there : Engine) : {β : Type} → Run β → Prop
  | thrown {β : Type} : Raises payload there (throwValue payload : Run β)
  | wrapped {body : Run Value} (ended : thrown? (wrapped body there).1 = some payload) :
      Raises payload there (wrapped body)
  | script {body : Run Value} (ended : thrown? (run body there).1 = some payload) :
      Raises payload there (run body)

/-- There is a path to where an exception arises. -/
def Traces {α : Type} (payload : Value) (body : Run α) (engine : Engine) : Prop :=
  ∃ (β : Type) (source : Run β) (there : Engine),
    Raises payload there source ∧ Reaches false source there body engine

/-- Every exception that comes out of a computation can be traced. -/
def Traced {α : Type} (body : Run α) : Prop :=
  ∀ engine payload, thrown? (body engine).1 = some payload → Traces payload body engine

section

variable {α β : Type}

/-- Where no exception comes out there is none to trace. -/
theorem Traced.of_plain
    {body : Run α}
    (plain : ∀ engine, thrown? (body engine).1 = none) :
    Traced body := by
  intro engine payload ended
  rw [plain engine] at ended
  cases ended

/-- A silent computation has no exception to trace. -/
theorem Silent.traced {body : Run α} (silent : Silent body) : Traced body := by
  refine .of_plain fun engine => ?_
  rcases ended : body engine with ⟨outcome, after⟩
  cases outcome with
  | ok value => rfl
  | error failure => exact silent.payload? ended

/-- What can be traced within a computation can be traced from around it. -/
theorem Traces.mono
    {γ : Type}
    {payload : Value}
    {inner : Run α}
    {outer : Run γ}
    {start engine : Engine}
    (traces : Traces payload inner start)
    (extend : ∀ {β : Type} {source : Run β} {there : Engine},
      Reaches false source there inner start → Reaches false source there outer engine) :
    Traces payload outer engine := by
  obtain ⟨β, source, there, raises, path⟩ := traces
  exact ⟨β, source, there, raises, extend path⟩

/-- The exceptions of a sequence are traced if those of its first part are, and
those of the rest for every value that the first part yields. -/
theorem Traced.bindYields
    {first : Run α}
    {next : α → Run β}
    (begins : Traced first)
    (goesOn : ∀ value, first.Yields value → Traced (next value)) :
    Traced (first >>= next) := by
  intro engine payload ended
  rcases begun : first engine with ⟨outcome, middle⟩
  cases outcome with
  | ok value =>
      rw [Run.bind_ok begun] at ended
      have traces := goesOn value ⟨engine, middle, begun⟩ middle payload ended
      exact traces.mono (.next begun)
  | error failure =>
      rw [Run.bind_error begun] at ended
      have traces := begins engine payload (by rw [begun]; exact ended)
      exact traces.mono .first

theorem Traced.bind {first : Run α} {next : α → Run β} (begins : Traced first)
    (goesOn : ∀ value, Traced (next value)) : Traced (first >>= next) :=
  begins.bindYields fun value _ => goesOn value

theorem traced_pure (value : α) : Traced (pure value) :=
  .of_plain fun _ => rfl

theorem Traced.andReturn {first : Run α} (begins : Traced first) (f : α → β) :
    Traced (first >>= fun value => pure (f value)) :=
  begins.bind fun value => traced_pure (f value)

/-- A throw is traced to itself. -/
theorem traced_throwValue (payload : Value) : Traced (throwValue payload : Run α) := by
  intro engine other ended
  cases ended
  exact ⟨α, throwValue payload, engine, .thrown, .here⟩

theorem Traced.answerWith
    {dispatch : Dispatcher}
    {call : Call}
    (traced : Traced (answer dispatch call))
    (f : Reply → Value → Value) :
    Traced (answerWith dispatch call f) := by
  intro engine payload ended
  refine (traced engine payload ?_).mono .construct
  change thrown? ((dispatch call engine).1.outcome.map (f (dispatch call engine).1)) = _ at ended
  change thrown? (dispatch call engine).1.outcome = _
  cases outcome : (dispatch call engine).1.outcome <;> rw [outcome] at ended <;> exact ended

omit [KeyHash] in
/-- An exception that comes after a silent computation is thrown by what follows
it. -/
theorem Silent.exists_of_thrown?_bind
    {first : Run α}
    {next : α → Run β}
    {engine : Engine}
    {payload : Value}
    (silent : Silent first)
    (ended : thrown? ((first >>= next) engine).1 = some payload) :
    ∃ value after, first engine = (.ok value, after) ∧
      thrown? (next value after).1 = some payload := by
  rcases begun : first engine with ⟨outcome, after⟩
  cases outcome with
  | ok value =>
      rw [Run.bind_ok begun] at ended
      exact ⟨value, after, rfl, ended⟩
  | error failure =>
      rw [Run.bind_error begun] at ended
      cases (silent.payload? begun).symm.trans ended

/-- An exception comes out of a method call only if the receiver was written
back. -/
theorem exists_of_thrown?_writeBack
    {target : String}
    {reply : Reply}
    {engine : Engine}
    {payload : Value}
    (ended : thrown? (writeBack target reply engine).1 = some payload) :
    thrown? reply.outcome = some payload ∧
      ∃ after, assign target (reply.receiver?.getD .void) engine = (.ok (), after) := by
  have assigns : Silent (assign target (reply.receiver?.getD .void)) := fun _ => silent_assign _ _
  obtain ⟨outcome, receiver⟩ := reply
  cases outcome with
  | ok value =>
      obtain ⟨_, _, _, none⟩ := assigns.exists_of_thrown?_bind ended
      cases none
  | error failure =>
      cases failure with
      | error error =>
          obtain ⟨_, after, written, thrown⟩ := assigns.exists_of_thrown?_bind ended
          exact ⟨thrown, after, written⟩
      | fault message => cases ended
      | exhausted => cases ended

theorem Traced.writeBack
    {dispatch : Dispatcher}
    {call : Call}
    (traced : Traced (answer dispatch call))
    (target : String) :
    Traced (liftM (dispatch call) >>= writeBack target) := by
  intro engine payload ended
  rw [Run.bind_ok (Run.lift_eq _ engine)] at ended
  obtain ⟨thrown, after, written⟩ := exists_of_thrown?_writeBack ended
  exact (traced engine payload thrown).mono (.method written)

/-- Being traced is a discipline. -/
def tracing : Discipline where
  holds := Traced
  silent := Silent.traced
  bindYields := Traced.bindYields
  throwValue := traced_throwValue
  kept f traced := traced.answerWith f
  method target traced := traced.writeBack target

end

section

variable {body : Run Value}

theorem Traced.inScope (traced : Traced body) : Traced (inScope body) := by
  intro engine payload ended
  exact (traced _ payload ended).mono .scope

/-- No exception comes out of a handler. -/
theorem traced_attempt (body : Run Value) : Traced (attempt body) := by
  refine .of_plain fun engine => ?_
  rcases ended : body engine with ⟨outcome, after⟩
  cases outcome with
  | ok value =>
      rw [attempt_ok ended]
      rfl
  | error failure =>
      cases failure with
      | error error =>
          cases thrown : error.payload? with
          | none =>
              rw [attempt_plain ended thrown]
              exact thrown
          | some payload =>
              rw [attempt_thrown ended thrown]
              rfl
      | fault message =>
          rw [attempt_pass (by simp) ended]
          rfl
      | exhausted =>
          rw [attempt_pass (by simp) ended]
          rfl

theorem traced_wrapped (body : Run Value) : Traced (wrapped body) :=
  fun engine _ ended => ⟨Value, wrapped body, engine, .wrapped ended, .here⟩

theorem traced_run (body : Run Value) : Traced (run body) :=
  fun engine _ ended => ⟨Value, run body, engine, .script ended, .here⟩

theorem Traced.loadModule {init : Run Unit} (traced : Traced init) (name : String) :
    Traced (loadModule name init) := by
  intro engine payload ended
  rcases loadModule_cases name init engine with ⟨message, refused⟩ | ⟨-, ran⟩
  · rw [refused] at ended
    cases ended
  · refine (traced { engine with loading := some .empty } payload ?_).mono (.load ran)
    rw [ran] at ended
    generalize init { engine with loading := some .empty } = result at ended ⊢
    obtain ⟨outcome, after⟩ := result
    cases outcome with
    | ok value => cases ended
    | error failure => cases failure <;> exact ended

theorem Traced.repeated (traced : Traced body) (last : Value) (count : Nat) :
    Traced (Program.repeated body last count) := by
  induction count generalizing last with
  | zero => exact traced_pure last
  | succ count ih => exact traced.bind fun value => ih value

end

section

variable {dispatch : Dispatcher}

mutual

theorem traced_execStep (calls : tracing.Calls dispatch) :
    ∀ step : Step, Traced (Program.execStep dispatch step)
  | .action action => Discipline.holds_execAction calls action
  | .scoped body => (traced_execSteps calls body .void).inScope
  | .attempt body => (traced_attempt _).andReturn _
  | .run body => traced_run _
  | .wrap body => traced_wrapped _
  | .load name init =>
      (((traced_execSteps calls init .void).andReturn _).loadModule name).andReturn _
  | .loop count body => (traced_execSteps calls body .void).repeated .void count
  | .branch condition onTrue onFalse => by
      refine Traced.bind (Discipline.holds_eval calls condition) fun value => ?_
      split
      · exact traced_execSteps calls onTrue .void
      · exact traced_execSteps calls onFalse .void

theorem traced_execSteps (calls : tracing.Calls dispatch) :
    ∀ (steps : List Step) (last : Value), Traced (Program.execSteps dispatch last steps)
  | [], last => traced_pure last
  | step :: steps, _ =>
      (traced_execStep calls step).bind fun value => traced_execSteps calls steps value

end

theorem traced_body (calls : tracing.Calls dispatch) (call : Call) :
    Traced (call.body dispatch) := by
  unfold Call.body
  cases call.signature.implementation with
  | library function argCount => exact Discipline.holds_exec calls function
  | native argCount steps => exact traced_execSteps calls steps .void
  | user params steps => exact traced_execSteps calls steps .void

/-- An exception that comes out of a call arises in its body, whatever dispatcher
has made the call with a supply of frames. -/
theorem traces_of_thrown?
    {frames : Nat}
    {call : Call}
    {engine : Engine}
    {payload : Value}
    (same : dispatch call engine = Engine.dispatch frames call engine)
    (ended : thrown? (dispatch call engine).1.outcome = some payload) :
    Traces payload (answer dispatch call) engine := by
  -- By the supply of frames: the calls of the body have fewer of them.
  induction frames using Nat.strongRecOn generalizing dispatch call engine payload with
  | ind frames ih =>
      rcases refused_or_framed frames call engine with
        ⟨failure, plain, refused⟩ | ⟨fewer, rfl, ran⟩
      · rw [same, refused] at ended
        cases plain.symm.trans ended
      · have framed := same.trans ran
        rcases framed_cases call (call.body (Engine.dispatch fewer)) engine with
          ⟨failure, plain, refused⟩ | ⟨start, left, entered, closed⟩
        · rw [framed, refused] at ended
          cases plain.symm.trans ended
        · rw [framed, closed] at ended
          have calls : tracing.Calls (Engine.dispatch fewer) := fun _ _ _ thrown =>
            ih fewer (Nat.lt_succ_self fewer) rfl thrown
          exact (traced_body calls call start payload ended).mono (.call framed entered)

end

theorem traced_supplied (supply : Engine → Nat) : tracing.Calls (supplied supply) :=
  fun _ _ _ ended => traces_of_thrown? rfl ended

/-- Every exception that comes out of a program arises in it. -/
theorem traced_exec (program : Program) : Traced (Program.exec dispatcher program) := by
  rw [dispatcher_eq]
  exact traced_execSteps (traced_supplied _) program .void

omit [KeyHash] in
/-- An exception that comes out is the payload of an error. -/
theorem exists_failsAs_of_thrown?
    {α : Type}
    {ended : Except Failure α × Engine}
    {payload : Value}
    (thrown : thrown? ended.1 = some payload) :
    ∃ error left, FailsAs error left ended ∧ error.payload? = some payload := by
  obtain ⟨outcome, after⟩ := ended
  cases outcome with
  | ok value => cases thrown
  | error failure =>
      cases failure with
      | error error => exact ⟨error, after, ⟨rfl, rfl, rfl⟩, thrown⟩
      | fault message => cases thrown
      | exhausted => cases thrown

omit [KeyHash] in
/-- Where an exception arises there is an error with its payload. -/
theorem Raises.failsAs
    {β : Type}
    {payload : Value}
    {there : Engine}
    {source : Run β}
    (raises : Raises payload there source) :
    ∃ error left, FailsAs error left (source there) ∧ error.payload? = some payload := by
  cases raises with
  | thrown => exact ⟨.thrown payload, _, failsAs_throwValue payload there, rfl⟩
  | wrapped ended => exact exists_failsAs_of_thrown? ended
  | script ended => exact exists_failsAs_of_thrown? ended

/-! ## The right handler -/

/-- An exception that is thrown with no handler around it inside a body is caught
by a handler around the body, and it ends a script that consists of the body. The
handler, or the script, has the exception on record, and the script adds one
report. Any other error passes through handlers without a change of the exception
state. A script of a tame program leaves an exception on record exactly if it
fails with that exception. An exception comes out of a program exactly if it
arises in it with no handler around it. -/
theorem exceptions_reach_their_handlers :
    (∀ (payload : Value) (there : Engine) (body : Run Value) (engine : Engine),
      Reaches false (throwValue payload : Run Value) there body engine →
        (attempt body engine).1 = .ok (.caught payload) ∧
          (attempt body engine).2.exception = .caught payload) ∧
    (∀ (payload : Value) (there : Engine) (body : Run Value) (engine : Engine),
      Reaches false (throwValue payload : Run Value) there body
          { engine with exception := .normal } →
        (run body engine).1 = .error (.error (.thrown payload)) ∧
          (run body engine).2.exception = .unhandled payload ∧
          (run body engine).2.reports =
            (there.report ("Unhandled exception: " ++ payload.display)).reports) ∧
    (∀ (source : Run Value) (there left : Engine) (error : ScriptError) (body : Run Value)
        (engine : Engine), error.payload? = none → FailsAs error left (source there) →
      Reaches true source there body engine →
        FailsAs error left (body engine) ∧ FailsAs error left (attempt body engine)) ∧
    (∀ (engine : Engine) (program : Program) (payload : Value), engine.Tame →
      engine.callDepth ≤ engine.maxCallDepth → Program.isTame false program = true →
        ((run (Program.exec dispatcher program) engine).2.exception = .unhandled payload ↔
          thrown? (run (Program.exec dispatcher program) engine).1 = some payload)) ∧
    ∀ (program : Program) (engine : Engine) (payload : Value),
      thrown? (Program.exec dispatcher program engine).1 = some payload ↔
        Traces payload (Program.exec dispatcher program) engine := by
  refine ⟨?_, ?_, ?_, ?_, ?_⟩
  · intro payload there body engine path
    exact (path.failsAs nofun (failsAs_throwValue payload there)).caught rfl
  · intro payload there body engine path
    exact (path.failsAs nofun (failsAs_throwValue payload there)).unhandled rfl
  · intro source there left error body engine plain failed path
    have passed := path.failsAs (fun _ => plain) failed
    exact ⟨passed, passed.attempt plain⟩
  · intro engine program payload tame bounded tameProgram
    exact tame.unhandled_iff bounded tameProgram payload
  · intro program engine payload
    refine ⟨traced_exec program engine payload, ?_⟩
    rintro ⟨β, source, there, raises, path⟩
    obtain ⟨error, left, failed, thrown⟩ := raises.failsAs
    have passed := path.failsAs nofun failed
    rw [passed.1]
    exact thrown

/-- With a frame to spare a call below the cap runs the body of its signature. -/
theorem exists_framed_of_supplied
    {supply : Engine → Nat}
    {engine : Engine}
    (spare : supply engine ≠ 0)
    (room : engine.callDepth < engine.maxCallDepth)
    (call : Call) :
    ∃ inner, supplied supply call engine = framed call (call.body inner) engine := by
  obtain ⟨frames, succ⟩ := Nat.exists_eq_succ_of_ne_zero spare
  refine ⟨dispatch frames, ?_⟩
  change dispatch (supply engine) call engine = _
  rw [succ]
  exact dispatch_framed room frames call

/-- The dispatcher of an engine has a frame to spare. -/
theorem exists_framed_of_dispatcher
    {engine : Engine}
    (room : engine.callDepth < engine.maxCallDepth)
    (call : Call) :
    ∃ inner, dispatcher call engine = framed call (call.body inner) engine := by
  have spare : engine.maxCallDepth + spareFrames ≠ 0 := by
    have positive : 0 < engine.maxCallDepth := Nat.zero_lt_of_lt room
    omega
  rw [dispatcher_eq]
  exact exists_framed_of_supplied spare room call

end

/-- A native that throws in a scope of its own. -/
def throwingSignature : Signature where
  id := 0
  name := "fail"
  prototype := ⟨[]⟩
  returns := 'v'
  implementation := .native 0 [.scoped [.action (.throw (.int 7))]]

/-- A native that calls a number within a handler. -/
def misusingSignature : Signature where
  id := 1
  name := "misuse"
  prototype := ⟨[]⟩
  returns := 'v'
  implementation := .native 0 [.attempt [.action (.callValue (.int 7) [])]]

/-- An engine that knows both natives. -/
def throwingEngine : Engine :=
  ((Engine.new {} .bare).registerSignature throwingSignature).registerSignature misusingSignature

/-- A call of the first native. -/
def throwingCall : Call :=
  { signature := throwingSignature, args := [], receiver? := none }

/-- A call of the second native. -/
def misusingCall : Call :=
  { signature := misusingSignature, args := [], receiver? := none }

/-- A call of the first native after another step. -/
def throwingProgram : Program :=
  [.action (.value .void), .action (.call "fail" [])]

/-- A call of the second native in a scope. -/
def misusingProgram : Program :=
  [.scoped [.action (.call "misuse" [])]]

section

variable {dispatch inner : Dispatcher}

/-- Between the program and the throw there are the call and the scope. -/
theorem throwingProgram_throws
    (ran : dispatch throwingCall throwingEngine =
      framed throwingCall (throwingCall.body inner) throwingEngine) :
    ∃ there, Reaches false (throwValue (.int 7) : Run Value) there
      (Program.exec dispatch throwingProgram) throwingEngine := by
  have body (start : Engine) : Reaches false (throwValue (.int 7) : Run Value)
      (start.mapScopes ScopeStack.push) (throwingCall.body inner) start :=
    .first (.scope (.first (.next rfl .here)))
  have called : Reaches false (throwValue (.int 7) : Run Value) _
      (answer dispatch throwingCall) throwingEngine := .call ran rfl (body _)
  exact ⟨_, .next rfl (.first (.next rfl (.next rfl called)))⟩

/-- Between the program and the call of the number there are the scope, the call
of the native and the handler. -/
theorem misusingProgram_fails
    (ran : dispatch misusingCall (throwingEngine.mapScopes ScopeStack.push) =
      framed misusingCall (misusingCall.body inner)
        (throwingEngine.mapScopes ScopeStack.push)) :
    ∃ there, Reaches true (Run.fail (.notCallable "int") : Run Value) there
        (Program.exec dispatch misusingProgram) throwingEngine ∧
      FailsAs { cause := .notCallable "int" } throwingEngine
        ((Run.fail (.notCallable "int") : Run Value) there) := by
  have body (start : Engine) : Reaches true (Run.fail (.notCallable "int") : Run Value) start
      (misusingCall.body inner) start :=
    .first (.first (.handler rfl (.first (.next rfl (.next rfl .here)))))
  have called : Reaches true (Run.fail (.notCallable "int") : Run Value) _
      (answer dispatch misusingCall) (throwingEngine.mapScopes ScopeStack.push) :=
    .call ran rfl (body _)
  exact ⟨_, .first (.scope (.first (.next rfl (.next rfl called)))), rfl, rfl, rfl⟩

end

/-- The exception of the first native is caught or ends the script, and it can be
traced. The error of the second passes its handler and one more, and it is not
traced to any exception. -/
theorem nested_throw_reaches_its_handler :
    (attempt (Program.exec dispatcher throwingProgram) throwingEngine).1 =
        .ok (.caught (.int 7)) ∧
      (attempt (Program.exec dispatcher throwingProgram) throwingEngine).2.exception =
        .caught (.int 7) ∧
      (run (Program.exec dispatcher throwingProgram) throwingEngine).1 =
        .error (.error (.thrown (.int 7))) ∧
      FailsAs { cause := .notCallable "int" } throwingEngine
        (attempt (Program.exec dispatcher misusingProgram) throwingEngine) ∧
      (∀ payload,
        (run (Program.exec dispatcher throwingProgram) throwingEngine).2.exception =
            .unhandled payload ↔
          thrown? (run (Program.exec dispatcher throwingProgram) throwingEngine).1 =
            some payload) ∧
      thrown? (Program.exec dispatcher throwingProgram throwingEngine).1 = some (.int 7) ∧
      ∀ payload, ¬ Traces payload (Program.exec dispatcher misusingProgram) throwingEngine := by
  obtain ⟨inner, ran⟩ := exists_framed_of_dispatcher (by decide : throwingEngine.callDepth < _) _
  obtain ⟨there, path⟩ := throwingProgram_throws ran
  have caught := exceptions_reach_their_handlers.1 (.int 7) there _ _ path
  have ended := exceptions_reach_their_handlers.2.1 (.int 7) there _ throwingEngine path
  obtain ⟨inner, ran⟩ := exists_framed_of_dispatcher
    (by decide : (throwingEngine.mapScopes ScopeStack.push).callDepth < _) _
  obtain ⟨misused, handled, failed⟩ := misusingProgram_fails ran
  have passed :=
    exceptions_reach_their_handlers.2.2.1 _ misused throwingEngine _ _ _ rfl failed handled
  have within : Within 0 _ (Engine.new {} .bare) := ⟨tame_new _ _, rfl, rfl⟩
  have throwing : throwingSignature.Tame := by decide
  have misusing : misusingSignature.Tame := by decide
  have tame : throwingEngine.Tame :=
    ((within.registerSignature throwing).registerSignature misusing).tame
  refine ⟨caught.1, caught.2, ended.1, passed.2, ?_, ?_, ?_⟩
  · intro payload
    exact exceptions_reach_their_handlers.2.2.2.1 throwingEngine throwingProgram payload tame
      (by decide) (by decide)
  · refine (exceptions_reach_their_handlers.2.2.2.2 throwingProgram throwingEngine (.int 7)).2 ?_
    exact ⟨Value, _, there, .thrown, path⟩
  · intro payload traces
    have thrown :=
      (exceptions_reach_their_handlers.2.2.2.2 misusingProgram throwingEngine payload).2 traces
    rw [passed.1.1] at thrown
    cases thrown

end ScriptCore
