import ScriptCore.Proofs.Engine.Entries
import ScriptCore.Proofs.Engine.Natives
import ScriptCore.Proofs.Engine.ScopeChanges
import ScriptCore.Proofs.Value.Tame

/-!
# Disciplines

A computation is silent if it leaves the exception state alone and, if it fails,
does so with something that is no exception. Apart from its calls and from the
exceptions it raises, every part of a program is silent.

A discipline is a property of computations that all silent ones have, and that
sequences, raised exceptions and the ways of making a call respect. It holds of
every expression, action and native, provided that it holds of the calls. So what
exceptions do in a program has to be said for calls and handlers only.
-/

open Std.Do

namespace ScriptCore

open Engine

set_option mvcgen.warning false

/-! ## Silent computations -/

/-- The exception state is the given one. -/
def Engine.Shows (state : ExceptionState) (engine : Engine) : Prop :=
  engine.exception = state

/-- The failure is no exception, and the exception state is the given one. -/
def Failure.Shows (state : ExceptionState) (failure : Failure) (engine : Engine) : Prop :=
  failure.payload? = none ∧ engine.exception = state

/-- A computation that is silent while the exception state is the given one. -/
abbrev SilentAt (state : ExceptionState) {α : Type} (body : Run α) : Prop :=
  ⦃fun engine => ⌜engine.Shows state⌝⦄ body
  ⦃⟨fun _ engine => ⌜engine.Shows state⌝, fun failure engine => ⌜failure.Shows state engine⌝, ()⟩⦄

/-- A computation that leaves the exception state alone and raises no exception. -/
def Silent {α : Type} (body : Run α) : Prop :=
  ∀ state, SilentAt state body

/-- A report leaves the exception state as it is. -/
theorem Engine.Shows.report {state : ExceptionState} {engine : Engine} (shows : engine.Shows state)
    (message : String) : (engine.report message).Shows state := by
  simpa only [Engine.Shows, Engine.report] using shows

variable [KeyHash]

section

variable {α : Type}

omit [KeyHash] in
/-- The weakest precondition of a computation on engines. -/
theorem wp_apply
    (body : Run α)
    (post : PostCond α (.except Failure (.arg Engine .pure)))
    (engine : Engine) :
    wp⟦body⟧ post engine = match body engine with
      | (.ok value, after) => post.1 value after
      | (.error failure, after) => post.2.1 failure after := by
  simp only [wp, PredTrans.apply_pushExcept, PredTrans.apply_pushArg, PredTrans.apply_Pure_pure]
  have same : (StateT.run (ExceptT.run body) engine).run = body engine := rfl
  rw [same]
  rcases body engine with ⟨outcome, after⟩
  cases outcome <;> rfl

namespace Silent

variable {body : Run α}

omit [KeyHash]

/-- A silent computation leaves the exception state as it is. -/
theorem exception (silent : Silent body) (engine : Engine) :
    (body engine).2.exception = engine.exception := by
  have ended := silent engine.exception engine rfl
  rw [wp_apply] at ended
  generalize body engine = result at ended ⊢
  obtain ⟨outcome, after⟩ := result
  cases outcome with
  | ok value => exact ended
  | error failure => exact ended.2

/-- A silent computation fails with no exception. -/
theorem payload?
    (silent : Silent body)
    {engine after : Engine}
    {failure : Failure}
    (failed : body engine = (.error failure, after)) :
    failure.payload? = none := by
  have ended := silent engine.exception engine rfl
  rw [wp_apply, failed] at ended
  exact ended.1

end Silent

/-! ## Silent parts of programs -/

omit [KeyHash] in
/-- A change that leaves the exception state alone is silent. -/
theorem silent_modify {change : Engine → Engine}
    (same : ∀ engine, (change engine).exception = engine.exception) :
    Silent (modify change : Run PUnit) := by
  intro state engine shows
  rw [wp_apply]
  exact (same engine).trans shows

variable {state : ExceptionState}

omit [KeyHash] in
@[spec]
theorem silent_failWithHint {cause : Cause} (plain : cause.payload? = none) (hint : String) :
    SilentAt state (Run.failWithHint cause hint : Run α) := by
  unfold Run.failWithHint
  mvcgen

omit [KeyHash] in
@[spec]
theorem silent_fail {cause : Cause} (plain : cause.payload? = none) :
    SilentAt state (Run.fail cause : Run α) :=
  silent_failWithHint plain ""

@[spec]
theorem silent_assign (name : String) (value : Value) : SilentAt state (assign name value) := by
  unfold assign
  mvcgen

@[spec]
theorem silent_getVariable (name : String) : SilentAt state (getVariable name) := by
  unfold getVariable
  mvcgen

omit [KeyHash] in
@[spec]
theorem silent_buildSignature (spec : SignatureSpec) : SilentAt state (buildSignature spec) := by
  unfold buildSignature
  mvcgen

omit [KeyHash] in
@[spec]
theorem silent_buildSignatures (specs : List SignatureSpec) :
    SilentAt state (buildSignatures specs) := by
  induction specs with
  | nil =>
      unfold buildSignatures
      mvcgen
  | cons spec specs ih =>
      unfold buildSignatures
      mvcgen [ih]

@[spec]
theorem silent_register (spec : SignatureSpec) : SilentAt state (register spec) := by
  unfold register
  mvcgen

/-- Installing the library is silent, through every registration in it. -/
@[spec]
theorem silent_installLibrary : SilentAt state installLibrary := by
  unfold installLibrary
  generalize LibraryFunction.all = functions
  induction functions with
  | nil => mvcgen
  | cons function functions ih =>
      change SilentAt state
        ((do let _ ← register function.signature) >>= fun _ => functions.forM _)
      mvcgen [ih]

omit [KeyHash] in
@[spec]
theorem silent_nonfatal (message : String) (default : Value) :
    ⦃fun engine => ⌜engine.Shows state⌝⦄ nonfatal message default
    ⦃⇓ _ engine => ⌜engine.Shows state⌝⦄ := by
  unfold nonfatal
  mvcgen -trivial
  exact Shows.report ‹_› _

omit [KeyHash] in
@[spec]
theorem silent_allowPrivileged (operation : String) :
    ⦃fun engine => ⌜engine.Shows state⌝⦄ allowPrivileged operation
    ⦃⇓ _ engine => ⌜engine.Shows state⌝⦄ := by
  unfold allowPrivileged
  mvcgen -trivial
  · exact Shows.report ‹_› _
  · assumption

@[spec]
theorem silent_unloadModule (name : String) :
    ⦃fun engine => ⌜engine.Shows state⌝⦄ unloadModule name
    ⦃⇓ _ engine => ⌜engine.Shows state⌝⦄ := by
  unfold unloadModule
  mvcgen -trivial
  case vc2 => assumption
  case vc3 => exact Shows.report ‹_› _
  case vc4 => exact (exception_removeNames _ _).trans ‹_›
  case vc5 => assumption

/-- A change to a value is silent. -/
@[spec]
theorem silent_apply (change : Change) (target operand : Value) :
    SilentAt state (change.apply target operand) := by
  unfold Change.apply
  mvcgen

end

/-! ## Disciplines -/

/-- The outcome of a call as that of a computation. -/
def answer (dispatch : Dispatcher) (call : Call) : Run Value :=
  ExceptT.mk do return (← dispatch call).outcome

/-- A call whose value is replaced. -/
def answerWith (dispatch : Dispatcher) (call : Call) (f : Reply → Value → Value) : Run Value :=
  ExceptT.mk do
    let reply ← dispatch call
    return reply.outcome.map (f reply)

/-- Write what a call left of its receiver to a variable, and end as the call
did. -/
def writeBack (target : String) (reply : Reply) : Run Value :=
  match reply.outcome with
  | .error (.error error) => do
      assign target (reply.receiver?.getD .void)
      throw (.error error)
  | .error failure => throw failure
  | .ok value => do
      assign target (reply.receiver?.getD .void)
      return value

/-- A computation can end with a value. -/
def Run.Yields {α : Type} (body : Run α) (value : α) : Prop :=
  ∃ engine after, body engine = (.ok value, after)

omit [KeyHash] in
/-- What a sequence yields comes from a value that its first part yields. -/
theorem Run.Yields.of_bind
    {α β : Type}
    {first : Run α}
    {next : α → Run β}
    {value : β}
    (yields : (first >>= next).Yields value) :
    ∃ middle, first.Yields middle ∧ (next middle).Yields value := by
  obtain ⟨engine, after, ended⟩ := yields
  rcases begun : first engine with ⟨outcome, between⟩
  cases outcome with
  | ok middle =>
      rw [Run.bind_ok begun] at ended
      exact ⟨middle, ⟨engine, between, begun⟩, ⟨between, after, ended⟩⟩
  | error failure =>
      rw [Run.bind_error begun] at ended
      cases ended

/-- A property of computations that is closed under the ways in which programs
are put together. -/
structure Discipline where
  holds : {α : Type} → Run α → Prop
  silent : ∀ {α : Type} {body : Run α}, Silent body → holds body
  bindYields : ∀ {α β : Type} {first : Run α} {next : α → Run β}, holds first →
    (∀ value, first.Yields value → holds (next value)) → holds (first >>= next)
  throwValue : ∀ {α : Type} (payload : Value), holds (Engine.throwValue payload : Run α)
  kept : ∀ {dispatch : Dispatcher} {call : Call} (f : Reply → Value → Value),
    holds (answer dispatch call) → holds (answerWith dispatch call f)
  method : ∀ {dispatch : Dispatcher} {call : Call} (target : String),
    holds (answer dispatch call) → holds (liftM (dispatch call) >>= writeBack target)

namespace Discipline

/-- A discipline holds of the calls that a dispatcher runs. -/
def Calls (discipline : Discipline) (dispatch : Dispatcher) : Prop :=
  ∀ call, discipline.holds (answer dispatch call)

variable {discipline : Discipline} {dispatch : Dispatcher}

/-- A discipline holds of a sequence if it holds of its parts. -/
theorem bind
    {α β : Type}
    {first : Run α}
    {next : α → Run β}
    (begins : discipline.holds first)
    (goesOn : ∀ value, discipline.holds (next value)) :
    discipline.holds (first >>= next) :=
  discipline.bindYields begins fun value _ => goesOn value

theorem holds_pure {α : Type} (value : α) : discipline.holds (pure value : Run α) := by
  refine discipline.silent fun state => ?_
  mvcgen

theorem andReturn
    {α β : Type}
    {first : Run α}
    (begins : discipline.holds first)
    (f : α → β) :
    discipline.holds (first >>= fun value => pure (f value)) :=
  bind begins fun value => holds_pure (f value)

/-- A discipline may depend on the engine that is read. -/
theorem holds_get {α : Type} {next : Engine → Run α}
    (goesOn : ∀ engine, discipline.holds (next engine)) : discipline.holds (get >>= next) := by
  refine bind (discipline.silent fun state => ?_) goesOn
  mvcgen

/-- A discipline holds of a failure that is no exception. -/
theorem holds_fail {α : Type} {cause : Cause} (plain : cause.payload? = none) :
    discipline.holds (Run.fail cause : Run α) :=
  discipline.silent fun _ => silent_fail plain

section

variable (calls : discipline.Calls dispatch)

include calls

/-! ## Calls -/

theorem holds_callFunction (function : Function) (args : List Value) :
    discipline.holds (callFunction dispatch function args) := by
  unfold callFunction
  cases function.resolve? args.length with
  | none => exact holds_fail rfl
  | some signature => exact calls _

theorem holds_callByName (name : String) (args : List Value) :
    discipline.holds (callByName dispatch name args) := by
  refine holds_get fun engine => ?_
  cases engine.scopes.lookupFunction? name with
  | none => exact discipline.silent fun state => silent_failWithHint rfl _
  | some function => exact holds_callFunction calls function args

theorem holds_callValue (callee : Value) (args : List Value) :
    discipline.holds (callValue dispatch callee args) := by
  cases callee with
  | function function => exact holds_callFunction calls function args
  | str bytes => exact holds_callByName calls _ args
  | _ => exact holds_fail rfl

theorem holds_instantiate (className : String) (args : List Value) :
    discipline.holds (instantiate dispatch className args) := by
  refine holds_get fun engine => ?_
  cases engine.class? className with
  | none => exact holds_fail rfl
  | some cls =>
      dsimp only
      cases cls.findConstructor? with
      | none => exact holds_pure _
      | some signature => exact discipline.kept _ (calls _)

/-- A discipline of calls holds of calls of methods, with the receiver written
back. -/
theorem holds_callMethodOn (target name : String) (args : List Value) :
    discipline.holds (Program.callMethodOn dispatch target name args) := by
  refine bind (discipline.silent fun state => silent_getVariable target) ?_
  intro receiver
  change discipline.holds (liftM (callMethod dispatch receiver name args) >>= writeBack target)
  unfold callMethod
  cases resolves : resolveMethod receiver name args.length with
  | ok signature => exact discipline.method target (calls _)
  | error error =>
      have plain := payload?_resolveMethod resolves
      change discipline.holds (pure _ >>= writeBack target)
      rw [pure_bind]
      refine discipline.silent fun state => ?_
      unfold writeBack
      dsimp only
      mvcgen

end

/-! ## Expressions -/

mutual

/-- A discipline of calls holds of every expression. -/
theorem holds_eval (calls : discipline.Calls dispatch) :
    ∀ expr : Expr, discipline.holds (expr.eval dispatch)
  | .void | .bool _ | .int _ | .float _ | .str _ => holds_pure _
  | .slots | .slotCount | .fault _ => by
      refine discipline.silent fun state => ?_
      unfold Expr.eval
      mvcgen
  | .array slots => andReturn (holds_evalSlots calls slots .empty) _
  | .record _ fields methods =>
      bind (holds_evalSlots calls fields .empty) fun _ =>
        andReturn (discipline.silent fun _ => silent_buildSignatures methods) _
  | .function head others =>
      bind (discipline.silent fun _ => silent_buildSignature head) fun _ =>
        andReturn (discipline.silent fun _ => silent_buildSignatures others) _
  | .resource kind handle hasDestructor => by
      refine discipline.silent fun state => ?_
      unfold Expr.eval newResource
      mvcgen
  | .var name => discipline.silent fun _ => silent_getVariable name
  | .call name args => bind (holds_evalArgs calls args) (holds_callByName calls name)
  | .slot index => by
      refine discipline.silent fun state => ?_
      unfold Expr.eval arg
      mvcgen
  | .primitive operation args => andReturn (holds_evalArgs calls args) _

theorem holds_evalArgs (calls : discipline.Calls dispatch) :
    ∀ exprs : List Expr, discipline.holds (evalArgs dispatch exprs)
  | [] => holds_pure []
  | expr :: exprs =>
      bind (holds_eval calls expr) fun _ => andReturn (holds_evalArgs calls exprs) _

theorem holds_evalSlots (calls : discipline.Calls dispatch) :
    ∀ (slots : List (Slot Expr)) (items : OrderedMap Value),
      discipline.holds (evalSlots dispatch items slots)
  | [], items => holds_pure items
  | .vacant :: slots, _ => holds_evalSlots calls slots _
  | .item expr :: slots, _ =>
      bind (holds_eval calls expr) fun _ => holds_evalSlots calls slots _
  | .entry _ expr :: slots, _ =>
      bind (holds_eval calls expr) fun _ => holds_evalSlots calls slots _

end

/-! ## Actions -/

section

variable (calls : discipline.Calls dispatch)

include calls

theorem holds_evalFields (exprs : List (String × Expr)) (fields : OrderedMap Value) :
    discipline.holds (Program.evalFields dispatch fields exprs) := by
  induction exprs generalizing fields with
  | nil => exact holds_pure fields
  | cons entry exprs ih =>
      exact bind (holds_eval calls entry.2) fun _ => ih _

/-- A discipline of calls holds of the declaration of a class. -/
theorem holds_declareClass
    (name : String)
    (parent : Option String)
    (fields : List (String × Expr))
    (methods : List SignatureSpec)
    (constructor : Option SignatureSpec) :
    discipline.holds (Program.declareClass dispatch name parent fields methods constructor) := by
  unfold Program.declareClass
  extract_lets declare
  have declared (parent? : Option Class) : discipline.holds (declare parent?) := by
    refine bind (holds_evalFields calls fields .empty) fun fields => ?_
    refine discipline.silent fun state => ?_
    mvcgen
  cases parent with
  | none => exact declared none
  | some parentName =>
      refine holds_get fun engine => ?_
      cases engine.class? parentName with
      | none => exact holds_fail rfl
      | some cls => exact declared (some cls)

/-- A discipline of calls holds of every action. -/
theorem holds_execAction (action : Action) :
    discipline.holds (Program.execAction dispatch action) := by
  unfold Program.execAction
  cases action with
  | throw expr => exact bind (holds_eval calls expr) discipline.throwValue
  | call name args => exact bind (holds_evalArgs calls args) (holds_callByName calls name)
  | callValue callee args =>
      refine bind (holds_eval calls callee) fun value => ?_
      exact bind (holds_evalArgs calls args) (holds_callValue calls value)
  | callSignature name index args =>
      refine bind (holds_evalArgs calls args) fun values => holds_get fun engine => ?_
      split
      · exact calls _
      · exact holds_fail rfl
  | method target name args =>
      exact bind (holds_evalArgs calls args) (holds_callMethodOn calls target name)
  | instantiate className args =>
      exact bind (holds_evalArgs calls args) (holds_instantiate calls className)
  | defineClass name parent fields methods constructor =>
      exact holds_declareClass calls name parent fields methods constructor
  | compare left right =>
      exact bind (holds_eval calls left) fun _ => andReturn (holds_eval calls right) _
  | nonfatal expr default =>
      refine bind (holds_eval calls expr) fun message => ?_
      cases default with
      | none =>
          refine discipline.silent fun state => ?_
          mvcgen
      | some expr =>
          refine bind (holds_eval calls expr) fun value => ?_
          refine discipline.silent fun state => ?_
          mvcgen
  | value expr => exact holds_eval calls expr
  | display expr | json expr | truthy expr | deepCopy expr | field expr name | handleText expr
  | handleNumber expr | handleAdd expr amount | mutate target expr change | define name expr
  | assign name expr | link name tag expr cell | cellSet cell expr | setSlot index expr
  | setSlotField index name expr | log expr =>
      refine bind (holds_eval calls expr) fun value => discipline.silent fun state => ?_
      mvcgen
  | notCallable typeName => exact holds_fail rfl
  | _ =>
      refine discipline.silent fun state => ?_
      mvcgen [takeArg, arg, unregister, unregisterVariable, unbindWhere]

/-! ## Natives -/

omit calls in
/-- What a discipline says of natives. -/
def natives (discipline : Discipline) : Judgement where
  allowed _ := True
  inside _ := True
  holds result first _ := discipline.holds first ∧ ∀ value, first.Yields value → result value
  slots _ _ _ _ _ := trivial
  pure holds := by
    refine ⟨holds_pure _, ?_⟩
    rintro value ⟨engine, after, ended⟩
    cases ended
    exact holds
  bind begins goesOn := by
    refine ⟨?_, ?_⟩
    · exact discipline.bindYields begins.1 fun value yields =>
        (goesOn value (begins.2 value yields)).1
    · intro value yields
      obtain ⟨middle, begun, ended⟩ := yields.of_bind
      exact (goesOn middle (begins.2 middle begun)).2 value ended
  reading goesOn := by
    refine ⟨holds_get fun engine => (goesOn engine trivial).1, ?_⟩
    intro value yields
    obtain ⟨engine, -, ended⟩ := yields.of_bind
    exact (goesOn engine trivial).2 value ended
  edit keeps := by
    refine ⟨discipline.silent (silent_modify fun engine => ?_), fun _ _ => trivial⟩
    obtain ⟨slots, reports, host, same, -⟩ := keeps engine trivial
    rw [same]
  fail plain := by
    refine ⟨holds_fail plain, ?_⟩
    rintro value ⟨engine, after, ended⟩
    cases ended
  throwValue _ := by
    refine ⟨discipline.throwValue _, ?_⟩
    rintro value ⟨engine, after, ended⟩
    cases ended

/-- A discipline of calls holds of every native of the library. -/
theorem holds_exec (function : LibraryFunction) :
    discipline.holds (Library.exec dispatch function) := by
  have holds : discipline.natives.Calls dispatch dispatch := fun callee args _ _ =>
    ⟨holds_callValue calls callee args, fun _ _ _ _ => trivial⟩
  exact (Judgement.holds_exec holds function).1

end

end Discipline

end ScriptCore
