import ScriptCore.Proofs.Engine.Parameters
import ScriptCore.Proofs.Library.Journals

/-!
# Journals of programs

What expressions, actions and steps report, given what a dispatcher reports of
each call, and from this what calls report. The journals follow the evaluation
of a program, in which each part starts on the engine that the one before it
left. Every computation on an engine is recorded by its journal.
-/

namespace ScriptCore

open Engine Journal

variable [KeyHash]

section Programs

variable {dispatch : Dispatcher} {calls : Call → Journal}

/-! ## Expressions -/

mutual

/-- What the evaluation of an expression reports. -/
def Expr.journal (dispatch : Dispatcher) (calls : Call → Journal) : Expr → Journal
  | .array slots => slotsJournal dispatch calls slots
  | .record _ fields _ => slotsJournal dispatch calls fields
  | .call name args =>
      Journal.andThen (evalArgs dispatch args) (argsJournal dispatch calls args)
        (Journal.callByName calls name)
  | .primitive _ args => argsJournal dispatch calls args
  | _ => Journal.quiet
termination_by structural expr => expr

/-- What the evaluation of arguments reports. -/
def argsJournal (dispatch : Dispatcher) (calls : Call → Journal) : List Expr → Journal
  | [] => Journal.quiet
  | expr :: exprs =>
      Journal.andThen (expr.eval dispatch) (expr.journal dispatch calls)
        fun _ => argsJournal dispatch calls exprs
termination_by structural exprs => exprs

/-- What the evaluation of the slots of a container reports. -/
def slotsJournal (dispatch : Dispatcher) (calls : Call → Journal) : List (Slot Expr) → Journal
  | [] => Journal.quiet
  | .vacant :: slots => slotsJournal dispatch calls slots
  | .item expr :: slots =>
      Journal.andThen (expr.eval dispatch) (expr.journal dispatch calls)
        fun _ => slotsJournal dispatch calls slots
  | .entry _ expr :: slots =>
      Journal.andThen (expr.eval dispatch) (expr.journal dispatch calls)
        fun _ => slotsJournal dispatch calls slots
termination_by structural slots => slots

end

mutual

/-- The journal of an expression tells what evaluating it reports. -/
theorem records_eval (recorded : ∀ call, (calls call).Records (dispatch call)) :
    ∀ expr : Expr, (expr.journal dispatch calls).Records (expr.eval dispatch)
  | .void | .bool _ | .int _ | .float _ | .str _ | .slots | .slotCount | .fault _ | .slot _
  | .resource _ _ _ => records_quiet fun _ => rfl
  | .array slots => (records_evalSlots recorded slots .empty).andQuiet fun _ => quiet_pure _
  | .record _ fields methods =>
      (records_evalSlots recorded fields .empty).andQuiet fun _ =>
        (quiet_buildSignatures methods).andQuiet fun _ => quiet_pure _
  | .function head others =>
      (quiet_buildSignature head).andQuiet fun _ =>
        (quiet_buildSignatures others).andQuiet fun _ => quiet_pure _
  | .var name => quiet_getVariable name
  | .call name args =>
      (records_evalArgs recorded args).andThen fun values => records_callByName recorded name values
  | .primitive _ args => (records_evalArgs recorded args).andQuiet fun _ => quiet_pure _

theorem records_evalArgs (recorded : ∀ call, (calls call).Records (dispatch call)) :
    ∀ exprs : List Expr, (argsJournal dispatch calls exprs).Records (evalArgs dispatch exprs)
  | [] => quiet_pure []
  | expr :: exprs =>
      (records_eval recorded expr).andThen fun _ =>
        (records_evalArgs recorded exprs).andQuiet fun _ => quiet_pure _

theorem records_evalSlots (recorded : ∀ call, (calls call).Records (dispatch call)) :
    ∀ (slots : List (Slot Expr)) (items : OrderedMap Value),
      (slotsJournal dispatch calls slots).Records (evalSlots dispatch items slots)
  | [], items => quiet_pure items
  | .vacant :: slots, _ => records_evalSlots recorded slots _
  | .item expr :: slots, _ =>
      (records_eval recorded expr).andThen fun _ => records_evalSlots recorded slots _
  | .entry _ expr :: slots, _ =>
      (records_eval recorded expr).andThen fun _ => records_evalSlots recorded slots _

end

/-! ## Actions -/

/-- The call of a method of the value of a variable. -/
def Engine.Journal.callMethodOn (calls : Call → Journal) (target name : String)
    (args : List Value) : Journal := fun engine =>
  match engine.scopes.get? target with
  | some receiver => callMethod calls receiver name args engine
  | none => []

/-- What the evaluation of default fields reports. -/
def fieldsJournal (dispatch : Dispatcher) (calls : Call → Journal) :
    List (String × Expr) → Journal
  | [] => Journal.quiet
  | field :: fields =>
      Journal.andThen (field.2.eval dispatch) (field.2.journal dispatch calls)
        fun _ => fieldsJournal dispatch calls fields

/-- What an action reports. -/
def Action.journal (dispatch : Dispatcher) (calls : Call → Journal) : Action → Journal
  | .value expr | .display expr | .json expr | .truthy expr | .deepCopy expr | .field expr _
  | .handleText expr | .handleNumber expr | .handleAdd expr _ | .mutate _ expr _
  | .define _ expr | .assign _ expr | .link _ _ expr _ | .cellSet _ expr | .throw expr
  | .setSlot _ expr | .setSlotField _ _ expr | .log expr => expr.journal dispatch calls
  | .compare left right =>
      Journal.andThen (left.eval dispatch) (left.journal dispatch calls)
        fun _ => right.journal dispatch calls
  | .defineClass _ parent fields _ _ => fun engine =>
      if parent.all fun name => (engine.class? name).isSome then
        fieldsJournal dispatch calls fields engine
      else []
  | .call name args =>
      Journal.andThen (evalArgs dispatch args) (argsJournal dispatch calls args)
        (Journal.callByName calls name)
  | .callValue callee args =>
      Journal.andThen (callee.eval dispatch) (callee.journal dispatch calls) fun value =>
        Journal.andThen (evalArgs dispatch args) (argsJournal dispatch calls args)
          (Journal.callValue calls value)
  | .callSignature name index args =>
      Journal.andThen (evalArgs dispatch args) (argsJournal dispatch calls args)
        fun values engine =>
          match (engine.scopes.lookupFunction? name).bind fun function =>
              function.overloads[index]? with
          | some signature => calls { signature, args := values, receiver? := none } engine
          | none => []
  | .method target name args =>
      Journal.andThen (evalArgs dispatch args) (argsJournal dispatch calls args)
        (Journal.callMethodOn calls target name)
  | .instantiate className args =>
      Journal.andThen (evalArgs dispatch args) (argsJournal dispatch calls args)
        (Journal.instantiate calls className)
  | .nonfatal message none =>
      Journal.andThen (message.eval dispatch) (message.journal dispatch calls)
        fun value _ => [.message value.display]
  | .nonfatal message (some default) =>
      Journal.andThen (message.eval dispatch) (message.journal dispatch calls) fun value =>
        Journal.andThen (default.eval dispatch) (default.journal dispatch calls)
          fun _ _ => [.message value.display]
  | .takeReports => fun _ => [.drain]
  | .privileged operation => Journal.privileged operation Journal.quiet
  | .unload name => Journal.privileged "module unloading" fun engine =>
      if (engine.modules.get? name).isSome then []
      else [.message ("module " ++ name ++ " is not loaded")]
  | _ => Journal.quiet

theorem quiet_installLibrary : quiet.Records installLibrary := by
  unfold installLibrary
  generalize LibraryFunction.all = functions
  induction functions with
  | nil => exact quiet_pure ()
  | cons function functions ih =>
      refine Records.andQuiet ?_ fun _ => ih
      exact (quiet_register function.signature).andQuiet fun _ => quiet_pure ()

/-- A change to a value reports nothing. -/
theorem quiet_apply (change : Change) (target operand : Value) :
    quiet.Records (change.apply target operand) := by
  cases change with
  | addMethod spec =>
      refine (quiet_buildSignature spec).andQuiet fun signature => ?_
      cases target <;> exact quiet_pure _
  | _ => cases target <;> exact quiet_pure _

section Actions

variable (recorded : ∀ call, (calls call).Records (dispatch call))

include recorded

theorem records_evalFields (exprs : List (String × Expr)) (fields : OrderedMap Value) :
    (fieldsJournal dispatch calls exprs).Records (Program.evalFields dispatch fields exprs) := by
  induction exprs generalizing fields with
  | nil => exact quiet_pure fields
  | cons entry exprs ih =>
      exact (records_eval recorded entry.2).andThen fun _ => ih _

/-- Declaring a class reports what evaluating its fields does. -/
theorem records_declareClass
    (name : String)
    (parent : Option String)
    (fields : List (String × Expr))
    (methods : List SignatureSpec)
    (constructor : Option SignatureSpec) :
    ((Action.defineClass name parent fields methods constructor).journal dispatch calls).Records
      (Program.declareClass dispatch name parent fields methods constructor) := by
  unfold Program.declareClass
  extract_lets declare
  have declared (parent? : Option Class) :
      (fieldsJournal dispatch calls fields).Records (declare parent?) := by
    refine (records_evalFields recorded fields .empty).andQuiet fun fields => ?_
    refine (quiet_buildSignatures methods).andQuiet fun methods => ?_
    cases constructor with
    | none => exact records_quiet fun _ => rfl
    | some spec =>
        refine Records.andQuiet ?_ fun _ => records_quiet fun _ => rfl
        exact (quiet_buildSignature spec).andQuiet fun _ => quiet_pure _
  intro engine
  unfold Action.journal
  -- A missing parent is found out before any field is evaluated.
  cases parent with
  | none => exact declared none engine
  | some parentName =>
      dsimp only
      rw [Run.get_bind, Option.all_some]
      cases engine.class? parentName with
      | none => exact .nothing rfl
      | some cls => exact declared (some cls) engine

/-- A call of a method on a variable reports what the method does. -/
theorem records_callMethodOn (target name : String) (args : List Value) :
    (callMethodOn calls target name args).Records
      (Program.callMethodOn dispatch target name args) := by
  intro engine
  unfold callMethodOn Program.callMethodOn
  cases found : engine.scopes.get? target with
  | none =>
      rw [Run.bind_error (getVariable_missing found)]
      exact .nothing rfl
  | some receiver =>
      rw [Run.bind_ok (getVariable_eq found)]
      have called := (records_callMethod recorded receiver name args).lift
      refine called.andQuiet (fun reply => ?_) engine
      -- The receiver is assigned back after an error as well, but not after a fault.
      split
      · exact (quiet_assign target _).andQuiet fun _ => records_quiet fun _ => rfl
      · exact records_quiet fun _ => rfl
      · exact (quiet_assign target _).andQuiet fun _ => quiet_pure _

/-- The journal of an action tells what performing it reports. -/
theorem records_execAction (action : Action) :
    (action.journal dispatch calls).Records (Program.execAction dispatch action) := by
  cases action with
  | value expr => exact records_eval recorded expr
  | display expr | json expr | truthy expr | deepCopy expr | field expr name | define name expr
  | setSlot index expr | log expr | throw expr | link name tag expr cell =>
      exact (records_eval recorded expr).andQuiet fun _ => records_quiet fun _ => rfl
  | assign name expr =>
      refine (records_eval recorded expr).andQuiet fun value => ?_
      exact (quiet_assign name value).andQuiet fun _ => quiet_pure _
  | handleText expr | handleNumber expr | handleAdd expr amount =>
      refine (records_eval recorded expr).andQuiet fun value => quiet_reading fun engine => ?_
      split <;> exact records_quiet fun _ => rfl
  | mutate target expr change =>
      refine (records_eval recorded expr).andQuiet fun operand => ?_
      refine (quiet_getVariable target).andQuiet fun value => ?_
      refine (quiet_apply change value operand).andQuiet fun changed => ?_
      cases changed with
      | none => exact quiet_pure _
      | some changed => exact (quiet_assign target changed.1).andQuiet fun _ => quiet_pure _
  | cellSet cell expr =>
      refine (records_eval recorded expr).andQuiet fun value => quiet_reading fun engine => ?_
      cases engine.cell? cell <;> exact records_quiet fun _ => rfl
  | setSlotField index name expr =>
      refine (records_eval recorded expr).andQuiet fun value => quiet_reading fun engine => ?_
      cases engine.slotAt index <;> exact records_quiet fun _ => rfl
  | compare left right =>
      refine (records_eval recorded left).andThen fun _ => ?_
      exact (records_eval recorded right).andQuiet fun _ => quiet_pure _
  | defineClass name parent fields methods constructor =>
      exact records_declareClass recorded name parent fields methods constructor
  | call name args =>
      exact (records_evalArgs recorded args).andThen (records_callByName recorded name)
  | callValue callee args =>
      refine (records_eval recorded callee).andThen fun value => ?_
      exact (records_evalArgs recorded args).andThen (records_callValue recorded value)
  | callSignature name index args =>
      refine (records_evalArgs recorded args).andThen fun values engine => ?_
      rw [Run.get_bind]
      cases (engine.scopes.lookupFunction? name).bind fun function =>
          function.overloads[index]? with
      | none => exact .nothing rfl
      | some signature => exact recorded _ engine
  | method target name args =>
      exact (records_evalArgs recorded args).andThen (records_callMethodOn recorded target name)
  | instantiate className args =>
      exact (records_evalArgs recorded args).andThen (records_instantiate recorded className)
  | nonfatal message default =>
      cases default with
      | none =>
          refine (records_eval recorded message).andThen fun value engine => ?_
          exact .report engine _
      | some default =>
          refine (records_eval recorded message).andThen fun value => ?_
          refine (records_eval recorded default).andThen fun _ engine => ?_
          exact .report engine _
  | takeReports => exact fun _ => .drained rfl
  | privileged operation =>
      have whole : (Journal.privileged operation quiet).Records
          (allowPrivileged operation >>= fun allowed => (pure (.bool allowed) : Run Value)) :=
        records_allowPrivileged (quiet_pure _) (quiet_pure _)
      exact whole
  | unload name => exact (records_unloadModule name).lift.andQuiet fun _ => quiet_pure _
  | leave =>
      refine quiet_reading fun engine => ?_
      cases engine.scopes.pop? <;> exact records_quiet fun _ => rfl
  | register spec => exact (quiet_register spec).andQuiet fun _ => quiet_pure _
  | unregister name | unlink name =>
      exact (quiet_unbindWhere _ name).lift.andQuiet fun _ => quiet_pure _
  | cellGet cell =>
      refine quiet_reading fun engine => ?_
      cases engine.cell? cell <;> exact quiet_pure _
  | install => exact quiet_installLibrary.andQuiet fun _ => quiet_pure _
  | safeModeSet flag =>
      refine quiet_reading fun engine => ?_
      cases engine.safeMode.set flag <;> exact records_quiet fun _ => rfl
  | notCallable typeName => exact quiet_fail _ _
  | _ => exact records_quiet fun _ => rfl

end Actions

/-! ## Steps -/

/-- What the rounds of a loop report. -/
def repeatedJournal (body : Run Value) (journal : Journal) : Nat → Journal
  | 0 => Journal.quiet
  | count + 1 => Journal.andThen body journal fun _ => repeatedJournal body journal count

mutual

/-- What a step reports. -/
def Step.journal (dispatch : Dispatcher) (calls : Call → Journal) : Step → Journal
  | .action action => action.journal dispatch calls
  | .scoped body => fun engine =>
      stepsJournal dispatch calls body (engine.mapScopes ScopeStack.push)
  | .attempt body | .wrap body => stepsJournal dispatch calls body
  | .run body =>
      Journal.script (Program.execSteps dispatch .void body) (stepsJournal dispatch calls body)
  | .load name init => Journal.loading name (stepsJournal dispatch calls init)
  | .loop count body =>
      repeatedJournal (Program.execSteps dispatch .void body) (stepsJournal dispatch calls body)
        count
  | .branch condition onTrue onFalse =>
      Journal.andThen (condition.eval dispatch) (condition.journal dispatch calls) fun value =>
        if value.isTruthy then stepsJournal dispatch calls onTrue
        else stepsJournal dispatch calls onFalse
termination_by structural step => step

/-- What steps report. -/
def stepsJournal (dispatch : Dispatcher) (calls : Call → Journal) : List Step → Journal
  | [] => Journal.quiet
  | step :: steps =>
      Journal.andThen (Program.execStep dispatch step) (step.journal dispatch calls)
        fun _ => stepsJournal dispatch calls steps
termination_by structural steps => steps

end

omit [KeyHash] in
/-- A repeated body reports what each repetition does, up to the first that
fails. -/
theorem records_repeated {body : Run Value} {journal : Journal} (records : journal.Records body)
    (last : Value) (count : Nat) :
    (repeatedJournal body journal count).Records (Program.repeated body last count) := by
  induction count generalizing last with
  | zero => exact quiet_pure last
  | succ count ih =>
      exact records.andThen fun value => ih value

mutual

/-- The journal of a step tells what performing it reports. -/
theorem records_execStep (recorded : ∀ call, (calls call).Records (dispatch call)) :
    ∀ step : Step, (step.journal dispatch calls).Records (Program.execStep dispatch step)
  | .action action => records_execAction recorded action
  | .scoped body => (records_execSteps recorded body .void).inScope
  | .attempt body => (records_execSteps recorded body .void).attempt.andQuiet fun _ => quiet_pure _
  | .run body => (records_execSteps recorded body .void).run
  | .wrap body => (records_execSteps recorded body .void).wrapped
  | .load name init =>
      have discarded : (stepsJournal dispatch calls init).Records
          (discard (Program.execSteps dispatch .void init) : Run Unit) :=
        (records_execSteps recorded init .void).andQuiet fun _ => quiet_pure ()
      (discarded.loadModule name).andQuiet fun _ => quiet_pure _
  | .loop count body => records_repeated (records_execSteps recorded body .void) .void count
  | .branch condition onTrue onFalse =>
      (records_eval recorded condition).andThen fun value => by
        split
        · exact records_execSteps recorded onTrue .void
        · exact records_execSteps recorded onFalse .void

/-- The journal of steps tells what performing them reports. -/
theorem records_execSteps (recorded : ∀ call, (calls call).Records (dispatch call)) :
    ∀ (steps : List Step) (last : Value),
      (stepsJournal dispatch calls steps).Records (Program.execSteps dispatch last steps)
  | [], last => quiet_pure last
  | step :: steps, _ =>
      (records_execStep recorded step).andThen fun value => records_execSteps recorded steps value

end

/-! ## Dispatch -/

/-- What the body of a call reports. -/
def Call.journal (dispatch : Dispatcher) (calls : Call → Journal) (call : Call) : Journal :=
  match call.signature.implementation with
  | .library function _ => Journal.native dispatch calls function
  | .native _ body => stepsJournal dispatch calls body
  | .user _ body => stepsJournal dispatch calls body

/-- The journal of a call tells what the body of its signature reports. -/
theorem records_body (recorded : ∀ call, (calls call).Records (dispatch call)) (call : Call) :
    (call.journal dispatch calls).Records (call.body dispatch) := by
  unfold Call.journal Call.body
  cases call.signature.implementation with
  | library function argCount => exact records_native recorded function
  | native argCount body => exact records_execSteps recorded body .void
  | user params body => exact records_execSteps recorded body .void

end Programs

namespace Engine.Journal

/-- What a call reports, given a supply of frames. -/
def dispatch : Nat → Call → Journal
  | 0, _ => quiet
  | frames + 1, call => fun engine =>
      if engine.maxCallDepth ≤ engine.callDepth then []
      else
        match call.entry engine.opened with
        | .ok start => call.journal (Engine.dispatch frames) (Journal.dispatch frames) start
        | .error _ => []

/-- A call reports what its body reports. -/
theorem records_dispatch (frames : Nat) (call : Call) :
    (Journal.dispatch frames call).Records (Engine.dispatch frames call) := by
  -- By the supply of frames: the calls of a body have one less.
  induction frames generalizing call with
  | zero =>
      intro engine
      rcases Nat.lt_or_ge engine.callDepth engine.maxCallDepth with room | full
      · rw [dispatch_out_of_frames room]
        exact .nothing rfl
      · rw [dispatch_at_cap full]
        exact .nothing rfl
  | succ frames ih =>
      intro engine
      unfold Journal.dispatch
      rcases Nat.lt_or_ge engine.callDepth engine.maxCallDepth with room | full
      · rw [if_neg (Nat.not_le.mpr room), dispatch_framed room]
        cases entered : call.entry engine.opened with
        | error error =>
            rw [framed_of_error entered]
            exact .nothing rfl
        | ok start =>
            obtain ⟨left, ended⟩ := framed_of_ok entered (call.body (Engine.dispatch frames))
            obtain ⟨scopes, slots, rfl⟩ := Call.exists_entry entered
            rw [ended]
            exact (records_body ih call _).congr rfl rfl
      · rw [if_pos full, dispatch_at_cap full]
        exact .nothing rfl

end Engine.Journal

end ScriptCore
