import ScriptCore.Proofs.Engine.Entries
import ScriptCore.Proofs.Engine.ScopeChanges

/-!
# Journals

A journal lists what a computation does to the pending reports: messages that it
adds and drains that empty the buffer. The buffer keeps the newest messages
only, so a journal cannot be read off from it; it is given along with the
computation, as a function of the engine on which the computation starts. A
journal records a computation if the buffer ends up with the newest of the
messages that the journal leaves pending.
-/

namespace ScriptCore

/-- What happens to the pending reports. -/
inductive ReportEvent where
  | message (text : String)
  | drain
deriving DecidableEq

namespace ReportEvent

/-- The messages since the last drain, given those from before. -/
def pending (messages : List String) : List ReportEvent → List String
  | [] => messages
  | message text :: events => pending (messages ++ [text]) events
  | drain :: events => pending [] events

/-- Events leave the messages that their parts leave one after the other. -/
theorem pending_append (messages : List String) (events later : List ReportEvent) :
    pending messages (events ++ later) = pending (pending messages events) later := by
  induction events generalizing messages with
  | nil => rfl
  | cons event events ih => cases event <;> exact ih _

end ReportEvent

namespace Engine

open ReportEvent

/-! ## The buffer -/

/-- The newest of some messages, as many as a buffer may hold. -/
def newestReports (messages : List String) : List String :=
  messages.drop (messages.length - maxReports)

/-- A buffer of the newest messages stays one when a message is added: it is full
just when one of them has to go. -/
theorem pushReport_newestReports (messages : List String) (text : String) :
    pushReport (newestReports messages) text = newestReports (messages ++ [text]) := by
  have positive : 0 < maxReports := by decide
  unfold pushReport newestReports
  generalize maxReports = capacity at positive ⊢
  rw [List.length_append, List.length_singleton, List.length_drop]
  dsimp only
  split
  · next full =>
    have oneMore : messages.length + 1 - capacity = messages.length - capacity + 1 := by omega
    rw [oneMore, List.tail_drop]
    exact (List.drop_append_of_le_length (by omega)).symm
  · next free =>
    have noneNow : messages.length + 1 - capacity = 0 := by omega
    have noneBefore : messages.length - capacity = 0 := by omega
    rw [noneNow, noneBefore, List.drop_zero, List.drop_zero]

/-- An engine retains the newest of some messages. -/
def Retains (messages : List String) (engine : Engine) : Prop :=
  engine.reports = newestReports messages

/-- Events turn the messages that one engine retains into those of another. -/
def Plays (events : List ReportEvent) (before after : Engine) : Prop :=
  ∀ messages, before.Retains messages → after.Retains (pending messages events)

namespace Plays

variable {before middle after : Engine} {events later : List ReportEvent}

theorem nothing (same : after.reports = before.reports) : Plays [] before after :=
  fun _ retains => same.trans retains

/-- A report is played by its message. -/
theorem report (engine : Engine) (text : String) :
    Plays [.message text] engine (engine.report text) := by
  intro messages retains
  simp only [Retains, Engine.report, pending] at retains ⊢
  rw [retains, pushReport_newestReports]

/-- Taking the reports is played by a drain. -/
theorem drained (empty : after.reports = []) : Plays [.drain] before after := by
  intro messages _
  simp only [Retains, pending, empty, newestReports, List.drop_nil]

/-- Events one after the other are played one after the other. -/
theorem trans (first : Plays events before middle) (second : Plays later middle after) :
    Plays (events ++ later) before after := by
  intro messages retains
  rw [pending_append]
  exact second _ (first messages retains)

/-- Only the reports of the two engines matter. -/
theorem congr {before' after' : Engine} (plays : Plays events before after)
    (start : before'.reports = before.reports) (finish : after'.reports = after.reports) :
    Plays events before' after' :=
  fun messages retains => finish.trans (plays messages (start.symm.trans retains))

end Plays

/-! ## Journals of computations -/

/-- What a computation does to the pending reports, by the engine on which it
starts. -/
abbrev Journal := Engine → List ReportEvent

namespace Journal

/-- Nothing happens. -/
def quiet : Journal := fun _ => []

/-- Two computations in a row. The second starts where the first ended, unless
that one failed. -/
def andThen {α : Type} (first : Run α) (journal : Journal) (next : α → Journal) : Journal :=
  fun engine => journal engine ++
    match first engine with
    | (.ok value, middle) => next value middle
    | (.error _, _) => []

/-- A journal tells what a computation does. -/
def Records {β : Type} (journal : Journal) (body : Engine → β × Engine) : Prop :=
  ∀ engine, Plays (journal engine) engine (body engine).2

variable {α β : Type} {journal : Journal}

/-- What leaves the reports alone has a quiet journal. -/
theorem records_quiet {body : Engine → β × Engine}
    (same : ∀ engine, (body engine).2.reports = engine.reports) : quiet.Records body :=
  fun engine => .nothing (same engine)

/-- The journal of a sequence is that of its first part, and then that of the rest
if there was no failure. -/
theorem Records.andThen {first : Run α} {next : α → Run β} {later : α → Journal}
    (begins : journal.Records first) (goesOn : ∀ value, (later value).Records (next value)) :
    (Journal.andThen first journal later).Records (first >>= next) := by
  intro engine
  have begun := begins engine
  unfold Journal.andThen
  rcases ended : first engine with ⟨outcome, middle⟩
  rw [ended] at begun
  cases outcome with
  | ok value =>
      rw [Run.bind_ok ended]
      exact begun.trans (goesOn value middle)
  | error failure =>
      rw [Run.bind_error ended]
      exact begun.trans (.nothing rfl)

/-- What follows a computation may be quiet. -/
theorem Records.andQuiet {first : Run α} {next : α → Run β} (begins : journal.Records first)
    (goesOn : ∀ value, quiet.Records (next value)) : journal.Records (first >>= next) := by
  intro engine
  have whole := begins.andThen goesOn engine
  have same : Journal.andThen first journal (fun _ => quiet) engine = journal engine := by
    unfold Journal.andThen
    rcases first engine with ⟨outcome, middle⟩
    cases outcome <;> exact List.append_nil _
  rwa [same] at whole

end Journal

/-! ## Quiet computations -/

namespace Journal

variable {α : Type}

theorem quiet_pure (value : α) : quiet.Records (pure value : Run α) :=
  records_quiet fun _ => rfl

theorem quiet_fail (cause : Cause) (hint : String) :
    quiet.Records (Run.failWithHint cause hint : Run α) :=
  records_quiet fun _ => rfl

/-- Reading the engine reports nothing by itself. -/
theorem quiet_reading {next : Engine → Run α} (goesOn : ∀ engine, quiet.Records (next engine)) :
    quiet.Records (get >>= next) :=
  fun engine => goesOn engine engine

theorem Records.lift {journal : Journal} {body : StateM Engine α} (records : journal.Records body) :
    journal.Records (liftM body : Run α) :=
  records

variable [KeyHash]

theorem quiet_getVariable (name : String) : quiet.Records (getVariable name) := by
  refine quiet_reading fun engine => ?_
  cases engine.scopes.get? name with
  | none => exact quiet_fail _ _
  | some value => exact quiet_pure value

theorem quiet_assign (name : String) (value : Value) : quiet.Records (assign name value) := by
  intro engine
  unfold assign
  rw [Run.get_bind]
  cases engine.scopes.assign name value <;> exact .nothing rfl

omit [KeyHash] in
theorem quiet_buildSignature (spec : SignatureSpec) : quiet.Records (buildSignature spec) := by
  intro engine
  unfold buildSignature
  rw [Run.get_bind]
  cases Signature.build engine.nextSignature spec <;> exact .nothing rfl

omit [KeyHash] in
theorem quiet_buildSignatures (specs : List SignatureSpec) :
    quiet.Records (buildSignatures specs) := by
  induction specs with
  | nil => exact quiet_pure []
  | cons spec specs ih =>
      refine (quiet_buildSignature spec).andQuiet fun signature => ?_
      exact ih.andQuiet fun signatures => quiet_pure _

theorem quiet_register (spec : SignatureSpec) : quiet.Records (register spec) :=
  (quiet_buildSignature spec).andQuiet fun _ => records_quiet fun _ => rfl

theorem quiet_unbindWhere (condition : Binding → Bool) (name : String) :
    quiet.Records (unbindWhere condition name) := by
  intro engine
  unfold unbindWhere
  rw [get_bind_eq]
  cases engine.scopes.global.get? name with
  | none => exact .nothing rfl
  | some binding =>
      dsimp only
      split <;> exact .nothing rfl

end Journal

/-! ## Privileged operations -/

/-- In safe mode an operation is refused with a report. -/
def Journal.privileged (operation : String) (granted : Journal) : Journal := fun engine =>
  if engine.safeMode.isEnabled then [.message (operation ++ " is disabled in safe mode")]
  else granted engine

namespace Journal

variable {α : Type} {granted : Journal} {operation : String}

/-- In safe mode an operation is refused with a report. -/
theorem allowPrivileged_on
    {engine : Engine}
    (enabled : engine.safeMode.isEnabled = true)
    (operation : String) :
    allowPrivileged operation engine =
      (false, engine.report (operation ++ " is disabled in safe mode")) := by
  rcases allowPrivileged_cases operation engine with refusal | ⟨off, -⟩
  · exact refusal
  · rw [enabled] at off
    cases off

/-- In safe mode the journal of an operation is the refusal. -/
theorem privileged_on {engine : Engine} (enabled : engine.safeMode.isEnabled = true)
    (operation : String) (granted : Journal) :
    privileged operation granted engine =
      [.message (operation ++ " is disabled in safe mode")] :=
  if_pos enabled

theorem privileged_off {engine : Engine} (off : engine.safeMode.isEnabled = false)
    (operation : String) (granted : Journal) :
    privileged operation granted engine = granted engine :=
  if_neg (Bool.eq_false_iff.mp off)

/-- A computation starts with a privileged operation. -/
theorem records_allowPrivileged
    {next : Bool → StateM Engine α}
    (refused : quiet.Records (next false))
    (goesOn : granted.Records (next true)) :
    (privileged operation granted).Records (allowPrivileged operation >>= next) := by
  intro engine
  change Plays _ engine (next (allowPrivileged operation engine).1
    (allowPrivileged operation engine).2).2
  cases enabled : engine.safeMode.isEnabled with
  | true =>
      rw [allowPrivileged_on enabled, privileged_on enabled]
      exact (Plays.report engine _).trans (refused _)
  | false =>
      rw [allowPrivileged_off enabled, privileged_off enabled]
      exact goesOn engine

/-- A native starts with a privileged operation. -/
theorem records_privileged
    {body : Run α}
    (records : granted.Records body)
    (refused : α) :
    (privileged operation granted).Records
      ((liftM (allowPrivileged operation) : Run Bool) >>= fun allowed =>
        if allowed = true then body else pure refused) := by
  have whole : (privileged operation granted).Records (allowPrivileged operation >>= fun allowed =>
      ExceptT.run (if allowed = true then body else pure refused)) :=
    records_allowPrivileged (records_quiet fun _ => rfl) records
  exact whole

variable [KeyHash]

/-- Unloading a module reports that it is not loaded, or that it is not
allowed. -/
theorem records_unloadModule (name : String) :
    (privileged "module unloading" fun engine =>
      if (engine.modules.get? name).isSome then []
      else [.message ("module " ++ name ++ " is not loaded")]).Records (unloadModule name) := by
  refine records_allowPrivileged (records_quiet fun _ => rfl) fun engine => ?_
  rw [if_pos rfl, get_bind_eq]
  cases engine.modules.get? name with
  | none => exact .report engine _
  | some names =>
      refine .nothing ?_
      exact removeNames_untouched Engine.reports (fun _ _ => rfl) (fun _ _ => rfl) names _

end Journal

/-! ## Handlers -/

end Engine

/-- What is reported of an error that nobody handled. -/
def ScriptError.report (error : ScriptError) : String :=
  match error.payload? with
  | some payload => "Unhandled exception: " ++ payload.display
  | none => error.message

namespace Engine

/-- Settling an error adds its report. -/
theorem reports_settle (error : ScriptError) (engine : Engine) :
    (settle error engine).reports = (engine.report error.report).reports := by
  unfold settle ScriptError.report
  cases error.payload? <;> simp only [Engine.report, restore]

namespace Journal

/-- A script of its own: an error is reported at its end. -/
def script (body : Run Value) (journal : Journal) : Journal := fun engine =>
  let start := { engine with exception := .normal }
  journal start ++
    match (body start).1 with
    | .error (.error error) => [.message error.report]
    | _ => []

variable [KeyHash]

/-- The loading of a module. -/
def loading (name : String) (journal : Journal) : Journal :=
  privileged "module loading" fun engine =>
    if engine.modules.contains name then
      [.message ("module " ++ name ++ " is already loaded")]
    else journal { engine with loading := some .empty }

variable {journal : Journal} {body : Run Value}

omit [KeyHash] in
theorem Records.inScope {α : Type} {body : Run α} (records : journal.Records body) :
    Records (fun engine => journal (engine.mapScopes ScopeStack.push)) (inScope body) :=
  fun engine => (records (engine.mapScopes ScopeStack.push)).congr rfl rfl

omit [KeyHash] in
/-- A handler reports what its body does. -/
theorem Records.attempt (records : journal.Records body) : journal.Records (attempt body) := by
  intro engine
  have inside := records engine
  rcases ended : body engine with ⟨outcome, after⟩
  rw [ended] at inside
  cases outcome with
  | ok value =>
      rw [attempt_ok ended]
      exact inside.congr rfl rfl
  | error failure =>
      cases failure with
      | error error =>
          obtain ⟨exception, left⟩ := attempt_error ended
          rw [left]
          exact inside.congr rfl rfl
      | fault message =>
          rw [attempt_pass (by simp) ended]
          exact inside
      | exhausted =>
          rw [attempt_pass (by simp) ended]
          exact inside

omit [KeyHash] in
/-- A script reports what its body does, and then the error with which it
fails. -/
theorem Records.run (records : journal.Records body) :
    (script body journal).Records (run body) := by
  intro engine
  have inside := records { engine with exception := .normal }
  unfold script
  rcases ended : body { engine with exception := .normal } with ⟨outcome, after⟩
  rw [ended] at inside
  dsimp only
  rw [ended]
  cases outcome with
  | ok value =>
      rw [run_pass (by simp) ended]
      exact (inside.trans (.nothing rfl)).congr rfl rfl
  | error failure =>
      cases failure with
      | error error =>
          rw [run_error ended]
          exact (inside.trans (.report after _)).congr rfl (reports_settle error after)
      | fault message =>
          rw [run_pass (by simp) ended]
          exact (inside.trans (.nothing rfl)).congr rfl rfl
      | exhausted =>
          rw [run_pass (by simp) ended]
          exact (inside.trans (.nothing rfl)).congr rfl rfl

omit [KeyHash] in
/-- Turning errors into exceptions reports nothing more. -/
theorem Records.wrapped (records : journal.Records body) : journal.Records (wrapped body) := by
  intro engine
  rw [wrapped_state]
  exact records engine

/-- How the loading of a module ends makes no difference to the reports. -/
theorem reports_loadedBy (name : String) (engine : Engine) (ended : Except Failure Unit × Engine) :
    (loadedBy name engine ended).2.reports = ended.2.reports := by
  obtain ⟨outcome, after⟩ := ended
  rcases outcome with failure | value
  · cases failure with
    | error error =>
        exact removeNames_untouched Engine.reports (fun _ _ => rfl) (fun _ _ => rfl) _ _
    | fault message => rfl
    | exhausted => rfl
  · rfl

/-- Loading a module reports what its routine does, or why it is not loaded. -/
theorem Records.loadModule {init : Run Unit} (records : journal.Records init) (name : String) :
    (loading name journal).Records (loadModule name init) := by
  intro engine
  unfold loading
  cases enabled : engine.safeMode.isEnabled with
  | true =>
      rw [privileged_on enabled]
      unfold Engine.loadModule
      rw [Run.bind_ok (by rw [Run.lift_eq, allowPrivileged_on enabled])]
      exact Plays.report engine _
  | false =>
      rw [privileged_off enabled]
      cases known : engine.modules.contains name with
      | true =>
          rw [if_pos rfl]
          unfold Engine.loadModule
          rw [Run.bind_ok (by rw [Run.lift_eq, allowPrivileged_off enabled]), if_pos rfl,
            Run.get_bind, if_pos known]
          exact Plays.report engine _
      | false =>
          rw [if_neg Bool.false_ne_true, loadModule_fresh enabled known]
          exact (records { engine with loading := some .empty }).congr rfl
            (reports_loadedBy name engine _)

end Journal

end Engine
end ScriptCore
