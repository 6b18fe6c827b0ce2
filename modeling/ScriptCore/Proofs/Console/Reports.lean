import Mathlib.Data.List.DropRight
import ScriptCore.OrderedMap.Spread
import ScriptCore.Proofs.Console.Sessions
import ScriptCore.Proofs.Engine.Reachable
import ScriptCore.Proofs.Program.Journals

/-!
# Reports

Whatever a host does with an engine has a journal, and so has a body from the
point where it starts. The messages that an engine has produced since its last
drain follow from these journals, without regard to the buffer. The buffer then
turns out to be the newest 256 of them.

A script that fails reports this as the last thing it does. So the last pending
report is the failure, and an application that shows the failure itself can drop
this report and print all others.
-/

namespace ScriptCore

open Engine ReportEvent

/-! ## Journals of a host -/

section

variable [KeyHash]

namespace Engine.Journal

/-- What a call reports that takes its supply of frames from the engine. -/
def supplied (supply : Engine → Nat) (call : Call) : Journal := fun engine =>
  Journal.dispatch (supply engine) call engine

theorem records_supplied (supply : Engine → Nat) (call : Call) :
    (Journal.supplied supply call).Records (Engine.supplied supply call) :=
  fun engine => records_dispatch (supply engine) call engine

/-- What a call of the engine reports. -/
def dispatcher : Call → Journal :=
  Journal.supplied fun engine => engine.maxCallDepth + spareFrames

theorem records_dispatcher (call : Call) :
    (Journal.dispatcher call).Records (Engine.dispatcher call) := by
  rw [dispatcher_eq]
  exact records_supplied _ call

omit [KeyHash] in
/-- What follows a computation that cannot fail may be quiet. -/
theorem Records.sequence
    {α β : Type}
    {journal : Journal}
    {first : StateM Engine α}
    {next : α → StateM Engine β}
    (begins : journal.Records first)
    (goesOn : ∀ value, quiet.Records (next value)) :
    journal.Records (first >>= next) := by
  intro engine
  have whole := (begins engine).trans (goesOn (first engine).1 (first engine).2)
  rw [quiet, List.append_nil] at whole
  exact whole

end Engine.Journal

open Journal

/-- What an operation reports. -/
def Operation.journal (calls : Call → Journal) : Operation → Journal
  | .signature callee args => calls { signature := callee, args, receiver? := none }
  | .function callee args => Journal.callFunction calls callee args
  | .named name args => Journal.callByName calls name args
  | .value callee args => Journal.callValue calls callee args
  | .method receiver name args => Journal.callMethod calls receiver name args
  | .construct className args => Journal.instantiate calls className args

/-- The journal of an operation tells what performing it reports. -/
theorem Operation.records_perform
    {dispatch : Dispatcher}
    {calls : Call → Journal}
    (recorded : ∀ call, (calls call).Records (dispatch call))
    (operation : Operation) :
    (operation.journal calls).Records (operation.perform dispatch) := by
  cases operation with
  | signature callee args => exact recorded _
  | function callee args => exact records_callFunction recorded callee args
  | named name args => exact records_callByName recorded name args
  | value callee args => exact records_callValue recorded callee args
  | method receiver name args => exact records_callMethod recorded receiver name args
  | construct className args => exact records_instantiate recorded className args

/-- What the script of a line reports. -/
def Line.journal : Line → Journal
  | .empty => quiet
  | .command _ => quiet
  | .binding name literal => Journal.script (Session.bindLine name literal) quiet
  | .call name args =>
      Journal.script (Session.callLine name args)
        (Journal.andThen (Session.resolveAll args) quiet
          (Journal.callByName Journal.dispatcher name))

/-- What the evaluation of a line reports, which ends with a drain. -/
def Session.journal (text : String) : Journal := fun engine =>
  match Line.parse text with
  | .error _ => []
  | .ok line => line.journal engine ++ [.drain]

/-- A line that is not empty and no command is a script. -/
def Prompt.isScript (text : String) : Bool :=
  text.toList.head?.any (· != ':')

/-- What the shell reports when it answers a line. -/
def Prompt.journal (line : String) : Journal :=
  match Text.applyBackspaces? line.toList with
  | none => quiet
  | some chars =>
      let text := String.ofList (Text.trim chars)
      if isScript text then Session.journal text else quiet

/-- What an event reports. -/
def HostEvent.journal : HostEvent → Journal
  | step program => program.journal Engine.dispatcher Journal.dispatcher
  | call operation => operation.journal Journal.dispatcher
  | line text => Session.journal text
  | answer text => Prompt.journal text
  | enableSafeMode => quiet

namespace Session

theorem quiet_resolve (literal : Literal) : quiet.Records (resolve literal) :=
  records_quiet fun engine => by rw [resolve_state]

/-- Resolving arguments reports nothing. -/
theorem quiet_resolveAll (literals : List Literal) : quiet.Records (resolveAll literals) := by
  induction literals with
  | nil => exact quiet_pure []
  | cons literal literals ih =>
      refine (quiet_resolve literal).andQuiet fun _ => ?_
      exact ih.andQuiet fun _ => quiet_pure _

/-- The journal of a line tells what running it reports. -/
theorem records_runLine (line : Line) : line.journal.Records (runLine line) := by
  cases line with
  | empty => exact records_quiet fun _ => rfl
  | command text => exact records_quiet fun _ => rfl
  | binding name literal =>
      have bound : quiet.Records (bindLine name literal) := by
        refine (quiet_resolve literal).andQuiet fun value => ?_
        exact (quiet_assign name value).andQuiet fun _ => quiet_pure _
      exact bound.run
  | call name args =>
      have called := (quiet_resolveAll args).andThen fun values =>
        records_callByName records_dispatcher name values
      exact called.run

theorem records_evalLine (text : String) : (Session.journal text).Records (evalLine text) := by
  intro engine
  unfold Session.journal evalLine
  cases Line.parse text with
  | error error => exact .nothing rfl
  | ok line => exact (records_runLine line engine).trans (.drained rfl)

omit [KeyHash] in
/-- Enabling safe mode reports nothing. -/
theorem quiet_enableSafeMode : quiet.Records enableSafeMode := by
  intro engine
  unfold enableSafeMode
  rw [get_bind_eq]
  cases engine.safeMode.set true <;> exact .nothing rfl

end Session

namespace Prompt

omit [KeyHash] in
/-- A command of the prompt reports nothing. -/
theorem quiet_runCommand (command : Command) : quiet.Records (runCommand command) := by
  cases command with
  | safe =>
      refine Session.quiet_enableSafeMode.sequence fun outcome => ?_
      cases outcome <;> exact records_quiet fun _ => rfl
  | _ => exact records_quiet fun _ => rfl

theorem records_runScript (text : String) : (Session.journal text).Records (runScript text) := by
  refine (Session.records_evalLine text).sequence fun outcome => ?_
  cases outcome <;> exact records_quiet fun _ => rfl

/-- An answer of the prompt reports what the line does if it is a script, and
nothing otherwise. -/
theorem records_answerChars (chars : List Char) :
    Records (if isScript (String.ofList (Text.trim chars)) then
        Session.journal (String.ofList (Text.trim chars)) else quiet) (answerChars chars) := by
  unfold answerChars
  generalize String.ofList (Text.trim chars) = text
  dsimp only
  by_cases script : isScript text = true
  · rw [if_pos script]
    unfold isScript at script
    split
    · next empty => simp [empty] at script
    · next command => simp [command] at script
    · exact records_runScript text
  · rw [if_neg script]
    unfold isScript at script
    split
    · exact records_quiet fun _ => rfl
    · cases commands.lookup text with
      | none => exact records_quiet fun _ => rfl
      | some command => exact quiet_runCommand command
    · next filled other =>
        rcases shape : text.toList with _ | ⟨first, rest⟩
        · exact (filled shape).elim
        · have notCommand : first ≠ ':' := fun same => other rest (same ▸ shape)
          simp [shape, notCommand] at script

theorem records_answer (line : String) : (Prompt.journal line).Records (answer line) := by
  unfold Prompt.journal answer
  cases Text.applyBackspaces? line.toList with
  | none => exact records_quiet fun _ => rfl
  | some chars => exact records_answerChars chars

end Prompt

theorem HostEvent.plays (event : HostEvent) (engine : Engine) :
    Plays (event.journal engine) engine (event.perform engine) := by
  cases event with
  | step program => exact records_execStep records_dispatcher program engine
  | call operation => exact operation.records_perform records_dispatcher engine
  | line text => exact Session.records_evalLine text engine
  | answer text => exact Prompt.records_answer text engine
  | enableSafeMode => exact Session.quiet_enableSafeMode engine

/-! ## Messages since the last drain -/

namespace Engine

/-- The messages that an engine has produced since its last drain. Hosts also
call functions by name, each as a script of its own. The other engines are those
that a body sees. -/
inductive Produced : Engine → List String → Prop where
  | new (settings : Settings) (host : Host) : Produced (Engine.new settings host) []
  | event {engine : Engine} {messages : List String} (event : HostEvent)
      (before : Produced engine messages) :
      Produced (event.perform engine) (pending messages (event.journal engine))
  | call {engine : Engine} {messages : List String} (name : String) (args : List Value)
      (before : Produced engine messages) :
      Produced (run (Engine.call name args) engine).2
        (pending messages (Journal.script (Engine.call name args)
          (Journal.callByName Journal.dispatcher name args) engine))
  | frame {engine : Engine} {messages : List String} (before : Produced engine messages) :
      Produced engine.opened messages
  | parameter {engine : Engine} {messages : List String} (name : String) (value : Value)
      (before : Produced engine messages) :
      Produced (engine.define name value) messages
  | arguments {engine : Engine} {messages : List String} (slots : List Value)
      (before : Produced engine messages) :
      Produced { engine with slots } messages
  | script {engine : Engine} {messages : List String} (before : Produced engine messages) :
      Produced { engine with exception := .normal } messages
  | init {engine : Engine} {messages : List String} (before : Produced engine messages) :
      Produced { engine with loading := some .empty } messages
  | step {engine : Engine} {messages : List String} (frames : Nat) (program : Program)
      (before : Produced engine messages) :
      Produced (Program.exec (dispatch frames) program engine).2
        (pending messages (stepsJournal (dispatch frames) (Journal.dispatch frames) program engine))

/-- Every reachable engine has a history of messages. -/
theorem Reachable.exists_produced {engine : Engine} (reachable : Reachable engine) :
    ∃ messages, Produced engine messages := by
  induction reachable with
  | new settings host => exact ⟨_, .new settings host⟩
  | event event _ produced => exact produced.imp' _ fun _ => .event event
  | frame _ produced => exact produced.imp fun _ => .frame
  | parameter name value _ produced => exact produced.imp fun _ => .parameter name value
  | arguments slots _ produced => exact produced.imp fun _ => .arguments slots
  | script _ produced => exact produced.imp fun _ => .script
  | init _ produced => exact produced.imp fun _ => .init
  | step frames program _ produced => exact produced.imp' _ fun _ => .step frames program

/-- The reports of an engine are the newest of all the messages in its history. -/
theorem Produced.retains {engine : Engine} {messages : List String}
    (produced : Produced engine messages) : engine.Retains messages := by
  induction produced with
  | new settings host => rfl
  | event event _ retains => exact event.plays _ _ retains
  | call name args _ retains =>
      exact (records_callByName records_dispatcher name args).run _ _ retains
  | frame _ retains => exact retains
  | parameter name value _ retains => exact retains
  | arguments slots _ retains => exact retains
  | script _ retains => exact retains
  | init _ retains => exact retains
  | step frames program _ retains =>
      exact records_execSteps (records_dispatch frames) program .void _ _ retains

omit [KeyHash] in
/-- A script that fails reports it last. -/
theorem exists_reports_of_run_error
    {body : Run Value}
    {engine after : Engine}
    {error : ScriptError}
    (failed : run body engine = (.error (.error error), after)) :
    ∃ kept, after.reports = kept ++ [error.report] := by
  rcases ended : body { engine with exception := .normal } with ⟨outcome, left⟩
  -- The script passes on every other outcome, and this one is an error.
  by_cases raised : ∃ thrown, outcome = .error (.error thrown)
  · obtain ⟨thrown, rfl⟩ := raised
    rw [run_error ended] at failed
    cases failed
    exact ⟨_, reports_settle error left⟩
  · rw [run_pass (by simpa using raised) ended] at failed
    cases failed
    exact (raised ⟨error, rfl⟩).elim

end Engine

/-! ## Calls of the application -/

/-- Values read from the command line have no functions in them. -/
theorem Literal.only_of_parseValues
    {tokens : List String}
    {values : List Value}
    (parsed : parseValues tokens = .ok values) :
    ∀ value ∈ values, value.Only Signature.IsBuiltin := by
  induction tokens generalizing values with
  | nil =>
      cases parsed
      exact fun _ member => nomatch member
  | cons token tokens ih =>
      have only := isBuiltin_parse token
      unfold parseValues at parsed
      cases literal : parse token with
      | reference name =>
          rw [literal] at parsed
          cases parsed
      | value first =>
          rw [literal] at parsed only
          cases rest : parseValues tokens with
          | error error =>
              rw [rest] at parsed
              cases parsed
          | ok others =>
              rw [rest] at parsed
              cases parsed
              exact List.forall_mem_cons.mpr ⟨only, ih rest⟩

end

namespace Application

variable {engine after : Engine} {name : String} {tokens : List String} {values : List Value}

section

variable [KeyHash]

theorem perform_install (engine : Engine) :
    HostEvent.perform engine (.step (.action .install)) = (installLibrary engine).2 := by
  simp only [HostEvent.perform, Engine.execStep, Program.execStep, Program.execAction]
  rw [Run.bind_pure_eq]

/-- A new engine with its library has reported nothing. -/
theorem produced_newEngine
    (settings : Settings)
    (shell : CommandShell)
    (environment : Environment) :
    Produced (newEngine settings shell environment) [] := by
  have installed := Produced.event (.step (.action .install))
    (.new settings (.new shell environment))
  rw [perform_install] at installed
  exact installed

/-- A call on a new engine returns a value or fails with an error. -/
theorem call_ends
    (rest : engine.AtRest)
    (only : ∀ value ∈ values, value.Only Signature.IsBuiltin)
    (name : String) :
    ∃ after, (∃ value, Engine.run (Engine.call name values) engine = (.ok value, after)) ∨
      ∃ error, Engine.run (Engine.call name values) engine = (.error (.error error), after) := by
  have during : (answering engine.scopes engine.maxCallDepth 0).during
      { engine with exception := .normal } :=
    ⟨⟨rfl, rest.callDepth, rest.slots⟩, rfl⟩
  have ended := answering_call rest.scopes name only _ during
  rcases called : Engine.call name values { engine with exception := .normal } with
    ⟨outcome, after⟩
  rw [called] at ended
  cases outcome with
  | ok value => exact ⟨after, .inl ⟨value, run_pass (by simp) called⟩⟩
  | error failure =>
      obtain ⟨error, rfl⟩ := ended
      exact ⟨settle error after, .inr ⟨error, run_error called⟩⟩

/-- A call that succeeds prints its value, with the reports as warnings, and exits
with zero. -/
theorem callOnce_of_ok
    {value : Value}
    (parsed : Literal.parseValues tokens = .ok values)
    (ended : Engine.run (Engine.call name values) engine = (.ok value, after))
    (asJson : Bool) :
    callOnce engine name tokens asJson =
      { code := 0, out := resultText asJson value, err := warnings after.reports } := by
  have ran : (Engine.run (Engine.call name values)).run.run engine = (.ok value, after) := ended
  unfold callOnce
  rw [parsed]
  dsimp only
  rw [ran]

/-- A call that fails prints its error, with the earlier reports as warnings, and
exits with one. -/
theorem callOnce_of_error
    {error : ScriptError}
    {kept : List String}
    (parsed : Literal.parseValues tokens = .ok values)
    (ended : Engine.run (Engine.call name values) engine = (.error (.error error), after))
    (reported : after.reports = kept ++ [error.report])
    (asJson : Bool) :
    callOnce engine name tokens asJson =
      { code := 1
        out := ""
        err := warnings kept ++ Prompt.lines ["Error: " ++ error.display] } := by
  have ran : (Engine.run (Engine.call name values)).run.run engine =
    (.error (.error error), after) := ended
  unfold callOnce
  rw [parsed]
  dsimp only
  rw [ran]
  dsimp only
  rw [reported, List.dropLast_concat]
  rfl

/-- The messages that a call on a new engine produces. -/
def callMessages
    (settings : Settings)
    (shell : CommandShell)
    (environment : Environment)
    (name : String)
    (values : List Value) :
    List String :=
  pending [] (Journal.script (Engine.call name values)
    (Journal.callByName Journal.dispatcher name values) (newEngine settings shell environment))

/-- What a call shows that ended in some way after some messages: all pending ones
as warnings, except that the message of an error, which is the last, is shown as
the error itself. -/
inductive Shows (asJson : Bool) (messages : List String) :
    Except Failure Value → Output → Prop where
  | value (value : Value) :
      Shows asJson messages (.ok value)
        { code := 0, out := resultText asJson value, err := warnings (messages.rtake 256) }
  | error {error : ScriptError} {kept : List String}
      (last : messages.rtake 256 = kept ++ [error.report]) :
      Shows asJson messages (.error (.error error))
        { code := 1
          out := ""
          err := warnings kept ++ Prompt.lines ["Error: " ++ error.display] }

/-- A single call shows the newest of the messages produced, and how it ended. -/
theorem shows_callOnce
    {messages : List String}
    (rest : engine.AtRest)
    (parsed : Literal.parseValues tokens = .ok values)
    (produced : Produced (Engine.run (Engine.call name values) engine).2 messages)
    (asJson : Bool) :
    Shows asJson messages (Engine.run (Engine.call name values) engine).1
      (callOnce engine name tokens asJson) := by
  have reports : (Engine.run (Engine.call name values) engine).2.reports = messages.rtake 256 :=
    produced.retains
  obtain ⟨after, ⟨value, ended⟩ | ⟨error, ended⟩⟩ :=
    call_ends rest (Literal.only_of_parseValues parsed) name
  · rw [ended] at reports ⊢
    rw [callOnce_of_ok parsed ended, reports]
    exact .value value
  · obtain ⟨kept, reported⟩ := exists_reports_of_run_error ended
    rw [ended] at reports ⊢
    rw [callOnce_of_error parsed ended reported]
    exact .error (reports.symm.trans reported)

/-- The pending reports are the newest of the messages since the last drain, in
order. The last one after a script that failed is the failure, so that a failed
call prints every report but this one. -/
theorem reports_are_the_newest_messages :
    (∀ engine messages, Produced engine messages → engine.reports = messages.rtake 256) ∧
      (∀ engine, Reachable engine → ∃ messages, Produced engine messages) ∧
      (∀ body engine error after, Engine.run body engine = (.error (.error error), after) →
        after.reports.getLast? = some error.report) ∧
      ∀ settings shell environment name tokens values asJson,
        Literal.parseValues tokens = .ok values →
        Shows asJson (callMessages settings shell environment name values)
          (Engine.run (Engine.call name values) (newEngine settings shell environment)).1
          (callOnce (newEngine settings shell environment) name tokens asJson) := by
  refine ⟨fun _ _ produced => produced.retains, fun _ => Reachable.exists_produced, ?_, ?_⟩
  · intro body engine error after failed
    obtain ⟨kept, reported⟩ := exists_reports_of_run_error failed
    rw [reported, List.getLast?_concat]
  · intro settings shell environment name tokens values asJson parsed
    have new := produced_newEngine settings shell environment
    have rest := atRest_newEngine settings shell environment
    unfold callMessages
    generalize newEngine settings shell environment = engine at new rest ⊢
    exact shows_callOnce rest parsed (.call name values new) asJson

end

/-- A script that complains more often than the buffer is long, and then fails. -/
def complaints : HostEvent :=
  .step (.run [.loop 300 [.action (.nonfatal (.int 7) none)], .action (.throw (.int 8))])

/-- The sample produces 301 messages, more than are kept. -/
theorem produced_complaints :
    Produced (complaints.perform (Engine.new {} .bare))
      (List.replicate 300 "7" ++ ["Unhandled exception: 8"]) := by
  have messages : pending [] (complaints.journal (Engine.new {} .bare)) =
      List.replicate 300 "7" ++ ["Unhandled exception: 8"] := by
    decide +kernel
  rw [← messages]
  exact .event complaints (.new {} .bare)

/-- The oldest complaints are gone and the failure is last. A call shows its
failure once, and a command that a host without a shell cannot start as a
warning. -/
theorem complaints_are_reported :
    (complaints.perform (Engine.new {} .bare)).reports =
        List.replicate 255 "7" ++ ["Unhandled exception: 8"] ∧
      (∃ messages, Produced (Engine.new {} .bare) messages) ∧
      (Engine.run (Run.fail (.undefinedVariable "x"))
        (Engine.new {} .bare)).2.reports.getLast? =
          some (ScriptError.report { cause := .undefinedVariable "x" }) ∧
      Shows false (callMessages {} .missing .empty "no_such_function" [])
        (Engine.run (Engine.call "no_such_function" []) (newEngine {} .missing .empty)).1
        (callOnce (newEngine {} .missing .empty) "no_such_function" [] false) ∧
      Shows false ["system: No such file or directory (os error 2)"]
        (Engine.run (Engine.call "system" [.ofText "ls"]) (newEngine {} .missing .empty)).1
        (callOnce (newEngine {} .missing .empty) "system" ["ls"] false) := by
  obtain ⟨newest, reached, last, shown⟩ := reports_are_the_newest_messages
  have unstarted : callMessages {} .missing .empty "system" [.ofText "ls"] =
      ["system: No such file or directory (os error 2)"] := by
    decide +kernel
  refine ⟨?_, ?_, ?_, ?_, ?_⟩
  · rw [newest _ _ produced_complaints]
    decide +kernel
  · exact reached _ (.new {} .bare)
  · exact last _ _ _ _ (run_error rfl)
  · exact shown {} .missing .empty "no_such_function" [] [] false rfl
  · rw [← unstarted]
    exact shown {} .missing .empty "system" ["ls"] [.ofText "ls"] false rfl

end Application

end ScriptCore
