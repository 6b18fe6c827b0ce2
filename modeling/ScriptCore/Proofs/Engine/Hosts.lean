import ScriptCore.Console.Application
import ScriptCore.Proofs.Engine.Balance

/-!
# Hosts

A host runs steps of its own on an engine, makes calls, and evaluates lines in a
session or in the shell. All of this comes down to edits, calls and scripts, so
whatever these keep of an engine is kept by every event of a host.
-/

namespace ScriptCore

/-- What a host does with an engine: run a step of its own, make a call, evaluate
a line in a session or in the shell, or turn safe mode on. -/
inductive HostEvent where
  | step (program : Step)
  | call (operation : Operation)
  | line (text : String)
  | answer (text : String)
  | enableSafeMode

variable [KeyHash]

namespace HostEvent

open Engine

/-- The engine after an event. -/
def perform (engine : Engine) : HostEvent → Engine
  | step program => (execStep program engine).2
  | call operation => (operation.perform dispatcher engine).2
  | line text => (Session.evalLine text engine).2
  | answer text => (Prompt.answer text engine).2
  | enableSafeMode => (Session.enableSafeMode engine).2

end HostEvent

theorem Session.resolve_state (literal : Literal) (engine : Engine) :
    (resolve literal engine).2 = engine := by
  cases literal with
  | value content => rfl
  | reference name => exact Engine.getVariable_state name engine

namespace Engine

variable {relation : Engine → Engine → Prop}

/-- What bodies with every right keep, given that inner calls keep it, is kept by
calls of any depth. -/
theorem dispatch_keeps
    (refl : ∀ engine, relation engine engine)
    (kept : ∀ {dispatch : Dispatcher}, (∀ call, Respects relation (dispatch call)) →
      Kept dispatch .all relation)
    (framed : ∀ {engine after : Engine}, relation engine.opened after →
      relation engine (after.restore engine.depth engine.callDepth))
    (frames : Nat)
    (call : Call) :
    Respects relation (dispatch frames call) := by
  rw [← Policy.dispatch_all frames]
  refine Policy.dispatch_respects refl ?_ frames call
  intro dispatch calls call engine
  have keeps : Kept dispatch Rights.all relation := kept calls
  have admits : Admits relation engine.opened.depth :=
    fun engine _ name value => keeps.edit (.define engine name value rfl)
  have inside :
      relation engine.opened (Policy.invoke (fun _ => .all) dispatch call engine.opened).2 :=
    Kept.invoke keeps admits call
  exact framed inside

/-- What calls respect with any number of frames they respect with a supply of
frames. -/
theorem supplied_respects
    (calls : ∀ frames call, Respects relation (dispatch frames call))
    (supply : Engine → Nat)
    (call : Call) :
    Respects relation (supplied supply call) :=
  fun engine => calls (supply engine) call engine

theorem dispatcher_respects
    (calls : ∀ frames call, Respects relation (dispatch frames call))
    (call : Call) :
    Respects relation (dispatcher call) := by
  rw [dispatcher_eq]
  exact supplied_respects calls _ call

namespace Kept

/-! ## Bodies -/

/-- A body with every right keeps what its edits and its calls keep. -/
theorem exec {dispatch : Dispatcher} (kept : Kept dispatch .all relation) (program : Program) :
    Respects relation (Program.exec dispatch program).run := by
  have steps := kept.execSteps .void program
  rw [Rights.execSteps_all] at steps
  exact steps

/-- A script respects a relation if its body does. -/
theorem script
    {dispatch : Dispatcher}
    (kept : Kept dispatch .all relation)
    {body : Run Value}
    (respects : Respects relation body.run) :
    Respects relation (Engine.run body).run := by
  have ran := kept.run respects
  have everything : Rights.failOnlyIf (fun _ => Rights.all.resets) body = body :=
    Rights.failOnlyIf_of_true (fun _ => rfl) body
  rw [everything] at ran
  exact ran

/-- Two computations in a row. -/
theorem sequence
    {dispatch : Dispatcher}
    {rights : Rights}
    (kept : Kept dispatch rights relation)
    {α β : Type}
    {first : StateM Engine α}
    {next : α → StateM Engine β}
    (firstRespects : Respects relation first)
    (nextRespects : ∀ value, Respects relation (next value)) :
    Respects relation (first >>= next) :=
  fun engine => kept.trans (firstRespects engine) (nextRespects (first engine).1 (first engine).2)

/-! ## Lines -/

section Events

variable (kept : Kept dispatcher .all relation)
include kept

theorem resolve (literal : Literal) : Respects relation (Session.resolve literal).run := by
  intro engine
  change relation engine (Session.resolve literal engine).2
  rw [Session.resolve_state]
  exact kept.refl engine

theorem resolveAll (literals : List Literal) :
    Respects relation (Session.resolveAll literals).run := by
  induction literals with
  | nil => exact kept.refl
  | cons literal literals ih =>
      refine kept.andThen (kept.resolve literal) fun _ => ?_
      exact kept.andThen ih fun _ => kept.refl

theorem bindLine (name : String) (literal : Literal) :
    Respects relation (Session.bindLine name literal).run := by
  refine kept.andThen (kept.resolve literal) fun value => kept.andThen ?_ fun _ => kept.refl
  exact fun engine => kept.of_edits (assign_stays rfl)

theorem callLine (name : String) (args : List Literal) :
    Respects relation (Session.callLine name args).run := by
  refine kept.andThen (kept.resolveAll args) fun values engine => ?_
  change relation engine (callByName dispatcher name values engine).2
  rcases Operation.callByName_state dispatcher name values engine with same | ⟨call, called⟩
  · rw [same]
    exact kept.refl engine
  · rw [called]
    exact kept.edit (.call call engine)

/-- A line of a session respects a relation that edits keep. -/
theorem runLine (line : Line) : Respects relation (Session.runLine line) := by
  cases line with
  | empty => exact kept.refl
  | command text => exact kept.refl
  | binding name literal =>
      exact kept.sequence (kept.script (kept.bindLine name literal)) fun _ => kept.refl
  | call name args =>
      exact kept.sequence (kept.script (kept.callLine name args)) fun _ => kept.refl

theorem evalLine (line : String) : Respects relation (Session.evalLine line) := by
  unfold Session.evalLine
  cases Line.parse line with
  | error error => exact kept.refl
  | ok line =>
      refine kept.sequence (kept.runLine line) fun value => ?_
      exact kept.sequence (fun engine => kept.edit (.takeReports engine)) fun _ => kept.refl

theorem enableSafeMode : Respects relation Session.enableSafeMode := by
  intro engine
  unfold Session.enableSafeMode
  rw [get_bind_eq]
  cases accepted : engine.safeMode.set true with
  | ok safeMode => exact kept.edit (.setSafeMode engine true safeMode accepted)
  | error error => exact kept.refl engine

/-! ## The shell -/

theorem runCommand (command : Prompt.Command) : Respects relation (Prompt.runCommand command) := by
  cases command with
  | safe =>
      refine kept.sequence kept.enableSafeMode fun outcome => ?_
      cases outcome <;> exact kept.refl
  | _ => exact kept.refl

/-- An answer of the prompt respects a relation that edits keep. -/
theorem answer (line : String) : Respects relation (Prompt.answer line) := by
  unfold Prompt.answer
  cases Text.applyBackspaces? line.toList with
  | none => exact kept.refl
  | some chars =>
      change Respects relation (Prompt.answerChars chars)
      unfold Prompt.answerChars
      dsimp only
      split
      · exact kept.refl
      · cases Prompt.commands.lookup (String.ofList (Text.trim chars)) with
        | none => exact kept.refl
        | some command => exact kept.runCommand command
      · refine kept.sequence (kept.evalLine _) fun outcome => ?_
        cases outcome <;> exact kept.refl

/-! ## Events -/

/-- Every event of the host respects a relation that edits keep. -/
theorem perform (event : HostEvent) (engine : Engine) :
    relation engine (event.perform engine) := by
  cases event with
  | step program =>
      have steps := kept.execStep program
      rw [Rights.execStep_all] at steps
      exact steps engine
  | call operation =>
      change relation engine (operation.perform dispatcher engine).2
      rcases operation.perform_state dispatcher engine with same | ⟨call, called⟩
      · rw [same]
        exact kept.refl engine
      · rw [called]
        exact kept.edit (.call call engine)
  | line text => exact kept.evalLine text engine
  | answer text => exact kept.answer text engine
  | enableSafeMode => exact kept.enableSafeMode engine

end Events

end Kept
end Engine
end ScriptCore
