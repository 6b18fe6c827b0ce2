import ScriptCore.OrderedMap.Spread
import ScriptCore.Proofs.Engine.Balance
import ScriptCore.Proofs.Program.Twins

/-!
# The cap on nested calls

A counted evaluation is an ordinary one that also counts the calls that are
active. It compares the count with the depth of calls of the engine, and with
the cap, before and after every step, around every native and at every call. If
they differ, the whole program ends at once, and no handler catches that.

In tame programs counting makes no difference: the calls that are active are
always as many as the engine says, and never more than the cap allows. Every
call moves one level closer to the cap, where calls fail, so an evaluation needs
no more frames than there are levels left. It ends, and how it ends does not
depend on the supply of frames.
-/

namespace ScriptCore

open Engine

/-! ## Counted evaluation -/

/-- Whether the depth of calls is the number of active calls, within the cap. -/
def Engine.countsCalls (engine : Engine) (active : Nat) : Bool :=
  engine.callDepth == active && decide (active ≤ engine.maxCallDepth)

section

variable [KeyHash]

namespace Counted

/-- Run a body, but end the program if the depth of calls is not the number of
active calls before or after it. -/
def checked (active : Nat) (body : Run Value) : Run Value := ExceptT.mk do
  if (← get).countsCalls active then
    let outcome ← body.run
    if (← get).countsCalls active then return outcome
    else return .error .exhausted
  else return .error .exhausted

mutual

/-- Run a step while the given number of calls is active. -/
def execStep (active : Nat) (dispatch : Dispatcher) : Step → Run Value
  | .action action => Program.execAction dispatch action
  | .scoped body => inScope (execSteps active dispatch .void body)
  | .attempt body => return (← attempt (execSteps active dispatch .void body)).toValue
  | .run body => run (execSteps active dispatch .void body)
  | .wrap body => wrapped (execSteps active dispatch .void body)
  | .load name init =>
      return .bool (← loadModule name (discard (execSteps active dispatch .void init)))
  | .loop count body => Program.repeated (execSteps active dispatch .void body) .void count
  | .branch condition onTrue onFalse => do
      let value ← condition.eval dispatch
      if value.isTruthy then execSteps active dispatch .void onTrue
      else execSteps active dispatch .void onFalse
termination_by structural step => step

/-- Run steps in order, with a check around each of them. -/
def execSteps (active : Nat) (dispatch : Dispatcher) (last : Value) : List Step → Run Value
  | [] => return last
  | step :: steps => do
      let value ← checked active (execStep active dispatch step)
      execSteps active dispatch value steps
termination_by structural steps => steps

end

/-- Run a program while the given number of calls is active. -/
def exec (active : Nat) (dispatch : Dispatcher) (program : Program) : Run Value :=
  execSteps active dispatch .void program

/-- Run the implementation of a call, which is one of the active ones. -/
def invoke (active : Nat) (dispatch : Dispatcher) (call : Call) : StateM Engine Reply :=
  match call.signature.implementation with
  | .library function _ => invokeNative call (checked active (Library.exec dispatch function))
  | .native _ body => invokeNative call (exec active dispatch body)
  | .user params body => invokeUser call params (exec active dispatch body)

/-- Run a call with a supply of frames while the given number of calls is
active. Its body runs with one more. -/
def dispatch : Nat → Nat → Dispatcher
  | active, frames, call => do
    let engine ← get
    if engine.countsCalls active then
      if engine.maxCallDepth ≤ engine.callDepth then
        let overflow : ScriptError := { cause := .stackOverflow engine.maxCallDepth }
        return { outcome := .error (.error overflow), receiver? := call.receiver? }
      else
        match frames with
        | 0 => return { outcome := .error .exhausted, receiver? := call.receiver? }
        | frames + 1 =>
            guarded do
              modify deepen
              invoke (active + 1) (dispatch (active + 1) frames) call
    else return { outcome := .error .exhausted, receiver? := call.receiver? }

/-- A counting dispatcher that takes its supply of frames from the engine. -/
def supplied (active : Nat) (supply : Engine → Nat) : Dispatcher := fun call => do
  dispatch active (supply (← get)) call

end Counted

section

variable {depth cap : Nat}

omit [KeyHash] in
theorem Engine.Within.countsCalls {engine : Engine} (within : Within depth cap engine)
    (bounded : depth ≤ cap) : engine.countsCalls depth = true := by
  simp [Engine.countsCalls, within.callDepth, within.maxCallDepth, bounded]

namespace Counted

omit [KeyHash] in
theorem checked_eq
    {active : Nat}
    {body : Run Value}
    {engine : Engine}
    (before : engine.countsCalls active = true)
    (after : (body engine).2.countsCalls active = true) :
    checked active body engine = body engine := by
  rcases ended : body engine with ⟨outcome, left⟩
  rw [ended] at after
  unfold checked
  simp only [ExceptT.mk, ExceptT.run, bind, StateT.bind, get, getThe, MonadStateOf.get, StateT.get,
    pure, before, if_true, ended, after]
  rfl

omit [KeyHash] in
theorem agree_checked
    {first second : Run Value}
    (bounded : depth ≤ cap)
    (agree : Agree depth cap Value.Tame first second) :
    Agree depth cap Value.Tame first (checked depth second) := by
  intro engine within
  obtain ⟨same, inside, proper⟩ := agree engine within
  change second engine = first engine at same
  change Within depth cap (first engine).2 at inside
  refine ⟨?_, inside, proper⟩
  rw [← same] at inside
  exact (checked_eq (within.countsCalls bounded) (inside.countsCalls bounded)).trans same

/-! ## Steps -/

mutual

/-- Counting makes no difference to a tame step. A script may be started where
no call is active. -/
theorem agree_execStep
    {first second : Dispatcher}
    (twins : Twins depth cap first second)
    (bounded : depth ≤ cap)
    {top : Bool}
    (atTop : top = true → depth = 0) :
    ∀ step : Step, step.isTame top = true →
      Agree depth cap Value.Tame (Program.execStep first step) (execStep depth second step)
  | .action _, tame => Program.agree_execAction twins tame
  | .scoped body, tame => (agree_execSteps twins bounded atTop body tame Value.tame_void).inScope
  | .attempt body, tame =>
      (agree_execSteps twins bounded atTop body tame Value.tame_void).attempt.andReturn
        fun _ outcome => outcome.toValue
  | .run body, tame => by
      -- Only an outermost step may start a script, and there no call is active.
      obtain ⟨isTop, tameBody⟩ := Bool.and_eq_true_iff.mp tame
      have agree := agree_execSteps twins bounded atTop body tameBody Value.tame_void
      have rests := atTop isTop
      subst rests
      exact agree.run
  | .wrap body, tame => (agree_execSteps twins bounded atTop body tame Value.tame_void).wrapped
  | .load name init, tame =>
      (((agree_execSteps twins bounded atTop init tame Value.tame_void).andReturn
        fun _ _ => trivial).loadModule name).andReturn fun _ _ => by simp
  | .loop count body, tame =>
      (agree_execSteps twins bounded atTop body tame Value.tame_void).repeated Value.tame_void count
  | .branch condition onTrue onFalse, tame => by
      obtain ⟨tameRest, tameFalse⟩ := Bool.and_eq_true_iff.mp tame
      obtain ⟨tameCondition, tameTrue⟩ := Bool.and_eq_true_iff.mp tameRest
      refine (agree_eval twins condition tameCondition).bind fun value _ => ?_
      split
      · exact agree_execSteps twins bounded atTop onTrue tameTrue Value.tame_void
      · exact agree_execSteps twins bounded atTop onFalse tameFalse Value.tame_void

theorem agree_execSteps
    {first second : Dispatcher}
    (twins : Twins depth cap first second)
    (bounded : depth ≤ cap)
    {top : Bool}
    (atTop : top = true → depth = 0) :
    ∀ steps : List Step, Program.isTame top steps = true → ∀ {last : Value}, last.Tame →
      Agree depth cap Value.Tame (Program.execSteps first last steps)
        (execSteps depth second last steps)
  | [], _, _, last => Agree.pure last
  | step :: steps, tame, _, _ =>
      have parts := Bool.and_eq_true_iff.mp tame
      (agree_checked bounded (agree_execStep twins bounded atTop step parts.1)).bind
        fun _ value => agree_execSteps twins bounded atTop steps parts.2 value

end

/-! ## Calls -/

/-- Counting makes no difference to the body of a call. -/
theorem alike_invoke
    {first second : Dispatcher}
    {call : Call}
    (twins : Twins depth cap first second)
    (bounded : depth ≤ cap)
    (tame : call.Tame) :
    Alike depth cap Reply.Tame (Engine.invoke first call) (invoke depth second call) := by
  have body : call.signature.implementation.isTame = true := tame.signature
  have inCall : false = true → depth = 0 := fun top => nomatch top
  unfold Engine.invoke invoke
  cases running : call.signature.implementation with
  | library function argCount =>
      exact alike_invokeNative (agree_checked bounded (Library.agree_exec twins function)) tame
  | native argCount steps =>
      rw [running] at body
      have agree := agree_execSteps twins bounded inCall steps body Value.tame_void
      exact alike_invokeNative agree tame
  | user params steps =>
      rw [running] at body
      have agree := agree_execSteps twins bounded inCall steps body Value.tame_void
      exact alike_invokeUser agree tame params

/-- At the cap a counted call overflows. -/
theorem dispatch_at_cap
    {engine : Engine}
    {active : Nat}
    (counts : engine.countsCalls active = true)
    (full : engine.maxCallDepth ≤ engine.callDepth)
    (frames : Nat)
    (call : Call) :
    dispatch active frames call engine =
      ({ outcome := .error (.error { cause := .stackOverflow engine.maxCallDepth })
         receiver? := call.receiver? }, engine) := by
  unfold dispatch
  simp only [bind, StateT.bind, get, getThe, MonadStateOf.get, StateT.get, pure, counts, full,
    if_true]
  rfl

/-- Below the cap a counted call runs in a frame, with one more active call. -/
theorem dispatch_below
    {engine : Engine}
    {active : Nat}
    (counts : engine.countsCalls active = true)
    (room : engine.callDepth < engine.maxCallDepth)
    (frames : Nat)
    (call : Call) :
    dispatch active (frames + 1) call engine =
      guarded (modify deepen >>= fun _ => invoke (active + 1) (dispatch (active + 1) frames) call)
        engine := by
  have below : ¬ engine.maxCallDepth ≤ engine.callDepth := Nat.not_le.mpr room
  rw [dispatch]
  simp only [bind, StateT.bind, get, getThe, MonadStateOf.get, StateT.get, pure, counts, below,
    if_true]
  rfl

/-- At the cap no frame is needed. -/
theorem twins_at_cap (bounded : depth ≤ cap) (full : cap ≤ depth) (frames frames' : Nat) :
    Twins depth cap (Engine.dispatch frames) (dispatch depth frames') := by
  intro call tame engine within
  have atCap : engine.maxCallDepth ≤ engine.callDepth := by
    rw [within.callDepth, within.maxCallDepth]
    exact full
  rw [Engine.dispatch_at_cap atCap, dispatch_at_cap (within.countsCalls bounded) atCap]
  refine ⟨rfl, within, ?_, tame.receiver⟩
  intro payload member
  cases member

/-- As many frames as there are levels left below the cap are enough, and any
two such supplies do the same. -/
theorem twins_dispatch
    {frames frames' : Nat}
    (bounded : depth ≤ cap)
    (enough : cap - depth ≤ frames)
    (enough' : cap - depth ≤ frames') :
    Twins depth cap (Engine.dispatch frames) (dispatch depth frames') := by
  -- By the frames of the plain dispatcher: each call takes one of them, and one
  -- of the levels below the cap.
  induction frames generalizing depth frames' with
  | zero =>
      have full : cap ≤ depth := by omega
      exact twins_at_cap bounded full 0 frames'
  | succ frames ih =>
      rcases Nat.lt_or_ge depth cap with room | full
      · obtain ⟨fewer, rfl⟩ : ∃ fewer, frames' = fewer + 1 := ⟨frames' - 1, by omega⟩
        have deeper : Twins (depth + 1) cap (Engine.dispatch frames) (dispatch (depth + 1) fewer) :=
          ih room (by omega) (by omega)
        intro call tame engine within
        have below : engine.callDepth < engine.maxCallDepth := by
          rw [within.callDepth, within.maxCallDepth]
          exact room
        rw [Engine.dispatch_below below, dispatch_below (within.countsCalls bounded) below]
        exact Alike.framed (alike_invoke deeper room tame) engine within
      · exact twins_at_cap bounded full (frames + 1) frames'

end Counted

/-! ## Evaluations that end -/

/-- A supply with a frame for every level that is left below the cap. -/
def Ample (supply : Engine → Nat) : Prop :=
  ∀ engine : Engine, engine.maxCallDepth - engine.callDepth ≤ supply engine

omit [KeyHash] in
theorem ample_maxCallDepth : Ample Engine.maxCallDepth :=
  fun engine => Nat.sub_le engine.maxCallDepth engine.callDepth

/-- The dispatcher of an engine has an ample supply. -/
theorem exists_ample_dispatcher : ∃ supply, Ample supply ∧ dispatcher = Engine.supplied supply :=
  ⟨_, fun engine => (ample_maxCallDepth engine).trans (Nat.le_add_right _ _), dispatcher_eq⟩

theorem Counted.twins_supplied
    {supply supply' : Engine → Nat}
    (bounded : depth ≤ cap)
    (ample : Ample supply)
    (ample' : Ample supply') :
    Twins depth cap (Engine.supplied supply) (supplied depth supply') := by
  intro call tame engine within
  have enough := ample engine
  have enough' := ample' engine
  rw [within.callDepth, within.maxCallDepth] at enough enough'
  exact twins_dispatch bounded enough enough' call tame engine within

/-- An evaluation that ends by itself. It does the same with every ample supply
of frames, and with its active calls counted; it leaves a tame engine with the
depth of calls and the cap from before. -/
structure Bounded
    {α : Type}
    (outcome : α → Except Failure Value)
    (plain counted : Dispatcher → StateM Engine α)
    (engine : Engine) : Prop where
  supplied : ∀ supply, Ample supply →
    plain (Engine.supplied supply) engine = plain dispatcher engine
  counted : ∀ supply, Ample supply →
    counted (Counted.supplied engine.callDepth supply) engine = plain dispatcher engine
  ends : outcome (plain dispatcher engine).1 ≠ .error .exhausted
  callDepth : (plain dispatcher engine).2.callDepth = engine.callDepth
  maxCallDepth : (plain dispatcher engine).2.maxCallDepth = engine.maxCallDepth
  tame : (plain dispatcher engine).2.Tame

/-- What is alike under all twin dispatchers ends by itself. -/
theorem Bounded.of_alike
    {α : Type}
    {post : α → Prop}
    {outcome : α → Except Failure Value}
    {plain counted : Dispatcher → StateM Engine α}
    {engine : Engine}
    (tame : engine.Tame)
    (bounded : engine.callDepth ≤ engine.maxCallDepth)
    (alike : ∀ first second, Twins engine.callDepth engine.maxCallDepth first second →
      Alike engine.callDepth engine.maxCallDepth post (plain first) (counted second))
    (proper : ∀ value, post value → Proper Value.Tame (outcome value)) :
    Bounded outcome plain counted engine := by
  have within : Within engine.callDepth engine.maxCallDepth engine := ⟨tame, rfl, rfl⟩
  have same {supply supply' : Engine → Nat} (ample : Ample supply) (ample' : Ample supply') :=
    alike _ _ (Counted.twins_supplied bounded ample ample') engine within
  obtain ⟨own, ampleOwn, isOwn⟩ := exists_ample_dispatcher
  obtain ⟨-, inside, holds⟩ := same ampleOwn ampleOwn
  rw [← isOwn] at inside holds
  constructor
  · -- Two plain evaluations agree because both agree with one that counts.
    intro supply ample
    rw [isOwn, ← (same ample ampleOwn).1, (same ampleOwn ampleOwn).1]
  · intro supply ample
    rw [isOwn, (same ampleOwn ample).1]
  · intro exhausted
    have ended := proper _ holds
    rw [exhausted] at ended
    exact ended
  · exact inside.callDepth
  · exact inside.maxCallDepth
  · exact inside.tame

/-! ## Operations -/

/-- An operation with tame values. -/
def Operation.Tame : Operation → Prop
  | .signature callee args => callee.Tame ∧ ∀ arg ∈ args, arg.Tame
  | .function callee args => callee.Tame ∧ ∀ arg ∈ args, arg.Tame
  | .named _ args => ∀ arg ∈ args, arg.Tame
  | .value callee args => callee.Tame ∧ ∀ arg ∈ args, arg.Tame
  | .method receiver _ args => receiver.Tame ∧ ∀ arg ∈ args, arg.Tame
  | .construct _ args => ∀ arg ∈ args, arg.Tame

/-- Under twin dispatchers a tame operation goes alike. -/
theorem Twins.perform
    {first second : Dispatcher}
    (twins : Twins depth cap first second)
    {operation : Operation}
    (tame : operation.Tame) :
    Alike depth cap Reply.Tame (operation.perform first) (operation.perform second) := by
  have replies {first second : Run Value} (agree : Agree depth cap Value.Tame first second) :
      Alike depth cap Reply.Tame (Operation.replyOf first) (Operation.replyOf second) :=
    Alike.bind agree fun _ proper => Alike.pure ⟨proper, fun _ member => nomatch member⟩
  cases operation with
  | signature callee args => exact replies (twins.callSignature tame.1 tame.2)
  | function callee args => exact replies (twins.callFunction tame.1 tame.2)
  | named name args => exact replies (twins.callByName name tame)
  | value callee args => exact replies (twins.callValue tame.1 tame.2)
  | method receiver name args => exact twins.callMethod name tame.1 tame.2
  | construct className args => exact replies (twins.instantiate className tame)

end

/-! ## The cap bounds all recursion -/

/-- A call at the cap fails with an overflow and leaves everything as it was. On
a tame engine, every tame call, every operation and every tame program is an
evaluation that ends by itself, with as many active calls at any time as the
depth of calls says, and never more than the cap. A program may start scripts of
its own only where no call is active. -/
theorem call_depth_bounds_recursion :
    (∀ (engine : Engine) (frames : Nat) (call : Call), engine.maxCallDepth ≤ engine.callDepth →
      dispatch frames call engine =
        ({ outcome := .error (.error { cause := .stackOverflow engine.maxCallDepth })
           receiver? := call.receiver? }, engine)) ∧
    ∀ engine : Engine, engine.Tame → engine.callDepth ≤ engine.maxCallDepth →
      (∀ call : Call, call.Tame →
        Bounded Reply.outcome (fun dispatch => dispatch call) (fun dispatch => dispatch call)
          engine) ∧
      (∀ operation : Operation, operation.Tame →
        Bounded Reply.outcome operation.perform operation.perform engine) ∧
      ∀ program : Program, Program.isTame (decide (engine.callDepth = 0)) program = true →
        Bounded id (fun dispatch => (Program.exec dispatch program).run)
          (fun dispatch => (Counted.exec engine.callDepth dispatch program).run) engine := by
  refine ⟨fun engine frames call full => dispatch_at_cap full frames call, ?_⟩
  intro engine tame bounded
  refine ⟨?_, ?_, ?_⟩
  · intro call tameCall
    exact Bounded.of_alike tame bounded (fun _ _ twins => twins call tameCall)
      fun _ reply => reply.outcome
  · intro operation tameOperation
    exact Bounded.of_alike tame bounded (fun _ _ twins => twins.perform tameOperation)
      fun _ reply => reply.outcome
  · intro program tameProgram
    refine Bounded.of_alike tame bounded ?_ fun _ proper => proper
    intro first second twins
    exact Counted.agree_execSteps twins bounded of_decide_eq_true program tameProgram
      Value.tame_void

end

/-- A native that starts a script of its own, which fails. -/
def restartingSignature : Signature where
  id := 0
  name := "restart"
  prototype := ⟨[]⟩
  returns := 'v'
  implementation := .native 0 [.attempt [.run [.action (.throw .void)]]]

-- The failed script puts the depth of calls back to zero while its native is
-- still active, and counting notices it.
example : ¬ restartingSignature.Tame := by decide

example :
    (Counted.supplied 0 Engine.maxCallDepth
      { signature := restartingSignature, args := [], receiver? := none }
      (Engine.new {} .bare)).1.outcome = .error .exhausted := by
  rfl

/-- A native that makes the same call twice: once with a handler around it, and
once for every element of an array. -/
def pingSignature : Signature where
  id := 0
  name := "ping"
  prototype := ⟨[.any]⟩
  returns := '?'
  implementation := .native 1
    [.attempt [.action (.call "pong" [.slot 0])],
      .action (.call "map" [.str (Utf8.encode "pong"), .array [.item .void, .item .void]])]

/-- A native that calls back. -/
def pongSignature : Signature where
  id := 1
  name := "pong"
  prototype := ⟨[.any]⟩
  returns := '?'
  implementation := .native 1 [.action (.call "ping" [.slot 0])]

/-- The native of the library that calls a function for every element. -/
def mapSignature : Signature where
  id := 2
  name := "map"
  prototype := ⟨[.any, .forced .array]⟩
  returns := 'a'
  implementation := .library .map 2

/-- An engine on which calls may nest three deep, with two natives that call each
other without end. -/
def recursiveEngine : Engine :=
  (((Engine.new { maxCallDepth := 3 } .bare).registerSignature
    pingSignature).registerSignature pongSignature).registerSignature mapSignature

/-- A script that starts the recursion, and a step after it. -/
def recursiveProgram : Program :=
  [.attempt [.run [.action (.call "ping" [.void])]], .action .reports]

/-- A function that calls itself without end overflows at the cap, and what called
it ends. -/
theorem endless_recursion_ends_at_the_cap :
    dispatch 0 { signature := pingSignature, args := [.void], receiver? := none }
        { recursiveEngine with callDepth := 3 } =
      ({ outcome := .error (.error { cause := .stackOverflow 3 }), receiver? := none },
        { recursiveEngine with callDepth := 3 }) ∧
      Bounded id (fun dispatch => (Program.exec dispatch recursiveProgram).run)
        (fun dispatch => (Counted.exec 0 dispatch recursiveProgram).run) recursiveEngine ∧
      Bounded Reply.outcome (Operation.named "ping" [.void]).perform
        (Operation.named "ping" [.void]).perform recursiveEngine ∧
      ((Operation.named "ping" [.void]).perform dispatcher recursiveEngine).1.outcome =
        .error (.error { cause := .stackOverflow 3 }) := by
  have ping : pingSignature.Tame := by decide
  have pong : pongSignature.Tame := by decide
  have map : mapSignature.Tame := by decide
  have within : Within 0 3 (Engine.new { maxCallDepth := 3 } .bare) :=
    ⟨tame_new _ _, rfl, rfl⟩
  have tame : recursiveEngine.Tame :=
    (((within.registerSignature ping).registerSignature pong).registerSignature map).tame
  have ends := call_depth_bounds_recursion.2 recursiveEngine tame (by decide)
  have bounded := ends.2.1 (.named "ping" [.void]) (by simp [Operation.Tame])
  refine ⟨call_depth_bounds_recursion.1 _ 0 _ (by decide), ends.2.2 recursiveProgram (by decide),
    bounded, ?_⟩
  rw [← bounded.supplied Engine.maxCallDepth ample_maxCallDepth]
  rfl

end ScriptCore
