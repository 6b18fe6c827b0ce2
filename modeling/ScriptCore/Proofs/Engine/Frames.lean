import ScriptCore.Proofs.Engine.ScopeChanges

/-!
# Frames of calls

A call opens a frame, prepares it with its arguments, runs its body and closes
the frame again. What a body keeps is kept by the whole invocation, provided
that it does not mind the variables of the frame; and what every invocation
keeps is kept by calls of any depth.
-/

namespace ScriptCore
variable [KeyHash]

namespace Engine

/-- The engine inside the frame of a call that has just begun. -/
def opened (engine : Engine) : Engine :=
  deepen (engine.mapScopes ScopeStack.push)

/-- At the cap a call fails and leaves everything as it was. -/
theorem dispatch_at_cap
    {engine : Engine}
    (full : engine.maxCallDepth ≤ engine.callDepth)
    (frames : Nat)
    (call : Call) :
    dispatch frames call engine =
      ({ outcome := .error (.error { cause := .stackOverflow engine.maxCallDepth })
         receiver? := call.receiver? }, engine) := by
  unfold dispatch
  simp only [bind, StateT.bind, get, getThe, MonadStateOf.get, StateT.get, pure, full, if_true]
  rfl

/-- Below the cap a call runs its implementation in a frame of its own. -/
theorem dispatch_below
    {engine : Engine}
    (room : engine.callDepth < engine.maxCallDepth)
    (frames : Nat)
    (call : Call) :
    dispatch (frames + 1) call engine =
      guarded (modify deepen >>= fun _ => invoke (dispatch frames) call) engine := by
  have below : ¬ engine.maxCallDepth ≤ engine.callDepth := Nat.not_le.mpr room
  rw [dispatch]
  simp only [bind, StateT.bind, get, getThe, MonadStateOf.get, StateT.get, pure, below]
  rfl

omit [KeyHash] in
/-- Closing a frame that has just been opened. -/
theorem restore_opened (engine : Engine) :
    engine.opened.restore engine.depth engine.callDepth = engine := by
  have scopes : engine.scopes.push.truncate engine.depth = engine.scopes :=
    ScopeStack.truncate_push
  unfold opened restore deepen mapScopes
  rw [scopes]

omit [KeyHash] in
theorem withSlots_eq (slots : List Value) (body : Run Value) (engine : Engine) :
    withSlots slots body engine =
      (((body { engine with slots }).1, (body { engine with slots }).2.slots),
        { (body { engine with slots }).2 with slots := engine.slots }) := rfl

omit [KeyHash] in
/-- A native whose arguments are bound runs on them. -/
theorem invokeNative_function
    {call : Call}
    {bound : List Value}
    (function : call.receiver? = none)
    (binds : call.signature.bind call.args = .ok bound)
    (body : Run Value)
    (engine : Engine) :
    invokeNative call body engine =
      ({ outcome := (withSlots bound body engine).1.1, receiver? := none },
        (withSlots bound body engine).2) := by
  simp only [invokeNative, function, binds]
  rfl

omit [KeyHash] in
theorem invokeNative_method
    {call : Call}
    {receiver : Value}
    {bound : List Value}
    (method : call.receiver? = some receiver)
    (binds : call.signature.bind (receiver :: call.args) = .ok bound)
    (body : Run Value)
    (engine : Engine) :
    invokeNative call body engine =
      ({ outcome := (withSlots (receiver :: bound.tail) body engine).1.1
         receiver? := some ((withSlots (receiver :: bound.tail) body engine).1.2.headD .void) },
        (withSlots (receiver :: bound.tail) body engine).2) := by
  simp only [invokeNative, method, binds]
  rfl

section UserDefined

variable {call : Call} {bound : List Value} {engine : Engine}

theorem invokeUser_refused
    {error : ScriptError}
    (evaluator : engine.hasEvaluator = true)
    (refused : call.signature.bind call.args = .error error)
    (params : List String)
    (body : Run Value) :
    invokeUser call params body engine =
      ({ outcome := .error (.error error), receiver? := call.receiver? }, engine) := by
  simp only [invokeUser, bind, StateT.bind, get, getThe, MonadStateOf.get, StateT.get, pure,
    evaluator, if_true, refused]
  rfl

theorem invokeUser_missing
    (missing : ¬ engine.hasEvaluator = true)
    (params : List String)
    (body : Run Value) :
    invokeUser call params body engine =
      ({ outcome := .error (.error { cause := .missingEvaluator call.signature.name })
         receiver? := call.receiver? }, engine) := by
  simp only [invokeUser, bind, StateT.bind, get, getThe, MonadStateOf.get, StateT.get, pure,
    missing]
  rfl

theorem invokeUser_function
    (evaluator : engine.hasEvaluator = true)
    (function : call.receiver? = none)
    (binds : call.signature.bind call.args = .ok bound)
    (params : List String)
    (body : Run Value) :
    let ended := withSlots [] body (engine.mapScopes fun scopes => bindParams scopes params bound)
    invokeUser call params body engine =
      ({ outcome := ended.1.1, receiver? := none }, ended.2) := by
  simp only [invokeUser, bind, StateT.bind, get, getThe, MonadStateOf.get, StateT.get, pure,
    evaluator, if_true, binds, function]
  rfl

/-- A user-defined method runs with its receiver defined as well, and leaves what
the frame has of it. -/
theorem invokeUser_method
    {receiver : Value}
    (evaluator : engine.hasEvaluator = true)
    (method : call.receiver? = some receiver)
    (binds : call.signature.bind call.args = .ok bound)
    (params : List String)
    (body : Run Value) :
    let framed := engine.mapScopes fun scopes => bindParams scopes params bound
    let ended := withSlots [] body (framed.define receiverName receiver)
    invokeUser call params body engine =
      ({ outcome := ended.1.1
         receiver? := some
          ((ended.2.bindingAt? (framed.depth - 1) receiverName).getD .void) }, ended.2) := by
  simp only [invokeUser, bind, StateT.bind, get, getThe, MonadStateOf.get, StateT.get, pure,
    evaluator, if_true, binds, method]
  rfl

end UserDefined

/-- A user-defined body does not start, or it runs with its parameters bound; a
method finds its receiver in its frame and leaves it there. -/
theorem invokeUser_cases
    (call : Call)
    (params : List String)
    (body : Run Value)
    (engine : Engine) :
    (∃ outcome, invokeUser call params body engine =
        ({ outcome, receiver? := call.receiver? }, engine)) ∨
      ∃ bound : List Value,
        let framed := engine.mapScopes fun scopes => bindParams scopes params bound
        (call.receiver? = none ∧
            let ended := withSlots [] body framed
            invokeUser call params body engine =
              ({ outcome := ended.1.1, receiver? := none }, ended.2)) ∨
          ∃ receiver, call.receiver? = some receiver ∧
            let ended := withSlots [] body (framed.define receiverName receiver)
            invokeUser call params body engine =
              ({ outcome := ended.1.1
                 receiver? := some
                  ((ended.2.bindingAt? (framed.depth - 1) receiverName).getD .void) },
                ended.2) := by
  by_cases evaluator : engine.hasEvaluator = true
  · cases binds : call.signature.bind call.args with
    | error error => exact .inl ⟨_, invokeUser_refused evaluator binds params body⟩
    | ok bound =>
        right
        refine ⟨bound, ?_⟩
        cases receiver : call.receiver? with
        | none => exact .inl ⟨rfl, invokeUser_function evaluator receiver binds params body⟩
        | some value =>
            exact .inr ⟨value, rfl, invokeUser_method evaluator receiver binds params body⟩
  · exact .inl ⟨_, invokeUser_missing evaluator params body⟩

section Invocation

variable {dispatch : Dispatcher} {rights : Rights} {relation : Engine → Engine → Prop}

theorem Kept.withSlots
    (kept : Kept dispatch rights relation)
    {body : Run Value}
    (respects : Respects relation body.run)
    (slots : List Value) :
    Respects relation (withSlots slots body) := by
  intro engine
  refine kept.trans (kept.edit (.setSlots engine slots)) ?_
  exact kept.trans (respects _) (kept.edit (.setSlots _ engine.slots))

/-- A native respects a relation if its body does. -/
theorem Kept.invokeNative
    (kept : Kept dispatch rights relation)
    {body : Run Value}
    (respects : Respects relation body.run)
    (call : Call) :
    Respects relation (invokeNative call body) := by
  intro engine
  unfold Engine.invokeNative
  cases call.receiver? with
  | none =>
      cases call.signature.bind call.args with
      | error error => exact kept.refl engine
      | ok bound => exact kept.withSlots respects bound engine
  | some receiver =>
      dsimp only
      cases call.signature.bind (receiver :: call.args) with
      | error error => exact kept.refl engine
      | ok bound => exact kept.withSlots respects (receiver :: bound.tail) engine

/-- A frame may get variables. -/
def Admits (relation : Engine → Engine → Prop) (frame : Nat) : Prop :=
  ∀ engine : Engine, engine.depth = frame → ∀ name value,
    relation engine (engine.define name value)

theorem depth_define (engine : Engine) (name : String) (value : Value) :
    (engine.define name value).depth = engine.depth :=
  (engine.scopes.define_rebinds name value).depth

/-- Defining parameters in the frame is an edit that the relation admits. -/
theorem Kept.bindParams
    (kept : Kept dispatch rights relation)
    {frame : Nat}
    (admits : Admits relation frame)
    (params : List String)
    (args : List Value)
    {engine : Engine}
    (inFrame : engine.depth = frame) :
    relation engine (engine.mapScopes fun scopes => bindParams scopes params args) ∧
      (engine.mapScopes fun scopes => Engine.bindParams scopes params args).depth = frame := by
  -- By the parameters: one without an argument is bound to void, and arguments
  -- without a parameter become a variable of their own.
  induction params generalizing args engine with
  | nil =>
      cases args with
      | nil => exact ⟨kept.refl engine, inFrame⟩
      | cons first rest =>
          refine ⟨admits engine inFrame surplusName _, ?_⟩
          rw [← inFrame]
          exact depth_define engine surplusName _
  | cons name params ih =>
      have defined : (engine.define name (args.headD .void)).depth = frame := by
        rw [depth_define, inFrame]
      have rest := ih args.tail defined
      exact ⟨kept.trans (admits engine inFrame name _) rest.1, rest.2⟩

/-- A user-defined body respects a relation that admits its frame if the body
does. -/
theorem Kept.invokeUser
    (kept : Kept dispatch rights relation)
    {body : Run Value}
    (respects : Respects relation body.run)
    {engine : Engine}
    (admits : Admits relation engine.depth)
    (call : Call)
    (params : List String) :
    relation engine (invokeUser call params body engine).2 := by
  rcases invokeUser_cases call params body engine with ⟨outcome, idle⟩ |
    ⟨bound, ⟨-, ran⟩ | ⟨receiver, -, ran⟩⟩
  · rw [idle]
    exact kept.refl engine
  · have framed := kept.bindParams admits params bound rfl
    rw [ran]
    exact kept.trans framed.1 (kept.withSlots respects [] _)
  · have framed := kept.bindParams admits params bound rfl
    rw [ran]
    refine kept.trans framed.1 ?_
    refine kept.trans (admits _ framed.2 receiverName receiver) ?_
    exact kept.withSlots respects [] _

end Invocation

/-! ## Calls -/

/-- A body within its rights, invoked with everything around it. -/
theorem Kept.invoke
    {policy : Policy}
    {dispatch : Dispatcher}
    {relation : Engine → Engine → Prop}
    {engine : Engine}
    (kept : Kept dispatch (policy engine.depth) relation)
    (admits : Admits relation engine.depth)
    (call : Call) :
    relation engine (policy.invoke dispatch call engine).2 := by
  unfold Policy.invoke
  rw [get_bind_eq]
  cases call.signature.implementation with
  | library function argCount =>
      refine kept.invokeNative ?_ call engine
      intro start
      exact kept.of_edits (Library.exec_stays function start)
  | native argCount body => exact kept.invokeNative (kept.execSteps .void body) call engine
  | user params body => exact kept.invokeUser (kept.execSteps .void body) admits call params

end Engine

namespace Policy

open Engine

/-- A call is refused at once, or its invocation runs in a frame of its own. -/
theorem dispatch_cases (policy : Policy) (frames : Nat) (call : Call) (engine : Engine) :
    (∃ outcome, policy.dispatch frames call engine =
        ({ outcome, receiver? := call.receiver? }, engine)) ∨
      ∃ fewer, frames = fewer + 1 ∧
        let ended := policy.invoke (policy.dispatch fewer) call engine.opened
        policy.dispatch frames call engine =
          (ended.1, ended.2.restore engine.depth engine.callDepth) := by
  by_cases atCap : engine.maxCallDepth ≤ engine.callDepth
  · left
    refine ⟨.error (.error { cause := .stackOverflow engine.maxCallDepth }), ?_⟩
    unfold dispatch
    simp only [bind, StateT.bind, get, getThe, MonadStateOf.get, StateT.get, pure, atCap, if_true]
    rfl
  · cases frames with
    | zero =>
        left
        refine ⟨.error .exhausted, ?_⟩
        unfold dispatch
        simp only [bind, StateT.bind, get, getThe, MonadStateOf.get, StateT.get, pure, atCap]
        rfl
    | succ fewer =>
        right
        refine ⟨fewer, rfl, ?_⟩
        rw [dispatch]
        simp only [bind, StateT.bind, get, getThe, MonadStateOf.get, StateT.get, pure, atCap]
        rfl

/-- What one invocation keeps, provided that inner calls keep it, is kept by
calls of any depth. -/
theorem dispatch_respects
    {policy : Policy}
    {relation : Engine → Engine → Prop}
    (refl : ∀ engine, relation engine engine)
    (step : ∀ dispatch : Dispatcher, (∀ call, Respects relation (dispatch call)) →
      ∀ call engine, relation engine
        ((policy.invoke dispatch call engine.opened).2.restore engine.depth engine.callDepth))
    (frames : Nat)
    (call : Call) :
    Respects relation (policy.dispatch frames call) := by
  induction frames generalizing call with
  | zero =>
      intro engine
      rcases policy.dispatch_cases 0 call engine with ⟨outcome, refused⟩ | ⟨fewer, equal, -⟩
      · rw [refused]
        exact refl engine
      · cases equal
  | succ frames ih =>
      intro engine
      rcases policy.dispatch_cases (frames + 1) call engine with
        ⟨outcome, refused⟩ | ⟨fewer, equal, ran⟩
      · rw [refused]
        exact refl engine
      · cases equal
        rw [ran]
        exact step _ ih call engine

end Policy
end ScriptCore
