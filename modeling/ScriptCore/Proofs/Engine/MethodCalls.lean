import ScriptCore.OrderedMap.Spread
import ScriptCore.Proofs.Engine.Balance
import ScriptCore.Proofs.Engine.Entries
import ScriptCore.Proofs.Engine.FrameVariables

/-!
# What a method leaves of its receiver

A method call that does not reach a body leaves its receiver alone. A native
finds the receiver at its first argument and leaves whatever is there in the
end. A user-defined body finds it as a variable of its frame and leaves what that
variable has in the end, as long as the frame is not closed: scopes that the body
leaves open, variables of the same name in them and the frames of nested calls
make no difference.
-/

namespace ScriptCore

/-! ## Natives and user-defined bodies -/

theorem Signature.exists_user (signature : Signature) (user : signature.origin = .userDefined) :
    ∃ params body, signature.implementation = .user params body := by
  unfold origin at user
  cases running : signature.implementation with
  | user params body => exact ⟨params, body, rfl⟩
  | library function argCount =>
      rw [running] at user
      cases user
  | native argCount body =>
      rw [running] at user
      cases user

section

variable [KeyHash]

namespace Call

variable {call : Call}

/-- The entry of a native is that of its slots. -/
theorem entry_native (native : call.signature.origin = .native) (engine : Engine) :
    call.entry engine = call.nativeEntry engine := by
  unfold Signature.origin at native
  unfold entry
  split
  · next running =>
    rw [running] at native
    cases native
  · rfl

theorem invoking_native (native : call.signature.origin = .native) (body : Run Value) :
    call.invoking body = Engine.invokeNative call body := by
  unfold Signature.origin at native
  unfold invoking
  split
  · next running =>
    rw [running] at native
    cases native
  · rfl

end Call

/-! ## Guarding the receiver -/

/-- Every right but to close a scope, be it by failing out of a nested script, or
to write a value that is not allowed to one of its variables. -/
def Rights.sparing (frame : Nat) (name : String) (allowed : Value → Bool) : Rights :=
  { Rights.all with
    leaves engine := decide (frame + 1 < engine.depth)
    defines engine other value := engine.depth != frame + 1 || other != name || allowed value
    assigns engine other value :=
      engine.scopes.home other != frame || other != name || allowed value
    resets := false }

/-- Rights that spare a variable of a frame guard it. -/
theorem Rights.sparing_guards (frame : Nat) (name : String) (allowed : Value → Bool) :
    (sparing frame name allowed).Guards (fun value => allowed value = true) frame name where
  final := rfl
  leaves engine may := of_decide_eq_true may
  defines engine value may here := by
    simpa [sparing, here] using may
  assigns engine value may here := by
    simpa [sparing, here] using may

namespace Engine

/-- A body keeps a scope open and writes only allowed values to a variable of
it: enforcing this, also in all calls, makes no difference. -/
def Spares
    (allowed : Value → Bool)
    (frame : Nat)
    (name : String)
    (frames : Nat)
    (body : Program)
    (start : Engine) : Prop :=
  let rights := Rights.sparing frame name allowed
  rights.exec (Policy.dispatch (fun _ => rights) frames) body start =
    Program.exec (dispatch frames) body start

/-- A body that spares a variable leaves it with an allowed value in its frame. -/
theorem Spares.carries
    {allowed : Value → Bool}
    {frame : Nat}
    {name : String}
    {frames : Nat}
    {body : Program}
    {start : Engine}
    (spares : Spares allowed frame name frames body start)
    (inner : frame ≠ 0)
    (carries : Carries (fun value => allowed value = true) frame name start.scopes) :
    Carries (fun value => allowed value = true) frame name
      (Program.exec (dispatch frames) body start).2.scopes := by
  have guards := Rights.sparing_guards frame name allowed
  have calls : ∀ call, Respects (KeepsAllowed (fun value => allowed value = true) frame name)
      (Policy.dispatch (fun _ => .sparing frame name allowed) frames call) :=
    dispatch_keeps_allowed (fun _ _ => guards) inner frames
  rw [← spares]
  exact (kept_allowed guards inner calls).execSteps .void body start carries

/-! ## How a method call starts -/

/-- The engine on which a user-defined method starts: its parameters and its
receiver are variables of its frame. -/
def methodStart
    (params : List String)
    (receiver : Value)
    (bound : List Value)
    (engine : Engine) : Engine :=
  { (engine.opened.mapScopes fun scopes => bindParams scopes params bound).define
      receiverName receiver with slots := [] }

/-- The arguments that the prototype of a method is bound to. A native takes the
receiver as the first of them. -/
def methodArgs (signature : Signature) (receiver : Value) (args : List Value) : List Value :=
  match signature.origin with
  | .native => receiver :: args
  | .userDefined => args

end Engine

namespace Call

open Engine

/-- The arguments that the prototype of a call is bound to. -/
def boundArgs (call : Call) : List Value :=
  match call.receiver? with
  | none => call.args
  | some receiver => methodArgs call.signature receiver call.args

variable {call : Call} {engine : Engine} {error : ScriptError}

/-- A call whose arguments cannot be bound is refused. -/
theorem entry_of_bind_error
    (evaluator : call.signature.origin = .userDefined → engine.hasEvaluator = true)
    (failed : call.signature.bind call.boundArgs = .error error) :
    call.entry engine = .error error := by
  unfold boundArgs at failed
  cases origin : call.signature.origin with
  | native =>
      rw [entry_native origin, nativeEntry]
      cases receiver : call.receiver? with
      | none =>
          rw [receiver] at failed
          dsimp only at failed ⊢
          rw [failed]
          rfl
      | some value =>
          rw [receiver] at failed
          simp only [methodArgs, origin] at failed
          dsimp only
          rw [failed]
          rfl
  | userDefined =>
      obtain ⟨params, body, running⟩ := call.signature.exists_user origin
      have plain : call.signature.bind call.args = .error error := by
        cases receiver : call.receiver? with
        | none => rwa [receiver] at failed
        | some value =>
            rw [receiver] at failed
            simpa only [methodArgs, origin] using failed
      simp only [entry, running, userEntry, evaluator origin, if_true, plain]
      rfl

end Call

end

namespace Engine

section

variable [KeyHash]

/-- The overload of a method that a call selects. -/
def chosenMethod? (content : Record) (name : String) (argc : Nat) : Option Signature :=
  (content.method? name).bind fun function => selectMethod? function argc

/-- A method is found, there is room for the call, and a frame. -/
structure Framed
    (supply : Engine → Nat)
    (content : Record)
    (name : String)
    (args : List Value)
    (engine : Engine)
    (signature : Signature)
    (frames : Nat) : Prop where
  chosen : chosenMethod? content name args.length = some signature
  room : engine.callDepth < engine.maxCallDepth
  supplied : supply engine = frames + 1

/-- Why the body of a method call does not start. -/
inductive Unstarted
    (supply : Engine → Nat)
    (content : Record)
    (name : String)
    (args : List Value)
    (engine : Engine) : Failure → Prop where
  | missing
      (absent : content.method? name = none) :
      Unstarted supply content name args engine
        (.error { cause := .undefinedMethod (content.className.getD "record") name })
  | withoutOverloads
      {function : Function}
      (found : content.method? name = some function)
      (none : selectMethod? function args.length = none) :
      Unstarted supply content name args engine
        (.error { cause := .undefinedMethod function.name name })
  | capped
      {signature : Signature}
      (chosen : chosenMethod? content name args.length = some signature)
      (full : engine.maxCallDepth ≤ engine.callDepth) :
      Unstarted supply content name args engine
        (.error { cause := .stackOverflow engine.maxCallDepth })
  | exhausted
      {signature : Signature}
      (chosen : chosenMethod? content name args.length = some signature)
      (room : engine.callDepth < engine.maxCallDepth)
      (none : supply engine = 0) :
      Unstarted supply content name args engine .exhausted
  | evaluator
      {signature : Signature}
      {frames : Nat}
      (framed : Framed supply content name args engine signature frames)
      (user : signature.origin = .userDefined)
      (absent : engine.hasEvaluator = false) :
      Unstarted supply content name args engine
        (.error { cause := .missingEvaluator signature.name })
  | arguments
      {signature : Signature}
      {frames : Nat}
      {error : ScriptError}
      (framed : Framed supply content name args engine signature frames)
      (evaluator : signature.origin = .userDefined → engine.hasEvaluator = true)
      (rejected : signature.bind (methodArgs signature (.record content) args) = .error error) :
      Unstarted supply content name args engine (.error error)

/-- The body of a method call starts. -/
structure Started
    (supply : Engine → Nat)
    (content : Record)
    (name : String)
    (args : List Value)
    (engine : Engine)
    (signature : Signature)
    (frames : Nat)
    (bound : List Value) : Prop
    extends Framed supply content name args engine signature frames where
  evaluator : signature.origin = .userDefined → engine.hasEvaluator = true
  binds : signature.bind (methodArgs signature (.record content) args) = .ok bound

variable {supply : Engine → Nat} {content : Record} {name : String} {args bound : List Value}
variable {engine : Engine} {signature : Signature} {frames : Nat}

/-- A call of a method either fails before its body or starts it. -/
theorem unstarted_or_started
    (supply : Engine → Nat)
    (content : Record)
    (name : String)
    (args : List Value)
    (engine : Engine) :
    (∃ failure, Unstarted supply content name args engine failure) ∨
      ∃ signature frames bound, Started supply content name args engine signature frames bound := by
  cases chosen : chosenMethod? content name args.length with
  | none =>
      cases found : content.method? name with
      | none => exact .inl ⟨_, .missing found⟩
      | some function =>
          rw [chosenMethod?, found] at chosen
          exact .inl ⟨_, .withoutOverloads found chosen⟩
  | some signature =>
      rcases Nat.lt_or_ge engine.callDepth engine.maxCallDepth with room | full
      · cases supplied : supply engine with
        | zero => exact .inl ⟨_, .exhausted chosen room supplied⟩
        | succ frames =>
            have framed : Framed supply content name args engine signature frames :=
              ⟨chosen, room, supplied⟩
            by_cases evaluator : signature.origin = .userDefined → engine.hasEvaluator = true
            · cases binds : signature.bind (methodArgs signature (.record content) args) with
              | error error => exact .inl ⟨_, .arguments framed evaluator binds⟩
              | ok bound => exact .inr ⟨signature, frames, bound, framed, evaluator, binds⟩
            · obtain ⟨user, absent⟩ := Classical.not_imp.mp evaluator
              exact .inl ⟨_, .evaluator framed user (by simpa using absent)⟩
      · exact .inl ⟨_, .capped chosen full⟩

/-- The call of a method on a record. -/
def onRecord (signature : Signature) (content : Record) (args : List Value) : Call where
  signature
  args
  receiver? := some (.record content)

theorem callMethod_eq
    (chosen : chosenMethod? content name args.length = some signature) :
    callMethod (supplied supply) (.record content) name args engine =
      dispatch (supply engine) (onRecord signature content args) engine := by
  obtain ⟨function, found, selected⟩ := Option.bind_eq_some_iff.mp chosen
  simp only [callMethod, resolveMethod, found, selected]
  rfl

theorem Framed.callMethod_eq
    (framed : Framed supply content name args engine signature frames) :
    callMethod (Engine.supplied supply) (.record content) name args engine =
      Engine.framed (onRecord signature content args)
        ((onRecord signature content args).body (dispatch frames)) engine := by
  rw [Engine.callMethod_eq framed.chosen, framed.supplied, dispatch_framed framed.room]

/-- Without an evaluator the entry of a user-defined method is refused. -/
theorem entry_missing
    (user : signature.origin = .userDefined)
    (absent : engine.hasEvaluator = false)
    (content : Record)
    (args : List Value) :
    (onRecord signature content args).entry engine.opened =
      .error { cause := .missingEvaluator signature.name } := by
  obtain ⟨params, body, running⟩ := signature.exists_user user
  have unable : engine.opened.hasEvaluator = false := absent
  simp [Call.entry, onRecord, running, Call.userEntry, unable]

theorem entry_rejected
    {error : ScriptError}
    (evaluator : signature.origin = .userDefined → engine.hasEvaluator = true)
    (rejected : signature.bind (methodArgs signature (.record content) args) = .error error) :
    (onRecord signature content args).entry engine.opened = .error error :=
  Call.entry_of_bind_error evaluator rejected

/-- A method whose body does not start leaves everything as it was. -/
theorem Unstarted.callMethod_eq
    {failure : Failure}
    (unstarted : Unstarted supply content name args engine failure) :
    callMethod (Engine.supplied supply) (.record content) name args engine =
      ({ outcome := .error failure, receiver? := some (.record content) }, engine) := by
  cases unstarted with
  | missing absent =>
      simp only [callMethod, resolveMethod, absent]
      rfl
  | withoutOverloads found none =>
      simp only [callMethod, resolveMethod, found, none]
      rfl
  | capped chosen full =>
      rw [Engine.callMethod_eq chosen, dispatch_at_cap full]
      rfl
  | exhausted chosen room none =>
      rw [Engine.callMethod_eq chosen, none, dispatch_out_of_frames room]
      rfl
  | evaluator framed user absent =>
      rw [framed.callMethod_eq, framed_of_error (entry_missing user absent content args)]
      rfl
  | arguments framed evaluator rejected =>
      rw [framed.callMethod_eq, framed_of_error (entry_rejected evaluator rejected)]
      rfl

omit [KeyHash] in
theorem slotAt_zero (engine : Engine) : engine.slotAt 0 = engine.slots.headD .void := by
  unfold slotAt
  cases engine.slots <;> rfl

/-- A native method starts with its bound arguments, the receiver unchanged in
front, and leaves what is at its first argument. -/
theorem Started.native
    (started : Started supply content name args engine signature frames bound)
    (native : signature.origin = .native) :
    let start := { engine.opened with slots := bound }
    let left := (onRecord signature content args).body (dispatch frames) start
    start.slotAt 0 = .record content ∧
      (callMethod (Engine.supplied supply) (.record content) name args engine).1 =
        { outcome := left.1, receiver? := some (left.2.slotAt 0) } := by
  intro start left
  have binds := started.binds
  rw [methodArgs, native] at binds
  -- Binding leaves a record alone, so the receiver is the copy whose place it takes.
  have front : bound = .record content :: bound.tail := Signature.bind_record_cons binds
  refine ⟨?_, ?_⟩
  · change bound.getD 0 .void = _
    rw [front]
    rfl
  · rw [started.callMethod_eq]
    change ((onRecord signature content args).invoking _ engine.opened).1 = _
    rw [Call.invoking_native native, invokeNative_method rfl binds, withSlots_eq, ← front,
      slotAt_zero]

/-- A user-defined method starts with the receiver as a variable of its frame and
leaves what that variable has. -/
theorem Started.user
    {params : List String}
    {body : Program}
    (started : Started supply content name args engine signature frames bound)
    (user : signature.implementation = .user params body) :
    let start := methodStart params (.record content) bound engine
    let left := Program.exec (dispatch frames) body start
    (callMethod (Engine.supplied supply) (.record content) name args engine).1 =
      { outcome := left.1
        receiver? := some ((left.2.bindingAt? engine.depth receiverName).getD .void) } := by
  intro start left
  have origin : signature.origin = .userDefined := by
    rw [Signature.origin, user]
    rfl
  have evaluator : engine.opened.hasEvaluator = true := started.evaluator origin
  have binds := started.binds
  rw [methodArgs, origin] at binds
  have running : (onRecord signature content args).body (dispatch frames) =
      Program.exec (dispatch frames) body := by
    simp only [Call.body, onRecord, user]
  rw [started.callMethod_eq, running]
  change ((onRecord signature content args).invoking _ engine.opened).1 = _
  have invoked (run : Run Value) : (onRecord signature content args).invoking run =
      invokeUser (onRecord signature content args) params run := by
    simp only [Call.invoking, onRecord, user]
  rw [invoked, invokeUser_method evaluator rfl binds, depth_frame, Nat.add_sub_cancel]
  rfl

/-- The frame of a method that is not closed still has the receiver: the one it
started with, or one that was written to it there. -/
theorem Spares.receiver
    {allowed : Value → Bool}
    {params : List String}
    {body : Program}
    {receiver : Value}
    (spares : Spares allowed engine.depth receiverName frames body
      (methodStart params receiver bound engine))
    (fits : allowed receiver = true) :
    let left := Program.exec (dispatch frames) body (methodStart params receiver bound engine)
    ∃ scope value, left.2.scopes.scopeAt? engine.depth = some scope ∧
      scope.get? receiverName = some (.plain value) ∧ allowed value = true ∧
      left.2.bindingAt? engine.depth receiverName = some value := by
  intro left
  have inner : engine.depth ≠ 0 := Nat.ne_of_gt ScopeStack.depth_pos
  obtain ⟨scope, found, -, value, stored, fits⟩ :=
    spares.carries inner (carries_receiver engine params bound fits)
  refine ⟨scope, value, found, stored, fits, ?_⟩
  rw [bindingAt?, found, Option.bind_some, stored]
  rfl

/-- A method call leaves its receiver as follows. A call whose body does not start
changes nothing. A native starts with the receiver at its first argument and
leaves what is there in the end. A user-defined body leaves what the receiver is
in its frame in the end. As long as the frame is not closed, that is the value it
started with or one that was written to it there; a frame that is gone leaves
void. All this holds of failures as of successes. -/
theorem receiver_is_written_back
    (supply : Engine → Nat)
    (content : Record)
    (name : String)
    (args : List Value)
    (engine : Engine) :
    let ended := callMethod (supplied supply) (.record content) name args engine
    ((∃ failure, Unstarted supply content name args engine failure) ∨
      ∃ signature frames bound, Started supply content name args engine signature frames bound) ∧
    (∀ failure, Unstarted supply content name args engine failure →
      ended = ({ outcome := .error failure, receiver? := some (.record content) }, engine)) ∧
    (∀ signature frames bound, Started supply content name args engine signature frames bound →
      signature.origin = .native →
      let start := { engine.opened with slots := bound }
      let left := (onRecord signature content args).body (dispatch frames) start
      start.slotAt 0 = .record content ∧
        ended.1 = { outcome := left.1, receiver? := some (left.2.slotAt 0) }) ∧
    ∀ signature frames bound, Started supply content name args engine signature frames bound →
      ∀ params body, signature.implementation = .user params body →
      let start := methodStart params (.record content) bound engine
      let left := Program.exec (dispatch frames) body start
      ended.1 =
          { outcome := left.1
            receiver? := some ((left.2.bindingAt? engine.depth receiverName).getD .void) } ∧
        ∀ allowed : Value → Bool, allowed (.record content) = true →
          Spares allowed engine.depth receiverName frames body start →
          ∃ scope value, left.2.scopes.scopeAt? engine.depth = some scope ∧
            scope.get? receiverName = some (.plain value) ∧ allowed value = true ∧
            ended.1.receiver? = some value := by
  intro ended
  refine ⟨unstarted_or_started supply content name args engine, fun _ => Unstarted.callMethod_eq,
    fun _ _ _ started native => started.native native, ?_⟩
  intro signature frames bound started params body user start left
  refine ⟨started.user user, ?_⟩
  intro allowed fits spares
  obtain ⟨scope, value, found, stored, fits, read⟩ := spares.receiver fits
  refine ⟨scope, value, found, stored, fits, ?_⟩
  have reply := congrArg Reply.receiver? (started.user user)
  rwa [read] at reply

end

/-- A native that replaces its receiver and fails. -/
def stampSignature : Signature :=
  ⟨0, "stamp", ⟨[.forced .record]⟩, 'v',
    .native 1 [.action (.setSlot 0 (.int 5)), .action (.throw (.int 1))]⟩

/-- A user-defined body that changes its receiver, hides it, and fails in a call
of the native on another record. -/
def fillBody : Program :=
  [.action (.mutate "self" (.var "amount") (.setField "amount")), .action .enter,
    .action (.define "self" .void), .action (.method "other" "stamp" [])]

def fillSignature : Signature :=
  ⟨1, "fill", ⟨[.any]⟩, 'v', .user ["amount"] fillBody⟩

/-- A record with both methods. -/
def stampingContent : Record :=
  (RecordOf.empty.addMethod stampSignature).addMethod fillSignature

/-- An engine that runs user-defined bodies and knows another such record. -/
def stampingEngine : Engine :=
  { (Engine.new {} .bare).define "other" (.record stampingContent) with
    hasEvaluator := true }

theorem spares_fillBody :
    Spares (fun value => value.tag == .record) stampingEngine.depth receiverName 1 fillBody
      (methodStart ["amount"] (.record stampingContent) [.int 7] stampingEngine) := by
  rfl

/-- A missing method, a native that replaces its receiver and a user-defined body
that changes it. -/
theorem stamping_methods_write_back :
    (callMethod (supplied fun _ => 2) (.record stampingContent) "absent" []
      stampingEngine).1.receiver? = some (.record stampingContent) ∧
    (callMethod (supplied fun _ => 2) (.record stampingContent) "stamp" []
      stampingEngine).1.receiver? = some (.int 5) ∧
    ∃ value : Value, value.tag = .record ∧
      (callMethod (supplied fun _ => 2) (.record stampingContent) "fill" [.int 7]
        stampingEngine).1.receiver? = some value := by
  refine ⟨?_, ?_, ?_⟩
  · obtain ⟨-, unstarted, -⟩ :=
      receiver_is_written_back (fun _ => 2) stampingContent "absent" [] stampingEngine
    rw [unstarted _ (.missing (by rfl))]
  · obtain ⟨-, -, native, -⟩ :=
      receiver_is_written_back (fun _ => 2) stampingContent "stamp" [] stampingEngine
    have started : Started (fun _ => 2) stampingContent "stamp" [] stampingEngine stampSignature 1
        [.record stampingContent] :=
      ⟨⟨by rfl, by decide, rfl⟩, fun _ => rfl, by rfl⟩
    rw [(native _ _ _ started rfl).2]
    rfl
  · obtain ⟨-, -, -, user⟩ :=
      receiver_is_written_back (fun _ => 2) stampingContent "fill" [.int 7] stampingEngine
    have started : Started (fun _ => 2) stampingContent "fill" [.int 7] stampingEngine fillSignature
        1 [.int 7] :=
      ⟨⟨by rfl, by decide, rfl⟩, fun _ => rfl, by rfl⟩
    obtain ⟨-, spared⟩ := user _ _ _ started ["amount"] fillBody rfl
    obtain ⟨scope, value, -, -, isRecord, left⟩ := spared _ rfl spares_fillBody
    exact ⟨value, by simpa using isRecord, left⟩

end Engine
end ScriptCore
