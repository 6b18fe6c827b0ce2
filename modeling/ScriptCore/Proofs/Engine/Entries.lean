import ScriptCore.Proofs.Engine.Frames
import ScriptCore.Proofs.Value.Signatures

/-!
# How a call enters its body

A call is refused and leaves the engine as it was, or it starts its body on an
engine that is known in advance: in a frame of its own, with the arguments as
slots or as variables. The outcome of the call is then that of the body, and
apart from the frame and the slots the engine is as the body leaves it.
-/

namespace ScriptCore

open Engine

/-- The payload of a failure that is an exception. -/
def Failure.payload? : Failure → Option Value
  | .error raised => raised.payload?
  | .fault _ => none
  | .exhausted => none

variable [KeyHash]

namespace Call

/-- The body that a call runs. -/
def body (dispatch : Dispatcher) (call : Call) : Run Value :=
  match call.signature.implementation with
  | .library function _ => Library.exec dispatch function
  | .native _ body => Program.exec dispatch body
  | .user _ body => Program.exec dispatch body

/-- The engine on which a native starts, given the engine in its frame. -/
def nativeEntry (call : Call) (engine : Engine) : Except ScriptError Engine :=
  match call.receiver? with
  | none =>
      (call.signature.bind call.args).map fun bound => { engine with slots := bound }
  | some receiver =>
      (call.signature.bind (receiver :: call.args)).map fun bound =>
        { engine with slots := receiver :: bound.tail }

/-- The engine on which a user-defined body starts, given the engine in its
frame. -/
def userEntry (call : Call) (params : List String) (engine : Engine) :
    Except ScriptError Engine :=
  if engine.hasEvaluator then
    (call.signature.bind call.args).map fun bound =>
      let framed := engine.mapScopes fun scopes => bindParams scopes params bound
      match call.receiver? with
      | none => { framed with slots := [] }
      | some receiver => { framed.define receiverName receiver with slots := [] }
  else .error { cause := .missingEvaluator call.signature.name }

/-- The engine on which the body of a call starts, given the engine in its frame,
or why it does not start. -/
def entry (call : Call) (engine : Engine) : Except ScriptError Engine :=
  match call.signature.implementation with
  | .user params _ => call.userEntry params engine
  | _ => call.nativeEntry engine

/-- Run a body as the implementation of a call. -/
def invoking (call : Call) (body : Run Value) : StateM Engine Reply :=
  match call.signature.implementation with
  | .user params _ => invokeUser call params body
  | _ => invokeNative call body

theorem invoke_eq (dispatch : Dispatcher) (call : Call) :
    invoke dispatch call = call.invoking (call.body dispatch) := by
  unfold invoke invoking body
  cases call.signature.implementation <;> rfl

section Entries

variable {call : Call} {engine start : Engine}

omit [KeyHash] in
/-- What a map makes of a success comes from a success. -/
theorem exists_of_map_eq_ok
    {ε α β : Type}
    {result : Except ε α}
    {f : α → β}
    {value : β}
    (mapped : result.map f = .ok value) :
    ∃ source, result = .ok source ∧ f source = value := by
  cases result with
  | error error => cases mapped
  | ok source => exact ⟨source, rfl, Except.ok.inj mapped⟩

omit [KeyHash] in
/-- The slots of a native reach the same signatures as its arguments. -/
theorem exists_nativeEntry (entered : call.nativeEntry engine = .ok start) :
    ∃ slots, start = { engine with slots } ∧
      ∀ allowed : Signature → Prop, (∀ arg ∈ call.args, arg.Only allowed) →
        (∀ receiver ∈ call.receiver?, receiver.Only allowed) →
        ∀ slot ∈ slots, slot.Only allowed := by
  unfold nativeEntry at entered
  cases receiver : call.receiver? with
  | none =>
      rw [receiver] at entered
      obtain ⟨bound, binds, rfl⟩ := exists_of_map_eq_ok entered
      exact ⟨bound, rfl, fun allowed onlyArgs _ => Signature.only_bind onlyArgs binds⟩
  | some value =>
      rw [receiver] at entered
      obtain ⟨bound, binds, rfl⟩ := exists_of_map_eq_ok entered
      refine ⟨_, rfl, fun allowed onlyArgs onlyReceiver => ?_⟩
      have only : value.Only allowed := onlyReceiver value rfl
      have onlyBound := Signature.only_bind (List.forall_mem_cons.mpr ⟨only, onlyArgs⟩) binds
      exact List.forall_mem_cons.mpr
        ⟨only, fun slot member => onlyBound slot (List.mem_of_mem_tail member)⟩

theorem exists_userEntry
    {params : List String}
    (entered : call.userEntry params engine = .ok start) :
    ∃ scopes, start = { engine with scopes, slots := [] } := by
  unfold userEntry at entered
  split at entered
  · obtain ⟨bound, -, rfl⟩ := exists_of_map_eq_ok entered
    cases call.receiver? <;> exact ⟨_, rfl⟩
  · cases entered

/-- A body starts on the engine in its frame, but for its arguments. -/
theorem exists_entry (entered : call.entry engine = .ok start) :
    ∃ scopes slots, start = { engine with scopes, slots } := by
  unfold entry at entered
  split at entered
  · obtain ⟨scopes, begun⟩ := exists_userEntry entered
    exact ⟨scopes, [], begun⟩
  · obtain ⟨slots, begun, -⟩ := exists_nativeEntry entered
    exact ⟨engine.scopes, slots, begun⟩

end Entries

/-- What becomes of a call in its frame: it is refused with an error that is no
exception, or it ends as its body does. -/
def Ends (call : Call) (body : Run Value) (engine : Engine) (ended : Reply × Engine) : Prop :=
  match call.entry engine with
  | .error error =>
      error.payload? = none ∧
        ended = ({ outcome := .error (.error error), receiver? := call.receiver? }, engine)
  | .ok start =>
      ∃ left, ended = ({ outcome := (body start).1, receiver? := left },
        { (body start).2 with slots := engine.slots })

variable {call : Call} {body : Run Value} {engine start : Engine} {error : ScriptError}

theorem ends_of_error
    {ended : Reply × Engine}
    (refused : call.entry engine = .error error)
    (plain : error.payload? = none)
    (same : ended =
      ({ outcome := .error (.error error), receiver? := call.receiver? }, engine)) :
    Ends call body engine ended := by
  unfold Ends
  rw [refused]
  exact ⟨plain, same⟩

/-- A call whose entry succeeds ends as its body does. -/
theorem ends_of_ok
    {ended : Reply × Engine}
    {left : Option Value}
    (entered : call.entry engine = .ok start)
    (same : ended = ({ outcome := (body start).1, receiver? := left },
      { (body start).2 with slots := engine.slots })) :
    Ends call body engine ended := by
  unfold Ends
  rw [entered]
  exact ⟨left, same⟩

/-- A native ends as its entry and its body tell. -/
theorem ends_invokeNative
    (native : call.entry engine = call.nativeEntry engine)
    (body : Run Value) :
    Ends call body engine (invokeNative call body engine) := by
  cases receiver : call.receiver? with
  | none =>
      cases binds : call.signature.bind call.args with
      | error error =>
          have refused : call.entry engine = .error error := by
            simp only [native, nativeEntry, receiver, binds]
            rfl
          refine ends_of_error refused (Signature.payload?_bind binds) ?_
          simp only [invokeNative, receiver, binds]
          rfl
      | ok bound =>
          have entered : call.entry engine = .ok { engine with slots := bound } := by
            simp only [native, nativeEntry, receiver, binds]
            rfl
          exact ends_of_ok entered (invokeNative_function receiver binds body engine)
  | some value =>
      cases binds : call.signature.bind (value :: call.args) with
      | error error =>
          have refused : call.entry engine = .error error := by
            simp only [native, nativeEntry, receiver, binds]
            rfl
          refine ends_of_error refused (Signature.payload?_bind binds) ?_
          simp only [invokeNative, receiver, binds]
          rfl
      | ok bound =>
          have entered :
              call.entry engine = .ok { engine with slots := value :: bound.tail } := by
            simp only [native, nativeEntry, receiver, binds]
            rfl
          exact ends_of_ok entered (invokeNative_method receiver binds body engine)

/-- A user-defined body ends as its entry and its body tell. -/
theorem ends_invokeUser
    {params : List String}
    (user : call.entry engine = call.userEntry params engine)
    (body : Run Value) :
    Ends call body engine (invokeUser call params body engine) := by
  by_cases evaluator : engine.hasEvaluator = true
  · cases binds : call.signature.bind call.args with
    | error error =>
        have refused : call.entry engine = .error error := by
          simp only [user, userEntry, evaluator, if_true, binds]
          rfl
        exact ends_of_error refused (Signature.payload?_bind binds)
          (invokeUser_refused evaluator binds params body)
    | ok bound =>
        have entered := user
        simp only [userEntry, evaluator, if_true, binds] at entered
        cases receiver : call.receiver? with
        | none =>
            simp only [receiver] at entered
            exact ends_of_ok entered (invokeUser_function evaluator receiver binds params body)
        | some value =>
            simp only [receiver] at entered
            exact ends_of_ok entered (invokeUser_method evaluator receiver binds params body)
  · have missing : call.entry engine =
        .error { cause := .missingEvaluator call.signature.name } := by
      simp only [user, userEntry, evaluator]
      rfl
    exact ends_of_error missing rfl (invokeUser_missing evaluator params body)

/-- Every call ends as its entry and its body tell. -/
theorem ends_invoking (call : Call) (body : Run Value) (engine : Engine) :
    Ends call body engine (call.invoking body engine) := by
  unfold invoking
  cases running : call.signature.implementation with
  | library function argCount => exact ends_invokeNative (by simp only [entry, running]) body
  | native argCount steps => exact ends_invokeNative (by simp only [entry, running]) body
  | user params steps => exact ends_invokeUser (by simp only [entry, running]) body

theorem invoking_of_error
    (refused : call.entry engine = .error error)
    (body : Run Value) :
    error.payload? = none ∧ call.invoking body engine =
      ({ outcome := .error (.error error), receiver? := call.receiver? }, engine) := by
  have ended := ends_invoking call body engine
  unfold Ends at ended
  rwa [refused] at ended

/-- A call whose entry succeeds has the outcome of its body. -/
theorem invoking_of_ok
    (entered : call.entry engine = .ok start)
    (body : Run Value) :
    ∃ left, call.invoking body engine =
      ({ outcome := (body start).1, receiver? := left },
        { (body start).2 with slots := engine.slots }) := by
  have ended := ends_invoking call body engine
  unfold Ends at ended
  rwa [entered] at ended

end Call

/-! ## Calls in frames of their own -/

namespace Engine

variable {call : Call} {engine start : Engine}

/-- The engine after a call, given how its body left it. -/
def closed (engine : Engine) (left : Engine) : Engine :=
  { left with slots := engine.slots }.restore engine.depth engine.callDepth

/-- Run a body as the implementation of a call in a frame of its own. -/
def framed (call : Call) (body : Run Value) : StateM Engine Reply :=
  guarded (modify deepen >>= fun _ => call.invoking body)

theorem framed_of_ok
    (entered : call.entry engine.opened = .ok start)
    (body : Run Value) :
    ∃ left, framed call body engine =
      ({ outcome := (body start).1, receiver? := left }, engine.closed (body start).2) := by
  obtain ⟨left, ended⟩ := Call.invoking_of_ok entered body
  refine ⟨left, ?_⟩
  change ((call.invoking body engine.opened).1,
    (call.invoking body engine.opened).2.restore engine.depth engine.callDepth) = _
  rw [ended]
  rfl

theorem framed_of_error
    {error : ScriptError}
    (refused : call.entry engine.opened = .error error)
    (body : Run Value) :
    framed call body engine =
      ({ outcome := .error (.error error), receiver? := call.receiver? }, engine) := by
  change ((call.invoking body engine.opened).1,
    (call.invoking body engine.opened).2.restore engine.depth engine.callDepth) = _
  rw [(Call.invoking_of_error refused body).2]
  change (_, engine.opened.restore engine.depth engine.callDepth) = _
  rw [restore_opened]

/-- A call is refused with a failure that is no exception and leaves the engine
as it was, or it ends as its body does. -/
theorem framed_cases (call : Call) (body : Run Value) (engine : Engine) :
    (∃ failure, failure.payload? = none ∧ framed call body engine =
        ({ outcome := .error failure, receiver? := call.receiver? }, engine)) ∨
      ∃ start left, call.entry engine.opened = .ok start ∧ framed call body engine =
        ({ outcome := (body start).1, receiver? := left }, engine.closed (body start).2) := by
  cases entered : call.entry engine.opened with
  | error error =>
      obtain ⟨plain, -⟩ := Call.invoking_of_error entered body
      exact .inl ⟨.error error, plain, framed_of_error entered body⟩
  | ok start =>
      obtain ⟨left, ended⟩ := framed_of_ok entered body
      exact .inr ⟨start, left, rfl, ended⟩

/-- Below the cap a call runs in a frame of its own. -/
theorem dispatch_framed
    (room : engine.callDepth < engine.maxCallDepth)
    (frames : Nat)
    (call : Call) :
    dispatch (frames + 1) call engine = framed call (call.body (dispatch frames)) engine := by
  rw [dispatch_below room, Call.invoke_eq]
  rfl

/-- Without frames a call below the cap fails and leaves everything as it was. -/
theorem dispatch_out_of_frames
    (room : engine.callDepth < engine.maxCallDepth)
    (call : Call) :
    dispatch 0 call engine =
      ({ outcome := .error .exhausted, receiver? := call.receiver? }, engine) := by
  have below : ¬ engine.maxCallDepth ≤ engine.callDepth := Nat.not_le.mpr room
  unfold dispatch
  simp only [bind, StateT.bind, get, getThe, MonadStateOf.get, StateT.get, pure, below]
  rfl

/-- A call is refused at once, or it runs in a frame of its own. -/
theorem refused_or_framed (frames : Nat) (call : Call) (engine : Engine) :
    (∃ failure, failure.payload? = none ∧ dispatch frames call engine =
        ({ outcome := .error failure, receiver? := call.receiver? }, engine)) ∨
      ∃ fewer, frames = fewer + 1 ∧
        dispatch frames call engine = framed call (call.body (dispatch fewer)) engine := by
  rcases Nat.lt_or_ge engine.callDepth engine.maxCallDepth with room | full
  · cases frames with
    | zero => exact .inl ⟨.exhausted, rfl, dispatch_out_of_frames room call⟩
    | succ fewer => exact .inr ⟨fewer, rfl, dispatch_framed room fewer call⟩
  · exact .inl ⟨_, rfl, dispatch_at_cap full frames call⟩

end Engine
end ScriptCore
