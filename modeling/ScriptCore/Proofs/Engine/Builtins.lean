import ScriptCore.Proofs.Engine.Balance
import ScriptCore.Proofs.Engine.Entries
import ScriptCore.Proofs.Engine.Natives

/-!
# Calls of the library

The natives of the library bind no names. Where only they can be reached,
through the scopes as well as through arguments, a call leaves the scopes slot
for slot as they were, and the depth of calls too. Afterwards an exception is on
record only if the call failed with it. Such a call fails with errors only.

Both are contracts of calls: what holds inside the frame of a call makes up for
what holds around it.
-/

namespace ScriptCore

open Engine

/-! ## Reaching natives of the library only -/

/-- A signature of the library. -/
def Signature.IsBuiltin (signature : Signature) : Prop :=
  ∃ function argCount, signature.implementation = .library function argCount

/-- A binding that is not linked and reaches natives of the library only. -/
def Binding.IsBuiltin : Binding → Prop
  | .plain value => value.Only Signature.IsBuiltin
  | .linked _ _ => False
  | .function overloads => overloads.Only Signature.IsBuiltin

/-- A stack of such bindings. -/
structure ScopeStack.Builtin (stack : ScopeStack) : Prop where
  global : stack.global.All Binding.IsBuiltin
  inner : ∀ scope ∈ stack.inner, scope.All Binding.IsBuiltin

namespace ScopeStack.Builtin

variable {stack : ScopeStack} {name : String}

/-- A new scope has no functions. -/
theorem push (builtin : stack.Builtin) : stack.push.Builtin where
  global := builtin.global
  inner := List.forall_mem_cons.mpr ⟨OrderedMap.all_withOrder _, builtin.inner⟩

variable [KeyHash]

/-- A bound name leads to builtin functions only. -/
theorem binding? {binding : Binding} (builtin : stack.Builtin)
    (found : stack.binding? name = some binding) : binding.IsBuiltin := by
  rcases Option.or_eq_some_iff.mp found with nearest | ⟨-, global⟩
  · obtain ⟨scope, inner, there⟩ := List.exists_of_findSome?_eq_some nearest
    exact (builtin.inner scope inner).getHashed? there
  · exact builtin.global.get? global

/-- The value of a name reaches builtin functions only. -/
theorem get? {value : Value} (builtin : stack.Builtin) (found : stack.get? name = some value) :
    value.Only Signature.IsBuiltin := by
  obtain ⟨binding, bound, rfl⟩ := Option.map_eq_some_iff.mp found
  have reached := builtin.binding? bound
  cases binding with
  | plain value => exact reached
  | linked tag cell => exact reached.elim
  | function overloads => exact reached

theorem lookupFunction? {function : Function} (builtin : stack.Builtin)
    (found : stack.lookupFunction? name = some function) :
    function.Only Signature.IsBuiltin := by
  obtain ⟨binding, bound, callable⟩ := Option.bind_eq_some_iff.mp found
  have reached := builtin.binding? bound
  cases binding with
  | plain value =>
      cases value <;> cases callable
      exact reached
  | linked tag cell => cases callable
  | function overloads =>
      cases callable
      exact reached

end ScopeStack.Builtin

/-! ## Contracts of calls -/

namespace Contract

variable {contract : Contract} {dispatch : Dispatcher} {args : List Value}

/-- Calls of the signatures that values may reach keep a contract. -/
def Serves (contract : Contract) (dispatch : Dispatcher) : Prop :=
  ∀ signature args, contract.allowed signature → (∀ arg ∈ args, arg.Only contract.allowed) →
    contract.Keeps (Value.Only contract.allowed) (callSignature dispatch signature args)

variable [KeyHash]

/-- Names lead to the signatures that values may reach. -/
def Covers (contract : Contract) : Prop :=
  ∀ {engine : Engine} {name : String} {function : Function}, contract.during engine →
    engine.scopes.lookupFunction? name = some function → function.Only contract.allowed

omit [KeyHash] in
theorem Serves.callFunction
    (serves : contract.Serves dispatch)
    {function : Function}
    (only : function.Only contract.allowed)
    (onlyArgs : ∀ arg ∈ args, arg.Only contract.allowed) :
    contract.Keeps (Value.Only contract.allowed) (callFunction dispatch function args) := by
  unfold Engine.callFunction
  cases resolved : function.resolve? args.length with
  | none => exact fun _ during => contract.fail during rfl
  | some signature => exact serves signature args (only.select? resolved) onlyArgs

/-- A dispatcher that serves a contract keeps it in calls by name. -/
theorem Serves.callByName
    (serves : contract.Serves dispatch)
    (covers : contract.Covers)
    (name : String)
    (onlyArgs : ∀ arg ∈ args, arg.Only contract.allowed) :
    contract.Keeps (Value.Only contract.allowed) (callByName dispatch name args) := by
  intro engine during
  unfold Engine.callByName
  rw [Run.get_bind]
  cases found : engine.scopes.lookupFunction? name with
  | none => exact contract.fail during rfl
  | some function => exact serves.callFunction (covers during found) onlyArgs engine during

theorem Serves.callValue
    (serves : contract.Serves dispatch)
    (covers : contract.Covers)
    {callee : Value}
    (only : callee.Only contract.allowed)
    (onlyArgs : ∀ arg ∈ args, arg.Only contract.allowed) :
    contract.Keeps (Value.Only contract.allowed) (callValue dispatch callee args) := by
  cases callee with
  | function function => exact serves.callFunction only onlyArgs
  | str bytes => exact serves.callByName covers _ onlyArgs
  | _ => exact fun _ during => contract.fail during rfl

/-- The body of a call in its frame. -/
theorem Serves.body
    (serves : contract.Serves dispatch)
    (covers : contract.Covers)
    {call : Call}
    (native : call.signature.IsBuiltin) :
    contract.Keeps (Value.Only contract.allowed) (call.body dispatch) := by
  obtain ⟨function, argCount, running⟩ := native
  unfold Call.body
  rw [running]
  exact contract.keeps_exec (fun _ _ => serves.callValue covers) function

/-- One contract holds around a call and the other inside its frame. -/
structure Frames (outer inner : Contract) : Prop where
  values : ∀ {value : Value}, value.Only inner.allowed → value.Only outer.allowed
  opens : ∀ {engine : Engine} {slots : List Value}, outer.during engine →
    (∀ slot ∈ slots, slot.Only outer.allowed) → inner.during { engine.opened with slots }
  closes : ∀ {engine after : Engine}, outer.during engine → inner.during after →
    outer.during (engine.closed after)
  fails : ∀ {engine after : Engine} {failure : Failure}, outer.during engine →
    inner.failed failure after → outer.failed failure (engine.closed after)

/-- A call keeps the contract around it if the calls of its body keep the
contract inside its frame. -/
theorem Frames.framed
    {outer inner : Contract}
    (frames : outer.Frames inner)
    (serves : inner.Serves dispatch)
    (covers : inner.Covers)
    {call : Call}
    (native : call.signature.IsBuiltin)
    (function : call.receiver? = none)
    (onlyArgs : ∀ arg ∈ call.args, arg.Only outer.allowed)
    {engine : Engine}
    (during : outer.during engine) :
    outer.Ended (Value.Only outer.allowed)
      ((framed call (call.body dispatch) engine).1.outcome,
        (framed call (call.body dispatch) engine).2) := by
  cases entered : call.entry engine.opened with
  | error error =>
      obtain ⟨plain, -⟩ := Call.invoking_of_error entered (call.body dispatch)
      rw [framed_of_error entered]
      exact outer.fail during plain
  | ok start =>
      have begun : call.nativeEntry engine.opened = .ok start := by
        obtain ⟨function, argCount, running⟩ := native
        rw [Call.entry, running] at entered
        exact entered
      obtain ⟨slots, rfl, only⟩ := Call.exists_nativeEntry begun
      have onlySlots : ∀ slot ∈ slots, slot.Only outer.allowed := by
        refine only _ onlyArgs ?_
        simp [function]
      have ended := serves.body covers native _ (frames.opens during onlySlots)
      obtain ⟨left, closed⟩ := framed_of_ok entered (call.body dispatch)
      rw [closed]
      generalize call.body dispatch { engine.opened with slots } = result at ended ⊢
      obtain ⟨outcome, after⟩ := result
      cases outcome with
      | ok value => exact ⟨frames.values ended.1, frames.closes during ended.2⟩
      | error failure => exact frames.fails during ended

end Contract

/-! ## What a call leaves -/

/-- An engine with the given scopes and depth of calls. -/
structure Engine.Stands (scopes : ScopeStack) (depth : Nat) (engine : Engine) : Prop where
  scopes : engine.scopes = scopes
  callDepth : engine.callDepth = depth
  slots : ∀ value ∈ engine.slots, value.Only Signature.IsBuiltin

/-- The exception state after a failure. -/
def Failure.recorded (failure : Failure) : ExceptionState :=
  match failure.payload? with
  | some payload => .raised payload
  | none => .normal

theorem Failure.recorded_plain {failure : Failure} (plain : failure.payload? = none) :
    failure.recorded = .normal := by
  rw [Failure.recorded, plain]

/-- The engine on which the body of a call starts. -/
theorem Engine.Stands.opened
    {scopes : ScopeStack}
    {depth : Nat}
    {engine : Engine}
    {slots : List Value}
    (before : engine.Stands scopes depth)
    (only : ∀ slot ∈ slots, slot.Only Signature.IsBuiltin) :
    Engine.Stands scopes.push (depth + 1) { engine.opened with slots } where
  scopes := congrArg ScopeStack.push before.scopes
  callDepth := congrArg Nat.succ before.callDepth
  slots := only

/-- The engine after a call, given how its body left the frame. -/
theorem Engine.Stands.closed
    {scopes : ScopeStack}
    {depth : Nat}
    {engine after : Engine}
    (before : engine.Stands scopes depth)
    (left : after.scopes = scopes.push) :
    (engine.closed after).Stands scopes depth where
  scopes := by
    change after.scopes.truncate engine.scopes.depth = scopes
    rw [left, before.scopes, ScopeStack.truncate_push]
  callDepth := before.callDepth
  slots := before.slots

/-- Scopes and depth of calls stay, and no exception is on record but the one
with which a computation fails. -/
def standing (scopes : ScopeStack) (depth : Nat) : Contract where
  allowed := Signature.IsBuiltin
  during engine := engine.Stands scopes depth ∧ engine.exception = .normal
  failed failure engine := engine.Stands scopes depth ∧ engine.exception = failure.recorded
  slots during := during.1.slots
  edit during only := ⟨⟨during.1.scopes, during.1.callDepth, only⟩, during.2⟩
  fail {_ error} during plain := by
    have normal : Failure.recorded (.error error) = .normal := Failure.recorded_plain plain
    exact ⟨during.1, during.2.trans normal.symm⟩
  raise _ during := ⟨⟨during.1.scopes, during.1.callDepth, during.1.slots⟩, rfl⟩

section Calls

variable {scopes : ScopeStack} {depth : Nat} {dispatch : Dispatcher} {args : List Value}

/-- Calls of natives of the library keep the contract. -/
def Stable (scopes : ScopeStack) (depth : Nat) (dispatch : Dispatcher) : Prop :=
  ∀ signature args, signature.IsBuiltin → (∀ arg ∈ args, arg.Only Signature.IsBuiltin) →
    (standing scopes depth).Keeps (Value.Only Signature.IsBuiltin)
      (callSignature dispatch signature args)

variable [KeyHash]

theorem covers_standing (builtin : scopes.Builtin) : (standing scopes depth).Covers := by
  intro engine name function during found
  rw [during.1.scopes] at found
  exact builtin.lookupFunction? found

omit [KeyHash] in
/-- In the frame of a call the contract holds one scope and one call deeper. -/
theorem frames_standing :
    (standing scopes depth).Frames (standing scopes.push (depth + 1)) where
  values only := only
  opens during only := ⟨during.1.opened only, during.2⟩
  closes during left := ⟨during.1.closed left.1.scopes, left.2⟩
  fails during left := ⟨during.1.closed left.1.scopes, left.2⟩

/-- With any number of frames a dispatcher keeps the scopes and the depth of
calls. -/
theorem stable_dispatch (frames : Nat) (builtin : scopes.Builtin) :
    Stable scopes depth (Engine.dispatch frames) := by
  -- By the supply of frames: the calls of a body have fewer of them, and one more
  -- scope on top.
  induction frames using Nat.strongRecOn generalizing scopes depth with
  | ind frames ih =>
      intro signature args native onlyArgs engine during
      let call : Call := { signature, args, receiver? := none }
      change (standing scopes depth).Ended _
        ((Engine.dispatch frames call engine).1.outcome, (Engine.dispatch frames call engine).2)
      rcases refused_or_framed frames call engine with
        ⟨failure, plain, refused⟩ | ⟨fewer, rfl, ran⟩
      · rw [refused]
        exact ⟨during.1, during.2.trans (Failure.recorded_plain plain).symm⟩
      · rw [ran]
        have stable : Stable scopes.push (depth + 1) (Engine.dispatch fewer) :=
          ih fewer (Nat.lt_succ_self fewer) builtin.push
        exact frames_standing.framed stable (covers_standing builtin.push) native rfl onlyArgs
          during

theorem stable_supplied (supply : Engine → Nat) (builtin : scopes.Builtin) :
    Stable scopes depth (supplied supply) := by
  intro signature args native onlyArgs engine during
  exact stable_dispatch (supply engine) builtin signature args native onlyArgs engine during

/-- Calling a function of the library by name. -/
theorem standing_call
    (builtin : scopes.Builtin)
    (name : String)
    (onlyArgs : ∀ arg ∈ args, arg.Only Signature.IsBuiltin) :
    (standing scopes depth).Keeps (Value.Only Signature.IsBuiltin) (Engine.call name args) := by
  unfold Engine.call
  rw [dispatcher_eq]
  have serves (supply : Engine → Nat) : (standing scopes depth).Serves (supplied supply) :=
    stable_supplied supply builtin
  exact (serves _).callByName (covers_standing builtin) name onlyArgs

end Calls

/-! ## How a call fails -/

/-- Scopes, depth of calls and the cap on it stay, and a computation fails with
errors only. -/
def answering (scopes : ScopeStack) (cap depth : Nat) : Contract where
  allowed := Signature.IsBuiltin
  during engine := engine.Stands scopes depth ∧ engine.maxCallDepth = cap
  failed failure _ := ∃ error, failure = .error error
  slots during := during.1.slots
  edit during only := ⟨⟨during.1.scopes, during.1.callDepth, only⟩, during.2⟩
  fail _ _ := ⟨_, rfl⟩
  raise _ _ := ⟨_, rfl⟩

section Failures

variable {scopes : ScopeStack} {cap depth : Nat} {args : List Value}

variable [KeyHash]

theorem covers_answering (builtin : scopes.Builtin) : (answering scopes cap depth).Covers := by
  intro engine name function during found
  rw [during.1.scopes] at found
  exact builtin.lookupFunction? found

omit [KeyHash] in
/-- In the frame of a call the contract holds one scope and one call deeper, under
the same cap. -/
theorem frames_answering :
    (answering scopes cap depth).Frames (answering scopes.push cap (depth + 1)) where
  values only := only
  opens during only := ⟨during.1.opened only, during.2⟩
  closes during left := ⟨during.1.closed left.1.scopes, left.2⟩
  fails _ left := left

/-- A supply of frames that reaches the cap does not run out. -/
theorem answering_dispatch
    {frames : Nat}
    (builtin : scopes.Builtin)
    (enough : cap ≤ depth + frames) :
    (answering scopes cap depth).Serves (Engine.dispatch frames) := by
  induction frames generalizing scopes depth with
  | zero =>
      intro signature args _ _ engine during
      have full : engine.maxCallDepth ≤ engine.callDepth := by
        rw [during.2, during.1.callDepth]
        exact enough
      change (answering scopes cap depth).Ended _ ((Engine.dispatch 0 _ engine).1.outcome, _)
      rw [dispatch_at_cap full]
      exact ⟨_, rfl⟩
  | succ frames ih =>
      intro signature args native onlyArgs engine during
      let call : Call := { signature, args, receiver? := none }
      have builtinCall : call.signature.IsBuiltin := native
      change (answering scopes cap depth).Ended _
        ((Engine.dispatch (frames + 1) call engine).1.outcome,
          (Engine.dispatch (frames + 1) call engine).2)
      rcases Nat.lt_or_ge engine.callDepth engine.maxCallDepth with room | full
      · rw [dispatch_framed room]
        have serves : (answering scopes.push cap (depth + 1)).Serves (Engine.dispatch frames) :=
          ih builtin.push (by omega)
        exact frames_answering.framed serves (covers_answering builtin.push) builtinCall rfl
          onlyArgs during
      · rw [dispatch_at_cap full]
        exact ⟨_, rfl⟩

/-- With frames for all calls below the cap a dispatcher fails with errors
only. -/
theorem answering_supplied
    {supply : Engine → Nat}
    (builtin : scopes.Builtin)
    (ample : ∀ engine : Engine, engine.maxCallDepth ≤ supply engine) :
    (answering scopes cap depth).Serves (supplied supply) := by
  intro signature args native onlyArgs engine during
  have enough : cap ≤ depth + supply engine := by
    have reached := ample engine
    rw [during.2] at reached
    exact Nat.le_add_left_of_le reached
  exact answering_dispatch builtin enough signature args native onlyArgs engine during

/-- A call of a function of the library fails with errors only. -/
theorem answering_call
    (builtin : scopes.Builtin)
    (name : String)
    (onlyArgs : ∀ arg ∈ args, arg.Only Signature.IsBuiltin) :
    (answering scopes cap depth).Keeps (Value.Only Signature.IsBuiltin)
      (Engine.call name args) := by
  unfold Engine.call
  rw [dispatcher_eq]
  have serves : (answering scopes cap depth).Serves
      (supplied fun engine => engine.maxCallDepth + spareFrames) :=
    answering_supplied builtin fun _ => Nat.le_add_right _ _
  exact serves.callByName (covers_answering builtin) name onlyArgs

end Failures
end ScriptCore
