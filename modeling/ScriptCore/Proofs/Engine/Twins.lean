import ScriptCore.Proofs.Engine.Agreement
import ScriptCore.Proofs.Engine.Natives

/-!
# Twin dispatchers

Two dispatchers are twins at a depth of calls if they answer every tame call in
the same way, with a tame reply. Whatever makes its calls through the one then
acts in the same way through the other: the ways to call a function, a method or
a constructor, the invocation of a body that agrees, and the natives of the
library. There is one lemma for every function through which a call may be made.
-/

namespace ScriptCore

open Engine

/-- A call of a tame signature with tame arguments. -/
structure Call.Tame (call : Call) : Prop where
  signature : call.signature.Tame
  args : ∀ arg ∈ call.args, arg.Tame
  receiver : ∀ receiver ∈ call.receiver?, receiver.Tame

/-- A reply with a proper outcome that leaves a tame receiver. -/
structure Reply.Tame (reply : Reply) : Prop where
  outcome : Proper Value.Tame reply.outcome
  receiver : ∀ receiver ∈ reply.receiver?, receiver.Tame

/-- Two dispatchers that answer tame calls in the same way. -/
def Twins (depth cap : Nat) (first second : Dispatcher) : Prop :=
  ∀ call : Call, call.Tame → Alike depth cap Reply.Tame (first call) (second call)

section

variable {depth cap : Nat} {first second : Dispatcher}

/-! ## Calls -/

variable [KeyHash]

namespace Twins

variable {args : List Value}

omit [KeyHash] in
/-- Under twin dispatchers a call of a tame signature agrees. -/
theorem callSignature
    (twins : Twins depth cap first second)
    {signature : Signature}
    (tame : signature.Tame)
    (tameArgs : ∀ arg ∈ args, arg.Tame) :
    Agree depth cap Value.Tame (callSignature first signature args)
      (callSignature second signature args) :=
  Alike.bind (twins _ ⟨tame, tameArgs, fun _ member => nomatch member⟩)
    fun _ reply => Alike.pure reply.outcome

omit [KeyHash] in
theorem callFunction
    (twins : Twins depth cap first second)
    {function : Function}
    (tame : function.Tame)
    (tameArgs : ∀ arg ∈ args, arg.Tame) :
    Agree depth cap Value.Tame (callFunction first function args)
      (callFunction second function args) := by
  unfold Engine.callFunction
  cases resolved : function.resolve? args.length with
  | none => exact Agree.fail rfl
  | some signature => exact twins.callSignature (tame.select? resolved) tameArgs

theorem callByName
    (twins : Twins depth cap first second)
    (name : String)
    (tameArgs : ∀ arg ∈ args, arg.Tame) :
    Agree depth cap Value.Tame (callByName first name args) (callByName second name args) := by
  apply Agree.reading
  intro engine within
  cases found : engine.scopes.lookupFunction? name with
  | none => exact Agree.failWithHint rfl _
  | some function => exact twins.callFunction (within.tame.scopes.lookupFunction? found) tameArgs

theorem callValue
    (twins : Twins depth cap first second)
    {callee : Value}
    (tame : callee.Tame)
    (tameArgs : ∀ arg ∈ args, arg.Tame) :
    Agree depth cap Value.Tame (callValue first callee args) (callValue second callee args) := by
  cases callee with
  | function function => exact twins.callFunction tame tameArgs
  | str bytes => exact twins.callByName _ tameArgs
  | _ => exact Agree.fail rfl

/-- Under twin dispatchers a call of a method is alike. -/
theorem callMethod
    (twins : Twins depth cap first second)
    {receiver : Value}
    (name : String)
    (tame : receiver.Tame)
    (tameArgs : ∀ arg ∈ args, arg.Tame) :
    Alike depth cap Reply.Tame (callMethod first receiver name args)
      (callMethod second receiver name args) := by
  have tameReceiver : ∀ other ∈ some receiver, other.Tame := by
    intro other member
    cases member
    exact tame
  unfold Engine.callMethod
  cases resolved : resolveMethod receiver name args.length with
  | ok signature => exact twins _ ⟨tame.resolveMethod resolved, tameArgs, tameReceiver⟩
  | error error =>
      refine Alike.pure ⟨?_, tameReceiver⟩
      intro payload member
      rw [payload?_resolveMethod resolved] at member
      cases member

theorem instantiate
    (twins : Twins depth cap first second)
    (className : String)
    (tameArgs : ∀ arg ∈ args, arg.Tame) :
    Agree depth cap Value.Tame (instantiate first className args)
      (instantiate second className args) := by
  apply Agree.reading
  intro engine within
  cases found : engine.class? className with
  | none => exact Agree.fail rfl
  | some cls =>
      have tame := within.class? found
      have fresh : (Value.record cls.template).Tame := Value.tame_record.mpr tame.template
      dsimp only
      cases declared : cls.findConstructor? with
      | none => exact Agree.pure fresh
      | some signature =>
          refine Alike.bind (twins _ ⟨tame.findConstructor? declared, tameArgs, ?_⟩) ?_
          · intro receiver member
            cases member
            exact fresh
          · -- The value of a constructor is dropped: the instance is what the
            -- constructor leaves of its receiver.
            intro reply tameReply
            apply Alike.pure
            have outcome := tameReply.outcome
            rcases reply with ⟨ended, left⟩
            rcases ended with failure | value
            · cases failure <;> exact outcome
            · cases left with
              | none => exact fresh
              | some receiver => exact tameReply.receiver receiver rfl

end Twins

/-! ## Invocations -/

omit [KeyHash] in
/-- Bodies that agree are alike with tame slots of their own. -/
theorem alike_withSlots
    {first second : Run Value}
    {slots : List Value}
    (agree : Agree depth cap Value.Tame first second)
    (tame : ∀ value ∈ slots, value.Tame) :
    Alike depth cap
      (fun ended => Proper Value.Tame ended.1 ∧ ∀ value ∈ ended.2, value.Tame)
      (withSlots slots first) (withSlots slots second) := by
  apply Alike.reading
  intro engine within
  refine Alike.bind (Alike.edit fun _ inside => inside.withSlots tame) fun _ _ => ?_
  refine Alike.bind agree fun outcome proper => ?_
  apply Alike.reading
  intro after inside
  refine Alike.bind (Alike.edit fun _ last => last.withSlots within.tame.slots) fun _ _ => ?_
  exact Alike.pure ⟨proper, inside.tame.slots⟩

omit [KeyHash] in
/-- Arguments that do not fit end a call before its body starts. -/
theorem tame_refused
    {signature : Signature}
    {args : List Value}
    {error : ScriptError}
    {receiver? : Option Value}
    (failed : signature.bind args = .error error)
    (tame : ∀ receiver ∈ receiver?, receiver.Tame) :
    Reply.Tame { outcome := .error (.error error), receiver? } := by
  refine ⟨?_, tame⟩
  intro payload member
  rw [Signature.payload?_bind failed] at member
  cases member

omit [KeyHash] in
/-- Natives with bodies that agree are alike. -/
theorem alike_invokeNative
    {first second : Run Value}
    {call : Call}
    (agree : Agree depth cap Value.Tame first second)
    (tame : call.Tame) :
    Alike depth cap Reply.Tame (invokeNative call first) (invokeNative call second) := by
  have tameReceiver := tame.receiver
  unfold invokeNative
  cases receiver : call.receiver? with
  | none =>
      dsimp only
      cases binding : call.signature.bind call.args with
      | error error => exact Alike.pure (tame_refused binding fun _ member => nomatch member)
      | ok bound =>
          refine Alike.bind (alike_withSlots agree (Signature.tame_bind tame.args binding)) ?_
          intro ended holds
          exact Alike.pure ⟨holds.1, fun _ member => nomatch member⟩
  | some value =>
      rw [receiver] at tameReceiver
      have tameValue : value.Tame := tameReceiver value rfl
      dsimp only
      cases binding : call.signature.bind (value :: call.args) with
      | error error => exact Alike.pure (tame_refused binding tameReceiver)
      | ok bound =>
          have tameBound := Signature.tame_bind
            (List.forall_mem_cons.mpr ⟨tameValue, tame.args⟩) binding
          have slots : ∀ slot ∈ value :: bound.tail, slot.Tame :=
            List.forall_mem_cons.mpr
              ⟨tameValue, fun slot member => tameBound slot (List.mem_of_mem_tail member)⟩
          refine Alike.bind (alike_withSlots agree slots) ?_
          intro ended holds
          refine Alike.pure ⟨holds.1, ?_⟩
          intro left member
          cases member
          rcases ended with ⟨outcome, slots⟩
          cases slots with
          | nil => exact Value.tame_void
          | cons slot rest => exact holds.2 slot List.mem_cons_self

/-- User-defined bodies that agree are alike. -/
theorem alike_invokeUser
    {first second : Run Value}
    {call : Call}
    (agree : Agree depth cap Value.Tame first second)
    (tame : call.Tame)
    (params : List String) :
    Alike depth cap Reply.Tame (invokeUser call params first)
      (invokeUser call params second) := by
  have noSlots : ∀ value ∈ ([] : List Value), value.Tame := fun _ member => nomatch member
  have tameReceiver := tame.receiver
  unfold invokeUser
  apply Alike.reading
  intro engine within
  split
  · cases binding : call.signature.bind call.args with
    | error error => exact Alike.pure (tame_refused binding tame.receiver)
    | ok bound =>
        have tameBound := Signature.tame_bind tame.args binding
        refine Alike.bind (Alike.edit fun _ inside => inside.bindParams params tameBound)
          fun _ _ => ?_
        cases receiver : call.receiver? with
        | none =>
            refine Alike.bind (alike_withSlots agree noSlots) ?_
            intro ended holds
            exact Alike.pure ⟨holds.1, fun _ member => nomatch member⟩
        | some value =>
            rw [receiver] at tameReceiver
            have tameValue : value.Tame := tameReceiver value rfl
            apply Alike.reading
            intro framed _
            refine Alike.bind (Alike.edit fun _ inside =>
              inside.withScopes (inside.tame.scopes.define receiverName tameValue)) fun _ _ => ?_
            refine Alike.bind (alike_withSlots agree noSlots) ?_
            intro ended holds
            apply Alike.reading
            intro after inside
            refine Alike.pure ⟨holds.1, ?_⟩
            intro left member
            cases member
            exact Value.tame_getD fun _ => inside.bindingAt?
  · refine Alike.pure ⟨?_, tame.receiver⟩
    intro payload member
    cases member

/-! ## Library natives -/

/-- Agreement is a judgement on natives. -/
def agreement (depth cap : Nat) : Judgement where
  allowed := Signature.Tame
  inside := Within depth cap
  holds := Agree depth cap
  slots within := within.tame.slots
  pure := Agree.pure
  bind := Agree.bind
  reading := Agree.reading
  edit changes := by
    refine Agree.edit fun engine within => ?_
    obtain ⟨slots, reports, host, changed, tame⟩ := changes engine within
    rw [changed]
    exact (within.withSlots tame).of_same rfl
  fail := Agree.fail
  throwValue tame := agree_throwValue tame

/-- Natives of the library act in the same way through twin dispatchers. -/
theorem Library.agree_exec
    (twins : Twins depth cap first second)
    (function : LibraryFunction) :
    Agree depth cap Value.Tame (exec first function) (exec second function) := by
  have calls : (agreement depth cap).Calls first second := by
    intro callee args only onlyArgs
    have tame : callee.Tame := only
    exact twins.callValue tame onlyArgs
  exact Judgement.holds_exec calls function

end
end ScriptCore
