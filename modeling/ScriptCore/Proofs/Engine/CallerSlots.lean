import ScriptCore.Proofs.Engine.Entries

/-!
# The slots of a caller

A call gets slots of its own and gives those of its caller back. What a native finds
among its arguments is therefore of no account to the functions that it calls: with
other slots it makes the same calls, with the same outcome, and the engine it leaves
differs in the slots alone.
-/

namespace ScriptCore
namespace Engine

variable {α β : Type}

/-- The engine with other slots. -/
def withOtherSlots (slots : List Value) (engine : Engine) : Engine :=
  { engine with slots }

/-- A computation that neither reads nor changes the slots. -/
def SlotBlind (body : Run α) : Prop :=
  ∀ engine slots, body (withOtherSlots slots engine) =
    ((body engine).1, withOtherSlots slots (body engine).2)

variable [KeyHash]

/-- Where the body of a call starts does not depend on the slots of the caller. -/
theorem entry_withOtherSlots (call : Call) (slots : List Value) (engine : Engine) :
    call.entry (withOtherSlots slots engine) = call.entry engine := by
  unfold Call.entry
  cases call.signature.implementation <;> rfl

/-- A call does not depend on the slots of its caller. -/
theorem slotBlind_callSignature (frames : Nat) (signature : Signature) (args : List Value) :
    SlotBlind (callSignature (dispatch frames) signature args) := by
  intro engine slots
  let call : Call := ⟨signature, args, none⟩
  change ((dispatch frames call (withOtherSlots slots engine)).1.outcome,
      (dispatch frames call (withOtherSlots slots engine)).2) =
    ((dispatch frames call engine).1.outcome,
      withOtherSlots slots (dispatch frames call engine).2)
  rcases Nat.lt_or_ge engine.callDepth engine.maxCallDepth with room | full
  · have roomThere : (withOtherSlots slots engine).callDepth <
        (withOtherSlots slots engine).maxCallDepth := room
    cases frames with
    | zero => rw [dispatch_out_of_frames room, dispatch_out_of_frames roomThere]
    | succ fewer =>
        rw [dispatch_framed room, dispatch_framed roomThere]
        -- A call replaces the slots, so its body starts on the same engine either way.
        have same : call.entry (withOtherSlots slots engine).opened = call.entry engine.opened :=
          entry_withOtherSlots call slots engine.opened
        cases entered : call.entry engine.opened with
        | error error =>
            rw [framed_of_error entered, framed_of_error (same.trans entered)]
        | ok start =>
            obtain ⟨left, ended⟩ := framed_of_ok entered (call.body (dispatch fewer))
            obtain ⟨leftThere, endedThere⟩ :=
              framed_of_ok (same.trans entered) (call.body (dispatch fewer))
            rw [ended, endedThere]
            rfl
  · have fullThere : (withOtherSlots slots engine).maxCallDepth ≤
        (withOtherSlots slots engine).callDepth := full
    rw [dispatch_at_cap full, dispatch_at_cap fullThere]
    rfl

omit [KeyHash] in
theorem slotBlind_fail (cause : Cause) : SlotBlind (Run.fail cause : Run α) :=
  fun _ _ => rfl

/-- Calling a value does not involve the slots of the caller. -/
theorem slotBlind_callValue (frames : Nat) (callee : Value) (args : List Value) :
    SlotBlind (callValue (dispatch frames) callee args) := by
  have called (function : Function) :
      SlotBlind (callFunction (dispatch frames) function args) := by
    unfold callFunction
    cases function.resolve? args.length with
    | some signature => exact slotBlind_callSignature frames signature args
    | none => exact slotBlind_fail _
  unfold callValue
  split
  · exact called _
  · next bytes =>
      intro engine slots
      unfold callByName
      rw [Run.get_bind, Run.get_bind]
      have same : (withOtherSlots slots engine).scopes = engine.scopes := rfl
      rw [same]
      cases engine.scopes.lookupFunction? (Utf8.text bytes) with
      | some function => exact called function engine slots
      | none => rfl
  · exact slotBlind_fail _

end Engine
end ScriptCore
