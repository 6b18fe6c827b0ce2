import ScriptCore.Library.Natives
import ScriptCore.Proofs.Engine.Handlers
import ScriptCore.Proofs.OrderedMap.Values

/-!
# Fallbacks of natives

A native that goes on with its fallbacks never fails to read an argument as a
value, as bytes or as elements, and reading leaves the engine as it is.
-/

namespace ScriptCore
namespace Library

open Engine

/-- Past the last argument void is read. -/
theorem arg_fallBack (index : Nat) (engine : Engine) :
    arg .fallBack index engine = (.ok (engine.slotAt index), engine) := by
  rw [arg, Run.get_bind, slotAt, List.getD_eq_getElem?_getD]
  cases engine.slots[index]? <;> rfl

theorem takeArg_fallBack (index : Nat) (engine : Engine) :
    takeArg .fallBack index engine = (.ok (engine.slotAt index), engine.setSlot index .void) := by
  rw [takeArg, Run.bind_ok (arg_fallBack index engine)]
  rfl

/-- A value without the content that is asked for stands for a default. -/
theorem content_fallBack {α : Type} (view? : Value → Option α) (default : α) (value : Value) :
    content .fallBack view? (pure default) value = pure ((view? value).getD default) := by
  unfold content
  cases view? value <;> rfl

theorem bytesArg_fallBack (index : Nat) (engine : Engine) :
    bytesArg .fallBack index engine = (.ok ((engine.slotAt index).asBytes?.getD []), engine) := by
  rw [bytesArg, Run.bind_ok (arg_fallBack index engine), content_fallBack]
  rfl

/-- An argument that is no array is read as an empty one. -/
theorem itemsArg_fallBack (index : Nat) (engine : Engine) :
    itemsArg .fallBack index engine =
      (.ok ((engine.slotAt index).asArray?.getD .empty), engine) := by
  rw [itemsArg, Run.bind_ok (arg_fallBack index engine), content_fallBack]
  rfl

section

variable [KeyHash]

/-- Pairs of keys and values become an array of values from before and of values
among them, unless a key has no text. -/
theorem ofPairs_fallBack (position : Nat) (items : OrderedMap Value) (args : List Value) :
    (∃ pairs, ofPairs .fallBack position items args = pure pairs ∧
        ∀ property, items.All property → (∀ arg ∈ args, property arg) → pairs.All property) ∨
      ∃ place cast, ofPairs .fallBack position items args =
        Run.fail (.coercion "mkkeyarray" place cast) := by
  fun_induction ofPairs .fallBack position items args with
  | case1 position items key value rest converted coerced ih =>
      rw [content_fallBack, pure_bind]
      rcases ih (converted.asText?.getD "") with ⟨pairs, paired, all⟩ | refused
      · refine .inl ⟨pairs, paired, fun property before among => ?_⟩
        rw [List.forall_mem_cons, List.forall_mem_cons] at among
        exact all property (before.insert _ among.2.1) among.2.2
      · exact .inr refused
  | case2 position items key value rest cast refused => exact .inr ⟨position, cast, rfl⟩
  | case3 => exact .inl ⟨_, rfl, fun _ before _ => before⟩

end

/-- The host takes any variable. -/
theorem setVariable_fallBack (name value : Bytes) :
    setVariable .fallBack name value =
      modify (mapEnvironment fun environment => environment.set name value) :=
  ite_self _

theorem unsetVariable_fallBack (name : Bytes) :
    unsetVariable .fallBack name =
      modify (mapEnvironment fun environment => environment.unset name) :=
  ite_self _

end Library
end ScriptCore
