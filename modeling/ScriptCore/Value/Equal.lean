import ScriptCore.Value.Basic

/-!
# Strict equality

Two values are strictly equal when their tags agree and their contents do, with
no conversion. Containers agree slot by slot: the bucket order plays no part.
Functions and resources agree by identity, and a NaN differs from itself.
-/

namespace ScriptCore

namespace Slot

/-- Slots of functions with the same keys and the same overload sets. -/
def sameFunction : Slot Function → Slot Function → Bool
  | vacant, vacant => true
  | item left, item right => left.same right
  | entry leftKey left, entry rightKey right => leftKey == rightKey && left.same right
  | _, _ => false

end Slot

/-- Method tables agree slot by slot. -/
def sameMethods (left right : OrderedMap Function) : Bool :=
  left.size == right.size && (left.toList.zip right.toList).all fun (l, r) => l.sameFunction r

namespace Value

mutual

/-- Equality without conversion. -/
def strictEq : Value → Value → Bool
  | void, void => true
  | bool left, bool right => left == right
  | int left, int right => left == right
  | float left, float right => left.equal right
  | str left, str right => left == right
  | array ⟨⟨left⟩, _, _, _, _⟩, array ⟨⟨right⟩, _, _, _, _⟩ => strictEqSlots left right
  | record ⟨leftClass, ⟨⟨left⟩, _, _, _, _⟩, leftMethods⟩,
    record ⟨rightClass, ⟨⟨right⟩, _, _, _, _⟩, rightMethods⟩ =>
      leftClass == rightClass && strictEqSlots left right && sameMethods leftMethods rightMethods
  | function left, function right => left.same right
  | resource left, resource right => left.id == right.id
  | _, _ => false
termination_by structural left => left

/-- Equality of slot lists without conversion. -/
def strictEqSlots : List (Slot Value) → List (Slot Value) → Bool
  | [], [] => true
  | .vacant :: left, .vacant :: right => strictEqSlots left right
  | .item l :: left, .item r :: right => l.strictEq r && strictEqSlots left right
  | .entry leftKey l :: left, .entry rightKey r :: right =>
      leftKey == rightKey && l.strictEq r && strictEqSlots left right
  | _, _ => false
termination_by structural left => left

end

end Value

namespace OrderedMap

/-- Containers with the same slots. -/
def strictEq (left right : OrderedMap Value) : Bool :=
  Value.strictEqSlots left.toList right.toList

end OrderedMap
end ScriptCore
