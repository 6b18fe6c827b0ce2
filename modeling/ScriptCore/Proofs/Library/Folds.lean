import ScriptCore.Proofs.Engine.CallerSlots
import ScriptCore.Proofs.Library.Visits
import ScriptCore.Proofs.OrderedMap.Merge

/-!
# Folds and reversal

A fold combines the live elements of an array one after the other, each with the
result of the call before. Its calls are listed here along the positions of the
array. Folding from the right passes the positions backwards, which is the same as
passing those of the reversed array forwards: each call has the same arguments, is
made on the same engine and ends in the same way.

The slots of the native that makes the calls are out of reach for the functions it
calls, so folding an array from the right and folding the reversed one are the same
for natives too, but for the array among their own arguments.
-/

namespace ScriptCore

open Engine

/-! ## Reversed containers -/

namespace OrderedMap

variable {α : Type} {map : OrderedMap α}

/-- The elements by position are those of the slots. -/
theorem map_getAt?_range (map : OrderedMap α) :
    (List.range map.size).map map.getAt? = map.toList.map Slot.value? := by
  rw [size_eq_length]
  apply List.ext_getElem
  · simp
  · intro position inRange inList
    simp only [List.length_map] at inList
    simp [getAt?_eq, SlotList.getAt?, List.getElem?_eq_getElem inList]

theorem filterMap_getAt?_range (map : OrderedMap α) :
    (List.range map.size).filterMap map.getAt? = map.values := by
  have viaMap {β γ : Type} (f : β → Option γ) (list : List β) :
      list.filterMap f = (list.map f).filterMap id := by
    rw [List.filterMap_map]
    rfl
  rw [viaMap, map_getAt?_range, ← viaMap]
  rfl

variable [KeyHash]

theorem size_reverse (map : OrderedMap α) : map.reverse.size = map.size := by
  rw [size_eq_length, toList_reverse, List.length_reverse, ← size_eq_length]

/-- Passing the positions backwards meets the values of the reversed container. -/
theorem map_getAt?_reverse (map : OrderedMap α) :
    (List.range map.size).reverse.map map.getAt? =
      (List.range map.reverse.size).map map.reverse.getAt? := by
  rw [List.map_reverse, map_getAt?_range, map_getAt?_range, toList_reverse, List.map_reverse]

theorem values_reverse (map : OrderedMap α) : map.reverse.values = map.values.reverse := by
  rw [values, toList_reverse, List.filterMap_reverse]
  rfl

/-- A reversal exchanges positions from the two ends. -/
theorem getElem?_reverse (map : OrderedMap α) (position : Fin map.size) :
    map.reverse.slots[map.size - 1 - position]? = map.slots[position.val]? := by
  have inside : position.val < map.slots.size := position.isLt
  have mirrored : map.slots.size - 1 - (map.slots.size - 1 - position.val) = position.val := by
    omega
  change map.slots.reverse[map.slots.size - 1 - position.val]? = _
  rw [Array.getElem?_reverse (by omega), mirrored]

/-- A container with the slots of another one in reverse order. -/
structure ReversalOf (map reversed : OrderedMap α) : Prop where
  size_eq : reversed.size = map.size
  /-- A second reversal undoes the first, bucket table included. -/
  involutive : reversed.reverse = map
  /-- Every key keeps its value. -/
  get?_eq : ∀ key, reversed.get? key = map.get? key
  /-- Keys and values move to the position as far from the other end. -/
  keyAt?_eq : ∀ position : Fin map.size,
    reversed.keyAt? (map.size - 1 - position) = map.keyAt? position
  getAt?_eq : ∀ position : Fin map.size,
    reversed.getAt? (map.size - 1 - position) = map.getAt? position

/-- The reversal of a coherent container has all the properties of one. -/
theorem Coherent.reversalOf (coherent : map.Coherent) : ReversalOf map map.reverse where
  size_eq := size_reverse map
  involutive := by
    apply coherent.reverse.reverse.eq_of_toList_eq coherent rfl
    rw [toList_reverse, toList_reverse, List.reverse_reverse]
  get?_eq key := by
    rw [coherent.reverse.get?_eq, coherent.get?_eq, toList_reverse, ← SlotList.last?,
      SlotList.last?_of_nodup coherent.keys_nodup]
  keyAt?_eq position := by rw [keyAt?, keyAt?, getElem?_reverse]
  getAt?_eq position := by rw [getAt?, getAt?, getElem?_reverse]

end OrderedMap

/-! ## Calls of a fold -/

namespace Iteration

variable {call : Value → Value → Run Value}

/-- Calls that combine the elements at some positions in order, each with the result
of the call before, up to the first failure. A position without an element is passed
over. -/
inductive Folds (call : Value → Value → Run Value) (elementAt? : Nat → Option Value) :
    List Nat → Value → Engine → List (Visit (Value × Value)) → Except Failure Value → Engine →
      Prop where
  | nil (accumulator : Value) (engine : Engine) :
      Folds call elementAt? [] accumulator engine [] (.ok accumulator) engine
  | skip {position : Nat} {positions : List Nat} {accumulator : Value} {engine final : Engine}
      {visits : List (Visit (Value × Value))} {outcome : Except Failure Value}
      (missing : elementAt? position = none)
      (later : Folds call elementAt? positions accumulator engine visits outcome final) :
      Folds call elementAt? (position :: positions) accumulator engine visits outcome final
  | fail {position : Nat} {accumulator element : Value} {engine after : Engine}
      {failure : Failure}
      (unvisited : List Nat)
      (here : elementAt? position = some element)
      (made : call accumulator element engine = (.error failure, after)) :
      Folds call elementAt? (position :: unvisited) accumulator engine
        [⟨(accumulator, element), engine, .error failure, after⟩] (.error failure) after
  | next {position : Nat} {positions : List Nat} {accumulator element result : Value}
      {engine middle final : Engine} {visits : List (Visit (Value × Value))}
      {outcome : Except Failure Value}
      (here : elementAt? position = some element)
      (made : call accumulator element engine = (.ok result, middle))
      (later : Folds call elementAt? positions result middle visits outcome final) :
      Folds call elementAt? (position :: positions) accumulator engine
        (⟨(accumulator, element), engine, .ok result, middle⟩ :: visits) outcome final

/-- A fold makes the calls along the positions of its elements. -/
theorem exists_folds
    (call : Value → Value → Run Value)
    (elementAt? : Nat → Option Value)
    (positions : List Nat)
    (accumulator : Value)
    (engine : Engine) :
    ∃ visits, Folds call elementAt? positions accumulator engine visits
      (fold call accumulator (positions.filterMap elementAt?) engine).1
      (fold call accumulator (positions.filterMap elementAt?) engine).2 := by
  induction positions generalizing accumulator engine with
  | nil => exact ⟨[], .nil accumulator engine⟩
  | cons position positions ih =>
      cases here : elementAt? position with
      | none =>
          rw [List.filterMap_cons_none here]
          obtain ⟨visits, later⟩ := ih accumulator engine
          exact ⟨visits, .skip here later⟩
      | some element =>
          rw [List.filterMap_cons_some here, fold]
          rcases made : call accumulator element engine with ⟨outcome, middle⟩
          cases outcome with
          | error failure =>
              rw [Run.bind_error made]
              exact ⟨_, .fail positions here made⟩
          | ok result =>
              rw [Run.bind_ok made]
              obtain ⟨visits, later⟩ := ih result middle
              exact ⟨_, .next here made later⟩

/-- The calls depend on the elements that are met, not on where they stand. -/
theorem Folds.congr
    {elementAt? otherAt? : Nat → Option Value}
    {positions others : List Nat}
    {accumulator : Value}
    {engine final : Engine}
    {visits : List (Visit (Value × Value))}
    {outcome : Except Failure Value}
    (folds : Folds call elementAt? positions accumulator engine visits outcome final)
    (same : positions.map elementAt? = others.map otherAt?) :
    Folds call otherAt? others accumulator engine visits outcome final := by
  induction folds generalizing others with
  | nil accumulator engine =>
      rw [List.map_eq_nil_iff.mp same.symm]
      exact .nil accumulator engine
  | skip missing later ih =>
      obtain ⟨other, rest, rfl, first, later⟩ := List.map_eq_cons_iff.mp same.symm
      exact .skip (first.trans missing) (ih later.symm)
  | fail unvisited here made =>
      obtain ⟨other, rest, rfl, first, -⟩ := List.map_eq_cons_iff.mp same.symm
      exact .fail rest (first.trans here) made
  | next here made later ih =>
      obtain ⟨other, rest, rfl, first, later⟩ := List.map_eq_cons_iff.mp same.symm
      exact .next (first.trans here) made (ih later.symm)

/-- A fold does not depend on the slots if its calls do not. -/
theorem slotBlind_fold
    (blind : ∀ accumulator element, SlotBlind (call accumulator element))
    (accumulator : Value)
    (elements : List Value) :
    SlotBlind (fold call accumulator elements) := by
  induction elements generalizing accumulator with
  | nil => exact fun _ _ => rfl
  | cons element elements ih =>
      intro engine slots
      have called := blind accumulator element engine slots
      rw [fold]
      rcases made : call accumulator element engine with ⟨outcome, middle⟩
      rw [made] at called
      cases outcome with
      | error failure => rw [Run.bind_error made, Run.bind_error called]
      | ok result =>
          rw [Run.bind_ok made, Run.bind_ok called]
          exact ih result middle slots

end Iteration

namespace Library

open Iteration

/-- The arguments of a fold. -/
def foldArgs (callee initial : Value) (items : OrderedMap Value) (surplus : List Value) :
    List Value :=
  callee :: initial :: .array items :: surplus

variable [KeyHash]

/-- Call a callable on an accumulator and an element. -/
def combining (dispatch : Dispatcher) (callee accumulator element : Value) : Run Value :=
  callValue dispatch callee [accumulator, element]

theorem reduce_eq
    (dispatch : Dispatcher)
    (apply : (Value → Value → Run Value) → Value → List Value → Run Value)
    (callee initial : Value)
    (items : OrderedMap Value)
    (surplus : List Value)
    (engine : Engine) :
    reduce .fallBack dispatch apply
        (withOtherSlots (foldArgs callee initial items surplus) engine) =
      apply (combining dispatch callee) initial items.values
        (withOtherSlots (foldArgs callee .void items surplus) engine) := rfl

/-- Folding an array from the right is folding the reversed array: with any
callable, on any engine, the calls have the same arguments, are made on the same
engines and end in the same way, and so do the folds. Natives agree too, apart from
the array among their arguments. Reversal moves every key and its value to the
mirrored position, and undoes itself. -/
theorem foldr_folds_the_reversal (initial : Value) (history : History Value) :
    let items := history.build
    OrderedMap.ReversalOf items items.reverse ∧
    (∀ call engine, ∃ visits outcome final,
      foldr call initial items.values engine = (outcome, final) ∧
      fold call initial items.reverse.values engine = (outcome, final) ∧
      Folds call items.getAt? (List.range items.size).reverse initial engine visits outcome final ∧
      Folds call items.reverse.getAt? (List.range items.reverse.size) initial engine visits outcome
        final) ∧
    ∀ frames callee surplus engine, ∃ outcome final,
      exec (Engine.dispatch frames) .foldr
          (withOtherSlots (foldArgs callee initial items surplus) engine) =
        (outcome, withOtherSlots (foldArgs callee .void items surplus) final) ∧
      exec (Engine.dispatch frames) .fold
          (withOtherSlots (foldArgs callee initial items.reverse surplus) engine) =
        (outcome, withOtherSlots (foldArgs callee .void items.reverse surplus) final) := by
  intro items
  have coherent : items.Coherent := history.coherent_build
  have backwards : (List.range items.size).reverse.filterMap items.getAt? =
      items.values.reverse := by
    rw [List.filterMap_reverse, OrderedMap.filterMap_getAt?_range]
  refine ⟨coherent.reversalOf, fun call engine => ?_, fun frames callee surplus engine => ?_⟩
  · obtain ⟨visits, folds⟩ := exists_folds call items.getAt? (List.range items.size).reverse
      initial engine
    rw [backwards] at folds
    refine ⟨visits, _, _, rfl, ?_, folds, folds.congr items.map_getAt?_reverse⟩
    rw [items.values_reverse]
    rfl
  · have blind : SlotBlind (fold (combining (Engine.dispatch frames) callee) initial
        items.values.reverse) :=
      slotBlind_fold (fun _ _ => slotBlind_callValue frames callee _) _ _
    refine ⟨_, _, (reduce_eq ..).trans (blind engine _), (reduce_eq ..).trans ?_⟩
    rw [items.values_reverse]
    exact blind engine _

end Library
end ScriptCore
