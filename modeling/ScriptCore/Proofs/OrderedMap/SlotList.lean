import ScriptCore.Proofs.OrderedMap.History
import ScriptCore.Value.Equal

/-!
# Containers as slot lists

The reference container is a list of slots and nothing else: no buckets, no
counts, no order. Keys are found by scanning the list. Every operation and every
question to a container has its counterpart here.

A history leads to the same slots in the table and in the list, so whatever can
be asked of a container, apart from the size of its table, has one answer for
every function that spreads the keys and for every initial order.
-/

namespace ScriptCore

/-! ## The reference container -/

namespace SlotList

variable {α β : Type}

/-- The value at a position. -/
def getAt? (slots : List (Slot α)) (index : Nat) : Option α :=
  slots[index]?.bind Slot.value?

/-- The key at a position. -/
def keyAt? (slots : List (Slot α)) (index : Nat) : Option String :=
  slots[index]?.bind Slot.key?

/-- The position of the first slot with a key. -/
def keyIndex? (slots : List (Slot α)) (key : String) : Option Nat :=
  slots.findIdx? (Slot.hasKey key)

/-- The value of the first slot with a key. -/
def get? (slots : List (Slot α)) (key : String) : Option α :=
  (slots.find? (Slot.hasKey key)).bind Slot.value?

/-- Occupied slots with their positions, counted from a given one. -/
def entriesFrom (position : Nat) : List (Slot α) → List (Nat × Option String × α)
  | [] => []
  | .vacant :: slots => entriesFrom (position + 1) slots
  | .item value :: slots => (position, none, value) :: entriesFrom (position + 1) slots
  | .entry key value :: slots =>
      (position, some key, value) :: entriesFrom (position + 1) slots

/-- Write a value under a key: into the first slot that has it, else at the
end. -/
def insert (key : String) (value : α) : List (Slot α) → List (Slot α)
  | [] => [.entry key value]
  | slot :: slots =>
      if slot.hasKey key then .entry key value :: slots else slot :: insert key value slots

/-- Add a slot of another container: its value under its key, or at the end. -/
def add (slots : List (Slot α)) : Slot α → List (Slot α)
  | .vacant => slots
  | .item value => slots ++ [.item value]
  | .entry key value => insert key value slots

/-- Change the first slot with a key. -/
def changeKey (key : String) (change : Slot α → Slot α) : List (Slot α) → List (Slot α)
  | [] => []
  | slot :: slots =>
      if slot.hasKey key then change slot :: slots else slot :: changeKey key change slots

/-- Equality slot by slot, given an equality of values. -/
def same (equal : α → α → Bool) : List (Slot α) → List (Slot α) → Bool
  | [], [] => true
  | .vacant :: left, .vacant :: right => same equal left right
  | .item l :: left, .item r :: right => equal l r && same equal left right
  | .entry leftKey l :: left, .entry rightKey r :: right =>
      leftKey == rightKey && equal l r && same equal left right
  | _, _ => false

end SlotList

namespace History

variable {α : Type}

/-- The slots that a history leads to in the reference container. -/
def slots : {α : Type} → History α → List (Slot α)
  | _, empty => []
  | _, withOrder _ => []
  | _, append before value => before.slots ++ [.item value]
  | _, insert before key value => SlotList.insert key value before.slots
  | _, insertEntry before key? value => SlotList.add before.slots (.ofEntry key? value)
  | _, setAt before index value => before.slots.modify index fun slot => slot.write value
  | _, modifyAt before index f => before.slots.modify index (Slot.map f)
  | _, modify before key f => SlotList.changeKey key (Slot.map f) before.slots
  | _, deleteAt before index => before.slots.modify index fun _ => .vacant
  | _, erase before key => SlotList.changeKey key (fun _ => .vacant) before.slots
  | _, compact before => before.slots.filter fun slot => !slot.isVacant
  | _, mapValues f before => before.slots.map (Slot.map f)
  | _, reverse before => before.slots.reverse
  | _, extend before other => other.slots.foldl SlotList.add before.slots
  | _, merge _ maps =>
      (List.ofFn fun index => (maps index).slots).foldl (List.foldl SlotList.add) []

/-- The same operations with other initial orders. -/
def reorder (choose : Nat → Nat) : {α : Type} → History α → History α
  | _, empty => withOrder (choose OrderedMap.defaultOrder)
  | _, withOrder order => withOrder (choose order)
  | _, append before value => (before.reorder choose).append value
  | _, insert before key value => (before.reorder choose).insert key value
  | _, insertEntry before key? value => (before.reorder choose).insertEntry key? value
  | _, setAt before index value => (before.reorder choose).setAt index value
  | _, modifyAt before index f => (before.reorder choose).modifyAt index f
  | _, modify before key f => (before.reorder choose).modify key f
  | _, deleteAt before index => (before.reorder choose).deleteAt index
  | _, erase before key => (before.reorder choose).erase key
  | _, compact before => (before.reorder choose).compact
  | _, mapValues f before => (before.reorder choose).mapValues f
  | _, reverse before => (before.reorder choose).reverse
  | _, extend before other => (before.reorder choose).extend (other.reorder choose)
  | _, merge count maps => merge count fun index => (maps index).reorder choose

/-- The initial orders in a history have no effect on the slots it describes. -/
theorem slots_reorder (choose : Nat → Nat) (history : History α) :
    (history.reorder choose).slots = history.slots := by
  induction history with
  | empty => rfl
  | withOrder order => rfl
  | extend before other beforeHypothesis otherHypothesis =>
      simp only [reorder, slots, beforeHypothesis, otherHypothesis]
  | merge count maps ih => simp only [reorder, slots, ih]
  | _ => simp only [reorder, slots, *]

end History

/-! ## One operation in both containers -/

namespace SlotList

variable {α : Type}

/-- Changing the slot of a key is changing the slot at its position. -/
theorem changeKey_eq
    (key : String)
    (change : Slot α → Slot α)
    (slots : List (Slot α)) :
    changeKey key change slots =
      match slots.findIdx? (Slot.hasKey key) with
      | some index => slots.modify index change
      | none => slots := by
  induction slots with
  | nil => rfl
  | cons head tail ih =>
      rw [changeKey, List.findIdx?_cons]
      by_cases present : head.hasKey key = true
      · simp [present]
      · rw [if_neg present, if_neg present, ih]
        cases List.findIdx? (Slot.hasKey key) tail <;> simp

/-- Writing under a key that is there writes at its position. -/
theorem insert_eq (key : String) (value : α) (slots : List (Slot α)) :
    insert key value slots =
      match slots.findIdx? (Slot.hasKey key) with
      | some index => slots.modify index fun slot => slot.write value
      | none => slots ++ [.entry key value] := by
  induction slots with
  | nil => rfl
  | cons head tail ih =>
      rw [insert, List.findIdx?_cons]
      by_cases present : head.hasKey key = true
      · have written : head.write value = .entry key value := by
          cases head <;> simp_all [Slot.hasKey, Slot.write]
        simp [present, written]
      · rw [if_neg present, if_neg present, ih]
        cases List.findIdx? (Slot.hasKey key) tail <;> simp

/-- The first slot with a key is the slot at the position found. -/
theorem get?_eq (slots : List (Slot α)) (key : String) :
    get? slots key = (keyIndex? slots key).bind (getAt? slots) := by
  unfold get? keyIndex? getAt?
  induction slots with
  | nil => rfl
  | cons head tail ih =>
      rw [List.find?_cons, List.findIdx?_cons]
      by_cases present : head.hasKey key = true
      · simp [present]
      · rw [Bool.not_eq_true] at present
        simp only [present, Bool.false_eq_true, if_false, Option.bind_map, Function.comp_def,
          List.getElem?_cons_succ]
        exact ih

/-- Positions, keys and values of the occupied slots. -/
theorem entriesFrom_eq (position : Nat) (slots : List (Slot α)) :
    entriesFrom position slots =
      (slots.zipIdx position).filterMap fun (slot, index) =>
        slot.value?.map fun value => (index, slot.key?, value) := by
  induction slots generalizing position with
  | nil => rfl
  | cons head tail ih =>
      cases head <;>
        simp [entriesFrom, List.zipIdx_cons, List.filterMap_cons, ih]

/-- Strict equality of slot lists is equality slot by slot. -/
theorem same_strictEq (left right : List (Slot Value)) :
    same Value.strictEq left right = Value.strictEqSlots left right := by
  induction left generalizing right with
  | nil => cases right <;> simp [same, Value.strictEqSlots]
  | cons head tail ih =>
      cases right with
      | nil => cases head <;> simp [same, Value.strictEqSlots]
      | cons other others =>
          cases head <;> cases other <;>
            simp [same, Value.strictEqSlots, ih]

end SlotList

namespace OrderedMap

variable {α : Type}

theorem entries_eq_entriesFrom (map : OrderedMap α) :
    map.entries = SlotList.entriesFrom 0 map.toList := by
  rw [SlotList.entriesFrom_eq]
  rfl

theorem size_eq_length (map : OrderedMap α) : map.size = map.toList.length := by
  rw [size, toList, Array.length_toList]

theorem getAt?_eq (map : OrderedMap α) (index : Nat) :
    map.getAt? index = SlotList.getAt? map.toList index := by
  rw [getAt?, SlotList.getAt?, toList, Array.getElem?_toList]

variable [KeyHash]

namespace Coherent

variable {map : OrderedMap α}

theorem toList_insert (coherent : map.Coherent) (key : String) (value : α) :
    (map.insert key value).toList = SlotList.insert key value map.toList := by
  rw [SlotList.insert_eq, ← coherent.keyIndex?_eq]
  rw [insert_eq]
  cases map.keyIndex? key <;> simp

theorem toList_insertEntry (coherent : map.Coherent) (key? : Option String) (value : α) :
    (map.insertEntry key? value).toList = SlotList.add map.toList (.ofEntry key? value) := by
  cases key? with
  | none => exact toList_append map value
  | some key => exact coherent.toList_insert key value

theorem toList_modify (coherent : map.Coherent) (key : String) (f : α → α) :
    (map.modify key f).toList = SlotList.changeKey key (Slot.map f) map.toList := by
  rw [SlotList.changeKey_eq, ← coherent.keyIndex?_eq]
  unfold OrderedMap.modify
  cases map.keyIndex? key <;> simp

theorem toList_erase (coherent : map.Coherent) (key : String) :
    (map.erase key).toList = SlotList.changeKey key (fun _ => .vacant) map.toList := by
  rw [SlotList.changeKey_eq, ← coherent.keyIndex?_eq]
  rw [erase_eq]
  cases map.keyIndex? key <;> simp

/-- Compaction drops the vacant slots, also where the counter lets it do
nothing. -/
theorem toList_compact (coherent : map.Coherent) :
    map.compact.toList = map.toList.filter fun slot => !slot.isVacant := by
  unfold OrderedMap.compact
  split
  · next none =>
    have noneVacant : map.toList.countP Slot.isVacant = 0 := by
      rw [← none]
      exact coherent.vacant_eq.symm
    rw [List.countP_eq_zero] at noneVacant
    symm
    rw [List.filter_eq_self]
    intro slot member
    simpa using noneVacant slot member
  · simp [toList, rebuildBuckets]

/-- Adding the entries of another container one by one. -/
theorem toList_addEntries
    (coherent : map.Coherent)
    (position : Nat)
    (others : List (Slot α)) :
    ((SlotList.entriesFrom position others).foldl
        (fun result (_, key?, value) => result.insertEntry key? value) map).toList =
      others.foldl SlotList.add map.toList := by
  induction others generalizing position map with
  | nil => rfl
  | cons head tail ih =>
      cases head with
      | vacant => exact ih coherent (position + 1)
      | item value =>
          rw [SlotList.entriesFrom, List.foldl_cons, List.foldl_cons,
            ih (coherent.insertEntry none value), coherent.toList_insertEntry]
          rfl
      | entry key value =>
          rw [SlotList.entriesFrom, List.foldl_cons, List.foldl_cons,
            ih (coherent.insertEntry (some key) value),
            coherent.toList_insertEntry]
          rfl

theorem toList_extend (coherent : map.Coherent) (other : OrderedMap α) :
    (map.extend other).toList = other.toList.foldl SlotList.add map.toList := by
  rw [OrderedMap.extend, entries_eq_entriesFrom]
  exact coherent.toList_addEntries 0 other.toList

end Coherent

/-- A merge adds the slots of all the containers, from left to right. -/
theorem toList_merge (maps : List (OrderedMap α)) :
    (merge maps).toList = (maps.map toList).foldl (List.foldl SlotList.add) [] := by
  have general : ∀ start : OrderedMap α, start.Coherent →
      (maps.foldl OrderedMap.extend start).toList =
        (maps.map toList).foldl (List.foldl SlotList.add) start.toList := by
    induction maps with
    | nil => exact fun _ _ => rfl
    | cons map maps ih =>
        intro start coherent
        rw [List.foldl_cons, List.map_cons, List.foldl_cons,
          ih _ (coherent.extend map), coherent.toList_extend]
  exact general empty coherent_empty

end OrderedMap

/-! ## Questions and answers -/

/-- Everything that can be asked of a container, except the order of its table
and the number of its buckets. -/
structure Observation (α : Type) where
  size : Nat
  liveCount : Nat
  keyedCount : Nat
  vacantCount : Nat
  getAt? : Nat → Option α
  keyAt? : Nat → Option String
  get? : String → Option α
  keyIndex? : String → Option Nat
  contains : String → Bool
  entries : List (Nat × Option String × α)
  slots : List (Slot α)
  keys : List String
  values : List α

/-- What an operation returns: the position of a new value, the value that was
replaced or removed, or whether a position was there to write to. -/
inductive Answer (α : Type) where
  | nothing
  | position (index : Nat)
  | previous (value? : Option α)
  | written (inside : Bool)

/-- The observation of a slot list. -/
def SlotList.observe {α : Type} (slots : List (Slot α)) : Observation α where
  size := slots.length
  liveCount := slots.countP fun slot => !slot.isVacant
  keyedCount := slots.countP fun slot => slot.key?.isSome
  vacantCount := slots.countP Slot.isVacant
  getAt? := SlotList.getAt? slots
  keyAt? := SlotList.keyAt? slots
  get? := SlotList.get? slots
  keyIndex? := SlotList.keyIndex? slots
  contains key := slots.any (Slot.hasKey key)
  entries := SlotList.entriesFrom 0 slots
  slots := slots
  keys := slots.filterMap Slot.key?
  values := slots.filterMap Slot.value?

/-- The observation of a container. -/
def OrderedMap.observe {α : Type} [KeyHash] (map : OrderedMap α) : Observation α where
  size := map.size
  liveCount := map.liveCount
  keyedCount := map.keyed
  vacantCount := map.vacant
  getAt? := map.getAt?
  keyAt? := map.keyAt?
  get? := map.get?
  keyIndex? := map.keyIndex?
  contains := map.contains
  entries := map.entries
  slots := map.toList
  keys := map.keys
  values := map.values

namespace OrderedMap
namespace Coherent

variable {α : Type} [KeyHash] {map : OrderedMap α}

/-- The size less the counter of vacant slots is the number of occupied ones. -/
theorem liveCount_eq (coherent : map.Coherent) :
    map.liveCount = map.toList.countP fun slot => !slot.isVacant := by
  have total := List.length_eq_countP_add_countP Slot.isVacant (l := map.toList)
  have vacant := coherent.vacant_eq
  simp only [Bool.not_eq_true, Bool.decide_eq_false] at total
  simp only [liveCount, Slot.vacantCount, toList, Array.length_toList] at total vacant ⊢
  omega

/-- A look-up by key through the table finds what a search of the slots finds. -/
theorem get?_eq (coherent : map.Coherent) (key : String) :
    map.get? key = SlotList.get? map.toList key := by
  rw [SlotList.get?_eq, SlotList.keyIndex?, get?, coherent.keyIndex?_eq]
  congr 1
  funext index
  exact getAt?_eq map index

/-- A coherent container answers every question as its slot list does. -/
theorem observe_eq (coherent : map.Coherent) : map.observe = SlotList.observe map.toList := by
  have keyAt : map.keyAt? = SlotList.keyAt? map.toList := by
    funext index
    rw [keyAt?, SlotList.keyAt?, toList, Array.getElem?_toList]
  have contained : map.contains = fun key => map.toList.any (Slot.hasKey key) := by
    funext key
    rw [contains, coherent.keyIndex?_eq, List.findIdx?_isSome]
  unfold observe SlotList.observe
  rw [size_eq_length, coherent.liveCount_eq, coherent.keyed_eq, coherent.vacant_eq, keyAt,
    contained, entries_eq_entriesFrom, funext (getAt?_eq map), funext coherent.get?_eq,
    funext coherent.keyIndex?_eq]
  rfl

end Coherent
end OrderedMap

namespace History

variable {α : Type}

/-- A history leads to the same slots in both containers. -/
theorem toList_build [KeyHash] (history : History α) : history.build.toList = history.slots := by
  induction history with
  | empty => rfl
  | withOrder order => rfl
  | append before value ih => simp [build, slots, ih]
  | insert before key value ih =>
      rw [build, slots, before.coherent_build.toList_insert, ih]
  | insertEntry before key? value ih =>
      rw [build, slots, before.coherent_build.toList_insertEntry, ih]
  | setAt before index value ih => simp [build, slots, ih]
  | modifyAt before index f ih => simp [build, slots, ih]
  | modify before key f ih =>
      rw [build, slots, before.coherent_build.toList_modify, ih]
  | deleteAt before index ih => simp [build, slots, ih]
  | erase before key ih =>
      rw [build, slots, before.coherent_build.toList_erase, ih]
  | compact before ih =>
      rw [build, slots, before.coherent_build.toList_compact, ih]
  | mapValues f before ih => simp [build, slots, ih]
  | reverse before ih => simp [build, slots, ih]
  | extend before other beforeHypothesis otherHypothesis =>
      rw [build, slots, before.coherent_build.toList_extend, beforeHypothesis, otherHypothesis]
  | merge count maps ih =>
      rw [build, slots, OrderedMap.toList_merge, List.map_ofFn]
      simp only [Function.comp_def, ih]

/-- What the last operation of a history returns, with the given function to
spread the keys. -/
def answer (hash : KeyHash) : {α : Type} → History α → Answer α
  | _, append before value => .position (before.build.appendReturning value).1
  | _, insert before key value => .previous (before.build.insertReturning key value).1
  | _, setAt before index value => .written (before.build.setAtReturning index value).1
  | _, modifyAt before index _ => .previous (before.build.getAt? index)
  | _, modify before key _ => .previous (before.build.get? key)
  | _, deleteAt before index => .previous (before.build.deleteAtReturning index).1
  | _, erase before key => .previous (before.build.eraseReturning key).1
  | _, _ => .nothing

/-- What the last operation of a history returns in the reference container. -/
def slotAnswer : {α : Type} → History α → Answer α
  | _, append before _ => .position before.slots.length
  | _, insert before key _ => .previous (SlotList.get? before.slots key)
  | _, setAt before index _ => .written (decide (index < before.slots.length))
  | _, modifyAt before index _ => .previous (SlotList.getAt? before.slots index)
  | _, modify before key _ => .previous (SlotList.get? before.slots key)
  | _, deleteAt before index => .previous (SlotList.getAt? before.slots index)
  | _, erase before key => .previous (SlotList.get? before.slots key)
  | _, _ => .nothing

/-- What can be asked after a history, with the given function to spread the
keys. -/
def observe (hash : KeyHash) (history : History α) : Observation α :=
  history.build.observe

/-- All that can be observed of a container after a history follows from the slots
that the history describes. -/
theorem observe_eq (hash : KeyHash) (history : History α) :
    history.observe hash = SlotList.observe history.slots := by
  rw [observe, history.coherent_build.observe_eq, toList_build]

/-- The answer of the last operation of a history, read off the container, is the
one that its slots give. -/
theorem answer_eq (hash : KeyHash) (history : History α) :
    history.answer hash = history.slotAnswer := by
  cases history with
  | append before value =>
      rw [answer, slotAnswer, OrderedMap.appendReturning_fst, OrderedMap.size_eq_length,
        toList_build]
  | insert before key value =>
      rw [answer, slotAnswer, OrderedMap.insertReturning_fst, before.coherent_build.get?_eq,
        toList_build]
  | setAt before index value =>
      rw [answer, slotAnswer, OrderedMap.setAtReturning_fst, OrderedMap.size_eq_length,
        toList_build]
  | modifyAt before index f => rw [answer, slotAnswer, OrderedMap.getAt?_eq, toList_build]
  | modify before key f =>
      rw [answer, slotAnswer, before.coherent_build.get?_eq, toList_build]
  | deleteAt before index =>
      rw [answer, slotAnswer, OrderedMap.deleteAtReturning_fst, OrderedMap.getAt?_eq,
        toList_build]
  | erase before key =>
      rw [answer, slotAnswer, OrderedMap.eraseReturning_fst, before.coherent_build.get?_eq,
        toList_build]
  | _ => rfl

theorem slotAnswer_reorder (choose : Nat → Nat) (history : History α) :
    (history.reorder choose).slotAnswer = history.slotAnswer := by
  cases history <;> simp only [reorder, slotAnswer, slots_reorder]

/-- A container behaves as the list of its slots: after every history each
question, each returned value and each comparison has the answer of the list.
Neither the function that spreads the keys nor the initial orders matter. -/
theorem table_refines_slot_list (hash : KeyHash) (history : History α) :
    history.observe hash = SlotList.observe history.slots ∧
      history.answer hash = history.slotAnswer ∧
      (∀ left right : History Value,
        left.build.strictEq right.build =
          SlotList.same Value.strictEq left.slots right.slots) ∧
      ∀ (other : KeyHash) (choose : Nat → Nat),
        (history.reorder choose).observe other = history.observe hash ∧
          (history.reorder choose).answer other = history.answer hash := by
  refine ⟨history.observe_eq hash, history.answer_eq hash, ?_, ?_⟩
  · intro left right
    rw [OrderedMap.strictEq, toList_build, toList_build, SlotList.same_strictEq]
  · intro other choose
    constructor
    · rw [observe_eq, observe_eq, slots_reorder]
    · rw [answer_eq, answer_eq, slotAnswer_reorder]

end History
end ScriptCore
