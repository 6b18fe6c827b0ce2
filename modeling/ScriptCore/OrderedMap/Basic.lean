import ScriptCore.OrderedMap.Slot

/-!
# Ordered containers

Arrays, records and scopes are sequences of slots in order of insertion. The
keyed slots are also found through a table of `2 ^ order` buckets, each of which
lists the positions of its slots in increasing order. Deleting a slot leaves it
vacant, so positions never move until the container is compacted.

The table grows by one doubling whenever a new key would fill more than three
quarters of it, up to a fixed largest order, and never shrinks. The function
that spreads keys over buckets is a parameter: no result but the order and the
number of buckets depends on it.
-/

namespace ScriptCore

/-- How keys are spread over buckets. -/
class KeyHash where
  /-- The number of a key, of which the bucket is a remainder. -/
  hash : String → Nat

/-- A sequence of slots with a bucket table over the keyed ones. -/
structure OrderedMap (α : Type) where
  slots : Array (Slot α)
  buckets : Array (List Nat)
  order : Nat
  keyed : Nat
  vacant : Nat

namespace OrderedMap

variable {α β : Type}

/-- Bucket order of a container for which none is given. -/
def defaultOrder : Nat := 3

/-- Largest bucket order. -/
def maxOrder : Nat := 30

/-- A table of empty buckets. -/
def emptyBuckets (order : Nat) : Array (List Nat) :=
  Array.replicate (Nat.pow 2 order) []

/-- An empty container with the given bucket order. -/
def withOrder (order : Nat) : OrderedMap α :=
  let capped := min order maxOrder
  { slots := #[], buckets := emptyBuckets capped, order := capped, keyed := 0, vacant := 0 }

/-- An empty container with the default bucket order. -/
def empty : OrderedMap α :=
  withOrder defaultOrder

instance : Inhabited (OrderedMap α) := ⟨empty⟩

/-! ## Counts -/

/-- Number of slots, vacant ones included. -/
def size (map : OrderedMap α) : Nat :=
  map.slots.size

/-- Number of occupied slots. -/
def liveCount (map : OrderedMap α) : Nat :=
  map.slots.size - map.vacant

/-- Number of buckets. -/
def bucketCount (map : OrderedMap α) : Nat :=
  map.buckets.size

def isEmpty (map : OrderedMap α) : Bool :=
  map.slots.isEmpty

/-! ## Reading -/

/-- The slots as a list. -/
def toList (map : OrderedMap α) : List (Slot α) :=
  map.slots.toList

/-- The value at a position. -/
def getAt? (map : OrderedMap α) (index : Nat) : Option α :=
  map.slots[index]?.bind Slot.value?

/-- The key at a position. -/
def keyAt? (map : OrderedMap α) (index : Nat) : Option String :=
  map.slots[index]?.bind Slot.key?

/-- Occupied slots with their positions, in order. -/
def entries (map : OrderedMap α) : List (Nat × Option String × α) :=
  map.toList.zipIdx.filterMap fun (slot, index) =>
    slot.value?.map fun value => (index, slot.key?, value)

/-- Keys in order. -/
def keys (map : OrderedMap α) : List String :=
  map.toList.filterMap Slot.key?

/-- Values in order. -/
def values (map : OrderedMap α) : List α :=
  map.toList.filterMap Slot.value?

/-! ## Writing at a position

An operation with an answer comes in two forms: one returns the answer with the
container, and the other returns the container alone. -/

/-- Add an unkeyed value at the end. The answer is its position. -/
def appendReturning (map : OrderedMap α) (value : α) : Nat × OrderedMap α :=
  let slots := map.slots.push (.item value)
  (slots.size - 1, { map with slots })

/-- Add an unkeyed value at the end. -/
def append (map : OrderedMap α) (value : α) : OrderedMap α :=
  (map.appendReturning value).2

/-- A new value stands at the former size. -/
@[simp] theorem appendReturning_fst (map : OrderedMap α) (value : α) :
    (map.appendReturning value).1 = map.size := by
  simp [appendReturning, size]

@[simp] theorem toList_append (map : OrderedMap α) (value : α) :
    (map.append value).toList = map.toList ++ [.item value] := by
  simp [append, appendReturning, toList]

/-- Write a value at a position and keep its key. A vacant slot is revived
without a key; past the end nothing happens. The answer is whether there is such
a position. -/
def setAtReturning (map : OrderedMap α) (index : Nat) (value : α) : Bool × OrderedMap α :=
  match map.slots[index]? with
  | none => (false, map)
  | some slot =>
      (true, { map with
        slots := map.slots.modify index fun slot => slot.write value
        vacant := if slot.isVacant then map.vacant - 1 else map.vacant })

/-- Write a value at a position, if there is one, and keep its key. -/
def setAt (map : OrderedMap α) (index : Nat) (value : α) : OrderedMap α :=
  (map.setAtReturning index value).2

/-- There is a position to write to exactly below the size. -/
@[simp] theorem setAtReturning_fst (map : OrderedMap α) (index : Nat) (value : α) :
    (map.setAtReturning index value).1 = decide (index < map.size) := by
  unfold setAtReturning size
  split
  · next absent => simpa using absent
  · next slot there =>
    obtain ⟨inside, -⟩ := Array.getElem?_eq_some_iff.mp there
    exact (decide_eq_true inside).symm

@[simp] theorem toList_setAt (map : OrderedMap α) (index : Nat) (value : α) :
    (map.setAt index value).toList = map.toList.modify index fun slot => slot.write value := by
  unfold setAt setAtReturning
  split
  · next absent =>
    have past : map.toList.length ≤ index := by
      simpa [toList] using absent
    rw [List.modify_eq_self past]
  · simp [toList]

/-- Apply a function to the value at a position. -/
def modifyAt (map : OrderedMap α) (index : Nat) (f : α → α) : OrderedMap α :=
  { map with slots := map.slots.modify index (Slot.map f) }

@[simp] theorem toList_modifyAt (map : OrderedMap α) (index : Nat) (f : α → α) :
    (map.modifyAt index f).toList = map.toList.modify index (Slot.map f) := by
  simp [modifyAt, toList]

/-! ## The bucket table -/

section Table

variable [KeyHash]

/-- The bucket of a key in a table of the given size. -/
def bucketIn (bucketCount : Nat) (key : String) : Nat :=
  KeyHash.hash key % bucketCount

/-- The bucket of a key. -/
def bucketOf (map : OrderedMap α) (key : String) : Nat :=
  bucketIn map.buckets.size key

/-- Record the position of a key at the end of its bucket. -/
def pushIndex (buckets : Array (List Nat)) (key : String) (index : Nat) : Array (List Nat) :=
  buckets.modify (bucketIn buckets.size key) fun bucket => bucket ++ [index]

/-- Record the position of a slot if it is keyed. -/
def indexSlot (buckets : Array (List Nat)) (slot : Slot α) (index : Nat) : Array (List Nat) :=
  match slot with
  | .entry key _ => pushIndex buckets key index
  | _ => buckets

/-- The bucket table of a slot sequence. -/
def indexSlots (order : Nat) (slots : Array (Slot α)) : Array (List Nat) :=
  slots.toList.zipIdx.foldl (fun buckets (slot, index) => indexSlot buckets slot index)
    (emptyBuckets order)

/-- Index the slots afresh, and count those that are keyed. -/
def rebuildBuckets (map : OrderedMap α) : OrderedMap α :=
  { map with
    buckets := indexSlots map.order map.slots
    keyed := map.slots.toList.countP fun slot => slot.key?.isSome }

@[simp] theorem toList_rebuildBuckets (map : OrderedMap α) :
    map.rebuildBuckets.toList = map.toList := rfl

/-- The position of a key whose hash is known. -/
def keyIndexHashed? (map : OrderedMap α) (hash : Nat) (key : String) : Option Nat :=
  (map.buckets.getD (hash % map.buckets.size) []).find? fun index =>
    match map.slots[index]? with
    | some slot => slot.hasKey key
    | none => false

/-- The position of a key. -/
def keyIndex? (map : OrderedMap α) (key : String) : Option Nat :=
  map.keyIndexHashed? (KeyHash.hash key) key

/-- The value under a key whose hash is known. -/
def getHashed? (map : OrderedMap α) (hash : Nat) (key : String) : Option α :=
  (map.keyIndexHashed? hash key).bind map.getAt?

/-- The value under a key. -/
def get? (map : OrderedMap α) (key : String) : Option α :=
  (map.keyIndex? key).bind map.getAt?

def contains (map : OrderedMap α) (key : String) : Bool :=
  (map.keyIndex? key).isSome

@[simp] theorem getHashed?_hash (map : OrderedMap α) (key : String) :
    map.getHashed? (KeyHash.hash key) key = map.get? key := rfl

/-! ## Writing under a key -/

/-- Double the table. -/
def grow (map : OrderedMap α) : OrderedMap α :=
  { map with order := map.order + 1 }.rebuildBuckets

@[simp] theorem toList_grow (map : OrderedMap α) : map.grow.toList = map.toList := rfl

/-- Whether one more key would overfill a table that may still grow. -/
def isFull (map : OrderedMap α) : Bool :=
  decide (map.buckets.size * 3 < (map.keyed + 1) * 4) && decide (map.order < maxOrder)

/-- Add a key that is not present. -/
def pushEntry (map : OrderedMap α) (key : String) (value : α) : OrderedMap α :=
  let grown := if map.isFull then map.grow else map
  { grown with
    slots := grown.slots.push (.entry key value)
    buckets := pushIndex grown.buckets key grown.slots.size
    keyed := grown.keyed + 1 }

@[simp] theorem toList_pushEntry (map : OrderedMap α) (key : String) (value : α) :
    (map.pushEntry key value).toList = map.toList ++ [.entry key value] := by
  unfold pushEntry
  split <;> simp [toList, grow, rebuildBuckets]

/-- Write a value under a key; a key that is present keeps its position. The
answer is the value that the key had. -/
def insertReturning (map : OrderedMap α) (key : String) (value : α) : Option α × OrderedMap α :=
  match map.keyIndex? key with
  | some index => (map.getAt? index, map.setAt index value)
  | none => (none, map.pushEntry key value)

/-- Write a value under a key; a key that is present keeps its position. -/
def insert (map : OrderedMap α) (key : String) (value : α) : OrderedMap α :=
  (map.insertReturning key value).2

/-- An insertion overwrites the slot of its key or pushes a new entry. -/
theorem insert_eq (map : OrderedMap α) (key : String) (value : α) :
    map.insert key value =
      match map.keyIndex? key with
      | some index => map.setAt index value
      | none => map.pushEntry key value := by
  unfold insert insertReturning
  cases map.keyIndex? key <;> rfl

/-- The value that a key had is the one that is found under it. -/
@[simp] theorem insertReturning_fst (map : OrderedMap α) (key : String) (value : α) :
    (map.insertReturning key value).1 = map.get? key := by
  unfold insertReturning get?
  cases map.keyIndex? key <;> rfl

/-- Add a value under an optional key. -/
def insertEntry (map : OrderedMap α) (key? : Option String) (value : α) : OrderedMap α :=
  match key? with
  | some key => map.insert key value
  | none => map.append value

/-- Apply a function to the value under a key. -/
def modify (map : OrderedMap α) (key : String) (f : α → α) : OrderedMap α :=
  match map.keyIndex? key with
  | some index => map.modifyAt index f
  | none => map

/-- Make a slot vacant. The answer is the value that was in it. -/
def deleteAtReturning (map : OrderedMap α) (index : Nat) : Option α × OrderedMap α :=
  match map.slots[index]? with
  | none => (none, map)
  | some .vacant => (none, map)
  | some (.item value) =>
      (some value, { map with
        slots := map.slots.modify index fun _ => .vacant
        vacant := map.vacant + 1 })
  | some (.entry key value) =>
      (some value, { map with
        slots := map.slots.modify index fun _ => .vacant
        buckets := map.buckets.modify (map.bucketOf key) fun bucket =>
          bucket.filter fun position => position != index
        keyed := map.keyed - 1
        vacant := map.vacant + 1 })

/-- Make a slot vacant. -/
def deleteAt (map : OrderedMap α) (index : Nat) : OrderedMap α :=
  (map.deleteAtReturning index).2

/-- The value that is removed is the one at the position. -/
@[simp] theorem deleteAtReturning_fst (map : OrderedMap α) (index : Nat) :
    (map.deleteAtReturning index).1 = map.getAt? index := by
  unfold deleteAtReturning getAt?
  split <;> next there => simp [there]

@[simp] theorem toList_deleteAt (map : OrderedMap α) (index : Nat) :
    (map.deleteAt index).toList = map.toList.modify index fun _ => .vacant := by
  unfold deleteAt deleteAtReturning
  split
  · next absent =>
    have past : map.toList.length ≤ index := by
      simpa [toList] using absent
    rw [List.modify_eq_self past]
  · next vacantThere =>
    have there : map.toList[index]? = some .vacant := by
      simpa [toList] using vacantThere
    apply List.ext_getElem?
    intro position
    rw [List.getElem?_modify]
    by_cases same : index = position
    · subst same
      simp [there]
    · simp [same]
  · simp [toList]
  · simp [toList]

/-- Make the slot of a key vacant. The answer is the value that the key had. -/
def eraseReturning (map : OrderedMap α) (key : String) : Option α × OrderedMap α :=
  match map.keyIndex? key with
  | some index => map.deleteAtReturning index
  | none => (none, map)

/-- Make the slot of a key vacant. -/
def erase (map : OrderedMap α) (key : String) : OrderedMap α :=
  (map.eraseReturning key).2

/-- A deletion by key is one by position if the key is there. -/
theorem erase_eq (map : OrderedMap α) (key : String) :
    map.erase key =
      match map.keyIndex? key with
      | some index => map.deleteAt index
      | none => map := by
  unfold erase eraseReturning
  cases map.keyIndex? key <;> rfl

/-- The value that is removed is the one that is found under the key. -/
@[simp] theorem eraseReturning_fst (map : OrderedMap α) (key : String) :
    (map.eraseReturning key).1 = map.get? key := by
  unfold eraseReturning get?
  cases map.keyIndex? key with
  | none => rfl
  | some index => exact map.deleteAtReturning_fst index

/-! ## Whole containers -/

/-- Drop the vacant slots and renumber the others. -/
def compact (map : OrderedMap α) : OrderedMap α :=
  if map.vacant = 0 then map
  else
    { map with
      slots := map.slots.filter fun slot => !slot.isVacant
      vacant := 0 }.rebuildBuckets

/-- Apply a function to every value; keys, vacancies and order stay. -/
def mapValues (f : α → β) (map : OrderedMap α) : OrderedMap β :=
  rebuildBuckets
    { slots := map.slots.map (Slot.map f)
      buckets := #[]
      order := map.order
      keyed := map.keyed
      vacant := map.vacant }

@[simp] theorem toList_mapValues (f : α → β) (map : OrderedMap α) :
    (map.mapValues f).toList = map.toList.map (Slot.map f) := by
  simp [mapValues, toList, rebuildBuckets]

/-- The slots in reverse order. -/
def reverse (map : OrderedMap α) : OrderedMap α :=
  rebuildBuckets
    { slots := map.slots.reverse
      buckets := #[]
      order := map.order
      keyed := 0
      vacant := map.vacant }

@[simp] theorem toList_reverse (map : OrderedMap α) :
    map.reverse.toList = map.toList.reverse := by
  simp [reverse, toList, rebuildBuckets]

/-- Add every entry of another container; its keys win. -/
def extend (map other : OrderedMap α) : OrderedMap α :=
  other.entries.foldl (fun result (_, key?, value) => result.insertEntry key? value) map

/-- Add the entries of several containers to an empty one. -/
def merge (maps : List (OrderedMap α)) : OrderedMap α :=
  maps.foldl extend empty

/-- A container of unkeyed values. -/
def ofValues (values : List α) : OrderedMap α :=
  values.foldl append empty

/-- A container of keyed values; a repeated key keeps its first position and
its last value. -/
def ofPairs (pairs : List (String × α)) : OrderedMap α :=
  pairs.foldl (fun map (key, value) => map.insert key value) empty

end Table
end OrderedMap
end ScriptCore
