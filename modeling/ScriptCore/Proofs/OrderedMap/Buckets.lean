import Mathlib
import ScriptCore.OrderedMap.Basic

/-!
# The bucket table of a slot sequence

The table built for a slot sequence lists in each bucket the positions of the
slots whose key falls into it, in increasing order. The list is described here
without the table, as a selection from all positions; the table is then known
bucket by bucket, whatever function spreads the keys.
-/

namespace ScriptCore
namespace OrderedMap

variable {α β : Type}

@[simp] theorem size_emptyBuckets (order : Nat) : (emptyBuckets order).size = 2 ^ order := by
  simp [emptyBuckets]

variable [KeyHash]

/-- Positions of the slots whose key falls into a bucket, in increasing
order. -/
def bucketPositions
    (bucketCount bucket : Nat)
    (slots : List (Slot α)) : List Nat :=
  (List.range slots.length).filter fun position =>
    (slots[position]?.bind Slot.key?).map (bucketIn bucketCount) == some bucket

/-- A bucket holds exactly the positions of the entries that hash to it. -/
theorem mem_bucketPositions
    (bucketCount bucket position : Nat)
    (slots : List (Slot α)) :
    position ∈ bucketPositions bucketCount bucket slots ↔
      ∃ key value, slots[position]? = some (.entry key value) ∧
        bucketIn bucketCount key = bucket := by
  simp only [bucketPositions, List.mem_filter, List.mem_range, beq_iff_eq,
    Option.map_eq_some_iff, Option.bind_eq_some_iff]
  constructor
  · rintro ⟨-, key, ⟨slot, found, keyed⟩, inBucket⟩
    cases slot with
    | vacant => cases keyed
    | item value => cases keyed
    | entry other value =>
        cases keyed
        exact ⟨_, value, found, inBucket⟩
  · rintro ⟨key, value, found, inBucket⟩
    refine ⟨?_, key, ⟨_, found, rfl⟩, inBucket⟩
    exact (List.getElem?_eq_some_iff.mp found).1

/-- The positions in a bucket are in increasing order. -/
theorem pairwise_bucketPositions
    (bucketCount bucket : Nat)
    (slots : List (Slot α)) :
    (bucketPositions bucketCount bucket slots).Pairwise (· < ·) :=
  List.pairwise_lt_range.filter _

/-- Only the keys and their places matter. -/
theorem bucketPositions_congr
    (bucketCount bucket : Nat)
    {slots : List (Slot α)}
    {others : List (Slot β)}
    (sameKeys : slots.map Slot.key? = others.map Slot.key?) :
    bucketPositions bucketCount bucket slots =
      bucketPositions bucketCount bucket others := by
  have sameLength : slots.length = others.length := by
    simpa using congrArg List.length sameKeys
  unfold bucketPositions
  rw [sameLength]
  apply List.filter_congr
  intro position _
  have sameKey : slots[position]?.map Slot.key? = others[position]?.map Slot.key? := by
    rw [← List.getElem?_map, ← List.getElem?_map, sameKeys]
  have sameBound : slots[position]?.bind Slot.key? = others[position]?.bind Slot.key? := by
    cases left : slots[position]? <;> cases right : others[position]? <;> simp_all
  rw [sameBound]

/-- A new slot at the end adds its position to its own bucket. -/
theorem bucketPositions_concat
    (bucketCount bucket : Nat)
    (slots : List (Slot α))
    (slot : Slot α) :
    bucketPositions bucketCount bucket (slots ++ [slot]) =
      bucketPositions bucketCount bucket slots ++
        if slot.key?.map (bucketIn bucketCount) = some bucket then [slots.length] else [] := by
  unfold bucketPositions
  rw [List.length_append, List.length_singleton, List.range_succ, List.filter_append]
  congr 1
  · apply List.filter_congr
    intro position bound
    rw [List.getElem?_append_left (List.mem_range.mp bound)]
  · by_cases inBucket : slot.key?.map (bucketIn bucketCount) = some bucket <;>
      simp [inBucket]

/-- A slot made vacant loses its position and no other. -/
theorem bucketPositions_vacate
    (bucketCount bucket index : Nat)
    (slots : List (Slot α)) :
    bucketPositions bucketCount bucket (slots.modify index fun _ => .vacant) =
      (bucketPositions bucketCount bucket slots).filter fun position => position != index := by
  unfold bucketPositions
  rw [List.length_modify, List.filter_filter]
  apply List.filter_congr
  intro position bound
  have inside : position < slots.length := List.mem_range.mp bound
  rw [List.getElem?_modify, List.getElem?_eq_getElem inside]
  by_cases same : index = position
  · subst same
    simp
  · have different : position ≠ index := fun equal => same equal.symm
    simp [same, different]

/-! ## The table -/

@[simp] theorem size_indexSlot
    (buckets : Array (List Nat))
    (slot : Slot α)
    (index : Nat) :
    (indexSlot buckets slot index).size = buckets.size := by
  cases slot <;> simp [indexSlot, pushIndex]

theorem indexSlots_concat
    (order : Nat)
    (slots : List (Slot α))
    (slot : Slot α) :
    indexSlots order ⟨slots ++ [slot]⟩ =
      indexSlot (indexSlots order ⟨slots⟩) slot slots.length := by
  simp [indexSlots, List.zipIdx_append]

theorem indexSlots_push
    (order : Nat)
    (slots : Array (Slot α))
    (slot : Slot α) :
    indexSlots order (slots.push slot) =
      indexSlot (indexSlots order slots) slot slots.size := by
  simp [indexSlots, List.zipIdx_append]

@[simp] theorem size_indexSlots (order : Nat) (slots : Array (Slot α)) :
    (indexSlots order slots).size = 2 ^ order := by
  obtain ⟨slots⟩ := slots
  induction slots using List.reverseRecOn with
  | nil => simp [indexSlots]
  | append_singleton slots slot ih =>
      rw [indexSlots_concat, size_indexSlot, ih]

/-- One more slot changes the table in the bucket of its key alone. -/
theorem getElem?_indexSlot
    (buckets : Array (List Nat))
    (slot : Slot α)
    (index bucket : Nat) :
    (indexSlot buckets slot index)[bucket]? =
      buckets[bucket]?.map fun positions =>
        positions ++
          if slot.key?.map (bucketIn buckets.size) = some bucket then [index] else [] := by
  cases slot with
  | vacant => simp [indexSlot]
  | item value => simp [indexSlot]
  | entry key value =>
      simp only [indexSlot, pushIndex, Array.getElem?_modify, Slot.key?_entry, Option.map_some,
        Option.some.injEq]
      by_cases same : bucketIn buckets.size key = bucket <;> simp [same]

/-- The table of a slot sequence, bucket by bucket. -/
theorem getElem?_indexSlots (order : Nat) (slots : Array (Slot α)) (bucket : Nat) :
    (indexSlots order slots)[bucket]? =
      if bucket < 2 ^ order then some (bucketPositions (2 ^ order) bucket slots.toList)
      else none := by
  obtain ⟨slots⟩ := slots
  induction slots using List.reverseRecOn with
  | nil => simp [indexSlots, emptyBuckets, bucketPositions, Array.getElem?_replicate]
  | append_singleton slots slot ih =>
      rw [indexSlots_concat, getElem?_indexSlot, ih,
        size_indexSlots]
      by_cases inside : bucket < 2 ^ order
      · simp [inside, bucketPositions_concat]
      · simp [inside]

/-- Two slot sequences with the same keys in the same places have the same
table. -/
theorem indexSlots_congr
    (order : Nat)
    {slots : Array (Slot α)}
    {others : Array (Slot β)}
    (sameKeys : slots.toList.map Slot.key? = others.toList.map Slot.key?) :
    indexSlots order slots = indexSlots order others := by
  apply Array.ext_getElem?
  intro bucket
  rw [getElem?_indexSlots, getElem?_indexSlots,
    bucketPositions_congr (2 ^ order) bucket sameKeys]

/-- The table after a keyed slot was made vacant: its position leaves the
bucket of its key. -/
theorem indexSlots_vacate
    (order index : Nat)
    (slots : Array (Slot α))
    {key : String}
    {value : α}
    (found : slots[index]? = some (.entry key value)) :
    indexSlots order (slots.modify index fun _ => .vacant) =
      (indexSlots order slots).modify (bucketIn (2 ^ order) key) fun positions =>
        positions.filter fun position => position != index := by
  apply Array.ext_getElem?
  intro bucket
  rw [Array.getElem?_modify, getElem?_indexSlots, getElem?_indexSlots, Array.toList_modify,
    bucketPositions_vacate]
  by_cases inside : bucket < 2 ^ order
  · by_cases same : bucketIn (2 ^ order) key = bucket
    · simp [inside, same]
    · -- The position of another bucket's key is not listed here.
      have absent : ∀ position ∈ bucketPositions (2 ^ order) bucket slots.toList,
          position ≠ index := by
        rintro position member rfl
        obtain ⟨other, content, there, inBucket⟩ :=
          (mem_bucketPositions (2 ^ order) bucket position slots.toList).mp member
        rw [Array.getElem?_toList, found] at there
        cases there
        exact same inBucket
      have unchanged : (bucketPositions (2 ^ order) bucket slots.toList).filter
          (fun position => position != index) =
            bucketPositions (2 ^ order) bucket slots.toList := by
        apply List.filter_eq_self.mpr
        intro position member
        simpa using absent position member
      simp [inside, same, unchanged]
  · simp [inside]

end OrderedMap
end ScriptCore
