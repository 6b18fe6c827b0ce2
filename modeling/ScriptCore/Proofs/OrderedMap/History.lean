import ScriptCore.Proofs.OrderedMap.Coherence

/-!
# Histories of containers

A history is a container operation applied to the results of earlier ones, down
to containers that start out empty. It is a tree: containers may be added to one
another and merged, and each operand has a history of its own. Mapping the values
may change their type.

Building a history gives the container that its operations lead to. Every such
container satisfies the representation invariant, field by field, for every
function that spreads keys over buckets.
-/

namespace ScriptCore

/-- Operations that lead to a container. -/
inductive History : Type → Type 1 where
  | empty {α : Type} : History α
  | withOrder {α : Type} (order : Nat) : History α
  | append {α : Type} (before : History α) (value : α) : History α
  | insert {α : Type} (before : History α) (key : String) (value : α) : History α
  | insertEntry {α : Type} (before : History α) (key? : Option String) (value : α) : History α
  | setAt {α : Type} (before : History α) (index : Nat) (value : α) : History α
  | modifyAt {α : Type} (before : History α) (index : Nat) (f : α → α) : History α
  | modify {α : Type} (before : History α) (key : String) (f : α → α) : History α
  | deleteAt {α : Type} (before : History α) (index : Nat) : History α
  | erase {α : Type} (before : History α) (key : String) : History α
  | compact {α : Type} (before : History α) : History α
  | mapValues {α β : Type} (f : α → β) (before : History α) : History β
  | reverse {α : Type} (before : History α) : History α
  | extend {α : Type} (before other : History α) : History α
  | merge {α : Type} (count : Nat) (maps : Fin count → History α) : History α

namespace History

variable {α : Type}

/-- The container that a history leads to. -/
def build [KeyHash] : {α : Type} → History α → OrderedMap α
  | _, empty => .empty
  | _, withOrder order => .withOrder order
  | _, append before value => before.build.append value
  | _, insert before key value => before.build.insert key value
  | _, insertEntry before key? value => before.build.insertEntry key? value
  | _, setAt before index value => before.build.setAt index value
  | _, modifyAt before index f => before.build.modifyAt index f
  | _, modify before key f => before.build.modify key f
  | _, deleteAt before index => before.build.deleteAt index
  | _, erase before key => before.build.erase key
  | _, compact before => before.build.compact
  | _, mapValues f before => before.build.mapValues f
  | _, reverse before => before.build.reverse
  | _, extend before other => before.build.extend other.build
  | _, merge _ maps => .merge (List.ofFn fun index => (maps index).build)

/-- A container with a history is coherent. -/
theorem coherent_build [KeyHash] (history : History α) : history.build.Coherent := by
  induction history with
  | empty => exact OrderedMap.coherent_empty
  | withOrder order => exact OrderedMap.coherent_withOrder order
  | append before value ih => exact ih.append value
  | insert before key value ih => exact ih.insert key value
  | insertEntry before key? value ih =>
      exact ih.insertEntry key? value
  | setAt before index value ih => exact ih.setAt index value
  | modifyAt before index f ih => exact ih.modifyAt index f
  | modify before key f ih => exact ih.modify key f
  | deleteAt before index ih => exact ih.deleteAt index
  | erase before key ih => exact ih.erase key
  | compact before ih => exact ih.compact
  | mapValues f before ih => exact ih.mapValues f
  | reverse before ih => exact ih.reverse
  | extend before other beforeHypothesis otherHypothesis =>
      exact beforeHypothesis.extend other.build
  | merge count maps ih => exact OrderedMap.coherent_merge _

end History

namespace OrderedMap

variable {α : Type} [KeyHash]

/-- The representation invariant of a container. -/
structure Representation (map : OrderedMap α) : Prop where
  /-- The order has a ceiling. -/
  order_le : map.order ≤ 30
  /-- The order gives the number of buckets. -/
  bucket_count : map.buckets.size = 2 ^ map.order
  /-- The positions in a bucket increase. -/
  increasing : ∀ (bucket : Nat) (positions : List Nat),
    map.buckets[bucket]? = some positions → positions.Pairwise (· < ·)
  /-- A bucket has exactly the positions of the keyed slots that hash to it. -/
  mem_bucket : ∀ (bucket : Nat) (positions : List Nat),
    map.buckets[bucket]? = some positions →
      ∀ position, position ∈ positions ↔
        ∃ key value, map.slots[position]? = some (.entry key value) ∧
          KeyHash.hash key % 2 ^ map.order = bucket
  /-- Indexing the slots afresh changes nothing. -/
  rebuild : map.rebuildBuckets = map
  /-- No two slots have the same key. -/
  key_unique : ∀ (first second : Nat) (key : String) (left right : α),
    map.slots[first]? = some (.entry key left) →
      map.slots[second]? = some (.entry key right) → first = second
  /-- Keyed slots are counted. -/
  keyed_eq : map.keyed = (map.toList.filter fun slot => slot.key?.isSome).length
  /-- Vacant slots are counted. -/
  vacant_eq : map.vacant = (map.toList.filter Slot.isVacant).length
  /-- The table is at most three quarters full, or as large as it may be. -/
  load : 4 * map.keyed ≤ 3 * 2 ^ map.order ∨ map.order = 30

/-- The invariant of a coherent container, read off its canonical form. -/
theorem Coherent.representation {map : OrderedMap α} (coherent : map.Coherent) :
    map.Representation where
  order_le := coherent.order_le
  bucket_count := coherent.size_buckets
  increasing := by
    intro bucket positions there
    rw [coherent.getElem?_buckets] at there
    split at there
    · cases there
      exact pairwise_bucketPositions _ _ _
    · cases there
  mem_bucket := by
    intro bucket positions there position
    rw [coherent.getElem?_buckets] at there
    split at there
    · cases there
      rw [mem_bucketPositions, toList, Array.getElem?_toList]
      rfl
    · cases there
  rebuild := coherent.rebuildBuckets_eq
  key_unique := by
    intro first second key left right firstThere secondThere
    rw [← Array.getElem?_toList] at firstThere secondThere
    exact Slot.position_unique coherent.keys_nodup firstThere secondThere rfl rfl
  keyed_eq := by
    rw [coherent.keyed_eq, Slot.keyedCount, List.countP_eq_length_filter]
  vacant_eq := by
    rw [coherent.vacant_eq, Slot.vacantCount, List.countP_eq_length_filter]
  load := by
    by_cases small : map.order < maxOrder
    · exact Or.inl (coherent.load small)
    · exact Or.inr (Nat.le_antisymm coherent.order_le (Nat.not_lt.mp small))

end OrderedMap

/-- Every container reached by container operations satisfies the representation
invariant, whatever function spreads the keys. -/
theorem History.representation_build {α : Type} [KeyHash] (history : History α) :
    history.build.Representation :=
  history.coherent_build.representation

end ScriptCore
