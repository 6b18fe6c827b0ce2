import ScriptCore.Proofs.OrderedMap.Merge

/-!
# Compaction

Compacting a container drops its vacant slots and indexes the others afresh. An
occupied slot moves from its old position to its rank, the number of occupied
slots before it; apart from the positions, no answer of the container changes.

Compaction commutes with everything that treats slots one by one: with mapping
the values, with reversal, and with adding entries. A container that is only read
for its entries may be compacted or not.
-/

namespace ScriptCore

variable {α β : Type}

/-! ## Slot lists -/

theorem Slot.occupied_of_hasKey {slot : Slot α} {key : String} (present : slot.hasKey key = true) :
    slot.isVacant = false := by
  rw [hasKey_iff] at present
  cases slot with
  | vacant => cases present
  | item value => rfl
  | entry other value => rfl

namespace SlotList

/-- The number of occupied slots before a position. -/
def rank (slots : List (Slot α)) (position : Nat) : Nat :=
  (slots.take position).countP fun slot => !slot.isVacant

/-- The occupied slots stand at their ranks. The slots passed so far are kept in
the statement, since a rank counts from the first slot. -/
theorem entriesFrom_occupied (before slots : List (Slot α)) :
    entriesFrom (before.countP fun slot => !slot.isVacant)
        (slots.filter fun slot => !slot.isVacant) =
      (entriesFrom before.length slots).map fun entry =>
        (rank (before ++ slots) entry.1, entry.2) := by
  induction slots generalizing before with
  | nil => rfl
  | cons slot slots ih =>
      have later := ih (before ++ [slot])
      rw [List.append_assoc, List.singleton_append, List.length_append, List.length_singleton,
        List.countP_append, List.countP_singleton] at later
      cases slot with
      | vacant => simpa [entriesFrom] using later
      | item value => simpa [entriesFrom, rank] using later
      | entry key value => simpa [entriesFrom, rank] using later

/-- Dropping vacant slots and inserting an entry can be done in either order. -/
theorem filter_insert (key : String) (value : α) (slots : List (Slot α)) :
    (insert key value slots).filter (fun slot => !slot.isVacant) =
      insert key value (slots.filter fun slot => !slot.isVacant) := by
  induction slots with
  | nil => rfl
  | cons slot slots ih =>
      by_cases present : slot.hasKey key = true
      · simp [insert, present, Slot.occupied_of_hasKey present]
      · cases slot <;> simp [insert, present, ih]

/-- Dropping vacant slots and adding a slot can be done in either order. -/
theorem filter_add (slots : List (Slot α)) (slot : Slot α) :
    (add slots slot).filter (fun slot => !slot.isVacant) =
      add (slots.filter fun slot => !slot.isVacant) slot := by
  cases slot with
  | vacant => rfl
  | item value => simp [add]
  | entry key value => exact filter_insert key value slots

end SlotList

/-! ## Containers -/

namespace OrderedMap

/-- The occupied slots, in order. -/
def liveSlots (map : OrderedMap α) : List (Slot α) :=
  map.toList.filter fun slot => !slot.isVacant

theorem keysOf_liveSlots (map : OrderedMap α) : Slot.keysOf map.liveSlots = map.keys := by
  rw [liveSlots, Slot.keysOf_filter_occupied, keys_eq_keysOf]

/-- The number of live entries before a position. -/
def rank (map : OrderedMap α) (position : Nat) : Nat :=
  SlotList.rank map.toList position

/-- Compaction keeps the order of the table. -/
theorem order_compact [KeyHash] (map : OrderedMap α) : map.compact.order = map.order := by
  unfold compact
  split <;> rfl

section Table

variable [KeyHash] {map other : OrderedMap α}

namespace Coherent

/-- After compaction no slot is vacant. -/
theorem occupied_compact (coherent : map.Coherent) :
    ∀ slot ∈ map.compact.toList, slot.isVacant = false := by
  intro slot member
  rw [coherent.toList_compact, List.mem_filter, Bool.not_eq_true'] at member
  exact member.2

theorem length_liveSlots (coherent : map.Coherent) : map.liveSlots.length = map.liveCount := by
  rw [coherent.liveCount_eq, liveSlots, List.countP_eq_length_filter]

theorem liveSlots_compact (coherent : map.Coherent) : map.compact.liveSlots = map.liveSlots := by
  rw [liveSlots, coherent.toList_compact, List.filter_filter]
  simp only [Bool.and_self]
  rfl

/-- After compaction the counter of vacant slots is zero. -/
theorem vacant_compact (coherent : map.Coherent) : map.compact.vacant = 0 := by
  rw [coherent.compact.vacant_eq, Slot.vacantCount, List.countP_eq_zero]
  intro slot member
  rw [coherent.occupied_compact slot member]
  exact Bool.false_ne_true

theorem keyed_compact (coherent : map.Coherent) : map.compact.keyed = map.keyed := by
  rw [coherent.compact.keyed_eq_length_keys, coherent.keyed_eq_length_keys, keys_compact]

/-- An entry moves to its rank among the entries. -/
theorem entries_compact (coherent : map.Coherent) :
    map.compact.entries = map.entries.map fun entry => (map.rank entry.1, entry.2) := by
  rw [entries_eq_entriesFrom, entries_eq_entriesFrom, coherent.toList_compact]
  exact SlotList.entriesFrom_occupied [] map.toList

/-- Keys and values of the live entries, in order. -/
theorem map_snd_entries_compact (coherent : map.Coherent) :
    map.compact.entries.map Prod.snd = map.entries.map Prod.snd := by
  rw [coherent.entries_compact, List.map_map]
  rfl

theorem compact_compact (coherent : map.Coherent) : map.compact.compact = map.compact := by
  rw [OrderedMap.compact, if_pos coherent.vacant_compact]

/-! ## Compacting before or after -/

/-- Compaction commutes with a map over the values, as equality of containers. -/
theorem compact_mapValues (coherent : map.Coherent) (f : α → β) :
    (map.mapValues f).compact = map.compact.mapValues f := by
  apply (coherent.mapValues f).compact.eq_of_toList_eq (coherent.compact.mapValues f)
  · rw [order_compact]
    exact (order_compact map).symm
  · rw [(coherent.mapValues f).toList_compact, toList_mapValues, toList_mapValues,
      coherent.toList_compact, List.filter_map]
    simp only [Function.comp_def, Slot.isVacant_map]

/-- Compaction commutes with reversal, as equality of containers. -/
theorem compact_reverse (coherent : map.Coherent) :
    map.reverse.compact = map.compact.reverse := by
  apply coherent.reverse.compact.eq_of_toList_eq coherent.compact.reverse
  · rw [order_compact]
    exact (order_compact map).symm
  · rw [coherent.reverse.toList_compact, toList_reverse, toList_reverse, coherent.toList_compact,
      List.filter_reverse]

theorem contains_compact (coherent : map.Coherent) (key : String) :
    map.compact.contains key = map.contains key := by
  rw [← isSome_get?, ← isSome_get?, coherent.get?_compact]

/-- Compaction has no effect on when the table grows next. -/
theorem isFull_compact (coherent : map.Coherent) : map.compact.isFull = map.isFull := by
  rw [isFull, isFull, coherent.compact.size_buckets, coherent.size_buckets, coherent.keyed_compact,
    order_compact]

end Coherent

/-- The table grows by one order, and only for a new key in a full table. -/
theorem order_insertEntry (key? : Option String) (value : α) :
    (map.insertEntry key? value).order =
      if key?.all map.contains || !map.isFull then map.order else map.order + 1 := by
  cases key? with
  | none => rfl
  | some key =>
      change (map.insert key value).order = _
      rw [insert_eq]
      cases found : map.keyIndex? key with
      | some index =>
          have present : map.contains key = true := by rw [contains, found]; rfl
          rw [Option.all_some, present]
          exact order_setAt map index value
      | none =>
          have absent : map.contains key = false := by rw [contains, found]; rfl
          rw [Option.all_some, absent]
          cases full : map.isFull <;> simp [pushEntry, full, grow, rebuildBuckets]

namespace Coherent

/-- Adding an entry and compacting can be done in either order. -/
theorem compact_insertEntry (coherent : map.Coherent) (key? : Option String) (value : α) :
    (map.insertEntry key? value).compact = map.compact.insertEntry key? value := by
  apply (coherent.insertEntry key? value).compact.eq_of_toList_eq
    (coherent.compact.insertEntry key? value)
  · rw [order_compact, order_insertEntry, order_insertEntry, order_compact,
      coherent.isFull_compact, funext coherent.contains_compact]
  · rw [(coherent.insertEntry key? value).toList_compact, coherent.toList_insertEntry,
      coherent.compact.toList_insertEntry, coherent.toList_compact, SlotList.filter_add]

/-- Compaction before some entries are added has the effect of compaction after
them. -/
theorem compact_foldl_insertEntry
    (coherent : map.Coherent)
    (entries : List (Nat × Option String × α)) :
    (entries.foldl (fun result (_, key?, value) => result.insertEntry key? value) map).compact =
      entries.foldl (fun result (_, key?, value) => result.insertEntry key? value) map.compact := by
  induction entries generalizing map with
  | nil => rfl
  | cons entry entries ih =>
      rw [List.foldl_cons, List.foldl_cons,
        ih (coherent.insertEntry entry.2.1 entry.2.2),
        coherent.compact_insertEntry]

end Coherent

/-- Containers with the same entries, wherever these stand, are added alike. -/
theorem extend_congr
    (same : map.entries.map Prod.snd = other.entries.map Prod.snd)
    (base : OrderedMap α) :
    base.extend map = base.extend other := by
  have viaEntries (added : OrderedMap α) : base.extend added =
      (added.entries.map Prod.snd).foldl
        (fun result (key?, value) => result.insertEntry key? value) base := by
    rw [List.foldl_map]
    rfl
  rw [viaEntries, viaEntries, same]

namespace Coherent

theorem extend_compact (coherent : map.Coherent) (base : OrderedMap α) :
    base.extend map.compact = base.extend map :=
  extend_congr coherent.map_snd_entries_compact base

/-- A merge into a container can be compacted before, both parts by themselves, or
afterwards. -/
theorem compact_extend
    {base : OrderedMap α}
    (coherentBase : base.Coherent)
    (coherent : map.Coherent) :
    (base.extend map).compact = base.compact.extend map.compact := by
  rw [coherent.extend_compact]
  exact coherentBase.compact_foldl_insertEntry map.entries

theorem merge_compact (coherent : map.Coherent) (before after : List (OrderedMap α)) :
    merge (before ++ map.compact :: after) = merge (before ++ map :: after) := by
  simp only [merge, List.foldl_append, List.foldl_cons, coherent.extend_compact]

end Coherent

/-- How a compacted container comes from the one that was compacted. -/
structure CompactionOf (map compacted : OrderedMap α) : Prop where
  /-- No slot is vacant. -/
  occupied : ∀ slot ∈ compacted.toList, slot.isVacant = false
  vacant_eq : compacted.vacant = 0
  /-- The entries are the live ones with their keys, in the same order; each
  stands where as many stood before it. -/
  entries_eq : compacted.entries = map.entries.map fun (position, key?, value) =>
    (map.rank position, key?, value)
  /-- Keys are answered as before. -/
  get?_eq : ∀ key, compacted.get? key = map.get? key
  /-- The number of keys and the size of the table stay. -/
  keyed_eq : compacted.keyed = map.keyed
  order_eq : compacted.order = map.order
  bucketCount_eq : compacted.bucketCount = map.bucketCount
  /-- There is nothing left to compact. -/
  idempotent : compacted.compact = compacted

/-- Compaction of a coherent container has all the properties of one. -/
theorem Coherent.compactionOf (coherent : map.Coherent) : CompactionOf map map.compact where
  occupied := coherent.occupied_compact
  vacant_eq := coherent.vacant_compact
  entries_eq := coherent.entries_compact
  get?_eq := coherent.get?_compact
  keyed_eq := coherent.keyed_compact
  order_eq := order_compact map
  bucketCount_eq := by
    rw [bucketCount, bucketCount, coherent.compact.size_buckets, coherent.size_buckets,
      order_compact]
  idempotent := coherent.compact_compact

end Table
end OrderedMap

/-- Compacting a container leaves exactly its live entries, each at its rank, and
changes no answer for a key. It commutes with mapping the values, with reversal
and with merging: a container may be compacted before it is merged into another
or not, and a merge that is compacted afterwards is the merge of the compacted
parts. The containers are equal, bucket tables included. -/
theorem History.compaction_ranks_live_entries {α : Type} [KeyHash] (history : History α) :
    OrderedMap.CompactionOf history.build history.build.compact ∧
      (∀ (β : Type) (f : α → β),
        (history.build.mapValues f).compact = history.build.compact.mapValues f) ∧
      history.build.reverse.compact = history.build.compact.reverse ∧
      (∀ base : History α,
        base.build.extend history.build.compact = base.build.extend history.build ∧
          (base.build.extend history.build).compact =
            base.build.compact.extend history.build.compact) ∧
      ∀ before after : List (OrderedMap α),
        OrderedMap.merge (before ++ history.build.compact :: after) =
          OrderedMap.merge (before ++ history.build :: after) := by
  have coherent := history.coherent_build
  refine ⟨coherent.compactionOf, fun _ f => coherent.compact_mapValues f, coherent.compact_reverse,
    fun base => ⟨coherent.extend_compact base.build, ?_⟩, coherent.merge_compact⟩
  exact base.coherent_build.compact_extend coherent

end ScriptCore
