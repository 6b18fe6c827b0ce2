import ScriptCore.Proofs.OrderedMap.Buckets

/-!
# Coherent containers

A container keeps its slots, a bucket table over the keyed ones, the order of
that table and two counts. It is coherent when the table and the counts are
those of its slots, no key occurs twice, and the table is at most three
quarters full or cannot grow any more.

Every operation keeps a coherent container coherent. In a coherent container
the table finds a key exactly where a scan of the slots does.
-/

namespace ScriptCore

/-! ## Keys and counts of slot lists -/

namespace Slot

variable {α β : Type} {slots : List (Slot α)}

@[simp] theorem isVacant_vacant : (vacant : Slot α).isVacant = true := rfl

@[simp] theorem isVacant_item (value : α) : (item value).isVacant = false := rfl

@[simp] theorem isVacant_entry (key : String) (value : α) :
    (entry key value).isVacant = false := rfl

@[simp] theorem key?_write (slot : Slot α) (value : α) : (slot.write value).key? = slot.key? := by
  cases slot <;> rfl

@[simp] theorem isVacant_write (slot : Slot α) (value : α) :
    (slot.write value).isVacant = false := by
  cases slot <;> rfl

theorem hasKey_iff {key : String} {slot : Slot α} :
    slot.hasKey key = true ↔ slot.key? = some key := by
  simp [hasKey]

/-- Keys of a slot list, in order. -/
def keysOf (slots : List (Slot α)) : List String :=
  slots.filterMap key?

/-- Number of keyed slots. -/
def keyedCount (slots : List (Slot α)) : Nat :=
  slots.countP fun slot => slot.key?.isSome

/-- Number of vacant slots. -/
def vacantCount (slots : List (Slot α)) : Nat :=
  slots.countP isVacant

@[simp] theorem vacantCount_filter_occupied (slots : List (Slot α)) :
    vacantCount (slots.filter fun slot => !slot.isVacant) = 0 := by
  simp [vacantCount, List.countP_eq_zero]

@[simp] theorem vacantCount_map (f : α → β) (slots : List (Slot α)) :
    vacantCount (slots.map (map f)) = vacantCount slots := by
  simp [vacantCount, List.countP_map, Function.comp_def]

@[simp] theorem vacantCount_reverse (slots : List (Slot α)) :
    vacantCount slots.reverse = vacantCount slots :=
  List.countP_reverse

/-- The keys of a list of slots depend on the stored keys alone. -/
theorem keysOf_congr
    {others : List (Slot β)}
    (sameKeys : slots.map key? = others.map key?) :
    keysOf slots = keysOf others := by
  have viaKeys : ∀ {γ : Type} (list : List (Slot γ)),
      keysOf list = (list.map key?).filterMap id := by
    intro γ list
    simp [keysOf, List.filterMap_map]
  rw [viaKeys, viaKeys, sameKeys]

theorem length_keysOf (slots : List (Slot α)) : (keysOf slots).length = keyedCount slots := by
  simp [keysOf, keyedCount, List.length_filterMap_eq_countP]

/-- The number of keyed slots depends on the stored keys alone. -/
theorem keyedCount_congr
    {others : List (Slot β)}
    (sameKeys : slots.map key? = others.map key?) :
    keyedCount slots = keyedCount others := by
  rw [← length_keysOf, ← length_keysOf, keysOf_congr sameKeys]

/-- A change of one slot that keeps its key keeps all the keys. -/
theorem map_key?_modify
    (slots : List (Slot α))
    (index : Nat)
    {change : Slot α → Slot α}
    (keeps : ∀ slot, slots[index]? = some slot → (change slot).key? = slot.key?) :
    (slots.modify index change).map key? = slots.map key? := by
  apply List.ext_getElem?
  intro position
  rw [List.getElem?_map, List.getElem?_map, List.getElem?_modify]
  by_cases same : index = position
  · subst same
    cases found : slots[index]? with
    | none => simp
    | some slot => simp [keeps slot found]
  · simp [same]

/-- Changing one slot changes a count by that slot's share. -/
theorem countP_modify
    (holds : Slot α → Bool)
    (change : Slot α → Slot α)
    {index : Nat}
    {slot : Slot α}
    (found : slots[index]? = some slot) :
    (slots.modify index change).countP holds + (if holds slot then 1 else 0) =
      slots.countP holds + (if holds (change slot) then 1 else 0) := by
  induction slots generalizing index with
  | nil => simp at found
  | cons head tail ih =>
      cases index with
      | zero =>
          simp only [List.getElem?_cons_zero, Option.some.injEq] at found
          subst found
          simp only [List.modify_zero_cons, List.countP_cons]
          omega
      | succ index =>
          have step := ih (by simpa using found)
          simp only [List.modify_succ_cons, List.countP_cons]
          omega

/-- A slot made vacant leaves the other keys as they are. -/
theorem keysOf_vacate_sublist (slots : List (Slot α)) (index : Nat) :
    (keysOf (slots.modify index fun _ => vacant)).Sublist (keysOf slots) := by
  induction slots generalizing index with
  | nil => simp [keysOf]
  | cons head tail ih =>
      cases index with
      | zero =>
          simp only [keysOf, List.modify_zero_cons, List.filterMap_cons, key?_vacant]
          split
          · exact List.Sublist.refl _
          · exact List.sublist_cons_self _ _
      | succ index =>
          simp only [keysOf, List.modify_succ_cons, List.filterMap_cons]
          split
          · exact ih index
          · exact (ih index).cons_cons _

@[simp] theorem keysOf_filter_occupied (slots : List (Slot α)) :
    keysOf (slots.filter fun slot => !slot.isVacant) = keysOf slots := by
  induction slots with
  | nil => rfl
  | cons head tail ih =>
      unfold keysOf at ih ⊢
      cases head <;> simp [List.filterMap_cons, ih]

/-- Unique keys have unique positions. -/
theorem position_unique
    (nodup : (keysOf slots).Nodup)
    {first second : Nat}
    {left right : Slot α}
    (firstThere : slots[first]? = some left)
    (secondThere : slots[second]? = some right)
    {key : String}
    (leftKey : left.key? = some key)
    (rightKey : right.key? = some key) :
    first = second := by
  induction slots generalizing first second with
  | nil => simp at firstThere
  | cons head tail ih =>
      have tailNodup : (keysOf tail).Nodup :=
        nodup.sublist ((List.sublist_cons_self head tail).filterMap key?)
      -- A key of the head is not among the keys of the tail.
      have headKey : head.key? = some key → key ∉ keysOf tail := by
        intro keyed
        rw [keysOf, List.filterMap_cons, keyed] at nodup
        exact (List.nodup_cons.mp nodup).1
      have tailKey : ∀ {position : Nat} {slot : Slot α}, tail[position]? = some slot →
          slot.key? = some key → key ∈ keysOf tail := by
        intro position slot there keyed
        exact List.mem_filterMap.mpr ⟨slot, List.mem_of_getElem? there, keyed⟩
      cases first with
      | zero =>
          cases second with
          | zero => rfl
          | succ second =>
              simp only [List.getElem?_cons_zero, Option.some.injEq] at firstThere
              subst firstThere
              rw [List.getElem?_cons_succ] at secondThere
              exact absurd (tailKey secondThere rightKey) (headKey leftKey)
      | succ first =>
          rw [List.getElem?_cons_succ] at firstThere
          cases second with
          | zero =>
              simp only [List.getElem?_cons_zero, Option.some.injEq] at secondThere
              subst secondThere
              exact absurd (tailKey firstThere leftKey) (headKey rightKey)
          | succ second =>
              rw [List.getElem?_cons_succ] at secondThere
              exact congrArg Nat.succ (ih tailNodup firstThere secondThere)

end Slot

namespace OrderedMap

variable {α β : Type}

/-- One doubling makes room for one more key. -/
theorem load_after_growth
    {keyed order : Nat}
    (load : 4 * keyed ≤ 3 * 2 ^ order) :
    4 * (keyed + 1) ≤ 3 * 2 ^ (order + 1) := by
  have positive : 0 < 2 ^ order := Nat.two_pow_pos order
  rw [Nat.pow_succ]
  omega

theorem keys_eq_keysOf (map : OrderedMap α) : map.keys = Slot.keysOf map.toList := rfl

variable [KeyHash]

/-- Looking for a key in its own bucket is looking for it everywhere: a slot
with the key lies in that bucket. -/
theorem find?_bucketPositions
    (bucketCount : Nat)
    (key : String)
    (slots : List (Slot α)) :
    (bucketPositions bucketCount (bucketIn bucketCount key) slots).find?
        (fun position => slots[position]?.any (Slot.hasKey key)) =
      slots.findIdx? (Slot.hasKey key) := by
  have everywhere : (bucketPositions bucketCount (bucketIn bucketCount key) slots).find?
      (fun position => slots[position]?.any (Slot.hasKey key)) =
        (List.range slots.length).find?
          (fun position => slots[position]?.any (Slot.hasKey key)) := by
    rw [bucketPositions, List.find?_filter]
    congr 1
    funext position
    cases found : slots[position]? with
    | none => simp
    | some slot =>
        by_cases present : slot.key? = some key
        · simp [Slot.hasKey, present]
        · simp [Slot.hasKey, present]
  rw [everywhere]
  apply Option.ext
  intro index
  rw [List.find?_range_eq_some, List.findIdx?_eq_some_iff_getElem]
  constructor
  · rintro ⟨holds, bound, before⟩
    have inside : index < slots.length := List.mem_range.mp bound
    rw [List.getElem?_eq_getElem inside] at holds
    refine ⟨inside, holds, ?_⟩
    intro earlier earlierBound
    have refuted := before earlier earlierBound
    rw [List.getElem?_eq_getElem (Nat.lt_trans earlierBound inside)] at refuted
    simpa using refuted
  · rintro ⟨inside, holds, before⟩
    refine ⟨?_, List.mem_range.mpr inside, ?_⟩
    · rw [List.getElem?_eq_getElem inside]
      exact holds
    · intro earlier earlierBound
      rw [List.getElem?_eq_getElem (Nat.lt_trans earlierBound inside)]
      simpa using before earlier earlierBound

/-- Table and counts are those of the slots, keys are unique, and the table is
at most three quarters full or of the largest order. -/
structure Coherent (map : OrderedMap α) : Prop where
  table : map.buckets = indexSlots map.order map.slots
  order_le : map.order ≤ maxOrder
  keys_nodup : map.keys.Nodup
  keyed_eq : map.keyed = Slot.keyedCount map.toList
  vacant_eq : map.vacant = Slot.vacantCount map.toList
  load : map.order < maxOrder → 4 * map.keyed ≤ 3 * 2 ^ map.order

namespace Coherent

variable {map : OrderedMap α}

theorem size_buckets (coherent : map.Coherent) : map.buckets.size = 2 ^ map.order := by
  rw [coherent.table, size_indexSlots]

theorem keyed_eq_length_keys (coherent : map.Coherent) : map.keyed = map.keys.length := by
  rw [coherent.keyed_eq, keys_eq_keysOf, Slot.length_keysOf]

/-- Indexing the slots afresh changes nothing. -/
theorem rebuildBuckets_eq (coherent : map.Coherent) : map.rebuildBuckets = map := by
  obtain ⟨slots, buckets, order, keyed, vacant⟩ := map
  have table := coherent.table
  have keyedCount := coherent.keyed_eq
  simp only [toList] at table keyedCount
  subst table keyedCount
  rfl

/-- Coherent containers of the same order are equal if their slots are. -/
theorem eq_of_toList_eq
    {other : OrderedMap α}
    (coherent : map.Coherent)
    (coherentOther : other.Coherent)
    (order : map.order = other.order)
    (same : map.toList = other.toList) :
    map = other := by
  have slots : map.slots = other.slots := Array.toList_inj.mp same
  have vacant : map.vacant = other.vacant := by
    rw [coherent.vacant_eq, coherentOther.vacant_eq, same]
  rw [← coherent.rebuildBuckets_eq, ← coherentOther.rebuildBuckets_eq, rebuildBuckets,
    rebuildBuckets, slots, order, vacant]

/-- A bucket of the table. -/
theorem getElem?_buckets (coherent : map.Coherent) (bucket : Nat) :
    map.buckets[bucket]? =
      if bucket < 2 ^ map.order then some (bucketPositions (2 ^ map.order) bucket map.toList)
      else none := by
  rw [coherent.table, getElem?_indexSlots]
  rfl

/-! ## Finding keys -/

/-- The table finds a key where a scan of the slots finds it. -/
theorem keyIndex?_eq (coherent : map.Coherent) (key : String) :
    map.keyIndex? key = map.toList.findIdx? (Slot.hasKey key) := by
  have inside : bucketIn (2 ^ map.order) key < 2 ^ map.order :=
    Nat.mod_lt _ (Nat.two_pow_pos _)
  have bucket : map.buckets.getD (KeyHash.hash key % map.buckets.size) [] =
      bucketPositions (2 ^ map.order) (bucketIn (2 ^ map.order) key) map.toList := by
    rw [Array.getD_eq_getD_getElem?, coherent.size_buckets]
    change (map.buckets[bucketIn (2 ^ map.order) key]?).getD [] = _
    rw [coherent.getElem?_buckets, if_pos inside, Option.getD_some]
  unfold keyIndex? keyIndexHashed?
  rw [bucket, ← find?_bucketPositions (2 ^ map.order) key map.toList]
  congr 1
  funext index
  rw [toList, Array.getElem?_toList]
  cases map.slots[index]? <;> rfl

/-- A key that the table does not find is nowhere. -/
theorem keyIndex?_eq_none_iff (coherent : map.Coherent) (key : String) :
    map.keyIndex? key = none ↔ key ∉ map.keys := by
  rw [coherent.keyIndex?_eq, List.findIdx?_eq_none_iff]
  simp only [keys, List.mem_filterMap, not_exists, not_and]
  constructor
  · intro absent slot member keyed
    have refuted := absent slot member
    rw [Slot.hasKey_iff.mpr keyed] at refuted
    cases refuted
  · intro absent slot member
    rw [Bool.eq_false_iff]
    intro present
    exact absent slot member (Slot.hasKey_iff.mp present)

/-! ## Fresh tables -/

end Coherent

/-- A container is coherent after its slots are indexed afresh if its keys are
unique, its table is large enough and its vacant slots have been counted
right. -/
theorem coherent_rebuildBuckets
    {map : OrderedMap α}
    (order_le : map.order ≤ maxOrder)
    (nodup : map.keys.Nodup)
    (counted : map.vacant = Slot.vacantCount map.toList)
    (load : map.order < maxOrder → 4 * Slot.keyedCount map.toList ≤ 3 * 2 ^ map.order) :
    map.rebuildBuckets.Coherent where
  table := rfl
  order_le := order_le
  keys_nodup := nodup
  keyed_eq := rfl
  vacant_eq := counted
  load := load

/-- A container of any initial order is coherent. -/
theorem coherent_withOrder (order : Nat) : (withOrder order : OrderedMap α).Coherent where
  table := by
    simp [withOrder, indexSlots]
  order_le := Nat.min_le_right order maxOrder
  keys_nodup := List.nodup_nil
  keyed_eq := rfl
  vacant_eq := rfl
  load _ := Nat.zero_le _

theorem coherent_empty : (empty : OrderedMap α).Coherent :=
  coherent_withOrder defaultOrder

namespace Coherent

variable {map : OrderedMap α}

/-! ## Writing at a position -/

/-- An unkeyed value at the end keeps a container coherent. -/
theorem append (coherent : map.Coherent) (value : α) : (map.append value).Coherent where
  table := by
    change map.buckets = indexSlots map.order (map.slots.push (.item value))
    rw [indexSlots_push, coherent.table]
    rfl
  order_le := coherent.order_le
  keys_nodup := by
    have same : (map.append value).keys = map.keys := by
      simp [keys]
    rw [same]
    exact coherent.keys_nodup
  keyed_eq := by
    rw [toList_append]
    simpa [Slot.keyedCount, OrderedMap.append, appendReturning] using coherent.keyed_eq
  vacant_eq := by
    rw [toList_append]
    simpa [Slot.vacantCount, OrderedMap.append, appendReturning] using coherent.vacant_eq
  load := coherent.load

/-- A change of one slot that keeps its key, with the vacancy count adjusted. -/
theorem changeSlot
    (coherent : map.Coherent)
    (index : Nat)
    {change : Slot α → Slot α}
    (keeps : ∀ slot, map.toList[index]? = some slot → (change slot).key? = slot.key?)
    {vacant : Nat}
    (vacant_eq : vacant = Slot.vacantCount (map.toList.modify index change)) :
    { map with slots := map.slots.modify index change, vacant }.Coherent := by
  have sameKeys : (map.slots.modify index change).toList.map Slot.key? =
      map.slots.toList.map Slot.key? := by
    rw [Array.toList_modify]
    exact Slot.map_key?_modify _ index keeps
  constructor
  · change map.buckets = _
    rw [coherent.table]
    exact (indexSlots_congr map.order sameKeys).symm
  · exact coherent.order_le
  · change (Slot.keysOf (map.slots.modify index change).toList).Nodup
    rw [Slot.keysOf_congr sameKeys]
    exact coherent.keys_nodup
  · change map.keyed = Slot.keyedCount (map.slots.modify index change).toList
    rw [Slot.keyedCount_congr sameKeys]
    exact coherent.keyed_eq
  · change vacant = Slot.vacantCount (map.slots.modify index change).toList
    rw [Array.toList_modify]
    exact vacant_eq
  · exact coherent.load

/-- A write at a position keeps a container coherent, also if it revives a vacant
slot. -/
theorem setAt (coherent : map.Coherent) (index : Nat) (value : α) :
    (map.setAt index value).Coherent := by
  unfold OrderedMap.setAt setAtReturning
  split
  · exact coherent
  · next slot found =>
    apply coherent.changeSlot index fun slot _ => Slot.key?_write slot value
    have there : map.toList[index]? = some slot := by
      rw [toList, Array.getElem?_toList, found]
    have count := Slot.countP_modify Slot.isVacant (fun slot => slot.write value) there
    have before := coherent.vacant_eq
    simp only [Slot.vacantCount, Slot.isVacant_write] at count before ⊢
    cases vacant : slot.isVacant <;> simp [vacant] at count ⊢ <;> omega

theorem modifyAt (coherent : map.Coherent) (index : Nat) (f : α → α) :
    (map.modifyAt index f).Coherent := by
  have count : map.vacant = Slot.vacantCount (map.toList.modify index (Slot.map f)) := by
    rw [coherent.vacant_eq]
    cases found : map.toList[index]? with
    | none =>
        have past : map.toList.length ≤ index := List.getElem?_eq_none_iff.mp found
        rw [List.modify_eq_self past]
    | some slot =>
        have step := Slot.countP_modify Slot.isVacant (Slot.map f) found
        rw [Slot.isVacant_map] at step
        exact (Nat.add_right_cancel step).symm
  exact coherent.changeSlot index (fun slot _ => Slot.key?_map f slot) count

/-- An unkeyed slot is made vacant. -/
theorem vacateItem
    (coherent : map.Coherent)
    {index : Nat}
    {value : α}
    (found : map.toList[index]? = some (.item value)) :
    { map with
      slots := map.slots.modify index fun _ => .vacant
      vacant := map.vacant + 1 }.Coherent := by
  apply coherent.changeSlot index
  · intro slot there
    rw [found] at there
    cases there
    rfl
  · have count := Slot.countP_modify Slot.isVacant (fun _ => .vacant) found
    rw [coherent.vacant_eq]
    simpa [Slot.vacantCount] using count.symm

/-- A keyed slot is made vacant and its position leaves the table. -/
theorem vacateEntry
    (coherent : map.Coherent)
    {index : Nat}
    {key : String}
    {value : α}
    (found : map.toList[index]? = some (.entry key value)) :
    { map with
      slots := map.slots.modify index fun _ => .vacant
      buckets := map.buckets.modify (map.bucketOf key) fun bucket =>
        bucket.filter fun position => position != index
      keyed := map.keyed - 1
      vacant := map.vacant + 1 }.Coherent := by
  have there : map.slots[index]? = some (.entry key value) := by
    rw [← Array.getElem?_toList]
    exact found
  have keyedStep := Slot.countP_modify (fun slot => slot.key?.isSome) (fun _ => .vacant) found
  have vacantStep := Slot.countP_modify Slot.isVacant (fun _ => .vacant) found
  have keyedBefore := coherent.keyed_eq
  have vacantBefore := coherent.vacant_eq
  simp only [Slot.key?_entry, Option.isSome_some, Slot.key?_vacant, Option.isSome_none,
    Slot.isVacant_entry, Slot.isVacant_vacant, if_true, Bool.false_eq_true, if_false]
    at keyedStep vacantStep
  constructor
  · change map.buckets.modify (bucketIn map.buckets.size key) _ = indexSlots map.order _
    rw [indexSlots_vacate map.order index map.slots there, coherent.table, size_indexSlots]
  · exact coherent.order_le
  · change (Slot.keysOf (map.slots.modify index fun _ => .vacant).toList).Nodup
    rw [Array.toList_modify]
    exact coherent.keys_nodup.sublist (Slot.keysOf_vacate_sublist map.toList index)
  · change map.keyed - 1 = Slot.keyedCount (map.slots.modify index fun _ => .vacant).toList
    rw [Array.toList_modify, keyedBefore]
    unfold Slot.keyedCount toList at *
    omega
  · change map.vacant + 1 = Slot.vacantCount (map.slots.modify index fun _ => .vacant).toList
    rw [Array.toList_modify, vacantBefore]
    unfold Slot.vacantCount toList at *
    omega
  · intro small
    have loadBefore := coherent.load small
    change 4 * (map.keyed - 1) ≤ 3 * 2 ^ map.order
    omega

/-- A deletion by position keeps a container coherent: its key leaves the table
and the slot is counted as vacant. -/
theorem deleteAt (coherent : map.Coherent) (index : Nat) : (map.deleteAt index).Coherent := by
  unfold OrderedMap.deleteAt deleteAtReturning
  split
  · exact coherent
  · exact coherent
  · next value found =>
    apply coherent.vacateItem
    rw [toList, Array.getElem?_toList, found]
  · next key value found =>
    apply coherent.vacateEntry
    rw [toList, Array.getElem?_toList, found]

/-! ## Writing under a key -/

/-- A table that grows keeps the slots and their count. -/
theorem grow (coherent : map.Coherent) (small : map.order < maxOrder) : map.grow.Coherent := by
  have load := load_after_growth (coherent.load small)
  rw [coherent.keyed_eq] at load
  have room : 4 * Slot.keyedCount map.toList ≤ 3 * 2 ^ (map.order + 1) := by omega
  change { map with order := map.order + 1 }.rebuildBuckets.Coherent
  exact coherent_rebuildBuckets small coherent.keys_nodup coherent.vacant_eq fun _ => room

/-- A key that is not present goes to the end, after the table has grown if it
was full. -/
theorem pushEntry
    (coherent : map.Coherent)
    {key : String}
    (absent : key ∉ map.keys)
    (value : α) :
    (map.pushEntry key value).Coherent := by
  -- Both ways to the slot that is pushed: the grown table, or one with room.
  obtain ⟨grown, grown_eq, grownCoherent, sameSlots, room⟩ :
      ∃ grown : OrderedMap α, grown = (if map.isFull then map.grow else map) ∧
        grown.Coherent ∧ grown.toList = map.toList ∧
        (grown.order < maxOrder → 4 * (grown.keyed + 1) ≤ 3 * 2 ^ grown.order) := by
    refine ⟨_, rfl, ?_⟩
    by_cases full : map.isFull = true
    · have small : map.order < maxOrder := by
        simp only [isFull, Bool.and_eq_true, decide_eq_true_eq] at full
        exact full.2
      have load := load_after_growth (coherent.load small)
      rw [if_pos full]
      refine ⟨coherent.grow small, rfl, ?_⟩
      intro _
      have keyed : map.grow.keyed = map.keyed := coherent.keyed_eq.symm
      rw [keyed]
      exact load
    · rw [if_neg full]
      refine ⟨coherent, rfl, ?_⟩
      intro small
      simp only [isFull, Bool.and_eq_true, decide_eq_true_eq, not_and_or, Nat.not_lt,
        coherent.size_buckets] at full
      omega
  have pushed : map.pushEntry key value =
      { grown with
        slots := grown.slots.push (.entry key value)
        buckets := pushIndex grown.buckets key grown.slots.size
        keyed := grown.keyed + 1 } := by
    rw [grown_eq]
    rfl
  have slots_eq : (map.pushEntry key value).toList = grown.toList ++ [.entry key value] := by
    rw [toList_pushEntry, sameSlots]
  constructor
  · rw [pushed]
    change pushIndex grown.buckets key grown.slots.size =
      indexSlots grown.order (grown.slots.push (.entry key value))
    rw [indexSlots_push, grownCoherent.table]
    rfl
  · rw [pushed]
    exact grownCoherent.order_le
  · rw [keys_eq_keysOf, slots_eq, sameSlots]
    simp only [Slot.keysOf, List.filterMap_append, List.filterMap_cons, Slot.key?_entry,
      List.filterMap_nil]
    refine List.nodup_append.mpr ⟨coherent.keys_nodup, by simp, ?_⟩
    intro other member last lastMember same
    rw [List.mem_singleton] at lastMember
    subst same lastMember
    exact absent member
  · rw [slots_eq, pushed]
    simpa [Slot.keyedCount] using grownCoherent.keyed_eq
  · rw [slots_eq, pushed]
    simpa [Slot.vacantCount] using grownCoherent.vacant_eq
  · rw [pushed]
    exact room

/-- An insertion keeps a container coherent, whether the key is there, is new or
makes the table grow. -/
theorem insert (coherent : map.Coherent) (key : String) (value : α) :
    (map.insert key value).Coherent := by
  rw [insert_eq]
  split
  · next index found => exact coherent.setAt index value
  · next absent =>
    exact coherent.pushEntry ((coherent.keyIndex?_eq_none_iff key).mp absent) value

/-- An entry with or without a key keeps a container coherent. -/
theorem insertEntry (coherent : map.Coherent) (key? : Option String) (value : α) :
    (map.insertEntry key? value).Coherent := by
  cases key? with
  | none => exact coherent.append value
  | some key => exact coherent.insert key value

theorem modify (coherent : map.Coherent) (key : String) (f : α → α) :
    (map.modify key f).Coherent := by
  unfold OrderedMap.modify
  split
  · next index found => exact coherent.modifyAt index f
  · exact coherent

/-- A deletion by key keeps a container coherent. -/
theorem erase (coherent : map.Coherent) (key : String) : (map.erase key).Coherent := by
  rw [erase_eq]
  split
  · next index found => exact coherent.deleteAt index
  · exact coherent

/-! ## Whole containers -/

/-- A fresh table of the same order suits any slots with the same keys, in
whatever order, if the vacant ones have been counted right. -/
theorem rebuild
    (coherent : map.Coherent)
    {other : OrderedMap β}
    (order : other.order = map.order)
    (sameKeys : other.keys.Perm map.keys)
    (counted : other.vacant = Slot.vacantCount other.toList) :
    other.rebuildBuckets.Coherent := by
  refine coherent_rebuildBuckets (order ▸ coherent.order_le)
    (sameKeys.nodup_iff.mpr coherent.keys_nodup) counted ?_
  intro small
  have sameCount : Slot.keyedCount other.toList = map.keyed := by
    rw [← Slot.length_keysOf, ← keys_eq_keysOf, sameKeys.length_eq, coherent.keyed_eq_length_keys]
  rw [sameCount, order]
  exact coherent.load (order ▸ small)

/-- Compaction drops all vacant slots and counts none. -/
theorem compact (coherent : map.Coherent) : map.compact.Coherent := by
  unfold OrderedMap.compact
  split
  · exact coherent
  · refine coherent.rebuild rfl ?_ ?_
    · rw [keys_eq_keysOf, toList, Array.toList_filter, Slot.keysOf_filter_occupied]
      exact List.Perm.refl _
    · rw [toList, Array.toList_filter, Slot.vacantCount_filter_occupied]

/-- Mapping the values keeps the vacant slots, so the count is carried over. -/
theorem mapValues (coherent : map.Coherent) (f : α → β) : (map.mapValues f).Coherent := by
  refine coherent.rebuild rfl ?_ ?_
  · have sameKeys : (map.slots.map (Slot.map f)).toList.map Slot.key? =
        map.slots.toList.map Slot.key? := by
      simp [Function.comp_def]
    rw [keys_eq_keysOf, toList, Slot.keysOf_congr sameKeys]
    exact List.Perm.refl _
  · rw [toList, Array.toList_map, Slot.vacantCount_map]
    exact coherent.vacant_eq

/-- The reversal has as many vacant slots, so the count is carried over. -/
theorem reverse (coherent : map.Coherent) : map.reverse.Coherent := by
  refine coherent.rebuild rfl ?_ ?_
  · rw [keys_eq_keysOf, toList, Array.toList_reverse, Slot.keysOf, List.filterMap_reverse]
    exact List.reverse_perm _
  · rw [toList, Array.toList_reverse, Slot.vacantCount_reverse]
    exact coherent.vacant_eq

/-- Adding the entries of another container, coherent or not, keeps a container
coherent. -/
theorem extend (coherent : map.Coherent) (other : OrderedMap α) : (map.extend other).Coherent := by
  unfold OrderedMap.extend
  generalize other.entries = entries
  induction entries generalizing map with
  | nil => exact coherent
  | cons entry entries ih =>
      exact ih (coherent.insertEntry entry.2.1 entry.2.2)

end Coherent

/-- A merge of any containers is coherent. -/
theorem coherent_merge (maps : List (OrderedMap α)) : (merge maps).Coherent := by
  unfold merge
  generalize start_eq : (empty : OrderedMap α) = start
  have startCoherent : start.Coherent := start_eq ▸ coherent_empty
  clear start_eq
  induction maps generalizing start with
  | nil => exact startCoherent
  | cons map maps ih =>
      exact ih (start.extend map) (startCoherent.extend map)

end OrderedMap
end ScriptCore
