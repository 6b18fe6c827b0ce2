import ScriptCore.OrderedMap.Spread
import ScriptCore.Proofs.OrderedMap.Compaction

/-!
# The order of the bucket table

The table of a container grows when a new key would fill more than three quarters
of it, and nothing makes it smaller. Of all that happened to the container its
order keeps one number, the most keys that it ever held: it is the least order at
which so many keys fill at most three quarters, unless the table started out
larger or may not become that large.

A container is followed through a sequence of operations. Adding another container
is not one change but many, one for each entry, and every container on the way
counts.
-/

namespace ScriptCore
namespace OrderedMap

/-! ## Orders -/

/-- The least order of a table that so many keys fill by at most three quarters. -/
def leastOrder (keys : Nat) : Nat :=
  Nat.clog 2 ((4 * keys + 2) / 3)

theorem leastOrder_le_iff {keys order : Nat} :
    leastOrder keys ≤ order ↔ 4 * keys ≤ 3 * 2 ^ order := by
  rw [leastOrder, Nat.clog_le_iff_le_pow Nat.one_lt_two]
  omega

/-- The order computed for some keys is the least at which they fill no more than
three quarters of the buckets. -/
theorem isLeast_leastOrder (keys : Nat) :
    IsLeast {order | 4 * keys ≤ 3 * 2 ^ order} (leastOrder keys) :=
  ⟨leastOrder_le_iff.mp (Nat.le_refl _), fun _ fits => leastOrder_le_iff.mpr fits⟩

/-- More keys need no smaller order. -/
theorem leastOrder_mono : Monotone leastOrder := by
  intro fewer more le
  have fits := leastOrder_le_iff.mp (Nat.le_refl (leastOrder more))
  exact leastOrder_le_iff.mpr (by omega)

/-- One key more needs at most one doubling more. -/
theorem leastOrder_succ_le (keys : Nat) : leastOrder (keys + 1) ≤ leastOrder keys + 1 :=
  leastOrder_le_iff.mpr (load_after_growth (leastOrder_le_iff.mp (Nat.le_refl _)))

/-- The order of a table that started with an order and held at most so many
keys. -/
def orderFor (initial peak : Nat) : Nat :=
  min maxOrder (max (min initial maxOrder) (leastOrder peak))

theorem orderFor_mono (initial : Nat) : Monotone (orderFor initial) := by
  intro fewer more le
  have least := leastOrder_mono le
  unfold orderFor
  omega

/-- A new key doubles the table once, exactly if it would overfill a table that may
still grow. Where fewer keys are present than once were, there is room. -/
theorem orderFor_succ
    {keys peak : Nat}
    (initial : Nat)
    (keys_le : keys ≤ peak) :
    orderFor initial (max (keys + 1) peak) =
      if 3 * 2 ^ orderFor initial peak < 4 * (keys + 1) ∧ orderFor initial peak < maxOrder then
        orderFor initial peak + 1
      else orderFor initial peak := by
  have overfull : 3 * 2 ^ orderFor initial peak < 4 * (keys + 1) ↔
      orderFor initial peak < leastOrder (keys + 1) := by
    rw [← Nat.not_le, ← leastOrder_le_iff, Nat.not_le]
  have present := leastOrder_mono keys_le
  have next := leastOrder_succ_le keys
  simp only [overfull]
  unfold orderFor
  rw [leastOrder_mono.map_max]
  split <;> omega

variable {α : Type}

/-! ## Sequences of operations -/

/-- An operation on a container. -/
inductive Operation (α : Type) where
  | append (value : α)
  | insert (key : String) (value : α)
  | insertEntry (key? : Option String) (value : α)
  | setAt (index : Nat) (value : α)
  | deleteAt (index : Nat)
  | erase (key : String)
  | compact
  | extend (other : OrderedMap α)
  | reverse

/-- The changes that make up an operation: another container is added entry by
entry. -/
def Operation.steps : Operation α → List (Operation α)
  | extend other => other.entries.map fun entry => insertEntry entry.2.1 entry.2.2
  | operation => [operation]

/-- The steps of an operation are single ones. -/
theorem Operation.extend_not_mem_steps (operation : Operation α) (other : OrderedMap α) :
    extend other ∉ operation.steps := by
  cases operation <;> simp [steps]

/-- The numbers of keys of some containers. -/
def keyCounts (maps : List (OrderedMap α)) : Set Nat :=
  {count | ∃ map ∈ maps, map.keys.length = count}

/-- One more container adds its number of keys. -/
theorem keyCounts_concat (maps : List (OrderedMap α)) (last : OrderedMap α) :
    keyCounts (maps ++ [last]) = Insert.insert last.keys.length (keyCounts maps) := by
  ext count
  simp [keyCounts, or_and_right, exists_or, or_comm, eq_comm]

section Table

variable [KeyHash]

/-- The container after an operation. -/
def Operation.apply (map : OrderedMap α) : Operation α → OrderedMap α
  | append value => map.append value
  | insert key value => map.insert key value
  | insertEntry key? value => map.insertEntry key? value
  | setAt index value => map.setAt index value
  | deleteAt index => map.deleteAt index
  | erase key => map.erase key
  | compact => map.compact
  | extend other => map.extend other
  | reverse => map.reverse

/-- The container after a sequence of operations. -/
def run (map : OrderedMap α) (operations : List (Operation α)) : OrderedMap α :=
  operations.foldl Operation.apply map

/-- The container before, during and after a sequence of operations. -/
def stages (map : OrderedMap α) (operations : List (Operation α)) : List (OrderedMap α) :=
  (operations.flatMap Operation.steps).scanl Operation.apply map

/-- A run of operations is a run of their steps. -/
theorem foldl_steps (map : OrderedMap α) (operations : List (Operation α)) :
    (operations.flatMap Operation.steps).foldl Operation.apply map = map.run operations := by
  rw [List.foldl_flatMap]
  unfold run
  congr 1
  funext map operation
  cases operation with
  | extend other => exact List.foldl_map
  | _ => rfl

/-! ## Keys and order after a change -/

variable {map after : OrderedMap α} {initial peak : Nat}

/-- A deletion by position adds no key. -/
theorem keys_deleteAt_sublist (map : OrderedMap α) (index : Nat) :
    (map.deleteAt index).keys.Sublist map.keys := by
  rw [keys_eq_keysOf, keys_eq_keysOf, toList_deleteAt]
  exact Slot.keysOf_vacate_sublist map.toList index

theorem order_deleteAt (map : OrderedMap α) (index : Nat) :
    (map.deleteAt index).order = map.order := by
  unfold deleteAt deleteAtReturning
  split <;> rfl

theorem keys_reverse (map : OrderedMap α) : map.reverse.keys = map.keys.reverse := by
  rw [keys, toList_reverse, List.filterMap_reverse, keys]

/-- Erasing a key deletes the slot that has it, if there is one. -/
theorem erase_cases (map : OrderedMap α) (key : String) :
    map.erase key = map ∨ ∃ index, map.erase key = map.deleteAt index := by
  rw [erase_eq]
  split
  · next index _ => exact .inr ⟨index, rfl⟩
  · exact .inl rfl

/-- A key that is present is written in its slot. -/
theorem Coherent.insert_present
    (coherent : map.Coherent)
    {key : String}
    (present : key ∈ map.keys)
    (value : α) :
    ∃ index, map.insert key value = map.setAt index value := by
  obtain ⟨index, found⟩ := Option.isSome_iff_exists.mp ((coherent.contains_iff key).mpr present)
  exact ⟨index, by rw [insert_eq, found]⟩

/-- An insertion raises the order by one exactly for a new key in a full table. -/
theorem order_insert (map : OrderedMap α) (key : String) (value : α) :
    (map.insert key value).order =
      if map.contains key || !map.isFull then map.order else map.order + 1 :=
  order_insertEntry (some key) value

/-! ## The most keys so far -/

/-- A coherent container that held at most so many keys, with the order that this
gives its table. -/
structure Peaked (initial peak : Nat) (map : OrderedMap α) : Prop where
  coherent : map.Coherent
  keys_le : map.keys.length ≤ peak
  order_eq : map.order = orderFor initial peak

/-- A new container has held no key and has its initial order. -/
theorem peaked_withOrder (initial : Nat) : (withOrder initial : OrderedMap α).Peaked initial 0 where
  coherent := coherent_withOrder initial
  keys_le := Nat.le_refl 0
  order_eq := by
    have least : leastOrder 0 = 0 := Nat.le_zero.mp (leastOrder_le_iff.mpr (Nat.zero_le _))
    rw [orderFor, least]
    change min initial maxOrder = _
    omega

namespace Peaked

/-- A change that adds no key and leaves the order alone. -/
theorem of_fewer
    (peaked : map.Peaked initial peak)
    (coherent : after.Coherent)
    (fewer : after.keys.length ≤ map.keys.length)
    (order : after.order = map.order) :
    after.Peaked initial (max after.keys.length peak) := by
  have within : after.keys.length ≤ peak := Nat.le_trans fewer peaked.keys_le
  rw [Nat.max_eq_right within]
  exact ⟨coherent, within, order.trans peaked.order_eq⟩

/-- A key that is not present is counted, and it doubles the table if that was
full. -/
theorem insert_new
    (peaked : map.Peaked initial peak)
    {key : String}
    (absent : map.contains key = false)
    (value : α) :
    (map.insert key value).Peaked initial (max (map.insert key value).keys.length peak) := by
  have counted : (map.insert key value).keys.length = map.keys.length + 1 := by
    rw [keys_insert, absent]
    simp
  have full : map.isFull = true ↔ 3 * 2 ^ orderFor initial peak < 4 * (map.keys.length + 1) ∧
      orderFor initial peak < maxOrder := by
    simp only [isFull, peaked.coherent.size_buckets, peaked.coherent.keyed_eq_length_keys,
      peaked.order_eq, Bool.and_eq_true, decide_eq_true_eq]
    omega
  refine ⟨peaked.coherent.insert key value, Nat.le_max_left _ _, ?_⟩
  rw [counted, orderFor_succ initial peaked.keys_le]
  rw [order_insert, absent, Bool.false_or, peaked.order_eq]
  by_cases isFull : map.isFull = true
  · rw [isFull, if_pos (full.mp isFull)]
    rfl
  · rw [if_neg (mt full.mpr isFull), Bool.eq_false_iff.mpr isFull]
    rfl

theorem insert (peaked : map.Peaked initial peak) (key : String) (value : α) :
    (map.insert key value).Peaked initial (max (map.insert key value).keys.length peak) := by
  cases present : map.contains key with
  | false => exact peaked.insert_new present value
  | true =>
      refine peaked.of_fewer (peaked.coherent.insert key value) ?_ ?_
      · rw [keys_insert, if_pos present]
      · rw [order_insert, present]
        rfl

theorem append (peaked : map.Peaked initial peak) (value : α) :
    (map.append value).Peaked initial (max (map.append value).keys.length peak) := by
  refine peaked.of_fewer (peaked.coherent.append value) ?_ rfl
  simp [keys]

theorem deleteAt (peaked : map.Peaked initial peak) (index : Nat) :
    (map.deleteAt index).Peaked initial (max (map.deleteAt index).keys.length peak) :=
  peaked.of_fewer (peaked.coherent.deleteAt index) (map.keys_deleteAt_sublist index).length_le
    (map.order_deleteAt index)

/-- One change of any kind. -/
theorem step
    (peaked : map.Peaked initial peak)
    {operation step : Operation α}
    (member : step ∈ operation.steps) :
    (step.apply map).Peaked initial (max (step.apply map).keys.length peak) := by
  have coherent := peaked.coherent
  cases step with
  | append value => exact peaked.append value
  | insert key value => exact peaked.insert key value
  | insertEntry key? value =>
      cases key? with
      | none => exact peaked.append value
      | some key => exact peaked.insert key value
  | setAt index value =>
      refine peaked.of_fewer (coherent.setAt index value) ?_ (map.order_setAt index value)
      exact Nat.le_of_eq (congrArg List.length (map.keys_setAt index value))
  | deleteAt index => exact peaked.deleteAt index
  | erase key =>
      change (map.erase key).Peaked initial (max (map.erase key).keys.length peak)
      rcases map.erase_cases key with same | ⟨index, deleted⟩
      · rw [same]
        exact peaked.of_fewer coherent (Nat.le_refl _) rfl
      · rw [deleted]
        exact peaked.deleteAt index
  | compact =>
      refine peaked.of_fewer coherent.compact ?_ map.order_compact
      exact Nat.le_of_eq (congrArg List.length keys_compact)
  | extend other => exact absurd member (operation.extend_not_mem_steps other)
  | reverse =>
      refine peaked.of_fewer coherent.reverse ?_ rfl
      change map.reverse.keys.length ≤ _
      rw [keys_reverse, List.length_reverse]

/-- After any operations the order is that of the most keys so far. -/
theorem run (peaked : map.Peaked initial peak) (operations : List (Operation α)) :
    ∃ top, IsGreatest (Insert.insert peak (keyCounts (map.stages operations))) top ∧
      (map.run operations).Peaked initial top := by
  have single : ∀ step ∈ operations.flatMap Operation.steps,
      ∃ operation : Operation α, step ∈ operation.steps := by
    intro step member
    obtain ⟨operation, -, inside⟩ := List.mem_flatMap.mp member
    exact ⟨operation, inside⟩
  rw [← foldl_steps]
  unfold stages
  generalize operations.flatMap Operation.steps = steps at single
  -- The last change is the one whose keys are compared with the most keys before.
  induction steps using List.reverseRecOn with
  | nil =>
      refine ⟨peak, ⟨Set.mem_insert _ _, ?_⟩, peaked⟩
      rintro count (rfl | ⟨stage, member, rfl⟩)
      · exact Nat.le_refl _
      · rw [List.scanl_nil, List.mem_singleton] at member
        exact member ▸ peaked.keys_le
  | append_singleton steps last ih =>
      rw [List.forall_mem_append, List.forall_mem_singleton] at single
      obtain ⟨top, greatest, before⟩ := ih single.1
      obtain ⟨operation, member⟩ := single.2
      have stages : (steps ++ [last]).scanl Operation.apply map =
          steps.scanl Operation.apply map ++ [last.apply (steps.foldl Operation.apply map)] := by
        simp [List.scanl_append]
      rw [stages, keyCounts_concat, Set.insert_comm, List.foldl_concat]
      exact ⟨_, greatest.insert _, before.step member⟩

end Peaked

/-! ## Growth -/

/-- What becomes of the table of a container that held at most so many keys. -/
structure GrowthLaws (peak : Nat) (map : OrderedMap α) : Prop where
  /-- The order never shrinks. -/
  order_le : ∀ operations, map.order ≤ (map.run operations).order
  /-- While there are no more keys than once were, the table does not grow. -/
  order_eq : ∀ operations, (∀ stage ∈ map.stages operations, stage.keys.length ≤ peak) →
    (map.run operations).order = map.order
  /-- A key that is present gets a new value in the same table. -/
  replaced : ∀ key ∈ map.keys, ∀ value,
    (map.insert key value).order = map.order ∧ (map.insert key value).buckets = map.buckets
  /-- One doubling at most makes room for a key, unless the table is as large as it
  may be. -/
  doubled : ∀ key value,
    ((map.insert key value).bucketCount = map.bucketCount ∨
      (map.insert key value).bucketCount = 2 * map.bucketCount) ∧
    (4 * (map.insert key value).keys.length ≤ 3 * (map.insert key value).bucketCount ∨
      (map.insert key value).order = 30)

/-- A table that follows the most keys so far satisfies the laws of growth. -/
theorem Peaked.growthLaws (peaked : map.Peaked initial peak) : GrowthLaws peak map where
  order_le operations := by
    obtain ⟨top, greatest, after⟩ := peaked.run operations
    rw [peaked.order_eq, after.order_eq]
    exact orderFor_mono initial (greatest.2 (Set.mem_insert _ _))
  order_eq operations within := by
    obtain ⟨top, greatest, after⟩ := peaked.run operations
    have same : top = peak := by
      refine greatest.unique ⟨Set.mem_insert _ _, ?_⟩
      rintro count (rfl | ⟨stage, member, rfl⟩)
      · exact Nat.le_refl _
      · exact within stage member
    rw [peaked.order_eq, after.order_eq, same]
  replaced key present value := by
    obtain ⟨index, written⟩ := peaked.coherent.insert_present present value
    rw [written]
    exact ⟨map.order_setAt index value, map.buckets_setAt index value⟩
  doubled key value := by
    have coherent := peaked.coherent.insert key value
    rw [bucketCount, bucketCount, coherent.size_buckets, peaked.coherent.size_buckets]
    constructor
    · rw [order_insert]
      split
      · exact .inl rfl
      · exact .inr (by rw [Nat.pow_succ, Nat.mul_comm])
    · rw [← coherent.keyed_eq_length_keys]
      exact coherent.representation.load

/-- The order of a table follows from the order that it started with and from the
most keys that its container ever held. So it never shrinks, and only a key beyond
that number lets it grow, by one doubling. -/
theorem order_follows_from_most_keys (initial : Nat) (operations : List (Operation α)) :
    ∃ peak least,
      IsGreatest (keyCounts ((withOrder initial).stages operations)) peak ∧
      IsLeast {order | 4 * peak ≤ 3 * 2 ^ order} least ∧
      ((withOrder initial).run operations).order = min 30 (max (min initial 30) least) ∧
      GrowthLaws peak ((withOrder initial).run operations) := by
  obtain ⟨peak, greatest, peaked⟩ := (peaked_withOrder initial).run operations
  have start : 0 ∈ keyCounts ((withOrder initial).stages operations) := by
    refine ⟨withOrder initial, ?_, rfl⟩
    unfold stages
    cases operations.flatMap Operation.steps <;> simp
  rw [Set.insert_eq_of_mem start] at greatest
  exact ⟨peak, leastOrder peak, greatest, isLeast_leastOrder peak, peaked.order_eq,
    peaked.growthLaws⟩

end Table

/-- Three keys and a value without one. -/
def threeKeys : List (Operation Nat) :=
  [.insert "a" 1, .append 2, .insert "b" 3, .insertEntry (some "c") 4]

/-- Replace one of the keys by another. -/
def exchange : List (Operation Nat) :=
  [.erase "b", .compact, .extend (ofPairs [("c", 5), ("d", 6)])]

/-- A single bucket becomes four for three keys, and it stays at four when one key
goes and another comes. -/
theorem threeKeys_take_four_buckets :
    ((withOrder 0).run threeKeys).order = 2 ∧
      (∀ stage ∈ ((withOrder 0).run threeKeys).stages exchange, stage.keys.length ≤ 3) ∧
      (((withOrder 0).run threeKeys).run exchange).order = 2 := by
  have held : ∃ stage ∈ (withOrder 0).stages threeKeys, stage.keys.length = 3 := by
    decide +kernel
  have most : ∀ stage ∈ (withOrder 0).stages threeKeys, stage.keys.length ≤ 3 := by
    decide +kernel
  have within : ∀ stage ∈ ((withOrder 0).run threeKeys).stages exchange,
      stage.keys.length ≤ 3 := by
    decide +kernel
  obtain ⟨peak, least, greatest, smallest, order, laws⟩ :=
    order_follows_from_most_keys 0 threeKeys
  have three : peak = 3 := by
    refine greatest.unique ⟨held, ?_⟩
    rintro count ⟨stage, member, rfl⟩
    exact most stage member
  subst three
  have two : least = 2 := smallest.unique (isLeast_leastOrder 3)
  rw [two] at order
  exact ⟨order, within, (laws.order_eq exchange within).trans order⟩

end OrderedMap
end ScriptCore
