import ScriptCore.Proofs.OrderedMap.SlotList

/-!
# Keys after a change

What inserting, erasing and compacting do to the keys of a container and to its
answers. A table that is out of step with its slots may miss a key, but it never
finds a wrong one; so the statements about keys need no coherence.
-/

namespace ScriptCore

/-! ## Slot lists -/

namespace SlotList

variable {α : Type}

theorem get?_cons (slot : Slot α) (slots : List (Slot α)) (key : String) :
    get? (slot :: slots) key = if slot.hasKey key then slot.value? else get? slots key := by
  by_cases present : slot.hasKey key = true <;> simp [get?, present]

theorem hasKey_entry (key other : String) (value : α) :
    (Slot.entry key value).hasKey other = decide (other = key) := by
  rw [Bool.eq_iff_iff, Slot.hasKey_iff, decide_eq_true_iff, Slot.key?_entry, Option.some.injEq]
  exact eq_comm

/-- Inserting a key changes the answer for that key alone. -/
theorem get?_insert
    (key other : String)
    (value : α)
    (slots : List (Slot α)) :
    get? (insert key value slots) other =
      if other = key then some value else get? slots other := by
  induction slots with
  | nil => simp [insert, get?_cons, hasKey_entry]
  | cons slot slots ih =>
      by_cases present : slot.hasKey key = true
      · rw [insert, if_pos present, get?_cons, get?_cons, hasKey_entry]
        by_cases same : other = key
        · simp [same]
        · have absent : ¬ slot.hasKey other = true := by
            rw [Slot.hasKey_iff] at present ⊢
            rw [present, Option.some.injEq]
            exact Ne.symm same
          simp [same, absent]
      · rw [insert, if_neg present, get?_cons, get?_cons, ih]
        by_cases same : other = key
        · subst same
          simp [present]
        · simp [same]

/-- Nothing is found under a key that no slot has. -/
theorem get?_of_absent
    {slots : List (Slot α)}
    {key : String}
    (absent : key ∉ Slot.keysOf slots) :
    get? slots key = none := by
  rw [get?, Option.bind_eq_none_iff]
  intro slot found
  refine absurd (List.mem_filterMap.mpr ⟨slot, List.mem_of_find?_eq_some found, ?_⟩) absent
  exact Slot.hasKey_iff.mp (List.find?_some found)

/-- Making the slot of a key vacant changes the answer for that key alone. -/
theorem get?_vacate
    (key other : String)
    {slots : List (Slot α)}
    (different : (Slot.keysOf slots).Nodup) :
    get? (changeKey key (fun _ => .vacant) slots) other =
      if other = key then none else get? slots other := by
  induction slots with
  | nil => simp [changeKey, get?]
  | cons slot slots ih =>
      by_cases present : slot.hasKey key = true
      · have keyed := Slot.hasKey_iff.mp present
        rw [Slot.keysOf, List.filterMap_cons_some keyed, List.nodup_cons] at different
        have passed : Slot.hasKey other (.vacant : Slot α) = false := by simp [Slot.hasKey]
        rw [changeKey, if_pos present, get?_cons, get?_cons, passed]
        by_cases same : other = key
        · subst same
          simpa using get?_of_absent different.1
        · have elsewhere : ¬ slot.hasKey other = true := by
            rw [Slot.hasKey_iff, keyed, Option.some.injEq]
            exact Ne.symm same
          simp [same, elsewhere]
      · have later : (Slot.keysOf slots).Nodup :=
          different.sublist ((List.sublist_cons_self slot slots).filterMap Slot.key?)
        rw [changeKey, if_neg present, get?_cons, get?_cons, ih later]
        by_cases same : other = key
        · subst same
          simp [present]
        · simp [same]

theorem get?_occupied (slots : List (Slot α)) (key : String) :
    get? (slots.filter fun slot => !slot.isVacant) key = get? slots key := by
  induction slots with
  | nil => rfl
  | cons slot slots ih =>
      cases slot <;> simp [get?_cons, ih, Slot.hasKey]

/-- Vacating the slot of a key takes that key out of the list of keys. -/
theorem keysOf_vacate (key : String) (slots : List (Slot α)) :
    Slot.keysOf (changeKey key (fun _ => .vacant) slots) = (Slot.keysOf slots).erase key := by
  induction slots with
  | nil => rfl
  | cons slot slots ih =>
      by_cases present : slot.hasKey key = true
      · rw [changeKey, if_pos present]
        simp [Slot.keysOf, List.filterMap_cons, Slot.hasKey_iff.mp present]
      · rw [changeKey, if_neg present]
        rw [Slot.hasKey_iff] at present
        unfold Slot.keysOf at ih ⊢
        cases keyed : slot.key? with
        | none => simp [keyed, ih]
        | some other =>
            rw [keyed, Option.some.injEq] at present
            simp [keyed, ih, present]

end SlotList

/-! ## Containers -/

namespace OrderedMap

variable {α : Type} {map : OrderedMap α}

theorem mem_keys_iff {key : String} :
    key ∈ map.keys ↔ ∃ slot ∈ map.toList, slot.key? = some key := by
  simp [keys, List.mem_filterMap]

theorem keyAt?_eq_some_iff {key : String} {position : Nat} :
    map.keyAt? position = some key ↔
      ∃ slot, map.toList[position]? = some slot ∧ slot.key? = some key := by
  rw [keyAt?, ← Array.getElem?_toList, Option.bind_eq_some_iff]
  rfl

/-- Every key is at some position, and only keys are. -/
theorem mem_keys_iff_keyAt? {key : String} :
    key ∈ map.keys ↔ ∃ position, map.keyAt? position = some key := by
  rw [mem_keys_iff]
  simp only [keyAt?_eq_some_iff, List.mem_iff_getElem?]
  constructor
  · rintro ⟨slot, ⟨position, there⟩, keyed⟩
    exact ⟨position, slot, there, keyed⟩
  · rintro ⟨position, slot, there, keyed⟩
    exact ⟨slot, ⟨position, there⟩, keyed⟩

/-- Keys are listed in the order of their slots. -/
theorem pairwise_keys (map : OrderedMap α) :
    map.keys.Pairwise fun first second => ∃ position later,
      map.keyAt? position = some first ∧ map.keyAt? later = some second ∧ position < later := by
  rw [keys, List.pairwise_filterMap, List.pairwise_iff_getElem]
  intro position later inside laterInside before first firstKey second secondKey
  refine ⟨position, later, keyAt?_eq_some_iff.mpr ⟨_, ?_, firstKey⟩,
    keyAt?_eq_some_iff.mpr ⟨_, ?_, secondKey⟩, before⟩
  · exact List.getElem?_eq_getElem inside
  · exact List.getElem?_eq_getElem laterInside

theorem keys_setAt (map : OrderedMap α) (index : Nat) (value : α) :
    (map.setAt index value).keys = map.keys := by
  rw [keys_eq_keysOf, keys_eq_keysOf, toList_setAt]
  exact Slot.keysOf_congr (Slot.map_key?_modify _ index fun slot _ => Slot.key?_write slot value)

variable [KeyHash]

/-- A key that the table finds is at the place found. -/
theorem key_of_keyIndex?
    {key : String}
    {index : Nat}
    (found : map.keyIndex? key = some index) :
    ∃ slot, map.toList[index]? = some slot ∧ slot.key? = some key := by
  have there := List.find?_some found
  cases occupied : map.slots[index]? with
  | none =>
      rw [occupied] at there
      cases there
  | some slot =>
      rw [occupied] at there
      refine ⟨slot, ?_, Slot.hasKey_iff.mp there⟩
      rw [toList, Array.getElem?_toList, occupied]

/-- A key that the table finds is a key of the container. -/
theorem mem_keys_of_contains {key : String} (present : map.contains key = true) :
    key ∈ map.keys := by
  obtain ⟨index, found⟩ := Option.isSome_iff_exists.mp present
  obtain ⟨slot, there, keyed⟩ := key_of_keyIndex? found
  exact mem_keys_iff.mpr ⟨slot, List.mem_of_getElem? there, keyed⟩

/-- The table of a coherent container finds all of its keys. -/
theorem Coherent.contains_iff (coherent : map.Coherent) (key : String) :
    map.contains key = true ↔ key ∈ map.keys := by
  rw [contains, Option.isSome_iff_ne_none, ne_eq, coherent.keyIndex?_eq_none_iff, not_not]

/-- A look-up succeeds exactly under the keys of the container. -/
theorem isSome_get? (key : String) : (map.get? key).isSome = map.contains key := by
  unfold get? contains
  cases found : map.keyIndex? key with
  | none => rfl
  | some index =>
      obtain ⟨slot, there, keyed⟩ := key_of_keyIndex? found
      rw [toList, Array.getElem?_toList] at there
      cases slot with
      | vacant => cases keyed
      | item value => cases keyed
      | entry other value => simp [getAt?, there]

theorem keys_insert (key : String) (value : α) :
    (map.insert key value).keys = if map.contains key then map.keys else map.keys ++ [key] := by
  rw [insert_eq, contains]
  cases map.keyIndex? key with
  | some index =>
      simp only [Option.isSome_some, if_true]
      exact keys_setAt map index value
  | none => simp [keys_eq_keysOf, Slot.keysOf, toList_pushEntry]

/-- Inserting a key adds at most that key. -/
theorem mem_keys_insert {key name : String} {value : α} :
    name ∈ (map.insert key value).keys ↔ name ∈ map.keys ∨ name = key := by
  rw [keys_insert]
  by_cases present : map.contains key = true
  · rw [if_pos present]
    constructor
    · exact Or.inl
    · rintro (member | rfl)
      · exact member
      · exact mem_keys_of_contains present
  · rw [if_neg present]
    simp

/-- Compaction keeps the keys and their order. -/
theorem keys_compact : map.compact.keys = map.keys := by
  unfold compact
  split
  · rfl
  · rw [keys_eq_keysOf, toList_rebuildBuckets, toList, Array.toList_filter,
      Slot.keysOf_filter_occupied]
    rfl

/-- A deletion adds no key. -/
theorem mem_keys_of_mem_keys_erase
    {key name : String}
    (member : name ∈ (map.erase key).keys) :
    name ∈ map.keys := by
  rw [erase_eq] at member
  cases found : map.keyIndex? key with
  | none =>
      rw [found] at member
      exact member
  | some index =>
      rw [found] at member
      simp only [keys_eq_keysOf, toList_deleteAt] at member
      exact (Slot.keysOf_vacate_sublist map.toList index).subset member

/-- Erasing a key leaves every other key. -/
theorem mem_keys_erase_or_eq
    {name : String}
    (key : String)
    (member : name ∈ map.keys) :
    name ∈ (map.erase key).keys ∨ name = key := by
  rw [erase_eq]
  cases found : map.keyIndex? key with
  | none => exact .inl member
  | some index =>
      obtain ⟨erased, there, erasedKey⟩ := key_of_keyIndex? found
      obtain ⟨slot, occurs, keyed⟩ := mem_keys_iff.mp member
      obtain ⟨position, atPosition⟩ := List.getElem?_of_mem occurs
      by_cases same : index = position
      · subst same
        rw [there, Option.some.injEq] at atPosition
        subst atPosition
        rw [erasedKey, Option.some.injEq] at keyed
        exact .inr keyed.symm
      · left
        refine mem_keys_iff.mpr ⟨slot, ?_, keyed⟩
        rw [toList_deleteAt]
        apply List.mem_of_getElem? (i := position)
        rw [List.getElem?_modify, atPosition]
        simp [same]

/-- A coherent container answers with what was inserted. -/
theorem Coherent.get?_insert
    (coherent : map.Coherent)
    (key other : String)
    (value : α) :
    (map.insert key value).get? other =
      if other = key then some value else map.get? other := by
  rw [(coherent.insert key value).get?_eq, coherent.get?_eq, coherent.toList_insert,
    SlotList.get?_insert]

/-- A coherent container does not answer for a key that was erased. -/
theorem Coherent.get?_erase (coherent : map.Coherent) (key other : String) :
    (map.erase key).get? other = if other = key then none else map.get? other := by
  rw [(coherent.erase key).get?_eq, coherent.get?_eq, coherent.toList_erase,
    SlotList.get?_vacate key other coherent.keys_nodup]

theorem Coherent.get?_compact (coherent : map.Coherent) (key : String) :
    map.compact.get? key = map.get? key := by
  rw [coherent.compact.get?_eq, coherent.get?_eq, coherent.toList_compact, SlotList.get?_occupied]

theorem Coherent.keys_erase (coherent : map.Coherent) (key : String) :
    (map.erase key).keys = map.keys.erase key := by
  rw [keys_eq_keysOf, keys_eq_keysOf, coherent.toList_erase, SlotList.keysOf_vacate]

end OrderedMap
end ScriptCore
