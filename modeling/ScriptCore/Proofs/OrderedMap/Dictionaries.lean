import ScriptCore.Proofs.OrderedMap.Merge

/-!
# Dictionaries

A container whose entries are only ever inserted under their keys has no vacant
and no unkeyed slots, and its table grew by its own keys. Method tables and the
fields that a class declares are such dictionaries. A merge gives a single
dictionary back, so an empty dictionary among several can be left out.
-/

namespace ScriptCore

variable {α β : Type}

namespace SlotList

/-- Occupied slots with different keys are merged already. -/
theorem foldl_add_of_nodup
    {slots : List (Slot α)}
    (different : (Slot.keysOf slots).Nodup)
    (occupied : ∀ slot ∈ slots, slot.isVacant = false) :
    slots.foldl add [] = slots := by
  induction slots using List.reverseRecOn with
  | nil => rfl
  | append_singleton slots slot ih =>
      rw [Slot.keysOf, List.filterMap_append, List.nodup_append] at different
      obtain ⟨differentBefore, -, apart⟩ := different
      rw [List.forall_mem_append] at occupied
      rw [List.foldl_concat, ih differentBefore occupied.1]
      cases slot with
      | vacant => cases occupied.2 .vacant (List.mem_singleton.mpr rfl)
      | item value => rfl
      | entry key value =>
          apply insert_of_absent
          intro present
          exact apart key present key (by simp) rfl

/-- Merged keys stand where they occur first. -/
theorem keysOf_merged (slots : List (Slot α)) :
    Slot.keysOf (slots.foldl add []) = (Slot.keysOf slots).eraseDups := by
  induction slots using List.reverseRecOn with
  | nil => rfl
  | append_singleton slots slot ih =>
      have split : Slot.keysOf (slots ++ [slot]) = Slot.keysOf slots ++ slot.key?.toList := by
        cases slot <;> simp [Slot.keysOf]
      rw [List.foldl_concat, split, List.eraseDups_append, ← ih]
      cases slot with
      | vacant => simp [add, List.removeAll]
      | item value => simp [add, Slot.keysOf, List.removeAll]
      | entry key value =>
          have known : key ∈ Slot.keysOf (slots.foldl add []) ↔ key ∈ Slot.keysOf slots := by
            rw [ih, List.mem_eraseDups]
          by_cases present : key ∈ Slot.keysOf slots
          · simp [add, keysOf_insert_of_mem (known.mpr present), List.removeAll, present]
          · simp [add, keysOf_insert_of_absent (mt known.mp present), List.removeAll, present,
              List.eraseDups_cons]

theorem get?_map (f : α → β) (slots : List (Slot α)) (key : String) :
    get? (slots.map (Slot.map f)) key = (get? slots key).map f := by
  induction slots with
  | nil => rfl
  | cons slot slots ih =>
      rw [List.map_cons, get?_cons, get?_cons, ih, Slot.hasKey, Slot.key?_map,
        Slot.value?_map, ← Slot.hasKey, apply_ite (Option.map f)]

end SlotList

namespace OrderedMap

variable [KeyHash]

theorem keys_mapValues (f : α → β) (map : OrderedMap α) : (map.mapValues f).keys = map.keys := by
  rw [keys_eq_keysOf, keys_eq_keysOf, toList_mapValues]
  exact Slot.keysOf_congr (by simp [Function.comp_def])

/-- A map over the values maps what a look-up finds. -/
theorem Coherent.get?_mapValues
    {map : OrderedMap α}
    (coherent : map.Coherent)
    (f : α → β)
    (key : String) :
    (map.mapValues f).get? key = (map.get? key).map f := by
  rw [(coherent.mapValues f).get?_eq, toList_mapValues, SlotList.get?_map, coherent.get?_eq]

/-- The keys of a merge stand where they occur first. -/
theorem keys_merge (maps : List (OrderedMap α)) :
    (merge maps).keys = (maps.flatMap keys).eraseDups := by
  rw [keys_eq_keysOf, toList_merge_flatMap, SlotList.keysOf_merged, Slot.keysOf,
    List.filterMap_flatMap]
  rfl

/-- Keyed slots only, in a table that grew by its own keys. -/
structure Dictionary (map : OrderedMap α) : Prop where
  grown : map.Grown
  keyed : ∀ slot ∈ map.toList, ∃ key value, slot = .entry key value

theorem dictionary_empty : (empty : OrderedMap α).Dictionary :=
  ⟨grown_empty, fun slot member => by simp [toList_empty] at member⟩

/-- A merge of dictionaries is a dictionary. -/
theorem dictionary_merge
    {maps : List (OrderedMap α)}
    (dictionaries : ∀ map ∈ maps, map.Dictionary) :
    (merge maps).Dictionary := by
  refine ⟨grown_merge maps, ?_⟩
  intro slot member
  rw [toList_merge_flatMap] at member
  cases slot with
  | vacant => cases SlotList.occupied_merged _ member
  | item value =>
      -- An unkeyed value of the merge is one of the inputs.
      have unkeyed := List.mem_filterMap.mpr ⟨_, member, Slot.item?_item value⟩
      rw [SlotList.item?_merged] at unkeyed
      obtain ⟨slot, there, found⟩ := List.mem_filterMap.mp unkeyed
      obtain ⟨map, input, there⟩ := List.mem_flatMap.mp there
      obtain ⟨key, other, rfl⟩ := (dictionaries map input).keyed slot there
      cases found
  | entry key value => exact ⟨key, value, rfl⟩

namespace Dictionary

variable {map : OrderedMap α}

/-- An insertion keeps a dictionary one. -/
theorem insert (dictionary : map.Dictionary) (key : String) (value : α) :
    (map.insert key value).Dictionary := by
  refine ⟨dictionary.grown.insertEntry (some key) value, ?_⟩
  intro slot member
  rw [dictionary.grown.coherent.toList_insert] at member
  rcases SlotList.mem_insert member with rfl | before
  · exact ⟨key, value, rfl⟩
  · exact dictionary.keyed slot before

/-- A map over the values keeps a dictionary one. -/
theorem mapValues (dictionary : map.Dictionary) (f : α → β) : (map.mapValues f).Dictionary := by
  refine ⟨⟨dictionary.grown.coherent.mapValues f, ?_⟩, ?_⟩
  · have keyed : (map.mapValues f).keyed = map.keyed := by
      rw [dictionary.grown.coherent.keyed_eq]
      apply Slot.keyedCount_congr
      simp [toList, Function.comp_def]
    rw [keyed, ← dictionary.grown.order_eq]
    rfl
  · intro slot member
    rw [toList_mapValues] at member
    obtain ⟨before, there, rfl⟩ := List.mem_map.mp member
    obtain ⟨key, value, rfl⟩ := dictionary.keyed before there
    exact ⟨key, f value, rfl⟩

/-- Containers that hold the slots of a dictionary in a row merge to it. -/
theorem merge_eq
    (dictionary : map.Dictionary)
    {maps : List (OrderedMap α)}
    (row : maps.flatMap toList = map.toList) :
    merge maps = map := by
  apply (grown_merge maps).eq_of_toList_eq dictionary.grown
  rw [toList_merge_flatMap, row]
  apply SlotList.foldl_add_of_nodup dictionary.grown.coherent.keys_nodup
  intro slot member
  obtain ⟨key, value, rfl⟩ := dictionary.keyed slot member
  rfl

theorem merge_singleton (dictionary : map.Dictionary) : merge [map] = map :=
  dictionary.merge_eq (List.flatMap_singleton toList map)

end Dictionary
end OrderedMap
end ScriptCore
