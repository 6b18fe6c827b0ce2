import ScriptCore.Proofs.OrderedMap.Keys

/-!
# Values after a change

Where the values of a container come from. A write adds one value at most, and
the operations on whole containers add none. As with the keys, a table that is
out of step with its slots does not matter here.

A container made from a list holds that list: `ofValues` in unkeyed slots, and
`ofPairs` in keyed ones as long as no key is repeated.
-/

namespace ScriptCore

variable {α β : Type}

/-! ## Slot lists -/

namespace Slot

/-- The keyed slot of a pair. -/
def ofPair (pair : String × α) : Slot α :=
  entry pair.1 pair.2

@[simp] theorem key?_ofPair (pair : String × α) : (ofPair pair).key? = some pair.1 := rfl

@[simp] theorem value?_ofPair (pair : String × α) : (ofPair pair).value? = some pair.2 := rfl

@[simp] theorem value?_write (slot : Slot α) (value : α) :
    (slot.write value).value? = some value := by
  cases slot <;> rfl

@[simp] theorem key?_comp_item : key? ∘ (item : α → Slot α) = fun _ => none := rfl

@[simp] theorem value?_comp_item : value? ∘ (item : α → Slot α) = some := rfl

@[simp] theorem key?_comp_ofPair :
    key? ∘ (ofPair : String × α → Slot α) = some ∘ Prod.fst := rfl

@[simp] theorem value?_comp_ofPair :
    value? ∘ (ofPair : String × α → Slot α) = some ∘ Prod.snd := rfl

end Slot

namespace SlotList

/-- An insertion brings in no slot but its own entry. -/
theorem mem_insert {key : String} {value : α} {slots : List (Slot α)} {slot : Slot α}
    (member : slot ∈ insert key value slots) :
    slot = .entry key value ∨ slot ∈ slots := by
  induction slots with
  | nil => simpa [insert] using member
  | cons head slots ih =>
      rw [insert] at member
      split at member
      · rcases List.mem_cons.mp member with same | later
        · exact .inl same
        · exact .inr (List.mem_cons_of_mem head later)
      · rcases List.mem_cons.mp member with same | later
        · exact .inr (same ▸ List.mem_cons_self)
        · exact (ih later).imp_right (List.mem_cons_of_mem head)

/-- A new key goes to the end. -/
theorem insert_of_absent {key : String} {value : α} {slots : List (Slot α)}
    (absent : key ∉ slots.filterMap Slot.key?) :
    insert key value slots = slots ++ [.entry key value] := by
  induction slots with
  | nil => rfl
  | cons slot slots ih =>
      have other : ¬ slot.hasKey key = true := by
        rw [Slot.hasKey_iff]
        intro same
        exact absent (List.mem_filterMap.mpr ⟨slot, List.mem_cons_self, same⟩)
      have later : key ∉ slots.filterMap Slot.key? := by
        intro member
        obtain ⟨found, inside, same⟩ := List.mem_filterMap.mp member
        exact absent (List.mem_filterMap.mpr ⟨found, List.mem_cons_of_mem slot inside, same⟩)
      rw [insert, if_neg other, ih later, List.cons_append]

end SlotList

/-! ## Containers -/

namespace OrderedMap

variable {map : OrderedMap α} {value : α}

/-- The values are those stored in the slots. -/
theorem mem_values_iff :
    value ∈ map.values ↔ ∃ slot ∈ map.toList, slot.value? = some value := by
  rw [values, List.mem_filterMap]

@[simp] theorem toList_empty : (empty : OrderedMap α).toList = [] := rfl

@[simp] theorem values_append (added : α) : (map.append added).values = map.values ++ [added] := by
  simp [values]

/-- What is found at a position is one of the values. -/
theorem mem_values_of_getAt? {index : Nat} (found : map.getAt? index = some value) :
    value ∈ map.values := by
  obtain ⟨slot, there, holds⟩ := Option.bind_eq_some_iff.mp found
  have inside : slot ∈ map.toList := by
    rw [toList, Array.mem_toList_iff]
    exact Array.mem_of_getElem? there
  exact mem_values_iff.mpr ⟨slot, inside, holds⟩

@[simp] theorem toList_ofValues [KeyHash] (values : List α) :
    (ofValues values).toList = values.map Slot.item := by
  have appended (start : OrderedMap α) :
      (values.foldl append start).toList = start.toList ++ values.map Slot.item := by
    induction values generalizing start with
    | nil => simp
    | cons value values ih =>
        rw [List.foldl_cons, ih]
        simp
  simpa [ofValues] using appended empty

section Pairs

variable [KeyHash]

/-- Entries with fresh and different keys are added in order. -/
theorem Coherent.toList_insertPairs
    (coherent : map.Coherent)
    (pairs : List (String × α))
    (fresh : (map.keys ++ pairs.map Prod.fst).Nodup) :
    (pairs.foldl (fun map (key, value) => map.insert key value) map).toList =
      map.toList ++ pairs.map Slot.ofPair := by
  induction pairs generalizing map with
  | nil => simp
  | cons pair pairs ih =>
      obtain ⟨key, value⟩ := pair
      have absent : key ∉ map.toList.filterMap Slot.key? := by
        intro present
        rw [List.nodup_append] at fresh
        exact fresh.2.2 key present key (by simp) rfl
      have inserted : (map.insert key value).toList = map.toList ++ [.entry key value] := by
        rw [coherent.toList_insert, SlotList.insert_of_absent absent]
      have later : ((map.insert key value).keys ++ pairs.map Prod.fst).Nodup := by
        simpa [keys, inserted] using fresh
      rw [List.foldl_cons, ih (coherent.insert key value) later, inserted]
      simp [Slot.ofPair]

/-- Pairs with different keys become entries in the same order. -/
theorem toList_ofPairs {pairs : List (String × α)} (different : (pairs.map Prod.fst).Nodup) :
    (ofPairs pairs).toList = pairs.map Slot.ofPair := by
  have fresh : ((empty : OrderedMap α).keys ++ pairs.map Prod.fst).Nodup := by
    simpa [keys] using different
  simpa [ofPairs] using coherent_empty.toList_insertPairs pairs fresh

/-- What holds of a container and is kept by inserting any of the pairs holds
after all of them are inserted. -/
theorem ofPairs_induction
    {motive : OrderedMap α → Prop}
    (pairs : List (String × α))
    (start : motive empty)
    (step : ∀ map, motive map → ∀ pair ∈ pairs, motive (map.insert pair.1 pair.2)) :
    motive (ofPairs pairs) :=
  List.foldlRecOn pairs _ start step

/-- A container made from pairs is coherent. -/
theorem coherent_ofPairs (pairs : List (String × α)) : (ofPairs pairs).Coherent :=
  ofPairs_induction pairs coherent_empty fun _ coherent pair _ => coherent.insert pair.1 pair.2

/-- Every slot made from pairs holds one of them. -/
theorem mem_toList_ofPairs {pairs : List (String × α)} {slot : Slot α}
    (member : slot ∈ (ofPairs pairs).toList) :
    ∃ pair ∈ pairs, slot = Slot.ofPair pair := by
  have known : ∀ slot ∈ (ofPairs pairs).toList, ∃ pair ∈ pairs, slot = Slot.ofPair pair := by
    refine (ofPairs_induction (motive := fun map => map.Coherent ∧
      ∀ slot ∈ map.toList, ∃ pair ∈ pairs, slot = Slot.ofPair pair) pairs ?_ ?_).2
    · exact ⟨coherent_empty, by simp⟩
    · rintro map ⟨coherent, known⟩ pair inPairs
      refine ⟨coherent.insert pair.1 pair.2, fun slot member => ?_⟩
      rw [coherent.toList_insert] at member
      rcases SlotList.mem_insert member with same | before
      · exact ⟨pair, inPairs, same⟩
      · exact known slot before
  exact known slot member

/-- The container made from pairs holds some of them, under different keys. -/
theorem exists_toList_ofPairs (pairs : List (String × α)) :
    ∃ kept : List (String × α), kept ⊆ pairs ∧ (ofPairs pairs).toList = kept.map Slot.ofPair ∧
      (kept.map Prod.fst).Nodup := by
  have known : ∀ slot ∈ (ofPairs pairs).toList, ∃ pair ∈ pairs, slot = Slot.ofPair pair :=
    fun _ => mem_toList_ofPairs
  have different := (coherent_ofPairs pairs).keys_nodup
  rw [keys] at different
  generalize (ofPairs pairs).toList = slots at known different
  have some_pairs : ∃ kept : List (String × α), kept ⊆ pairs ∧ slots = kept.map Slot.ofPair := by
    clear different
    induction slots with
    | nil => exact ⟨[], by simp, rfl⟩
    | cons slot slots ih =>
        rw [List.forall_mem_cons] at known
        obtain ⟨pair, inside, rfl⟩ := known.1
        obtain ⟨kept, fromPairs, rfl⟩ := ih known.2
        exact ⟨pair :: kept, List.cons_subset.mpr ⟨inside, fromPairs⟩, rfl⟩
  obtain ⟨kept, fromPairs, rfl⟩ := some_pairs
  exact ⟨kept, fromPairs, rfl, by simpa using different⟩

end Pairs

/-! ## A property of every value -/

/-- Every value of a container satisfies a property. -/
def All (property : α → Prop) (map : OrderedMap α) : Prop :=
  ∀ value ∈ map.values, property value

section All

variable {property : α → Prop}

/-- A property holds of all values exactly if it holds of the value in every slot
that has one. -/
theorem all_iff :
    map.All property ↔
      ∀ slot ∈ map.toList, ∀ value, slot.value? = some value → property value := by
  constructor
  · intro all slot inside value holds
    exact all value (mem_values_iff.mpr ⟨slot, inside, holds⟩)
  · intro all value member
    obtain ⟨slot, inside, holds⟩ := mem_values_iff.mp member
    exact all slot inside value holds

@[simp] theorem all_empty : (empty : OrderedMap α).All property := by
  simp [all_iff]

@[simp] theorem all_withOrder (order : Nat) : (withOrder order : OrderedMap α).All property := by
  simp [all_iff, withOrder, toList]

@[simp] theorem all_ofValues [KeyHash] {values : List α} :
    (ofValues values).All property ↔ ∀ value ∈ values, property value := by
  simp [All, OrderedMap.values]

namespace All

/-- A container whose slots are among those of another one. -/
theorem of_subset
    {other : OrderedMap α}
    (all : map.All property)
    (subset : other.toList ⊆ map.toList) :
    other.All property :=
  all_iff.mpr fun slot inside => all_iff.mp all slot (subset inside)

theorem append (all : map.All property) (holds : property value) :
    (map.append value).All property := by
  intro other member
  rw [values_append, List.mem_append, List.mem_singleton] at member
  rcases member with before | rfl
  · exact all other before
  · exact holds

/-- Only the slot at one position changes. -/
theorem of_modify
    {other : OrderedMap α}
    {index : Nat}
    {change : Slot α → Slot α}
    (all : map.All property)
    (slots : other.toList = map.toList.modify index change)
    (changed : ∀ slot value, (change slot).value? = some value → property value) :
    other.All property := by
  rw [all_iff, slots]
  intro slot inside value holds
  obtain ⟨position, there⟩ := List.mem_iff_getElem?.mp inside
  rw [List.getElem?_modify] at there
  obtain ⟨before, atPosition, rfl⟩ := Option.map_eq_some_iff.mp there
  split at holds
  · exact changed before value holds
  · exact all_iff.mp all before (List.mem_of_getElem? atPosition) value holds

theorem setAt (all : map.All property) (index : Nat) (holds : property value) :
    (map.setAt index value).All property := by
  apply all.of_modify (toList_setAt map index value)
  intro slot other written
  rw [Slot.value?_write, Option.some.injEq] at written
  exact written ▸ holds

section

variable [KeyHash]

/-- A map that leads from one property to another leads there for whole
containers. -/
theorem mapValues
    {f : α → β}
    {target : β → Prop}
    (all : map.All property)
    (mapped : ∀ value, property value → target (f value)) :
    (map.mapValues f).All target := by
  rw [all_iff, toList_mapValues]
  intro slot inside value holds
  obtain ⟨before, there, rfl⟩ := List.mem_map.mp inside
  rw [Slot.value?_map] at holds
  obtain ⟨old, found, rfl⟩ := Option.map_eq_some_iff.mp holds
  exact mapped old (all_iff.mp all before there old found)

end

theorem getAt? {index : Nat} (all : map.All property) (found : map.getAt? index = some value) :
    property value :=
  all value (mem_values_of_getAt? found)

/-- A property of all values holds of what a look-up finds, also under a hash that
is not the key's own. -/
theorem getHashed?
    {hash : Nat}
    {key : String}
    (all : map.All property)
    (found : map.getHashed? hash key = some value) :
    property value := by
  obtain ⟨index, -, there⟩ := Option.bind_eq_some_iff.mp found
  exact all.getAt? there

/-- Every value of an entry is a value of the container. -/
theorem entries (all : map.All property) : ∀ entry ∈ map.entries, property entry.2.2 := by
  intro entry member
  obtain ⟨⟨slot, index⟩, inside, found⟩ := List.mem_filterMap.mp member
  obtain ⟨value, holds, rfl⟩ := Option.map_eq_some_iff.mp found
  exact all_iff.mp all slot (List.fst_mem_of_mem_zipIdx inside) value holds

variable [KeyHash]

theorem get? {key : String} (all : map.All property) (found : map.get? key = some value) :
    property value :=
  all.getHashed? found

/-- An insertion keeps a property of all values if the new value has it. -/
theorem insert (all : map.All property) (key : String) (holds : property value) :
    (map.insert key value).All property := by
  rw [insert_eq]
  cases map.keyIndex? key with
  | some index => exact all.setAt index holds
  | none =>
      rw [all_iff, toList_pushEntry]
      intro slot inside other found
      rcases List.mem_append.mp inside with before | added
      · exact all_iff.mp all slot before other found
      · rw [List.mem_singleton] at added
        subst added
        cases found
        exact holds

theorem insertEntry (all : map.All property) (key? : Option String) (holds : property value) :
    (map.insertEntry key? value).All property := by
  cases key? with
  | some key => exact all.insert key holds
  | none => exact all.append holds

/-- A property of the values in pairs holds of all values of their container. -/
theorem ofPairs
    {pairs : List (String × α)}
    (holds : ∀ pair ∈ pairs, property pair.2) :
    (OrderedMap.ofPairs pairs).All property :=
  ofPairs_induction pairs all_empty fun _ all pair member => all.insert pair.1 (holds pair member)

theorem deleteAt (all : map.All property) (index : Nat) : (map.deleteAt index).All property := by
  apply all.of_modify (toList_deleteAt map index)
  intro slot value vacant
  cases vacant

theorem erase (all : map.All property) (key : String) : (map.erase key).All property := by
  rw [erase_eq]
  split
  · exact all.deleteAt _
  · exact all

theorem compact (all : map.All property) : map.compact.All property := by
  unfold OrderedMap.compact
  split
  · exact all
  · apply all.of_subset
    rw [toList_rebuildBuckets, toList, Array.toList_filter]
    exact fun _ inside => List.mem_of_mem_filter inside

theorem reverse (all : map.All property) : map.reverse.All property := by
  apply all.of_subset
  rw [toList_reverse]
  exact List.reverse_subset.mpr (List.Subset.refl _)

/-- A property of all values of two containers holds of all values of both
together. -/
theorem extend
    {other : OrderedMap α}
    (all : map.All property)
    (allOther : other.All property) :
    (map.extend other).All property :=
  List.foldlRecOn other.entries _ all fun _ grown entry member =>
    grown.insertEntry entry.2.1 (allOther.entries entry member)

/-- A property of all values of some containers holds of all values of their
merge. -/
theorem merge
    {maps : List (OrderedMap α)}
    (all : ∀ map ∈ maps, map.All property) :
    (OrderedMap.merge maps).All property :=
  List.foldlRecOn maps _ all_empty fun _ merged map member => merged.extend (all map member)

end All
end All
end OrderedMap
end ScriptCore
