import ScriptCore.OrderedMap.Spread
import ScriptCore.Proofs.Engine.CallerSlots
import ScriptCore.Proofs.Library.Visits
import ScriptCore.Proofs.OrderedMap.Compaction
import ScriptCore.Proofs.Text.Utf8

/-!
# Addresses of array elements

An occupied slot of an array has one or two addresses: the integer of its position
and, if it is keyed, the string of its key. All array natives mean the same slot by
an address, so what is removed by one address is gone under the other, and every
other address is left alone.

A slot is named by an address without the bucket table. That the table leads to the
named slot, and to no other, is the one place where coherence is used.
-/

namespace ScriptCore

/-! ## Removing a slot -/

namespace SlotList

variable {α : Type}

/-- A slot made vacant takes its value out of the values; its place there is the
number of occupied slots before it. -/
theorem filterMap_value?_vacate {slots : List (Slot α)} {position : Nat} {slot : Slot α} {value : α}
    (there : slots[position]? = some slot) (holds : slot.value? = some value) :
    (slots.filterMap Slot.value?)[rank slots position]? = some value ∧
      (slots.modify position fun _ => .vacant).filterMap Slot.value? =
        (slots.filterMap Slot.value?).eraseIdx (rank slots position) := by
  induction slots generalizing position with
  | nil => cases there
  | cons head tail ih =>
      cases position with
      | zero =>
          cases there
          simp [rank, List.filterMap_cons, holds]
      | succ position =>
          have later := ih there
          cases head <;> simpa [rank, List.filterMap_cons] using later

end SlotList

namespace OrderedMap

variable {α : Type} {items : OrderedMap α}

theorem getElem?_toList_deleteAt [KeyHash] (position place : Nat) :
    (items.deleteAt position).toList[place]? =
      if position = place then items.toList[place]?.map fun _ => .vacant
      else items.toList[place]? := by
  rw [toList_deleteAt, List.getElem?_modify]
  split_ifs <;> simp

theorem getAt?_deleteAt [KeyHash] {position place : Nat} (different : position ≠ place) :
    (items.deleteAt position).getAt? place = items.getAt? place := by
  rw [getAt?_eq, getAt?_eq, SlotList.getAt?, SlotList.getAt?, getElem?_toList_deleteAt,
    if_neg different]

/-- There is an element at a position exactly if its slot is occupied. -/
theorem isSome_getAt?_iff {position : Nat} :
    (items.getAt? position).isSome = true ↔
      ∃ slot, items.toList[position]? = some slot ∧ slot.isVacant = false := by
  rw [getAt?_eq, SlotList.getAt?]
  cases items.toList[position]? with
  | none => simp
  | some slot => cases slot <;> simp

namespace Coherent

variable [KeyHash]

/-- A deletion of an element lowers the count by one. -/
theorem liveCount_deleteAt (coherent : items.Coherent) {position : Nat} {slot : Slot α}
    (there : items.toList[position]? = some slot) (occupied : slot.isVacant = false) :
    (items.deleteAt position).liveCount + 1 = items.liveCount := by
  have counts := Slot.countP_modify (fun slot => !slot.isVacant) (fun _ => .vacant) there
  rw [(coherent.deleteAt position).liveCount_eq, coherent.liveCount_eq, toList_deleteAt]
  simpa [occupied] using counts

theorem values_compact (coherent : items.Coherent) : items.compact.values = items.values := by
  rw [values, values, coherent.toList_compact, List.filterMap_filter]
  congr 1
  funext slot
  cases slot <;> rfl

/-- A key is found where its slot is. -/
theorem keyIndex?_eq_some_iff (coherent : items.Coherent) {key : String} {position : Nat} :
    items.keyIndex? key = some position ↔
      ∃ slot, items.toList[position]? = some slot ∧ slot.key? = some key := by
  constructor
  · exact key_of_keyIndex?
  · rintro ⟨slot, there, keyed⟩
    have present : key ∈ items.keys :=
      mem_keys_iff.mpr ⟨slot, List.mem_of_getElem? there, keyed⟩
    cases found : items.keyIndex? key with
    | none => exact absurd present ((coherent.keyIndex?_eq_none_iff key).mp found)
    | some place =>
        obtain ⟨other, otherThere, otherKeyed⟩ := key_of_keyIndex? found
        rw [Slot.position_unique coherent.keys_nodup otherThere there otherKeyed keyed]

end Coherent
end OrderedMap

/-! ## Slots and their addresses -/

namespace Address

variable {items : OrderedMap Value} {address : Value} {position place : Nat}

/-- The value names an occupied slot: an integer the position of the slot, a string
its key. -/
def Names (position : Nat) (slot : Slot Value) : Value → Prop
  | .int n => n.toInt = position ∧ slot.isVacant = false
  | .str bytes => slot.key? = some (Utf8.text bytes)
  | _ => False

/-- An address names occupied slots only. -/
theorem Names.occupied {slot : Slot Value} (names : Names position slot address) :
    slot.isVacant = false := by
  cases address with
  | int n => exact names.2
  | str bytes =>
      cases slot with
      | vacant => cases names
      | item value => rfl
      | entry key value => rfl
  | void | bool | float | array | record | function | resource => cases names

/-- The value denotes the occupied slot at the position. -/
def Denotes (items : OrderedMap Value) (address : Value) (position : Nat) : Prop :=
  ∃ slot, items.toList[position]? = some slot ∧ Names position slot address

/-- What an address denotes is an occupied slot. -/
theorem Denotes.exists_occupied (denotes : Denotes items address position) :
    ∃ slot, items.toList[position]? = some slot ∧ slot.isVacant = false := by
  obtain ⟨slot, there, names⟩ := denotes
  exact ⟨slot, there, names.occupied⟩

variable [KeyHash]

/-- An address leads to the slot that it denotes, and to none if it denotes
none. -/
theorem position?_eq_some_iff (coherent : items.Coherent) :
    (ofValue address).position? items = some position ↔ Denotes items address position := by
  cases address with
  | int n =>
      rw [ofValue]
      split_ifs with nonnegative
      · rw [position?]
        constructor
        · intro found
          split_ifs at found with live
          cases found
          obtain ⟨slot, there, occupied⟩ := OrderedMap.isSome_getAt?_iff.mp live
          exact ⟨slot, there, by omega, occupied⟩
        · rintro ⟨slot, there, same, occupied⟩
          have place : n.toInt.toNat = position := by omega
          rw [place, if_pos (OrderedMap.isSome_getAt?_iff.mpr ⟨slot, there, occupied⟩)]
      · constructor
        · intro found
          cases found
        · rintro ⟨slot, there, same, occupied⟩
          omega
  | str bytes => exact coherent.keyIndex?_eq_some_iff
  | void | bool | float | array | record | function | resource =>
      constructor
      · intro found
        cases found
      · rintro ⟨slot, there, names⟩
        cases names

theorem position?_eq_none_iff (coherent : items.Coherent) :
    (ofValue address).position? items = none ↔ ∀ position, ¬ Denotes items address position := by
  rw [Option.eq_none_iff_forall_not_mem]
  exact forall_congr' fun position => not_congr (position?_eq_some_iff coherent)

/-- Removing a slot takes its addresses away and no others. -/
theorem denotes_deleteAt :
    Denotes (items.deleteAt position) address place ↔
      Denotes items address place ∧ position ≠ place := by
  rw [Denotes, OrderedMap.getElem?_toList_deleteAt]
  split_ifs with same
  · constructor
    · rintro ⟨slot, there, names⟩
      obtain ⟨former, _, rfl⟩ := Option.map_eq_some_iff.mp there
      cases names.occupied
    · rintro ⟨_, different⟩
      exact absurd same different
  · exact (and_iff_left same).symm

end Address

namespace ArrayLibrary

open Address

variable {items : OrderedMap Value} {address : Value} {position : Nat}

variable [KeyHash]

/-- A look-up reads the element at the position that the address leads to, or
void. -/
theorem get_eq (items : OrderedMap Value) (address : Address) :
    get items address = ((address.position? items).bind items.getAt?).getD .void := by
  cases address with
  | index place =>
      rw [get, OrderedMap.valueAt, position?]
      cases found : items.getAt? place <;> simp [found]
  | key text => rfl
  | invalid => rfl

theorem get_of_denotes (coherent : items.Coherent) (denotes : Denotes items address position) :
    get items (ofValue address) = items.valueAt position := by
  rw [get_eq, (position?_eq_some_iff coherent).mpr denotes]
  rfl

/-- After a deletion its address gives void. -/
theorem get_deleteAt_of_denotes (coherent : items.Coherent)
    (denotes : Denotes items address position) :
    get (items.deleteAt position) (ofValue address) = .void := by
  have gone : (ofValue address).position? (items.deleteAt position) = none := by
    rw [position?_eq_none_iff (coherent.deleteAt position)]
    intro place still
    obtain ⟨former, different⟩ := denotes_deleteAt.mp still
    rw [← position?_eq_some_iff coherent] at former denotes
    rw [denotes] at former
    cases former
    exact different rfl
  rw [get_eq, gone]
  rfl

/-- A deletion has no effect on addresses of other positions. -/
theorem get_deleteAt_of_not_denotes (coherent : items.Coherent)
    (apart : ¬ Denotes items address position) :
    get (items.deleteAt position) (ofValue address) = get items (ofValue address) := by
  have same : (ofValue address).position? (items.deleteAt position) =
      (ofValue address).position? items := by
    ext place
    rw [position?_eq_some_iff (coherent.deleteAt position), position?_eq_some_iff coherent,
      denotes_deleteAt, and_iff_left_iff_imp]
    rintro denotes rfl
    exact apart denotes
  rw [get_eq, get_eq, same]
  cases found : (ofValue address).position? items with
  | none => rfl
  | some place =>
      have different : position ≠ place := by
        rintro rfl
        exact apart ((position?_eq_some_iff coherent).mp found)
      rw [Option.bind_some, Option.bind_some, OrderedMap.getAt?_deleteAt different]

/-! ## Keys and values -/

/-- The address of an entry: its key, or else its position. -/
def addressOf (entry : Nat × Option String × Value) : Value :=
  entry.2.1.elim (.ofNat entry.1) .ofText

omit [KeyHash] in
theorem addresses_eq (items : OrderedMap Value) :
    addresses items = items.entries.map addressOf := by
  refine List.map_congr_left fun entry _ => ?_
  obtain ⟨place, key?, value⟩ := entry
  cases key? <;> rfl

omit [KeyHash] in
/-- The entries hold the values, in order. -/
theorem map_value_entries (items : OrderedMap Value) :
    items.entries.map (fun entry => entry.2.2) = items.values := by
  rw [OrderedMap.entries_eq_entriesFrom, SlotList.map_value_entriesFrom]
  rfl

omit [KeyHash] in
/-- An entry has the key and the value of the slot at its position. -/
theorem exists_slot_of_mem_entries {entry : Nat × Option String × Value}
    (member : entry ∈ items.entries) :
    ∃ slot, items.toList[entry.1]? = some slot ∧ slot.key? = entry.2.1 ∧
      slot.value? = some entry.2.2 := by
  obtain ⟨⟨slot, place⟩, indexed, same⟩ := List.mem_filterMap.mp member
  obtain ⟨value, holds, rfl⟩ := Option.map_eq_some_iff.mp same
  exact ⟨slot, List.mk_mem_zipIdx_iff_getElem?.mp indexed, rfl, holds⟩

omit [KeyHash] in
/-- The address of an entry denotes its position. -/
theorem denotes_addressOf (short : items.size < 2 ^ 63) {entry : Nat × Option String × Value}
    (member : entry ∈ items.entries) :
    Denotes items (addressOf entry) entry.1 ∧ items.valueAt entry.1 = entry.2.2 := by
  obtain ⟨slot, there, keyed, holds⟩ := exists_slot_of_mem_entries member
  obtain ⟨place, key?, value⟩ := entry
  refine ⟨⟨slot, there, ?_⟩, ?_⟩
  · cases key? with
    | none =>
        have inside : place < items.size := by
          rw [OrderedMap.size_eq_length]
          exact (List.getElem?_eq_some_iff.mp there).1
        refine ⟨Int64.toInt_ofNat_of_lt (by omega), ?_⟩
        cases slot with
        | vacant => cases holds
        | item => rfl
        | entry => rfl
    | some key => exact keyed.trans (congrArg some (Utf8.text_encode key).symm)
  · rw [OrderedMap.valueAt, OrderedMap.getAt?_eq, SlotList.getAt?, there]
    exact congrArg (Option.getD · Value.void) holds

/-- A look-up at each address gives the values, in order. -/
theorem get_addresses (coherent : items.Coherent) (short : items.size < 2 ^ 63) :
    List.Forall₂ (fun key value => get items (ofValue key) = value) (addresses items)
      items.values := by
  rw [addresses_eq, ← map_value_entries, List.forall₂_map_left_iff, List.forall₂_map_right_iff,
    List.forall₂_same]
  intro entry member
  obtain ⟨denotes, holds⟩ := denotes_addressOf short member
  rw [get_of_denotes coherent denotes, holds]

theorem length_entries (coherent : items.Coherent) : items.entries.length = items.liveCount := by
  rw [OrderedMap.entries_eq_entriesFrom, coherent.liveCount_eq, List.countP_eq_length_filter,
    ← SlotList.map_ofEntry_entriesFrom 0, List.length_map]

end ArrayLibrary

/-! ## The natives -/

namespace Library

open Engine Address

section

variable [KeyHash]

/-- On these arguments the native returns the value. Apart from the argument slots,
which it may empty, the effect is all it does to the engine. -/
def Answers (dispatch : Dispatcher) (function : LibraryFunction) (args : List Value)
    (value : Value) (effect : Engine → Engine) : Prop :=
  ∀ engine surplus, ∃ left, exec dispatch function (withOtherSlots (args ++ surplus) engine) =
    (.ok value, withOtherSlots left (effect engine))

section Answers

variable {items : OrderedMap Value} {address : Value} (dispatch : Dispatcher)

theorem answers_arrayGet :
    Answers dispatch .arrayGet [.array items, address]
      (ArrayLibrary.get items (ofValue address)) id :=
  fun _ _ => ⟨_, rfl⟩

theorem answers_arraySize :
    Answers dispatch .arraySize [.array items] (.ofNat items.liveCount) id :=
  fun _ _ => ⟨_, rfl⟩

/-- The array is taken from its slot. -/
theorem exec_arrayDel (surplus : List Value) (engine : Engine) :
    exec dispatch .arrayDel (withOtherSlots (.array items :: address :: surplus) engine) =
      ((ArrayLibrary.delete? items (ofValue address)).elim
        (liftM (nonfatal "array_del: no such element" (.array items)) : Run Value)
        fun remaining => pure (.array remaining))
      (withOtherSlots (.void :: address :: surplus) engine) := by
  have read : arg .fallBack 1 (withOtherSlots (.array items :: address :: surplus) engine) =
    (.ok address, withOtherSlots (.array items :: address :: surplus) engine) := rfl
  have taken : takeArg .fallBack 0 (withOtherSlots (.array items :: address :: surplus) engine) =
    (.ok (.array items), withOtherSlots (.void :: address :: surplus) engine) := rfl
  change arrayDel .fallBack (withOtherSlots (.array items :: address :: surplus) engine) = _
  rw [arrayDel, Run.bind_ok read, changeArray, Run.bind_ok taken]
  dsimp only
  cases ArrayLibrary.delete? items (ofValue address) <;> rfl

theorem answers_arrayDel_of_denotes (coherent : items.Coherent) {position : Nat}
    (denotes : Denotes items address position) :
    Answers dispatch .arrayDel [.array items, address] (.array (items.deleteAt position)) id := by
  intro engine surplus
  refine ⟨.void :: address :: surplus, (exec_arrayDel dispatch surplus engine).trans ?_⟩
  rw [ArrayLibrary.delete?, (position?_eq_some_iff coherent).mpr denotes]
  rfl

omit [KeyHash] in
theorem report_withOtherSlots (message : String) (slots : List Value) (engine : Engine) :
    (withOtherSlots slots engine).report message =
      withOtherSlots slots (engine.report message) := by
  simp only [report, withOtherSlots]

/-- The native for a deletion answers with the same array and reports the miss. -/
theorem answers_arrayDel_of_not_denotes (coherent : items.Coherent)
    (apart : ∀ position, ¬ Denotes items address position) :
    Answers dispatch .arrayDel [.array items, address] (.array items)
      (Engine.report "array_del: no such element") := by
  intro engine surplus
  refine ⟨.void :: address :: surplus, (exec_arrayDel dispatch surplus engine).trans ?_⟩
  rw [ArrayLibrary.delete?, (position?_eq_none_iff coherent).mpr apart, ← report_withOtherSlots]
  rfl

end Answers

/-- What the natives tell of an array and of what remains of it when the slot at a
position is removed. -/
structure Removal (dispatch : Dispatcher) (items remaining : OrderedMap Value)
    (position : Nat) : Prop where
  /-- Under each of its addresses the slot is gone. -/
  gone : ∀ address, Denotes items address position →
    Answers dispatch .arrayGet [.array remaining, address] .void id
  /-- Every other address has what it had. -/
  kept : ∀ address, ¬ Denotes items address position → ∃ value,
    Answers dispatch .arrayGet [.array items, address] value id ∧
      Answers dispatch .arrayGet [.array remaining, address] value id
  /-- There is one element less. -/
  size : ∃ count, Answers dispatch .arraySize [.array remaining] (.ofNat count) id ∧
    count + 1 = items.liveCount
  /-- Compaction has the values without the removed one, which was the value at every
  address of the slot. -/
  compacted : ∃ compacted removed,
    Answers dispatch .arrayCompact [.array remaining] (.array compacted) id ∧
      compacted.values = items.values.eraseIdx (items.rank position) ∧
      items.values[items.rank position]? = some removed ∧
      ∀ address, Denotes items address position →
        Answers dispatch .arrayGet [.array items, address] removed id

/-- A deletion of an element has all the properties of a removal. -/
theorem removal_deleteAt (dispatch : Dispatcher) {items : OrderedMap Value}
    (coherent : items.Coherent) {position : Nat} {slot : Slot Value}
    (there : items.toList[position]? = some slot) (occupied : slot.isVacant = false) :
    Removal dispatch items (items.deleteAt position) position where
  gone := by
    intro address denotes
    rw [← ArrayLibrary.get_deleteAt_of_denotes coherent denotes]
    exact answers_arrayGet dispatch
  kept := by
    intro address apart
    refine ⟨_, answers_arrayGet dispatch, ?_⟩
    rw [← ArrayLibrary.get_deleteAt_of_not_denotes coherent apart]
    exact answers_arrayGet dispatch
  size := ⟨_, answers_arraySize dispatch, coherent.liveCount_deleteAt there occupied⟩
  compacted := by
    obtain ⟨removed, holds⟩ : ∃ removed, slot.value? = some removed := by
      cases slot with
      | vacant => cases occupied
      | item value => exact ⟨value, rfl⟩
      | entry key value => exact ⟨value, rfl⟩
    obtain ⟨stands, erased⟩ := SlotList.filterMap_value?_vacate there holds
    refine ⟨(items.deleteAt position).compact, removed, fun _ _ => ⟨_, rfl⟩, ?_, stands, ?_⟩
    · rw [(coherent.deleteAt position).values_compact, OrderedMap.values,
        OrderedMap.toList_deleteAt]
      exact erased
    · intro address denotes
      have found : ArrayLibrary.get items (ofValue address) = removed := by
        rw [ArrayLibrary.get_of_denotes coherent denotes, OrderedMap.valueAt,
          OrderedMap.getAt?_eq, SlotList.getAt?, there]
        exact congrArg (Option.getD · Value.void) holds
      rw [← found]
      exact answers_arrayGet dispatch

/-- Keys and values of an array are as many as its elements, and the value at a key
is the value that stands opposite, provided every position is an integer. Removing at
any address either removes the occupied slot that the address denotes, or, if it
denotes none, changes nothing and adds one report. -/
theorem array_natives_address_the_same_slots (dispatch : Dispatcher) (history : History Value) :
    let items := history.build
    (∃ keys values : List Value,
      Answers dispatch .arrayKeys [.array items] (.ofList keys) id ∧
      Answers dispatch .arrayValues [.array items] (.ofList values) id ∧
      Answers dispatch .arraySize [.array items] (.ofNat items.liveCount) id ∧
      keys.length = items.liveCount ∧ values.length = items.liveCount ∧
      (items.size < 2 ^ 63 → List.Forall₂
        (fun key value => Answers dispatch .arrayGet [.array items, key] value id) keys values)) ∧
    ∀ address,
      (∃ position remaining, Denotes items address position ∧
        Answers dispatch .arrayDel [.array items, address] (.array remaining) id ∧
        Removal dispatch items remaining position) ∨
      (∀ position, ¬ Denotes items address position) ∧
        Answers dispatch .arrayDel [.array items, address] (.array items)
          (Engine.report "array_del: no such element") := by
  intro items
  have coherent : items.Coherent := history.coherent_build
  constructor
  · have entryCount := ArrayLibrary.length_entries coherent
    refine ⟨ArrayLibrary.addresses items, items.values, fun _ _ => ⟨_, rfl⟩, fun _ _ => ⟨_, rfl⟩,
      answers_arraySize dispatch, ?_, ?_, ?_⟩
    · rw [ArrayLibrary.addresses_eq, List.length_map, entryCount]
    · rw [← ArrayLibrary.map_value_entries, List.length_map, entryCount]
    · intro short
      refine (ArrayLibrary.get_addresses coherent short).imp fun key value found => ?_
      rw [← found]
      exact answers_arrayGet dispatch
  · intro address
    by_cases live : ∃ position, Denotes items address position
    · obtain ⟨position, denotes⟩ := live
      obtain ⟨slot, there, occupied⟩ := denotes.exists_occupied
      exact .inl ⟨position, items.deleteAt position, denotes,
        answers_arrayDel_of_denotes dispatch coherent denotes,
        removal_deleteAt dispatch coherent there occupied⟩
    · rw [not_exists] at live
      exact .inr ⟨live, answers_arrayDel_of_not_denotes dispatch coherent live⟩

end

/-- Two keyed elements around an unkeyed one, after a vacant slot. -/
def addressSample : History Value :=
  ((((History.empty.append .void).insert "a" (.int 5)).append (.bool true)).insert "b"
    .void).deleteAt 0

/-- In an array with a vacant slot, the listed keys lead to the listed values. -/
theorem addressSample_is_addressed :
    addressSample.build.size < 2 ^ 63 ∧ ∃ keys values : List Value,
      Answers (Engine.dispatch 1) .arrayKeys [.array addressSample.build] (.ofList keys) id ∧
      Answers (Engine.dispatch 1) .arrayValues [.array addressSample.build] (.ofList values) id ∧
      List.Forall₂
        (fun key value =>
          Answers (Engine.dispatch 1) .arrayGet [.array addressSample.build, key] value id)
        keys values := by
  have short : addressSample.build.size < 2 ^ 63 := by decide
  obtain ⟨keys, values, keysAnswer, valuesAnswer, _, _, _, opposite⟩ :=
    (array_natives_address_the_same_slots (Engine.dispatch 1) addressSample).1
  exact ⟨short, keys, values, keysAnswer, valuesAnswer, opposite short⟩

end Library
end ScriptCore
