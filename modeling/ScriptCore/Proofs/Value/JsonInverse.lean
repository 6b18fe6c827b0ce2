import ScriptCore.OrderedMap.Spread
import ScriptCore.Proofs.Text.Utf8
import ScriptCore.Proofs.Value.Nested

/-!
# Conversion to JSON and back

Plain data are values whose arrays show in JSON what they are: no slot is
vacant, and either no slot is keyed or every slot is and there is one. Plain
data come back from JSON as they were, down to the bits of a float and the order
of the slots; only the bucket table may differ.

In the other direction a JSON value comes back if its objects have members and
its numbers have values: integers of 64 bits and finite floats. Every other JSON
value becomes such a one by a single conversion.
-/

namespace ScriptCore

/-! ## Plain data -/

namespace Slot

variable {α : Type}

/-- Whether the slot holds a value without a key. -/
def isItem : Slot α → Bool
  | item _ => true
  | _ => false

/-- Whether the slot holds a value under a key. -/
def isEntry : Slot α → Bool
  | entry _ _ => true
  | _ => false

end Slot

namespace SlotList

variable {α : Type} {slots : List (Slot α)}

/-- No slot is keyed, or there are slots and all are, under different keys; none
is vacant. -/
def isUniform (slots : List (Slot α)) : Bool :=
  slots.all Slot.isItem ||
    (!slots.isEmpty && slots.all Slot.isEntry && decide (slots.filterMap Slot.key?).Nodup)

/-- Slots without keys are made from values. -/
theorem eq_map_item (unkeyed : slots.all Slot.isItem = true) :
    ∃ values : List α, slots = values.map Slot.item := by
  induction slots with
  | nil => exact ⟨[], rfl⟩
  | cons slot slots ih =>
      rw [List.all_cons, Bool.and_eq_true] at unkeyed
      obtain ⟨values, rfl⟩ := ih unkeyed.2
      cases slot with
      | item value => exact ⟨value :: values, rfl⟩
      | vacant => cases unkeyed.1
      | entry key value => cases unkeyed.1

/-- Slots with keys are made from pairs. -/
theorem eq_map_ofPair (keyed : slots.all Slot.isEntry = true) :
    ∃ pairs : List (String × α), slots = pairs.map Slot.ofPair := by
  induction slots with
  | nil => exact ⟨[], rfl⟩
  | cons slot slots ih =>
      rw [List.all_cons, Bool.and_eq_true] at keyed
      obtain ⟨pairs, rfl⟩ := ih keyed.2
      cases slot with
      | entry key value => exact ⟨(key, value) :: pairs, rfl⟩
      | vacant => cases keyed.1
      | item value => cases keyed.1

/-- Uniform slots are made from values, or from pairs with different keys. -/
theorem isUniform_cases (uniform : isUniform slots = true) :
    (∃ values : List α, slots = values.map Slot.item) ∨
      ∃ pairs : List (String × α), slots = pairs.map Slot.ofPair ∧
        (pairs.map Prod.fst).Nodup ∧ pairs ≠ [] := by
  simp only [isUniform, Bool.or_eq_true, Bool.and_eq_true, decide_eq_true_eq] at uniform
  rcases uniform with unkeyed | ⟨⟨inhabited, keyed⟩, different⟩
  · exact .inl (eq_map_item unkeyed)
  · obtain ⟨pairs, rfl⟩ := eq_map_ofPair keyed
    refine .inr ⟨pairs, rfl, ?_, ?_⟩
    · simpa using different
    · simpa using inhabited

end SlotList

namespace Value

mutual

/-- Whether a value is plain data, with the floats that are allowed. -/
def isPlain (allowed : Binary64 → Bool) : Value → Bool
  | void => true
  | bool _ => true
  | int _ => true
  | float x => allowed x
  | str bytes => Utf8.isValid bytes
  | array ⟨⟨slots⟩, _, _, _, _⟩ => SlotList.isUniform slots && arePlain allowed slots
  | record _ => false
  | function _ => false
  | resource _ => false
termination_by structural value => value

/-- Whether the values in a slot list are plain data. -/
def arePlain (allowed : Binary64 → Bool) : List (Slot Value) → Bool
  | [] => true
  | .vacant :: slots => arePlain allowed slots
  | .item value :: slots => isPlain allowed value && arePlain allowed slots
  | .entry _ value :: slots => isPlain allowed value && arePlain allowed slots
termination_by structural slots => slots

end

mutual

/-- The same tags, keys and leaves, slot by slot. Floats agree in their bits;
bucket tables play no part. -/
def Same : Value → Value → Prop
  | void, other => other = void
  | bool value, other => other = bool value
  | int n, other => other = int n
  | float x, other => other = float x
  | str bytes, other => other = str bytes
  | array ⟨⟨slots⟩, _, _, _, _⟩, other =>
      ∃ items, other = array items ∧ SameSlots slots items.toList
  | record ⟨className, ⟨⟨slots⟩, _, _, _, _⟩, methods⟩, other =>
      ∃ fields, other = record ⟨className, fields, methods⟩ ∧ SameSlots slots fields.toList
  | function f, other => other = function f
  | resource ref, other => other = resource ref
termination_by structural value => value

/-- Slots of the same kinds in the same order, with the same keys and values. -/
def SameSlots : List (Slot Value) → List (Slot Value) → Prop
  | [], others => others = []
  | .vacant :: slots, others => ∃ rest, others = .vacant :: rest ∧ SameSlots slots rest
  | .item value :: slots, others =>
      ∃ other rest, others = .item other :: rest ∧ Same value other ∧ SameSlots slots rest
  | .entry key value :: slots, others =>
      ∃ other rest, others = .entry key other :: rest ∧ Same value other ∧ SameSlots slots rest
termination_by structural slots => slots

end

variable {allowed : Binary64 → Bool}

theorem arePlain_eq (slots : List (Slot Value)) :
    arePlain allowed slots = (slots.filterMap Slot.value?).all (isPlain allowed) := by
  induction slots with
  | nil => rfl
  | cons slot slots ih =>
      cases slot <;> simp [arePlain, List.filterMap_cons, ih]

/-- An array is plain if its slots are uniform and its elements are plain. -/
theorem isPlain_array (items : OrderedMap Value) :
    (array items).isPlain allowed =
      (SlotList.isUniform items.toList && items.values.all (isPlain allowed)) := by
  obtain ⟨⟨slots⟩, buckets, order, keyed, vacant⟩ := items
  rw [isPlain, arePlain_eq]
  rfl

/-- Two arrays are the same if their slots are, whatever their tables. -/
theorem same_array (left right : OrderedMap Value) :
    Same (array left) (array right) ↔ SameSlots left.toList right.toList := by
  obtain ⟨⟨slots⟩, buckets, order, keyed, vacant⟩ := left
  rw [Same]
  constructor
  · rintro ⟨items, same, slotsSame⟩
    cases same
    exact slotsSame
  · intro slotsSame
    exact ⟨right, rfl, slotsSame⟩

/-- A function that keeps the data of the values in a slot list keeps the data
of the list. -/
theorem sameSlots_map
    (f : Value → Value)
    (slots : List (Slot Value))
    (same : ∀ value ∈ slots.filterMap Slot.value?, Same (f value) value) :
    SameSlots (slots.map (Slot.map f)) slots := by
  induction slots with
  | nil => rfl
  | cons slot slots ih =>
      cases slot with
      | vacant => exact ⟨slots, rfl, ih same⟩
      | item value =>
          rw [List.filterMap_cons_some (Slot.value?_item value), List.forall_mem_cons] at same
          exact ⟨value, slots, rfl, same.1, ih same.2⟩
      | entry key value =>
          rw [List.filterMap_cons_some (Slot.value?_entry key value), List.forall_mem_cons] at same
          exact ⟨value, slots, rfl, same.1, ih same.2⟩

/-! ## From values and back -/

/-- An integer of 64 bits passes the check of its range. -/
theorem checked_of_range {n : Int} (above : -2 ^ 63 ≤ n) (below : n < 2 ^ 63) :
    Numeral.checked n = some n := by
  have least : Int64.minValue.toInt = -2 ^ 63 := by decide
  have greatest : Int64.maxValue.toInt = 2 ^ 63 - 1 := by decide
  have inRange : n ≤ 2 ^ 63 - 1 := by omega
  simp only [Numeral.checked, least, greatest, above, inRange, decide_true, Bool.and_self, if_true]

theorem ofJsonInteger_toInt (n : Int64) : ofJsonInteger n.toInt = int n := by
  simp [ofJsonInteger, checked_of_range n.le_toInt n.toInt_lt]

variable [KeyHash]

/-- A uniform container keeps its slots, each with its value converted. -/
theorem ofJson_toJson_array
    {items : OrderedMap Value}
    (uniform : SlotList.isUniform items.toList = true) :
    ∃ converted, ofJson (array items).toJson = array converted ∧
      converted.toList = items.toList.map (Slot.map fun value => ofJson value.toJson) := by
  rcases SlotList.isUniform_cases uniform with
    ⟨values, slots⟩ | ⟨pairs, slots, different, inhabited⟩
  · refine ⟨_, by rw [toJson_of_items slots, ofJson_array], ?_⟩
    simp [slots, Slot.map, Function.comp_def]
  · refine ⟨_, by rw [toJson_of_pairs slots different inhabited, ofJson_object], ?_⟩
    rw [OrderedMap.toList_ofPairs (by simpa [Function.comp_def] using different), slots]
    simp [Slot.ofPair, Slot.map, Function.comp_def]

/-- Plain data with finite floats come back from JSON. -/
theorem same_ofJson_toJson
    (finite : ∀ x, allowed x = true → x.isFinite = true)
    (value : Value)
    (plain : value.isPlain allowed = true) :
    Same (ofJson value.toJson) value := by
  induction value using nested with
  | step value ih =>
    cases value with
    | void => rfl
    | bool value => rfl
    | int n =>
        rw [toJson, ofJson, ofJsonInteger_toInt]
        rfl
    | float x =>
        rw [toJson, Json.ofFloat, if_pos (finite x plain)]
        rfl
    | str bytes =>
        rw [toJson, ofJson, ofText, Utf8.encode_text plain]
        rfl
    | array items =>
        rw [isPlain_array, Bool.and_eq_true, List.all_eq_true] at plain
        obtain ⟨converted, eq, slots⟩ := ofJson_toJson_array plain.1
        rw [eq, same_array, slots]
        refine sameSlots_map _ _ fun child member => ?_
        exact ih child member (plain.2 child member)
    | record content => cases plain
    | function f => cases plain
    | resource ref => cases plain

end Value

/-! ## From JSON and back -/

namespace Json

mutual

/-- Whether values hold the JSON value as it is: there are no empty objects, the
names in an object differ, integers have 64 bits and floats are finite. -/
def isRepresentable : Json → Bool
  | null => true
  | bool _ => true
  | integer n => decide (-2 ^ 63 ≤ n) && decide (n < 2 ^ 63)
  | float x => x.isFinite
  | string _ => true
  | array items => areRepresentable items
  | object members =>
      !members.isEmpty && decide (members.map Prod.fst).Nodup && membersRepresentable members
termination_by structural json => json

/-- Whether values hold all the items as they are. -/
def areRepresentable : List Json → Bool
  | [] => true
  | item :: items => isRepresentable item && areRepresentable items
termination_by structural items => items

/-- Whether values hold the values of all the members as they are. -/
def membersRepresentable : List (String × Json) → Bool
  | [] => true
  | (_, value) :: members => isRepresentable value && membersRepresentable members
termination_by structural members => members

end

theorem areRepresentable_eq (items : List Json) :
    areRepresentable items = items.all isRepresentable := by
  induction items with
  | nil => rfl
  | cons item items ih => simp [areRepresentable, ih]

theorem membersRepresentable_eq (members : List (String × Json)) :
    membersRepresentable members = (members.map Prod.snd).all isRepresentable := by
  induction members with
  | nil => rfl
  | cons member members ih =>
      simp [membersRepresentable, ih]

theorem isRepresentable_array {items : List Json} :
    (array items).isRepresentable = true ↔ ∀ item ∈ items, item.isRepresentable = true := by
  rw [isRepresentable, areRepresentable_eq, List.all_eq_true]

theorem isRepresentable_object {members : List (String × Json)} :
    (object members).isRepresentable = true ↔
      members ≠ [] ∧ (members.map Prod.fst).Nodup ∧
        ∀ child ∈ members.map Prod.snd, child.isRepresentable = true := by
  rw [isRepresentable, membersRepresentable_eq, Bool.and_eq_true, Bool.and_eq_true,
    List.all_eq_true, decide_eq_true_eq, and_assoc]
  simp

end Json

namespace Value

/-- A number of 64 bits is written as it was read. -/
theorem toJson_ofJsonInteger {n : Int} (above : -2 ^ 63 ≤ n) (below : n < 2 ^ 63) :
    (ofJsonInteger n).toJson = .integer n := by
  simp only [ofJsonInteger, checked_of_range above below, toJson,
    Int64.toInt_ofInt_of_le above below]

section

variable [KeyHash]

/-- A JSON value that values can hold comes back from them. -/
theorem toJson_ofJson (json : Json) (representable : json.isRepresentable = true) :
    (ofJson json).toJson = json := by
  induction json using Json.nested with
  | step json ih =>
    cases json with
    | null => rfl
    | bool value => rfl
    | integer n =>
        rw [Json.isRepresentable, Bool.and_eq_true, decide_eq_true_eq, decide_eq_true_eq]
          at representable
        exact toJson_ofJsonInteger representable.1 representable.2
    | float x =>
        rw [Json.isRepresentable] at representable
        rw [ofJson, toJson, Json.ofFloat, if_pos representable]
    | string text => rw [ofJson, ofText, toJson, Utf8.text_encode]
    | array items =>
        rw [Json.isRepresentable_array] at representable
        have back : ∀ item ∈ items, (ofJson item).toJson = item := fun item member =>
          ih item member (representable item member)
        rw [ofJson_array, toJson_of_items (OrderedMap.toList_ofValues _), List.map_map]
        exact congrArg Json.array ((List.map_congr_left back).trans (List.map_id items))
    | object members =>
        obtain ⟨inhabited, different, representable⟩ :=
          Json.isRepresentable_object.mp representable
        have back : ∀ member ∈ members, (member.1, (ofJson member.2).toJson) = member := by
          intro member inside
          have child := List.mem_map_of_mem (f := Prod.snd) inside
          rw [ih _ child (representable _ child)]
        have keys : ((members.map (Prod.map id ofJson)).map Prod.fst).Nodup := by
          simpa [Function.comp_def] using different
        rw [ofJson_object, toJson_of_pairs (OrderedMap.toList_ofPairs keys) keys
          (by simpa using inhabited), List.map_map]
        exact congrArg Json.object ((List.map_congr_left back).trans (List.map_id members))

omit [KeyHash] in
theorem isRepresentable_ofFloat (x : Binary64) : (Json.ofFloat x).isRepresentable = true := by
  unfold Json.ofFloat
  split
  · next finite => rw [Json.isRepresentable, finite]
  · rfl

/-- What one conversion there and back makes of a JSON value can be held by
values. -/
theorem isRepresentable_toJson_ofJson (json : Json) :
    (ofJson json).toJson.isRepresentable = true := by
  induction json using Json.nested with
  | step json ih =>
    cases json with
    | null => rfl
    | bool value => rfl
    | integer n =>
        rw [ofJson, ofJsonInteger]
        split
        · next n _ =>
          rw [toJson, Json.isRepresentable, Bool.and_eq_true, decide_eq_true_eq,
            decide_eq_true_eq]
          exact ⟨(Int64.ofInt n).le_toInt, (Int64.ofInt n).toInt_lt⟩
        · rw [toJson]
          exact isRepresentable_ofFloat _
    | float x =>
        rw [ofJson, toJson]
        exact isRepresentable_ofFloat x
    | string text => rfl
    | array items =>
        rw [ofJson_array, toJson_of_items (OrderedMap.toList_ofValues _),
          Json.isRepresentable_array]
        intro item member
        rw [List.map_map, List.mem_map] at member
        obtain ⟨child, inside, rfl⟩ := member
        exact ih child inside
    | object members =>
        rw [ofJson_object]
        -- of the members with one name a single one is left
        obtain ⟨kept, fromMembers, slots, different⟩ :=
          OrderedMap.exists_toList_ofPairs (members.map (Prod.map id ofJson))
        by_cases none : kept = []
        · subst none
          have unkeyed : (OrderedMap.ofPairs (members.map (Prod.map id ofJson))).toList =
              ([] : List Value).map Slot.item := slots
          rw [toJson_of_items unkeyed]
          rfl
        · rw [toJson_of_pairs slots different none, Json.isRepresentable_object]
          refine ⟨by simpa using none, by simpa [Function.comp_def] using different, ?_⟩
          intro child member
          rw [List.map_map, List.mem_map] at member
          obtain ⟨pair, inside, rfl⟩ := member
          obtain ⟨origin, inMembers, rfl⟩ := List.mem_map.mp (fromMembers inside)
          exact ih origin.2 (List.mem_map_of_mem inMembers)

/-- Plain data survive the way through JSON, JSON values that values can hold
survive the way through values, and one way there and back brings every JSON
value into a form that a second one leaves alone. -/
theorem json_conversions_inverse :
    (∀ value : Value, value.isPlain Binary64.isFinite = true →
      Same (ofJson value.toJson) value) ∧
    (∀ json : Json, json.isRepresentable = true → (ofJson json).toJson = json) ∧
    ∀ json : Json, (ofJson (ofJson json).toJson).toJson = (ofJson json).toJson := by
  refine ⟨?_, toJson_ofJson, ?_⟩
  · exact same_ofJson_toJson fun x finite => finite
  · intro json
    exact toJson_ofJson _ (isRepresentable_toJson_ofJson json)

end

/-- A keyed array around an empty one and an unkeyed one with extreme leaves. -/
def nestedSample : Value :=
  array (.ofPairs
    [("z", ofList [int Int64.minValue, float ⟨0x8000000000000000⟩, ofText "é\"\\"]),
      ("", ofList [])])

/-- The same as JSON. -/
def nestedSampleJson : Json :=
  .object
    [("z", .array [.integer (-9223372036854775808), .float ⟨0x8000000000000000⟩, .string "é\"\\"]),
      ("", .array [])]

/-- Both directions for arrays within arrays, keyed and unkeyed. -/
theorem nestedSample_json_inverse :
    nestedSample.isPlain Binary64.isFinite = true ∧
      Same (ofJson nestedSample.toJson) nestedSample ∧
      nestedSampleJson.isRepresentable = true ∧
      (ofJson nestedSampleJson).toJson = nestedSampleJson := by
  have plain : nestedSample.isPlain Binary64.isFinite = true := by decide +kernel
  have representable : nestedSampleJson.isRepresentable = true := by decide +kernel
  exact ⟨plain, json_conversions_inverse.1 _ plain, representable,
    json_conversions_inverse.2.1 _ representable⟩

end Value
end ScriptCore
