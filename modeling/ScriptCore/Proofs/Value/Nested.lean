import ScriptCore.Proofs.OrderedMap.Values
import ScriptCore.Value.Json

/-!
# Values and JSON values as trees

The children of a value are the values in its slots. What holds of a value
whenever it holds of its children holds of every value, and the same is true of
JSON values. The conversions between the two trees are written here in terms of
the children, without the recursion over slot lists.
-/

namespace ScriptCore

theorem SlotList.forall_mem_values_cons
    {α : Type}
    {property : α → Prop}
    {slot : Slot α}
    {slots : List (Slot α)} :
    (∀ value ∈ (slot :: slots).filterMap Slot.value?, property value) ↔
      (∀ value ∈ slot.value?, property value) ∧
        ∀ value ∈ slots.filterMap Slot.value?, property value := by
  cases slot <;> simp [List.filterMap_cons]

namespace Value

/-! ## Induction -/

/-- The values in the slots of an array or of a record. -/
def children : Value → List Value
  | array items => items.values
  | record content => content.fields.values
  | _ => []

@[simp] theorem children_array (items : OrderedMap Value) :
    (array items).children = items.values := rfl

mutual

/-- Induction over the children. -/
theorem nested {motive : Value → Prop}
    (step : ∀ value, (∀ child ∈ value.children, motive child) → motive value) :
    ∀ value, motive value
  | array ⟨⟨slots⟩, _, _, _, _⟩ => step _ (nestedSlots step slots)
  | record ⟨_, ⟨⟨slots⟩, _, _, _, _⟩, _⟩ => step _ (nestedSlots step slots)
  | void => step _ fun _ member => nomatch member
  | bool _ => step _ fun _ member => nomatch member
  | int _ => step _ fun _ member => nomatch member
  | float _ => step _ fun _ member => nomatch member
  | str _ => step _ fun _ member => nomatch member
  | function _ => step _ fun _ member => nomatch member
  | resource _ => step _ fun _ member => nomatch member

/-- Induction over the values in slots, next to that over values. -/
theorem nestedSlots {motive : Value → Prop}
    (step : ∀ value, (∀ child ∈ value.children, motive child) → motive value) :
    ∀ slots : List (Slot Value), ∀ child ∈ slots.filterMap Slot.value?, motive child
  | [], _, member => nomatch member
  | .vacant :: slots, child, member => nestedSlots step slots child member
  | .item value :: slots, child, member =>
      match List.mem_cons.mp member with
      | .inl same => same ▸ nested step value
      | .inr later => nestedSlots step slots child later
  | .entry _ value :: slots, child, member =>
      match List.mem_cons.mp member with
      | .inl same => same ▸ nested step value
      | .inr later => nestedSlots step slots child later

end

/-- A property of a value and of every value inside it. -/
inductive Throughout (property : Value → Prop) : Value → Prop
  | intro {value : Value}
      (here : property value)
      (inside : ∀ child ∈ value.children, Throughout property child) :
      Throughout property value

section Throughout

variable {property : Value → Prop} {value : Value}

theorem Throughout.here (throughout : value.Throughout property) : property value := by
  cases throughout with
  | intro here inside => exact here

/-- What holds throughout a value holds throughout its children. -/
theorem Throughout.inside
    (throughout : value.Throughout property) :
    ∀ child ∈ value.children, child.Throughout property := by
  cases throughout with
  | intro here inside => exact inside

theorem throughout_iff :
    value.Throughout property ↔
      property value ∧ ∀ child ∈ value.children, child.Throughout property :=
  ⟨fun throughout => ⟨throughout.here, throughout.inside⟩, fun parts => .intro parts.1 parts.2⟩

/-- Decide a property throughout a value from the decisions for its children. -/
def decideParts [DecidablePred property]
    (inside : Decidable (∀ child ∈ value.children, child.Throughout property)) :
    Decidable (value.Throughout property) :=
  decidable_of_iff _ throughout_iff.symm

/-- Decide a property of a value without children. -/
def decideLeaf [DecidablePred property] (none : value.children = []) :
    Decidable (value.Throughout property) :=
  decideParts (.isTrue (by simp [none]))

mutual

/-- Decide a property of a value and of every value inside it. -/
def decideThroughout [DecidablePred property] : ∀ value, Decidable (Throughout property value)
  | array ⟨⟨slots⟩, _, _, _, _⟩ => decideParts (decideInside slots)
  | record ⟨_, ⟨⟨slots⟩, _, _, _, _⟩, _⟩ => decideParts (decideInside slots)
  | void => decideLeaf rfl
  | bool _ => decideLeaf rfl
  | int _ => decideLeaf rfl
  | float _ => decideLeaf rfl
  | str _ => decideLeaf rfl
  | function _ => decideLeaf rfl
  | resource _ => decideLeaf rfl
termination_by structural value => value

/-- Decide a property throughout the values in a slot list. -/
def decideInside [DecidablePred property] :
    ∀ slots : List (Slot Value),
      Decidable (∀ child ∈ slots.filterMap Slot.value?, Throughout property child)
  | [] => .isTrue fun _ member => nomatch member
  | .vacant :: slots => decideInside slots
  | .item value :: slots =>
      have := decideThroughout value
      have := decideInside slots
      decidable_of_iff _ List.forall_mem_cons.symm
  | .entry _ value :: slots =>
      have := decideThroughout value
      have := decideInside slots
      decidable_of_iff _ List.forall_mem_cons.symm
termination_by structural slots => slots

end

instance [DecidablePred property] : DecidablePred (Throughout property) := decideThroughout

end Throughout

end Value

namespace Json

/-- The items of an array or the values of the members of an object. -/
def children : Json → List Json
  | array items => items
  | object members => members.map Prod.snd
  | _ => []

mutual

/-- Induction over the children. -/
theorem nested {motive : Json → Prop}
    (step : ∀ json, (∀ child ∈ json.children, motive child) → motive json) :
    ∀ json, motive json
  | array items => step _ (nestedItems step items)
  | object members => step _ (nestedMembers step members)
  | null => step _ fun _ member => nomatch member
  | bool _ => step _ fun _ member => nomatch member
  | integer _ => step _ fun _ member => nomatch member
  | float _ => step _ fun _ member => nomatch member
  | string _ => step _ fun _ member => nomatch member

/-- Induction over items, next to that over JSON values. -/
theorem nestedItems {motive : Json → Prop}
    (step : ∀ json, (∀ child ∈ json.children, motive child) → motive json) :
    ∀ items : List Json, ∀ child ∈ items, motive child
  | [], _, member => nomatch member
  | item :: items, child, member =>
      match List.mem_cons.mp member with
      | .inl same => same ▸ nested step item
      | .inr later => nestedItems step items child later

/-- Induction over members, next to that over JSON values. -/
theorem nestedMembers {motive : Json → Prop}
    (step : ∀ json, (∀ child ∈ json.children, motive child) → motive json) :
    ∀ members : List (String × Json), ∀ child ∈ members.map Prod.snd, motive child
  | [], _, member => nomatch member
  | (_, value) :: members, child, member =>
      match List.mem_cons.mp member with
      | .inl same => same ▸ nested step value
      | .inr later => nestedMembers step members child later

end

end Json

/-! ## Conversions -/

namespace Value

/-- The items of an array without keys are its elements, converted one by one. -/
theorem jsonItems_eq (slots : List (Slot Value)) :
    jsonItems slots = (slots.filterMap Slot.value?).map toJson := by
  induction slots with
  | nil => rfl
  | cons slot slots ih =>
      cases slot <;> simp [jsonItems, List.filterMap_cons, ih]

/-- An array is written as an array if it has no keys and as an object
otherwise. -/
theorem toJson_array (items : OrderedMap Value) :
    (array items).toJson =
      if items.keys.isEmpty then .array (items.values.map toJson)
      else .object (jsonMembers items.keys 0 [] items.toList) := by
  obtain ⟨⟨slots⟩, buckets, order, keyed, vacant⟩ := items
  rw [toJson, jsonItems_eq]
  rfl

section

variable [KeyHash]

theorem ofJsonItems_eq (items : List Json) : ofJsonItems items = items.map ofJson := by
  induction items with
  | nil => rfl
  | cons item items ih => simp [ofJsonItems, ih]

theorem ofJsonMembers_eq (members : List (String × Json)) :
    ofJsonMembers members = members.map (Prod.map id ofJson) := by
  induction members with
  | nil => rfl
  | cons member members ih =>
      obtain ⟨name, value⟩ := member
      simp [ofJsonMembers, ih]

/-- An array is read item by item. -/
theorem ofJson_array (items : List Json) :
    ofJson (.array items) = array (.ofValues (items.map ofJson)) := by
  rw [ofJson, ofJsonItems_eq]

theorem ofJson_object (members : List (String × Json)) :
    ofJson (.object members) = array (.ofPairs (members.map (Prod.map id ofJson))) := by
  rw [ofJson, ofJsonMembers_eq]

end

/-- Keyed slots with fresh and different keys become members under those
keys. -/
theorem jsonMembers_ofPair
    (keys : List String)
    (index : Nat)
    (members : List (String × Json))
    (pairs : List (String × Value))
    (fresh : (members.map Prod.fst ++ pairs.map Prod.fst).Nodup) :
    jsonMembers keys index members (pairs.map Slot.ofPair) =
      members ++ pairs.map (Prod.map id toJson) := by
  induction pairs generalizing index members with
  | nil => simp [jsonMembers]
  | cons pair pairs ih =>
      obtain ⟨key, value⟩ := pair
      have absent : key ∉ members.map Prod.fst := by
        intro present
        rw [List.nodup_append] at fresh
        exact fresh.2.2 key present key (by simp) rfl
      rw [List.map_cons, Slot.ofPair, jsonMembers, Json.insertMember_of_absent absent,
        ih]
      · simp
      · simpa using fresh

/-- A container without keys becomes a JSON array of its values. -/
theorem toJson_of_items {items : OrderedMap Value} {values : List Value}
    (slots : items.toList = values.map Slot.item) :
    (array items).toJson = .array (values.map toJson) := by
  simp [toJson_array, OrderedMap.keys, OrderedMap.values, slots]

/-- A container of keyed slots becomes a JSON object with the same keys. -/
theorem toJson_of_pairs {items : OrderedMap Value} {pairs : List (String × Value)}
    (slots : items.toList = pairs.map Slot.ofPair)
    (different : (pairs.map Prod.fst).Nodup)
    (some_pair : pairs ≠ []) :
    (array items).toJson = .object (pairs.map (Prod.map id toJson)) := by
  have keyed : ¬ items.keys.isEmpty = true := by
    simp [OrderedMap.keys, slots, some_pair]
  rw [toJson_array, if_neg keyed, slots, jsonMembers_ofPair _ _ _ _ (by simpa using different)]
  rfl

end Value
end ScriptCore
