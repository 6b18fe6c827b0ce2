import ScriptCore.OrderedMap.Spread
import ScriptCore.Proofs.OrderedMap.Coherence
import ScriptCore.Proofs.OrderedMap.SlotList
import ScriptCore.Proofs.Value.JsonInverse
import ScriptCore.Proofs.Value.Ordering
import ScriptCore.Record.Basic

/-!
# Strict equality

Strict equality is a partial equivalence: it is symmetric and transitive, and a
value equals itself exactly if there is no NaN in it. It is finer than equality
after conversion: what it finds equal, comparison finds equal in both directions.

All of this follows from one description of what strict equality asks of two
values, `Matches`, by induction over the children of the left one. A copy cannot
be told from its original by strict equality, and is its original where the
containers are coherent: the bucket tables that copying builds anew are those
that were there.
-/

namespace ScriptCore

/-! ## Slots -/

/-- Slots of one kind, with the same key and related values. -/
inductive Slot.Alike {α : Type} (related : α → α → Prop) : Slot α → Slot α → Prop
  | vacant : Alike related .vacant .vacant
  | item {left right : α} (values : related left right) :
      Alike related (.item left) (.item right)
  | entry {key : String} {left right : α} (values : related left right) :
      Alike related (.entry key left) (.entry key right)

namespace SlotList

variable {α : Type} {related : α → α → Prop} {equal : α → α → Bool}
  {left middle right : List (Slot α)}

/-- Slots are alike, position by position. -/
abbrev Alike (related : α → α → Prop) (left right : List (Slot α)) : Prop :=
  List.Forall₂ (Slot.Alike related) left right

/-- Slots are the same under a test exactly if they are alike under its
relation. -/
theorem same_iff :
    same equal left right = true ↔ Alike (fun l r => equal l r = true) left right := by
  constructor
  · intro equals
    fun_induction same equal left right with
    | case1 => exact .nil
    | case2 left right ih => exact .cons .vacant (ih equals)
    | case3 l left r right ih =>
        rw [Bool.and_eq_true] at equals
        exact .cons (.item equals.1) (ih equals.2)
    | case4 leftKey l left rightKey r right ih =>
        simp only [Bool.and_eq_true, beq_iff_eq] at equals
        obtain ⟨⟨rfl, values⟩, later⟩ := equals
        exact .cons (.entry values) (ih later)
    | case5 => cases equals
  · intro alike
    induction alike with
    | nil => rfl
    | cons slots later ih =>
        cases slots with
        | vacant => exact ih
        | item values => simp [same, values, ih]
        | entry values => simp [same, values, ih]

/-- Slots are alike to themselves exactly if each of their values is related to
itself. -/
theorem alike_self :
    Alike related left left ↔ ∀ value ∈ left.filterMap Slot.value?, related value value := by
  refine List.forall₂_same.trans ⟨?_, ?_⟩
  · intro alike value member
    obtain ⟨slot, inside, holds⟩ := List.mem_filterMap.mp member
    cases alike slot inside with
    | vacant => cases holds
    | item values => cases holds; exact values
    | entry values => cases holds; exact values
  · intro reflexive slot inside
    have here (value : α) (holds : slot.value? = some value) : related value value :=
      reflexive value (List.mem_filterMap.mpr ⟨slot, inside, holds⟩)
    cases slot with
    | vacant => exact .vacant
    | item value => exact .item (here value rfl)
    | entry key value => exact .entry (here value rfl)

/-- A function that keeps the values in a slot list keeps the list. -/
theorem map_eq_self
    {f : α → α}
    (fixed : ∀ value ∈ left.filterMap Slot.value?, f value = value) :
    left.map (Slot.map f) = left := by
  induction left with
  | nil => rfl
  | cons slot slots ih =>
      rw [forall_mem_values_cons] at fixed
      rw [List.map_cons, ih fixed.2]
      cases slot with
      | vacant => rfl
      | item value => rw [Slot.map, fixed.1 value rfl]
      | entry key value => rw [Slot.map, fixed.1 value rfl]

/-- Slots are alike in both directions if the relation is symmetric on their
values. -/
theorem Alike.symm
    (alike : Alike related left right)
    (symmetric : ∀ value ∈ left.filterMap Slot.value?, ∀ other, related value other →
      related other value) :
    Alike related right left := by
  induction alike with
  | nil => exact .nil
  | cons slots later ih =>
      rw [forall_mem_values_cons] at symmetric
      refine .cons ?_ (ih symmetric.2)
      cases slots with
      | vacant => exact .vacant
      | item values => exact .item (symmetric.1 _ rfl _ values)
      | entry values => exact .entry (symmetric.1 _ rfl _ values)

/-- Slots are alike by way of others if the relation is transitive on their
values. -/
theorem Alike.trans
    (first : Alike related left middle)
    (second : Alike related middle right)
    (transitive : ∀ value ∈ left.filterMap Slot.value?, ∀ between other, related value between →
      related between other → related value other) :
    Alike related left right := by
  induction first generalizing right with
  | nil =>
      cases second
      exact .nil
  | cons slots later ih =>
      rw [forall_mem_values_cons] at transitive
      cases second with
      | cons slotsNext laterNext =>
          refine .cons ?_ (ih laterNext transitive.2)
          cases slots with
          | vacant => exact slotsNext
          | item values =>
              cases slotsNext with
              | item valuesNext => exact .item (transitive.1 _ rfl _ _ values valuesNext)
          | entry values =>
              cases slotsNext with
              | entry valuesNext => exact .entry (transitive.1 _ rfl _ _ values valuesNext)

end SlotList

/-! ## Floats and functions -/

namespace Binary64

/-- Floats are equal exactly if neither is a NaN and both stand at the same
position on the number line. -/
theorem equal_iff {x y : Binary64} :
    x.equal y = true ↔ x.isNaN = false ∧ y.isNaN = false ∧ x.position = y.position := by
  unfold equal compare
  cases x.isNaN <;> cases y.isNaN <;> simp

theorem equal_symm {x y : Binary64} (same : x.equal y = true) : y.equal x = true := by
  obtain ⟨number, numberOther, positions⟩ := equal_iff.mp same
  exact equal_iff.mpr ⟨numberOther, number, positions.symm⟩

theorem equal_trans
    {x y z : Binary64}
    (first : x.equal y = true)
    (second : y.equal z = true) :
    x.equal z = true := by
  obtain ⟨number, -, positions⟩ := equal_iff.mp first
  obtain ⟨-, numberNext, positionsNext⟩ := equal_iff.mp second
  exact equal_iff.mpr ⟨number, numberNext, positions.trans positionsNext⟩

end Binary64

/-- A comparison of mapped items is a comparison of the mapped lists. -/
theorem lexicographic_map
    {α β : Type}
    (compareItem : β → β → Ordering)
    (f : α → β)
    (left right : List α) :
    lexicographic (fun l r => compareItem (f l) (f r)) left right =
      lexicographic compareItem (left.map f) (right.map f) := by
  induction left generalizing right with
  | nil => cases right <;> rfl
  | cons item left ih =>
      cases right with
      | nil => rfl
      | cons other right => simp only [List.map_cons, lexicographic, ih]

theorem compareBytes_self (bytes : Bytes) : compareBytes bytes bytes = .eq :=
  Std.ReflCmp.compare_self

theorem compareText_self (text : String) : compareText text text = .eq :=
  Std.ReflCmp.compare_self

theorem compareText?_self (text? : Option String) : compareText? text? text? = .eq :=
  Std.ReflCmp.compare_self

namespace Function

/-- Functions are the same exactly if they have the same name and the same
overloads, by identity. -/
theorem same_iff {left right : Function} :
    left.same right = true ↔
      left.name = right.name ∧
        left.overloads.map Signature.id = right.overloads.map Signature.id := by
  simp [same]

theorem same_self (function : Function) : function.same function = true :=
  same_iff.mpr ⟨rfl, rfl⟩

theorem same_symm {left right : Function} (same : left.same right = true) :
    right.same left = true := by
  obtain ⟨names, ids⟩ := same_iff.mp same
  exact same_iff.mpr ⟨names.symm, ids.symm⟩

theorem same_trans
    {left middle right : Function}
    (first : left.same middle = true)
    (second : middle.same right = true) :
    left.same right = true := by
  obtain ⟨names, ids⟩ := same_iff.mp first
  obtain ⟨namesNext, idsNext⟩ := same_iff.mp second
  exact same_iff.mpr ⟨names.trans namesNext, ids.trans idsNext⟩

/-- Functions that are the same compare as equal. -/
theorem compare_of_same {left right : Function} (same : left.same right = true) :
    left.compare right = .eq := by
  obtain ⟨names, ids⟩ := same_iff.mp same
  have lengths : left.overloads.length = right.overloads.length := by
    simpa using congrArg List.length ids
  have overloads : lexicographic (fun l r => Ord.compare l.id r.id) left.overloads
      right.overloads = .eq := by
    rw [lexicographic_map Ord.compare Signature.id, ids]
    exact Std.ReflCmp.compare_self
  simp [compare, names, lengths, overloads, compareText_self]

end Function

/-- Method tables with the same slots: functions agree in name and identity. -/
abbrev SameMethods (left right : OrderedMap Function) : Prop :=
  SlotList.Alike (fun l r => l.same r = true) left.toList right.toList

theorem sameFunction_iff {left right : Slot Function} :
    left.sameFunction right = true ↔ Slot.Alike (fun l r => l.same r = true) left right := by
  constructor
  · intro same
    cases left <;> cases right <;> try cases same
    · exact .vacant
    · exact .item same
    · simp only [Slot.sameFunction, Bool.and_eq_true, beq_iff_eq] at same
      obtain ⟨rfl, functions⟩ := same
      exact .entry functions
  · intro alike
    cases alike with
    | vacant => rfl
    | item values => exact values
    | entry values => simp [Slot.sameFunction, values]

/-- The test for the same methods decides that the methods are the same. -/
theorem sameMethods_iff {left right : OrderedMap Function} :
    sameMethods left right = true ↔ SameMethods left right := by
  have sizes (methods : OrderedMap Function) : methods.size = methods.toList.length := rfl
  refine Iff.trans ?_ List.forall₂_iff_zip.symm
  simp [sameMethods, sizes, List.all_eq_true, sameFunction_iff]

theorem sameMethods_self (methods : OrderedMap Function) : SameMethods methods methods :=
  SlotList.alike_self.mpr fun function _ => function.same_self

theorem SameMethods.symm {left right : OrderedMap Function} (same : SameMethods left right) :
    SameMethods right left :=
  SlotList.Alike.symm same fun _ _ _ => Function.same_symm

theorem SameMethods.trans
    {left middle right : OrderedMap Function}
    (first : SameMethods left middle)
    (second : SameMethods middle right) :
    SameMethods left right :=
  SlotList.Alike.trans first second fun _ _ _ _ => Function.same_trans

namespace Value

/-! ## Two equal values -/

/-- What strict equality asks of two values, given what it asks of their
children. -/
inductive Matches : Value → Value → Prop
  | void : Matches void void
  | bool (value : Bool) : Matches (bool value) (bool value)
  | int (n : Int64) : Matches (int n) (int n)
  | float {x y : Binary64} (same : x.equal y = true) : Matches (float x) (float y)
  | str (bytes : Bytes) : Matches (str bytes) (str bytes)
  | array {left right : OrderedMap Value}
      (slots : SlotList.Alike (fun l r => l.strictEq r = true) left.toList right.toList) :
      Matches (array left) (array right)
  | record {className : Option String} {left right : OrderedMap Value}
      {methods otherMethods : OrderedMap Function}
      (slots : SlotList.Alike (fun l r => l.strictEq r = true) left.toList right.toList)
      (table : SameMethods methods otherMethods) :
      Matches (record ⟨className, left, methods⟩) (record ⟨className, right, otherMethods⟩)
  | function {f g : Function} (same : f.same g = true) : Matches (function f) (function g)
  | resource {ref other : ResourceRef} (same : ref.id = other.id) :
      Matches (resource ref) (resource other)

/-- Slots are strictly equal exactly if they are alike with strictly equal
values. -/
theorem strictEqSlots_iff {left right : List (Slot Value)} :
    strictEqSlots left right = true ↔
      SlotList.Alike (fun l r => l.strictEq r = true) left right := by
  rw [← SlotList.same_strictEq, SlotList.same_iff]

/-- Arrays are strictly equal exactly if their slots are. -/
theorem strictEq_array (left right : OrderedMap Value) :
    (array left).strictEq (array right) = strictEqSlots left.toList right.toList := rfl

/-- Records are strictly equal exactly if their classes, fields and methods
are. -/
theorem strictEq_record (left right : Record) :
    (record left).strictEq (record right) =
      (left.className == right.className &&
        strictEqSlots left.fields.toList right.fields.toList &&
        sameMethods left.methods right.methods) := rfl

/-- Strict equality is the relation with one case for each tag. -/
theorem strictEq_iff {left right : Value} : left.strictEq right = true ↔ Matches left right := by
  constructor
  · intro equal
    cases left with
    | void =>
        cases right with
        | void => exact .void
        | _ => cases equal
    | bool value =>
        cases right with
        | bool other =>
            obtain rfl : value = other := beq_iff_eq.mp equal
            exact .bool value
        | _ => cases equal
    | int n =>
        cases right with
        | int m =>
            obtain rfl : n = m := beq_iff_eq.mp equal
            exact .int n
        | _ => cases equal
    | float x =>
        cases right with
        | float y => exact .float equal
        | _ => cases equal
    | str bytes =>
        cases right with
        | str others =>
            obtain rfl : bytes = others := beq_iff_eq.mp equal
            exact .str bytes
        | _ => cases equal
    | array items =>
        cases right with
        | array others => exact .array (strictEqSlots_iff.mp equal)
        | _ => cases equal
    | record content =>
        cases right with
        | record other =>
            obtain ⟨className, fields, methods⟩ := content
            obtain ⟨otherName, otherFields, otherMethods⟩ := other
            rw [strictEq_record, Bool.and_eq_true, Bool.and_eq_true, beq_iff_eq] at equal
            obtain ⟨⟨rfl, slots⟩, table⟩ := equal
            exact .record (strictEqSlots_iff.mp slots) (sameMethods_iff.mp table)
        | _ => cases equal
    | function f =>
        cases right with
        | function g => exact .function equal
        | _ => cases equal
    | resource ref =>
        cases right with
        | resource other => exact .resource (beq_iff_eq.mp equal)
        | _ => cases equal
  · intro equal
    cases equal with
    | void => rfl
    | bool value => simp [strictEq]
    | int n => simp [strictEq]
    | float same => exact same
    | str bytes => simp [strictEq]
    | array slots => rw [strictEq_array, strictEqSlots_iff.mpr slots]
    | record slots table =>
        rw [strictEq_record, strictEqSlots_iff.mpr slots, sameMethods_iff.mpr table]
        simp
    | function same => exact same
    | resource same => simp [strictEq, same]

/-! ## A partial equivalence -/

/-- Strict equality is symmetric. -/
theorem strictEq_symm (left right : Value) (equal : left.strictEq right = true) :
    right.strictEq left = true := by
  induction left using nested generalizing right with
  | step left ih =>
    rw [strictEq_iff] at equal ⊢
    cases equal with
    | void => exact .void
    | bool value => exact .bool value
    | int n => exact .int n
    | float same => exact .float (Binary64.equal_symm same)
    | str bytes => exact .str bytes
    | array slots => exact .array (slots.symm ih)
    | record slots table => exact .record (slots.symm ih) table.symm
    | function same => exact .function (Function.same_symm same)
    | resource same => exact .resource same.symm

/-- Strict equality is transitive. -/
theorem strictEq_trans
    (left middle right : Value)
    (first : left.strictEq middle = true)
    (second : middle.strictEq right = true) :
    left.strictEq right = true := by
  induction left using nested generalizing middle right with
  | step left ih =>
    rw [strictEq_iff] at first second ⊢
    cases first with
    | void => exact second
    | bool value => exact second
    | int n => exact second
    | float same =>
        cases second with
        | float sameNext => exact .float (Binary64.equal_trans same sameNext)
    | str bytes => exact second
    | array slots =>
        cases second with
        | array slotsNext => exact .array (slots.trans slotsNext ih)
    | record slots table =>
        cases second with
        | record slotsNext tableNext =>
            exact .record (slots.trans slotsNext ih) (table.trans tableNext)
    | function same =>
        cases second with
        | function sameNext => exact .function (Function.same_trans same sameNext)
    | resource same =>
        cases second with
        | resource sameNext => exact .resource (same.trans sameNext)

/-- Whether the value is a NaN. -/
def isNaN : Value → Bool
  | float x => x.isNaN
  | _ => false

/-- A value without a NaN in it. -/
abbrev Numeric (value : Value) : Prop :=
  value.Throughout fun part => part.isNaN = false

/-- A value without elements is numeric unless it is a NaN. -/
theorem numeric_leaf {value : Value} (leaf : value.children = []) (number : value.isNaN = false) :
    value.Numeric :=
  .intro number (by simp [leaf])

/-- A value equals itself exactly if there is no NaN in it. -/
theorem strictEq_self_iff (value : Value) : value.strictEq value = true ↔ value.Numeric := by
  induction value using nested with
  | step value ih =>
    rw [strictEq_iff]
    constructor
    · intro equal
      cases equal with
      | void => exact numeric_leaf rfl rfl
      | bool value => exact numeric_leaf rfl rfl
      | int n => exact numeric_leaf rfl rfl
      | float same => exact numeric_leaf rfl (Binary64.equal_iff.mp same).1
      | str bytes => exact numeric_leaf rfl rfl
      | array slots =>
          refine .intro rfl fun child member => (ih child member).mp ?_
          exact SlotList.alike_self.mp slots child member
      | record slots table =>
          refine .intro rfl fun child member => (ih child member).mp ?_
          exact SlotList.alike_self.mp slots child member
      | function same => exact numeric_leaf rfl rfl
      | resource same => exact numeric_leaf rfl rfl
    · intro numeric
      have children : ∀ child ∈ value.children, child.strictEq child = true :=
        fun child member => (ih child member).mpr (numeric.inside child member)
      cases value with
      | void => exact .void
      | bool value => exact .bool value
      | int n => exact .int n
      | float x => exact .float (Binary64.equal_iff.mpr ⟨numeric.here, numeric.here, rfl⟩)
      | str bytes => exact .str bytes
      | array items => exact .array (SlotList.alike_self.mpr children)
      | record content => exact .record (SlotList.alike_self.mpr children) (sameMethods_self _)
      | function f => exact .function f.same_self
      | resource ref => exact .resource rfl

/-! ## Comparison -/

/-- Slots compare as equal if they are alike and related values compare as
equal. -/
theorem compareSlots_of_alike
    {left right : List (Slot Value)}
    {related : Value → Value → Prop}
    (alike : SlotList.Alike related left right)
    (equal : ∀ value ∈ left.filterMap Slot.value?, ∀ other, related value other →
      value.compare other = some .eq) :
    compareSlots left right = some .eq := by
  induction alike with
  | nil => rfl
  | cons slots later ih =>
      rw [SlotList.forall_mem_values_cons] at equal
      rw [compareSlots_cons, ih equal.2, firstDifference_eq_right]
      cases slots with
      | vacant => rfl
      | item values => exact equal.1 _ rfl _ values
      | entry values =>
          simp only [Slot.key?_entry, compareText?_self, firstDifference_eq_left]
          exact equal.1 _ rfl _ values

/-- What strict equality finds equal, comparison finds equal. -/
theorem compare_of_strictEq (left right : Value) (equal : left.strictEq right = true) :
    left.compare right = some .eq := by
  induction left using nested generalizing right with
  | step left ih =>
    rw [strictEq_iff] at equal
    cases equal with
    | void => rfl
    | bool value => exact congrArg some Std.ReflCmp.compare_self
    | int n => exact congrArg some Std.ReflCmp.compare_self
    | float same => exact beq_iff_eq.mp same
    | str bytes => exact congrArg some (compareBytes_self bytes)
    | array slots =>
        rw [compare_array, compareSlots_of_alike slots ih, slots.length_eq]
        simp
    | record slots table =>
        rw [compare_record, compareSlots_of_alike slots ih, slots.length_eq,
          compareText?_self]
        simp
    | function same => exact congrArg some (Function.compare_of_same same)
    | resource same => exact congrArg some (Std.compare_eq_iff_eq.mpr same)

theorem equal_of_compare {left right : Value} (compared : left.compare right = some .eq) :
    left.equal right = true ∧ left.ordered right = true := by
  simp [equal, ordered, compared]

/-! ## Copies -/

section

variable [KeyHash]

theorem deepCopySlots_eq (slots : List (Slot Value)) :
    deepCopySlots slots = slots.map (Slot.map deepCopy) := by
  induction slots with
  | nil => rfl
  | cons slot slots ih =>
      cases slot <;> simp [deepCopySlots, Slot.map, ih]

/-- A copy of an array has copies of its elements. -/
theorem deepCopy_array (items : OrderedMap Value) :
    (array items).deepCopy = array (items.mapValues deepCopy) := by
  obtain ⟨⟨slots⟩, buckets, order, keyed, vacant⟩ := items
  rw [deepCopy, deepCopySlots_eq]
  simp [OrderedMap.mapValues]

theorem deepCopy_record (content : Record) :
    (record content).deepCopy = record content.deepCopy := by
  obtain ⟨className, ⟨⟨slots⟩, buckets, order, keyed, vacant⟩, methods⟩ := content
  rw [deepCopy, deepCopySlots_eq]
  simp [RecordOf.deepCopy, OrderedMap.mapValues]

omit [KeyHash] in
/-- Records are the same if their classes and methods are and their fields hold
the same values. -/
theorem same_record (left right : Record) :
    Same (record left) (record right) ↔
      right.className = left.className ∧ right.methods = left.methods ∧
        SameSlots left.fields.toList right.fields.toList := by
  obtain ⟨className, ⟨⟨slots⟩, buckets, order, keyed, vacant⟩, methods⟩ := left
  rw [Same]
  constructor
  · rintro ⟨fields, same, slotsSame⟩
    cases same
    exact ⟨rfl, rfl, slotsSame⟩
  · intro same
    obtain ⟨otherName, fields, otherMethods⟩ := right
    obtain ⟨rfl, rfl, slotsSame⟩ := same
    exact ⟨fields, rfl, slotsSame⟩

/-- A copy has the slots of its original at every level, and a record the class
and the method table too. -/
theorem same_deepCopy (value : Value) : Same value.deepCopy value := by
  induction value using nested with
  | step value ih =>
    cases value with
    | array items =>
        rw [deepCopy_array, same_array, OrderedMap.toList_mapValues]
        exact sameSlots_map _ _ ih
    | record content =>
        rw [deepCopy_record, same_record, RecordOf.deepCopy, OrderedMap.toList_mapValues]
        exact ⟨rfl, rfl, sameSlots_map _ _ ih⟩
    | _ => rfl

omit [KeyHash] in
/-- A map that keeps strict equality of values keeps that of slots. -/
theorem strictEqSlots_map
    {f : Value → Value}
    {slots : List (Slot Value)}
    (others : List (Slot Value))
    (kept : ∀ value ∈ slots.filterMap Slot.value?, ∀ other,
      (f value).strictEq other = value.strictEq other) :
    strictEqSlots (slots.map (Slot.map f)) others = strictEqSlots slots others := by
  induction slots generalizing others with
  | nil => rfl
  | cons slot slots ih =>
      rw [SlotList.forall_mem_values_cons] at kept
      have later := fun others => ih others kept.2
      rcases others with _ | ⟨other, others⟩
      · cases slot <;> rfl
      · cases slot with
        | vacant => cases other <;> simp [Slot.map, strictEqSlots, later]
        | item value => cases other <;> simp [Slot.map, strictEqSlots, later, kept.1 value rfl]
        | entry key value =>
            cases other <;> simp [Slot.map, strictEqSlots, later, kept.1 value rfl]

/-- Strict equality does not tell a copy from its original. -/
theorem strictEq_deepCopy (value other : Value) :
    value.deepCopy.strictEq other = value.strictEq other := by
  induction value using nested generalizing other with
  | step value ih =>
    cases value with
    | array items =>
        rw [deepCopy_array]
        cases other with
        | array others =>
            rw [strictEq_array, strictEq_array, OrderedMap.toList_mapValues,
              strictEqSlots_map _ ih]
        | _ => rfl
    | record content =>
        rw [deepCopy_record]
        cases other with
        | record other =>
            rw [strictEq_record, strictEq_record, RecordOf.deepCopy, OrderedMap.toList_mapValues,
              strictEqSlots_map _ ih]
        | _ => rfl
    | _ => rfl

/-- The container of an array or of a record. -/
def container? : Value → Option (OrderedMap Value)
  | array items => some items
  | record content => some content.fields
  | _ => none

instance (items : OrderedMap Value) : Decidable items.Coherent :=
  decidable_of_iff
    (items.buckets = OrderedMap.indexSlots items.order items.slots ∧
      items.order ≤ OrderedMap.maxOrder ∧
      items.keys.Nodup ∧
      items.keyed = Slot.keyedCount items.toList ∧
      items.vacant = Slot.vacantCount items.toList ∧
      (items.order < OrderedMap.maxOrder → 4 * items.keyed ≤ 3 * 2 ^ items.order))
    ⟨fun ⟨table, order, keys, keyed, vacant, load⟩ => ⟨table, order, keys, keyed, vacant, load⟩,
      fun ⟨table, order, keys, keyed, vacant, load⟩ => ⟨table, order, keys, keyed, vacant, load⟩⟩

/-- Every container in the value is coherent. -/
abbrev Coherent (value : Value) : Prop :=
  value.Throughout fun part => ∀ items ∈ part.container?, items.Coherent

/-- A map that changes no value changes no coherent container, its table
included. -/
theorem mapValues_eq_self
    {items : OrderedMap Value}
    {f : Value → Value}
    (coherent : items.Coherent)
    (fixed : ∀ value ∈ items.values, f value = value) :
    items.mapValues f = items := by
  have slots : items.slots.map (Slot.map f) = items.slots := by
    rw [← Array.toList_inj, Array.toList_map]
    exact SlotList.map_eq_self fixed
  rw [OrderedMap.mapValues, slots]
  exact coherent.rebuildBuckets_eq

/-- Where the containers are coherent, a copy is its original, bucket tables
included. -/
theorem deepCopy_eq_self (value : Value) (coherent : value.Coherent) : value.deepCopy = value := by
  induction value using nested with
  | step value ih =>
    have fixed : ∀ child ∈ value.children, child.deepCopy = child := fun child member =>
      ih child member (coherent.inside child member)
    cases value with
    | array items => rw [deepCopy_array, mapValues_eq_self (coherent.here items rfl) fixed]
    | record content =>
        rw [deepCopy_record, RecordOf.deepCopy,
          mapValues_eq_self (coherent.here content.fields rfl) fixed]
    | _ => rfl

/-- Strict equality is a partial equivalence that fails to be reflexive at NaNs
only, comparison in either direction agrees with it, and no copy can be told
from its original: not by strict equality, not by the slots, classes and method
tables, and, where the containers are coherent, by nothing. -/
theorem strictEq_refines_compare :
    (∀ left right : Value, left.strictEq right = true →
      (left.compare right = some .eq ∧ left.equal right = true ∧ left.ordered right = true) ∧
        right.compare left = some .eq ∧ right.equal left = true ∧ right.ordered left = true) ∧
    (∀ left right : Value, left.strictEq right = true → right.strictEq left = true) ∧
    (∀ left middle right : Value, left.strictEq middle = true → middle.strictEq right = true →
      left.strictEq right = true) ∧
    (∀ value : Value, value.strictEq value = true ↔ value.Numeric) ∧
    (∀ value : Value, value.Numeric → value.deepCopy.strictEq value = true) ∧
    (∀ value : Value, Same value.deepCopy value) ∧
    ∀ value : Value, value.Coherent → value.deepCopy = value := by
  refine ⟨?_, strictEq_symm, strictEq_trans, strictEq_self_iff, ?_, same_deepCopy,
    deepCopy_eq_self⟩
  · intro left right equal
    have forth := compare_of_strictEq left right equal
    have back := compare_of_strictEq right left (strictEq_symm left right equal)
    exact ⟨⟨forth, equal_of_compare forth⟩, back, equal_of_compare back⟩
  · intro value numeric
    rw [strictEq_deepCopy]
    exact (strictEq_self_iff value).mpr numeric

end

/-- A method of the given identity. -/
def sampleMethod (id : Nat) : Function :=
  .ofSignature ⟨id, "area", ⟨[]⟩, 'f', .user [] []⟩

/-- A record with a class and a method, around a keyed array with a vacant slot
and a zero of the given sign. -/
def signedSample (negative : Bool) : Value :=
  let zero := float (if negative then ⟨0x8000000000000000⟩ else ⟨0⟩)
  record
    ⟨some "Point",
      (OrderedMap.ofPairs
        [("corner", array ((OrderedMap.ofPairs [("x", zero), ("y", int 1)]).deleteAt 1)),
          ("drawn", function (sampleMethod 4))]).append (ofText "label"),
      .ofPairs [("area", sampleMethod 3)]⟩

/-- Two nested values that differ only in the signs of their zeros. -/
theorem signedSamples_strictEq :
    (signedSample true).strictEq (signedSample false) = true ∧
      (signedSample false).compare (signedSample true) = some .eq ∧
      (signedSample true).Numeric ∧
      (signedSample true).Coherent ∧
      (signedSample true).deepCopy.strictEq (signedSample false) = true ∧
      (signedSample true).deepCopy = signedSample true := by
  have equal : (signedSample true).strictEq (signedSample false) = true := by decide +kernel
  have numeric : (signedSample true).Numeric := by decide +kernel
  have coherent : (signedSample true).Coherent := by decide +kernel
  obtain ⟨compared, symmetric, transitive, reflexive, copied, -, kept⟩ := strictEq_refines_compare
  exact ⟨equal, (compared _ _ equal).2.1, numeric, coherent,
    transitive _ _ _ (copied _ numeric) equal, kept _ coherent⟩

end Value
end ScriptCore
