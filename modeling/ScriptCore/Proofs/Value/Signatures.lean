import ScriptCore.Library.Natives
import ScriptCore.Proofs.OrderedMap.Values
import ScriptCore.Proofs.Signature.Binding

/-!
# Signatures within values

The signatures that can be reached through a value are its overloads if it is a
function, the methods of a record, and whatever the slots of arrays and records
hold. Coercion, binding and the operations of the library make no new ones: what
holds of every signature of the arguments holds of every signature of the
result.
-/

namespace ScriptCore

section

variable {allowed : Signature → Prop}

/-! ## Overload sets -/

namespace Function

/-- An overload set of allowed signatures. -/
def Only (allowed : Signature → Prop) (function : Function) : Prop :=
  ∀ signature ∈ function.overloads, allowed signature

variable {function : Function} {signature : Signature}

/-- A function made from an allowed signature. -/
theorem only_ofSignature (holds : allowed signature) : (ofSignature signature).Only allowed := by
  intro other member
  rw [ofSignature, List.mem_singleton] at member
  exact member ▸ holds

/-- One more allowed overload keeps a function one of allowed signatures. -/
theorem Only.push (only : function.Only allowed) (added : allowed signature) :
    (function.push signature).Only allowed := by
  intro other member
  rcases List.mem_append.mp member with before | last
  · exact only other before
  · rw [List.mem_singleton] at last
    exact last ▸ added

/-- The overload that is selected is allowed. -/
theorem Only.select?
    {condition : Signature → Bool}
    (only : function.Only allowed)
    (selected : function.select? condition = some signature) :
    allowed signature := by
  rcases Option.or_eq_some_iff.mp selected with accepted | ⟨-, newest⟩
  · exact only signature (List.mem_reverse.mp (List.mem_of_find?_eq_some accepted))
  · exact only signature (List.mem_of_getLast? newest)

end Function

/-! ## Values -/

namespace Value

mutual

/-- Every signature that can be reached through a value. -/
def signatures : Value → List Signature
  | array ⟨⟨slots⟩, _, _, _, _⟩ => slotSignatures slots
  | record ⟨_, ⟨⟨slots⟩, _, _, _, _⟩, methods⟩ =>
      slotSignatures slots ++ methods.values.flatMap Function.overloads
  | function f => f.overloads
  | void => []
  | bool _ => []
  | int _ => []
  | float _ => []
  | str _ => []
  | resource _ => []
termination_by structural value => value

/-- Every signature that can be reached through a slot list. -/
def slotSignatures : List (Slot Value) → List Signature
  | [] => []
  | .vacant :: slots => slotSignatures slots
  | .item value :: slots => value.signatures ++ slotSignatures slots
  | .entry _ value :: slots => value.signatures ++ slotSignatures slots
termination_by structural slots => slots

end

/-- A value through which only allowed signatures can be reached. -/
def Only (allowed : Signature → Prop) (value : Value) : Prop :=
  ∀ signature ∈ value.signatures, allowed signature

/-- The signatures reached through slots are those reached through their
values. -/
theorem slotSignatures_eq (slots : List (Slot Value)) :
    slotSignatures slots = (slots.filterMap Slot.value?).flatMap signatures := by
  induction slots with
  | nil => rfl
  | cons slot slots ih =>
      cases slot <;> simp [slotSignatures, List.filterMap_cons, ih]

/-- A value through which no signature can be reached. -/
theorem only_of_none {value : Value} (none : value.signatures = []) : value.Only allowed := by
  simp [Only, none]

@[simp] theorem only_void : void.Only allowed :=
  only_of_none rfl

@[simp] theorem only_bool (value : Bool) : (bool value).Only allowed :=
  only_of_none rfl

@[simp] theorem only_int (n : Int64) : (int n).Only allowed :=
  only_of_none rfl

@[simp] theorem only_float (x : Binary64) : (float x).Only allowed :=
  only_of_none rfl

@[simp] theorem only_str (bytes : Bytes) : (str bytes).Only allowed :=
  only_of_none rfl

@[simp] theorem only_ofText (text : String) : (ofText text).Only allowed :=
  only_str _

@[simp] theorem only_ofNat (n : Nat) : (ofNat n).Only allowed :=
  only_int _

@[simp] theorem only_array {items : OrderedMap Value} :
    (array items).Only allowed ↔ items.All (Value.Only allowed) := by
  have reached : (array items).signatures = items.values.flatMap signatures :=
    slotSignatures_eq items.toList
  constructor
  · intro only value inside signature member
    exact only signature (reached ▸ List.mem_flatMap.mpr ⟨value, inside, member⟩)
  · intro all signature member
    rw [reached] at member
    obtain ⟨value, inside, found⟩ := List.mem_flatMap.mp member
    exact all value inside signature found

/-- Through a record the signatures of its fields and of its methods are
reached. -/
theorem only_record {content : Record} :
    (record content).Only allowed ↔
      content.fields.All (Value.Only allowed) ∧ content.methods.All (Function.Only allowed) := by
  have reached : (record content).signatures =
      (array content.fields).signatures ++
        content.methods.values.flatMap Function.overloads := rfl
  constructor
  · intro only
    constructor
    · rw [← only_array]
      intro signature member
      exact only signature (reached ▸ List.mem_append_left _ member)
    · intro method inside signature member
      apply only signature
      rw [reached]
      exact List.mem_append_right _ (List.mem_flatMap.mpr ⟨method, inside, member⟩)
  · intro only signature member
    rw [reached] at member
    rcases List.mem_append.mp member with field | method
    · exact only_array.mpr only.1 signature field
    · obtain ⟨function, inside, found⟩ := List.mem_flatMap.mp method
      exact only.2 function inside signature found

section

variable [KeyHash]

/-- The merge of two records reaches what either of them reaches. -/
theorem Only.merge
    {content other : Record}
    (only : (record content).Only allowed)
    (onlyOther : (record other).Only allowed) :
    (record (content.merge other)).Only allowed := by
  rw [only_record] at only onlyOther ⊢
  constructor
  · exact OrderedMap.All.merge (by simpa using ⟨only.1, onlyOther.1⟩)
  · unfold RecordOf.merge RecordOf.mergeMethods
    dsimp only
    split
    · exact only.2
    · split
      · exact onlyOther.2
      · exact OrderedMap.All.merge (by simpa using ⟨only.2, onlyOther.2⟩)

@[simp] theorem only_ofList {values : List Value} :
    (ofList values).Only allowed ↔ ∀ value ∈ values, value.Only allowed := by
  rw [ofList, only_array, OrderedMap.all_ofValues]

@[simp] theorem only_ofTexts (texts : List String) : (ofTexts texts).Only allowed := by
  simp [ofTexts]

end

theorem only_getD {value? : Option Value} (only : ∀ value ∈ value?, value.Only allowed) :
    (value?.getD void).Only allowed := by
  cases value? with
  | none => exact only_void
  | some value => exact only value rfl

/-- A conversion yields the value itself or a scalar. -/
theorem Only.coerce?
    {value converted : Value}
    {target : Tag}
    (only : value.Only allowed)
    (coerced : value.coerce? target = some converted) :
    converted.Only allowed := by
  have scalar : converted = value ∨ converted.signatures = [] := by
    cases value with
    | array items | record content | function f | resource ref =>
        -- These convert to nothing but themselves.
        left
        simp only [Value.coerce?] at coerced
        split at coerced <;> cases coerced
        rfl
    | _ =>
        right
        cases target <;>
          simp [Value.coerce?, coerceVoid, coerceBool, coerceInt, coerceFloat, coerceStr]
            at coerced <;>
          grind [signatures, ofText]
  rcases scalar with rfl | none
  · exact only
  · exact only_of_none none

/-- A conversion reaches no other signatures. -/
theorem Only.coerce
    {value converted : Value}
    {target : Tag}
    (only : value.Only allowed)
    (coerced : value.coerce target = .ok converted) :
    converted.Only allowed := by
  unfold Value.coerce at coerced
  split at coerced
  · next found =>
    cases coerced
    exact only.coerce? found
  · cases coerced

end Value

/-! ## Arguments -/

namespace Signature

variable {signature : Signature}

/-- Arguments that do not fit are no exception. -/
theorem payload?_bind
    {args : List Value}
    {error : ScriptError}
    (failed : signature.bind args = .error error) :
    error.payload? = none := by
  cases rejects_of_bind failed <;> rfl

theorem only_bindArg
    {position : Nat}
    {arg bound : Value}
    (only : arg.Only allowed)
    (converted : signature.bindArg position arg = .ok bound) :
    bound.Only allowed := by
  rcases bindArg_eq_ok converted with ⟨tag, -, coerced⟩ | ⟨-, rfl⟩
  · exact only.coerce coerced
  · exact only

/-- Binding arguments reaches no other signatures. -/
theorem only_bind
    {args bound : List Value}
    (only : ∀ arg ∈ args, arg.Only allowed)
    (converted : signature.bind args = .ok bound) :
    ∀ value ∈ bound, value.Only allowed := by
  intro value member
  obtain ⟨-, binds⟩ := bind_eq_ok_iff.mp converted
  obtain ⟨sameLength, each⟩ := bindFrom_ok binds
  obtain ⟨index, inside, rfl⟩ := List.mem_iff_getElem.mp member
  have insideArgs : index < args.length := by omega
  obtain ⟨value, there, bound⟩ := each index _ (List.getElem?_eq_getElem insideArgs)
  rw [List.getElem?_eq_getElem inside, Option.some_inj] at there
  rw [there]
  exact only_bindArg (only _ (List.getElem_mem insideArgs)) bound

end Signature

/-! ## Arrays -/

namespace ArrayLibrary

variable {items : OrderedMap Value}

variable [KeyHash]

/-- A look-up reaches no other signatures than the array. -/
theorem only_get (only : items.All (Value.Only allowed)) (address : Address) :
    (get items address).Only allowed := by
  cases address with
  | index index => exact Value.only_getD fun _ => only.getAt?
  | key key => exact Value.only_getD fun _ => only.get?
  | invalid => exact Value.only_void

omit [KeyHash] in
theorem only_search (wanted : Value) : (search items wanted).Only allowed := by
  unfold search
  split <;> simp

omit [KeyHash] in
theorem only_addresses : ∀ value ∈ addresses items, value.Only allowed := by
  intro value member
  obtain ⟨⟨index, key?, item⟩, -, rfl⟩ := List.mem_map.mp member
  cases key? <;> simp

theorem only_delete?
    {remaining : OrderedMap Value}
    {address : Address}
    (only : items.All (Value.Only allowed))
    (deleted : delete? items address = some remaining) :
    remaining.All (Value.Only allowed) := by
  obtain ⟨index, -, rfl⟩ := Option.map_eq_some_iff.mp deleted
  exact only.deleteAt index

/-- A merge of arguments reaches no other signatures than they do. -/
theorem only_merge {args : List Value} (only : ∀ arg ∈ args, arg.Only allowed) :
    (merge args).All (Value.Only allowed) := by
  unfold merge
  refine List.foldlRecOn args _ OrderedMap.all_empty ?_
  intro merged all arg member
  have added := only arg member
  cases arg with
  | array items => exact all.extend (Value.only_array.mp added)
  | _ => exact all.append added

end ArrayLibrary

namespace Iteration

/-- The entries of an array reach no other signatures. -/
theorem only_entriesOf {items : OrderedMap Value} (only : items.All (Value.Only allowed)) :
    ∀ entry ∈ entriesOf items, entry.2.Only allowed := by
  intro entry member
  obtain ⟨placed, inside, rfl⟩ := List.mem_map.mp member
  exact only.entries placed inside

variable [KeyHash]

theorem only_ofEntries {entries : Entries} (only : ∀ entry ∈ entries, entry.2.Only allowed) :
    (ofEntries entries).All (Value.Only allowed) :=
  List.foldlRecOn entries _ OrderedMap.all_empty fun _ made entry member =>
    made.insertEntry entry.1 (only entry member)

end Iteration
end
end ScriptCore
