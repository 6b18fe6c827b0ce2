import ScriptCore.Program.Eval
import ScriptCore.Proofs.Program.Tame

/-!
# Tame values

A value is tame if every signature that can be reached through it is: its
overloads if it is a function, the methods of a record, and whatever the slots
of arrays and records hold. Coercion, copying, and the operations on arrays,
records and classes make no new signatures, so tame values give tame results.
-/

namespace ScriptCore

namespace Value

/-- A value through which only tame signatures can be reached. -/
def Tame (value : Value) : Prop :=
  ∀ signature ∈ value.signatures, signature.Tame

/-- A value through which no signature can be reached. -/
theorem tame_of_none {value : Value} (none : value.signatures = []) : value.Tame :=
  only_of_none none

@[simp] theorem tame_void : void.Tame :=
  tame_of_none rfl

@[simp] theorem tame_bool (value : Bool) : (bool value).Tame :=
  tame_of_none rfl

@[simp] theorem tame_int (n : Int64) : (int n).Tame :=
  tame_of_none rfl

@[simp] theorem tame_float (x : Binary64) : (float x).Tame :=
  tame_of_none rfl

@[simp] theorem tame_str (bytes : Bytes) : (str bytes).Tame :=
  tame_of_none rfl

@[simp] theorem tame_resource (ref : ResourceRef) : (resource ref).Tame :=
  tame_of_none rfl

@[simp] theorem tame_ofText (text : String) : (ofText text).Tame :=
  tame_str _

@[simp] theorem tame_ofNat (n : Nat) : (ofNat n).Tame :=
  tame_int _

@[simp] theorem tame_array {items : OrderedMap Value} :
    (array items).Tame ↔ items.All Value.Tame :=
  only_array

@[simp] theorem tame_function {f : Function} : (function f).Tame ↔ f.Tame :=
  Iff.rfl

end Value

/-! ## Records -/

/-- A record with tame fields and tame methods. -/
structure RecordOf.Tame (content : Record) : Prop where
  fields : content.fields.All Value.Tame
  methods : content.methods.All Function.Tame

@[simp] theorem Value.tame_record {content : Record} :
    (Value.record content).Tame ↔ content.Tame := by
  constructor
  · intro tame
    obtain ⟨fields, methods⟩ := only_record.mp tame
    exact ⟨fields, methods⟩
  · intro tame
    exact only_record.mpr ⟨tame.fields, tame.methods⟩

variable [KeyHash]

namespace RecordOf

variable {content other : Record} {signature : Signature}

theorem Tame.setField (tame : content.Tame) (name : String) {value : Value} (holds : value.Tame) :
    (content.setField name value).Tame :=
  ⟨tame.fields.insert name holds, tame.methods⟩

theorem Tame.removeField (tame : content.Tame) (name : String) :
    (content.removeField name).Tame :=
  ⟨tame.fields.erase name, tame.methods⟩

/-- A tame method keeps a record tame. -/
theorem Tame.addMethod (tame : content.Tame) (added : signature.Tame) :
    (content.addMethod signature).Tame := by
  refine ⟨tame.fields, ?_⟩
  unfold RecordOf.addMethod
  cases found : content.methods.get? signature.name with
  | none => exact tame.methods.insert _ (Function.tame_ofSignature added)
  | some function => exact tame.methods.insert _ ((tame.methods.get? found).push added)

theorem Tame.foldl_addMethod
    {signatures : List Signature}
    (tame : content.Tame)
    (added : ∀ signature ∈ signatures, signature.Tame) :
    (signatures.foldl RecordOf.addMethod content).Tame :=
  List.foldlRecOn signatures _ tame fun _ grown signature member =>
    grown.addMethod (added signature member)

/-- The merge of two tame records is tame. -/
theorem Tame.merge (tame : content.Tame) (tameOther : other.Tame) :
    (content.merge other).Tame :=
  Value.tame_record.mp
    (Value.Only.merge (Value.tame_record.mpr tame) (Value.tame_record.mpr tameOther))

end RecordOf

/-! ## Making values of values -/

namespace Value

@[simp] theorem tame_ofList {values : List Value} :
    (ofList values).Tame ↔ ∀ value ∈ values, value.Tame :=
  only_ofList

@[simp] theorem tame_ofTexts (texts : List String) : (ofTexts texts).Tame := by
  simp [ofTexts]

@[simp] theorem tame_ofOption {value? : Option Value} :
    (ofOption value?).Tame ↔ ∀ value ∈ value?, value.Tame := by
  simp [ofOption]

omit [KeyHash] in
theorem tame_getD {value? : Option Value} (tame : ∀ value ∈ value?, value.Tame) :
    (value?.getD void).Tame :=
  only_getD tame

mutual

/-- A copy reaches the same signatures. -/
theorem signatures_deepCopy : ∀ value : Value, value.deepCopy.signatures = value.signatures
  | array ⟨⟨slots⟩, _, _, _, _⟩ => slotSignatures_deepCopySlots slots
  | record ⟨_, ⟨⟨slots⟩, _, _, _, _⟩, methods⟩ =>
      congrArg (· ++ methods.values.flatMap Function.overloads) (slotSignatures_deepCopySlots slots)
  | void => rfl
  | bool _ => rfl
  | int _ => rfl
  | float _ => rfl
  | str _ => rfl
  | function _ => rfl
  | resource _ => rfl

theorem slotSignatures_deepCopySlots :
    ∀ slots : List (Slot Value), slotSignatures (deepCopySlots slots) = slotSignatures slots
  | [] => rfl
  | .vacant :: slots => slotSignatures_deepCopySlots slots
  | .item value :: slots =>
      congrArg₂ (· ++ ·) (signatures_deepCopy value) (slotSignatures_deepCopySlots slots)
  | .entry _ value :: slots =>
      congrArg₂ (· ++ ·) (signatures_deepCopy value) (slotSignatures_deepCopySlots slots)

end

/-- A copy of a tame value is tame. -/
theorem Tame.deepCopy {value : Value} (tame : value.Tame) : value.deepCopy.Tame := by
  rw [Value.Tame, signatures_deepCopy]
  exact tame

omit [KeyHash] in
/-- A tame value is converted to a tame one. -/
theorem Tame.coerce
    {value converted : Value}
    {target : Tag}
    (tame : value.Tame)
    (coerced : value.coerce target = .ok converted) :
    converted.Tame :=
  Only.coerce tame coerced

omit [KeyHash] in
theorem Tame.asRecord? {value : Value} {content : Record} (tame : value.Tame)
    (record : value.asRecord? = some content) : content.Tame := by
  cases value <;> cases record
  exact tame_record.mp tame

/-- The field of a value that may be a record. -/
theorem Tame.field
    {value field : Value}
    {name : String}
    (tame : value.Tame)
    (found : (value.asRecord?.bind fun content => content.field? name) = some field) :
    field.Tame := by
  obtain ⟨content, record, there⟩ := Option.bind_eq_some_iff.mp found
  exact (tame.asRecord? record).fields.get? there

end Value

/-! ## Methods -/

/-- A method found on a tame receiver is tame. -/
theorem Value.Tame.resolveMethod
    {receiver : Value}
    {name : String}
    {argc : Nat}
    {signature : Signature}
    (tame : receiver.Tame)
    (resolved : Engine.resolveMethod receiver name argc = .ok signature) :
    signature.Tame := by
  unfold Engine.resolveMethod at resolved
  split at resolved
  · next content =>
    split at resolved
    · cases resolved
    · next function found =>
      have methods : function.Tame := (Value.tame_record.mp tame).methods.get? found
      split at resolved
      · next chosen accepted =>
        cases resolved
        exact methods.select? accepted
      · cases resolved
  · cases resolved

/-- A method that is not found is no exception. -/
theorem Engine.payload?_resolveMethod
    {receiver : Value}
    {name : String}
    {argc : Nat}
    {error : ScriptError}
    (failed : Engine.resolveMethod receiver name argc = .error error) :
    error.payload? = none := by
  unfold Engine.resolveMethod at failed
  split at failed
  · split at failed
    · cases failed
      rfl
    · split at failed <;> cases failed
      rfl
  · cases failed
    rfl

/-! ## Arguments -/

namespace Signature

variable {signature : Signature}

omit [KeyHash] in
theorem tame_bind
    {args bound : List Value}
    (tame : ∀ arg ∈ args, arg.Tame)
    (converted : signature.bind args = .ok bound) :
    ∀ value ∈ bound, value.Tame :=
  only_bind tame converted

end Signature

/-! ## Classes -/

/-- A declaration with tame fields, methods and constructor. -/
structure ClassDecl.Tame (decl : ClassDecl) : Prop where
  fields : decl.fields.All Value.Tame
  methods : ∀ signature ∈ decl.methods, signature.Tame
  constructor : ∀ signature ∈ decl.constructor?, signature.Tame

/-- A class all of whose declarations are tame. -/
def Class.Tame (cls : Class) : Prop :=
  ∀ decl ∈ cls.chain, decl.Tame

/-- The template of a tame class with tame ancestors is tame. -/
theorem ClassDecl.Tame.templateOver
    {decl : ClassDecl}
    {ancestors : List ClassDecl}
    (tame : decl.Tame)
    (tameAncestors : ∀ decl ∈ ancestors, decl.Tame) :
    (decl.templateOver ancestors).Tame := by
  have own {decl : ClassDecl} (tame : decl.Tame) : decl.ownRecord.Tame := by
    apply RecordOf.Tame.foldl_addMethod _ tame.methods
    exact ⟨tame.fields.mapValues fun _ => Value.Tame.deepCopy, OrderedMap.all_empty⟩
  induction ancestors generalizing decl with
  | nil => exact own tame
  | cons parent ancestors ih =>
      rw [List.forall_mem_cons] at tameAncestors
      have merged := (ih tameAncestors.1 tameAncestors.2).merge (own tame)
      exact ⟨merged.fields, merged.methods⟩

namespace Class

theorem Tame.template {cls : Class} (tame : cls.Tame) : cls.template.Tame := by
  have parts := List.forall_mem_cons.mp tame
  exact parts.1.templateOver parts.2

omit [KeyHash] in
/-- The constructor of a tame class is tame. -/
theorem Tame.findConstructor?
    {cls : Class}
    {signature : Signature}
    (tame : cls.Tame)
    (found : cls.findConstructor? = some signature) :
    signature.Tame := by
  obtain ⟨decl, inside, declared⟩ := List.exists_of_findSome?_eq_some found
  exact (tame decl inside).constructor signature declared

omit [KeyHash] in
theorem tame_extending
    {decl : ClassDecl}
    {parent? : Option Class}
    (tame : decl.Tame)
    (tameParent : ∀ parent ∈ parent?, parent.Tame) :
    (extending decl parent?).Tame := by
  cases parent? with
  | none => exact List.forall_mem_cons.mpr ⟨tame, fun _ member => nomatch member⟩
  | some parent => exact List.forall_mem_cons.mpr ⟨tame, tameParent parent rfl⟩

end Class

/-! ## Parts of programs -/

theorem tame_appendVacant {items : OrderedMap Value} (tame : items.All Value.Tame) :
    (appendVacant items).All Value.Tame :=
  (tame.append Value.tame_void).deleteAt _

/-- A primitive gives a tame value for tame arguments. -/
theorem Primitive.tame_apply
    {args : List Value}
    (operation : Primitive)
    (tame : ∀ arg ∈ args, arg.Tame) :
    (operation.apply args).Tame := by
  cases operation with
  | field name =>
      apply Value.tame_getD
      intro field found
      have first : (args.getD 0 .void).Tame := by
        cases args with
        | nil => exact Value.tame_void
        | cons arg args => exact tame arg List.mem_cons_self
      exact first.field found
  | _ => simp [Primitive.apply]

end ScriptCore
