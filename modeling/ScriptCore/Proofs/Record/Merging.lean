import ScriptCore.OrderedMap.Spread
import ScriptCore.Proofs.OrderedMap.Dictionaries
import ScriptCore.Record.Class

/-!
# Merging records

Methods are only ever attached under their names, so a method table is a
dictionary whatever happens to the fields of its record. Merging records takes a
shortcut where one of the tables is empty. On dictionaries the shortcuts agree
with the merge of the tables, and merging records is associative.
-/

namespace ScriptCore

attribute [ext] RecordOf

namespace RecordOf

variable [KeyHash]

/-- The records that can be made. Fields may be edited at will. -/
inductive Reachable : Record → Prop where
  | empty : Reachable empty
  | ofClass (className : String) : Reachable (ofClass className)
  | editFields {record : Record} (reached : Reachable record) (fields : OrderedMap Value) :
      Reachable { record with fields }
  | addMethod {record : Record} (reached : Reachable record) (signature : Signature) :
      Reachable (record.addMethod signature)
  | merge {left right : Record} (reachedLeft : Reachable left) (reachedRight : Reachable right) :
      Reachable (left.merge right)
  | deepCopy {record : Record} (reached : Reachable record) : Reachable record.deepCopy
  | template (cls : Class) : Reachable cls.template

/-! ## Method tables -/

/-- The overload set of a name after a method of that name is attached. -/
def overloaded (signature : Signature) : Option Function → Function
  | some function => function.push signature
  | none => .ofSignature signature

/-- A new method is an overload of what is under its name. -/
theorem methods_addMethod (record : Record) (signature : Signature) :
    (record.addMethod signature).methods =
      record.methods.insert signature.name
        (overloaded signature (record.method? signature.name)) := by
  unfold addMethod method?
  cases record.methods.get? signature.name <;> rfl

/-- A new method keeps a table of methods a dictionary. -/
theorem dictionary_addMethod
    {record : Record}
    (dictionary : record.methods.Dictionary)
    (signature : Signature) :
    (record.addMethod signature).methods.Dictionary := by
  rw [methods_addMethod]
  exact dictionary.insert _ _

theorem dictionary_foldl_addMethod
    {record : Record}
    (dictionary : record.methods.Dictionary)
    (signatures : List Signature) :
    (signatures.foldl addMethod record).methods.Dictionary :=
  List.foldlRecOn (motive := fun record : Record => record.methods.Dictionary) signatures _
    dictionary fun _ dictionary signature _ => dictionary_addMethod dictionary signature

/-- An empty dictionary makes no difference to a merge, so nothing is lost by
leaving it out. -/
theorem mergeMethods_eq
    {left right : OrderedMap Function}
    (dictionaryLeft : left.Dictionary)
    (dictionaryRight : right.Dictionary) :
    mergeMethods left right = .merge [left, right] := by
  have none {methods : OrderedMap Function} (isEmpty : methods.isEmpty = true) :
      methods.toList = [] := by
    simpa [OrderedMap.isEmpty, OrderedMap.toList] using isEmpty
  unfold mergeMethods
  split
  · next emptyRight =>
    exact (dictionaryLeft.merge_eq (by simp [none emptyRight])).symm
  · split
    · next emptyLeft =>
      exact (dictionaryRight.merge_eq (by simp [none emptyLeft])).symm
    · rfl

/-- The merge of two tables of methods is a dictionary, whichever shortcut it
takes. -/
theorem dictionary_mergeMethods
    {left right : OrderedMap Function}
    (dictionaryLeft : left.Dictionary)
    (dictionaryRight : right.Dictionary) :
    (mergeMethods left right).Dictionary := by
  rw [mergeMethods_eq dictionaryLeft dictionaryRight]
  apply OrderedMap.dictionary_merge
  simp [dictionaryLeft, dictionaryRight]

end RecordOf

namespace ClassDecl

variable [KeyHash]

theorem dictionary_ownRecord (decl : ClassDecl) : decl.ownRecord.methods.Dictionary :=
  RecordOf.dictionary_foldl_addMethod OrderedMap.dictionary_empty decl.methods

/-- The methods of a template are a dictionary. -/
theorem dictionary_templateOver (decl : ClassDecl) (ancestors : List ClassDecl) :
    (decl.templateOver ancestors).methods.Dictionary := by
  induction ancestors generalizing decl with
  | nil => exact decl.dictionary_ownRecord
  | cons parent ancestors ih =>
      exact RecordOf.dictionary_mergeMethods (ih parent) decl.dictionary_ownRecord

end ClassDecl

namespace RecordOf

section

variable [KeyHash]

/-- Every method table is a dictionary. -/
theorem Reachable.dictionary {record : Record} (reached : record.Reachable) :
    record.methods.Dictionary := by
  induction reached with
  | empty => exact OrderedMap.dictionary_empty
  | ofClass => exact OrderedMap.dictionary_empty
  | editFields _ _ ih => exact ih
  | addMethod _ signature ih =>
      exact dictionary_addMethod ih signature
  | merge _ _ leftHypothesis rightHypothesis =>
      exact dictionary_mergeMethods leftHypothesis rightHypothesis
  | deepCopy _ ih => exact ih
  | template cls => exact cls.decl.dictionary_templateOver cls.ancestors

/-! ## Merging -/

/-- The shortcuts for empty tables of methods give what the merge of both would
give. -/
theorem methods_merge
    {left right : Record}
    (reachedLeft : left.Reachable)
    (reachedRight : right.Reachable) :
    (left.merge right).methods = .merge [left.methods, right.methods] :=
  mergeMethods_eq reachedLeft.dictionary reachedRight.dictionary

/-- Merging reachable records is associative, as equality of records. -/
theorem merge_assoc
    {first second third : Record}
    (reachedFirst : first.Reachable)
    (reachedSecond : second.Reachable)
    (reachedThird : third.Reachable) :
    (first.merge second).merge third = first.merge (second.merge third) := by
  have assoc {α : Type} (first second third : OrderedMap α) :
      OrderedMap.merge [.merge [first, second], third] =
        OrderedMap.merge [first, .merge [second, third]] :=
    (OrderedMap.merge_flatten [] [first, second] [third]).trans
      (OrderedMap.merge_flatten [first] [second, third] []).symm
  apply RecordOf.ext
  · exact Option.or_assoc ..
  · exact assoc first.fields second.fields third.fields
  · rw [methods_merge (reachedFirst.merge reachedSecond) reachedThird,
      methods_merge reachedFirst (reachedSecond.merge reachedThird),
      methods_merge reachedFirst reachedSecond, methods_merge reachedSecond reachedThird, assoc]

/-- No method table has a vacant or an unkeyed slot, so the method table of a
merge is the merge of the method tables, shortcut or not, and merging records is
associative. -/
theorem merge_shortcuts_are_exact
    (first second third : Record)
    (reachedFirst : first.Reachable)
    (reachedSecond : second.Reachable)
    (reachedThird : third.Reachable) :
    (∀ slot ∈ first.methods.toList, ∃ name function, slot = .entry name function) ∧
    (first.merge second).methods = .merge [first.methods, second.methods] ∧
    (first.merge second).merge third = first.merge (second.merge third) :=
  ⟨reachedFirst.dictionary.keyed, methods_merge reachedFirst reachedSecond,
    merge_assoc reachedFirst reachedSecond reachedThird⟩

end

/-- A class with an overloaded method and one that a record may override. -/
def sampleClass : Class where
  decl :=
    { name := "Shape"
      fields := .empty
      methods := [⟨1, "area", ⟨[]⟩, 'f', .user [] []⟩, ⟨2, "name", ⟨[]⟩, 's', .user [] []⟩,
        ⟨3, "area", ⟨[]⟩, 'f', .user ["unit"] []⟩]
      constructor? := none }
  ancestors := []

/-- A record without methods and with a vacant field. -/
def sampleFields : Record :=
  ((empty.setField "x" (.int 1)).setField "y" .void).removeField "x"

/-- A record with a method of its own. -/
def sampleMethods : Record :=
  (ofClass "Square").addMethod ⟨4, "area", ⟨[]⟩, 'f', .user [] []⟩

theorem reachable_sampleFields : sampleFields.Reachable :=
  Reachable.empty.editFields _

theorem reachable_sampleMethods : sampleMethods.Reachable :=
  (Reachable.ofClass "Square").addMethod _

/-- The three ways to merge methods: the right record has none, the left one has
none, and both have some. -/
theorem samples_merge_exactly :
    ((sampleClass.template.merge sampleFields).methods =
        .merge [sampleClass.template.methods, sampleFields.methods] ∧
      (sampleFields.merge sampleMethods).methods =
        .merge [sampleFields.methods, sampleMethods.methods] ∧
      (sampleClass.template.merge sampleMethods).methods =
        .merge [sampleClass.template.methods, sampleMethods.methods]) ∧
    (sampleClass.template.merge sampleFields).merge sampleMethods =
      sampleClass.template.merge (sampleFields.merge sampleMethods) :=
  have template := Reachable.template sampleClass
  have fields := reachable_sampleFields
  have methods := reachable_sampleMethods
  ⟨⟨(merge_shortcuts_are_exact _ _ _ template fields methods).2.1,
      (merge_shortcuts_are_exact _ _ _ fields methods template).2.1,
      (merge_shortcuts_are_exact _ _ _ template methods fields).2.1⟩,
    (merge_shortcuts_are_exact _ _ _ template fields methods).2.2⟩

end RecordOf
end ScriptCore
