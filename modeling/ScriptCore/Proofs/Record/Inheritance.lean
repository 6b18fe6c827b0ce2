import ScriptCore.OrderedMap.Spread
import ScriptCore.Proofs.Record.Merging
import ScriptCore.Proofs.Value.StrictEquality

/-!
# Inheritance

The template of a class is the merge of what its chain declares, most distant
ancestor first. Whatever a name means in a new instance is therefore decided by
the most derived class that declares it, while the fields keep the places that
the most ancient declarations gave them.
-/

namespace ScriptCore

/-! ## Declarations -/

namespace ClassDecl

variable [KeyHash]

/-- The declarations that can be made, one part at a time. -/
inductive Declared : ClassDecl → Prop where
  | new (name : String) : Declared { name, fields := .empty, methods := [], constructor? := none }
  | field {decl : ClassDecl} (declared : Declared decl) (name : String) (default : Value) :
      Declared { decl with fields := decl.fields.insert name default }
  | method {decl : ClassDecl} (declared : Declared decl) (signature : Signature) :
      Declared { decl with methods := decl.methods ++ [signature] }
  | constructor {decl : ClassDecl} (declared : Declared decl) (signature : Signature) :
      Declared { decl with constructor? := some signature }

/-- A method of the name is declared. -/
def DeclaresMethod (decl : ClassDecl) (name : String) : Prop :=
  ∃ signature ∈ decl.methods, signature.name = name

/-- The fields of a declared class are a dictionary. -/
theorem Declared.dictionary {decl : ClassDecl} (declared : decl.Declared) :
    decl.fields.Dictionary := by
  induction declared with
  | new => exact OrderedMap.dictionary_empty
  | field _ name default ih => exact ih.insert name default
  | method _ _ ih => exact ih
  | constructor _ _ ih => exact ih

/-- Every list of fields and methods can be declared. -/
theorem declared_ofPairs
    (name : String)
    (fields : List (String × Value))
    (methods : List Signature)
    (constructor? : Option Signature) :
    Declared { name, fields := .ofPairs fields, methods, constructor? } := by
  have withFields :
      Declared { name, fields := .ofPairs fields, methods := [], constructor? := none } :=
    OrderedMap.ofPairs_induction
      (motive := fun fields => Declared { name, fields, methods := [], constructor? := none })
      fields (.new name) fun _ declared field _ => declared.field field.1 field.2
  have withMethods :
      Declared { name, fields := .ofPairs fields, methods, constructor? := none } := by
    induction methods using List.reverseRecOn with
    | nil => exact withFields
    | append_singleton methods signature ih =>
        exact ih.method signature
  cases constructor? with
  | none => exact withMethods
  | some signature => exact withMethods.constructor signature

theorem Declared.isSome_default {decl : ClassDecl} (declared : decl.Declared) (name : String) :
    (decl.fields.get? name).isSome = true ↔ name ∈ decl.fields.keys := by
  rw [OrderedMap.isSome_get?, declared.dictionary.grown.coherent.contains_iff]

end ClassDecl

/-! ## Own records -/

namespace RecordOf

/-- The overload set that signatures attached in a row have under a name. -/
def attached? (signatures : List Signature) (name : String) : Option Function :=
  match signatures.filter fun signature => signature.name == name with
  | [] => none
  | overloads => some { name, overloads }

/-- One more signature is an overload of the method of its name. -/
theorem attached?_concat (signatures : List Signature) (signature : Signature) (name : String) :
    attached? (signatures ++ [signature]) name =
      if name = signature.name then some (overloaded signature (attached? signatures name))
      else attached? signatures name := by
  unfold attached?
  rw [List.filter_append]
  by_cases same : name = signature.name
  · cases signatures.filter fun signature => signature.name == name <;>
      simp [same, overloaded, Function.ofSignature, Function.push]
  · simp [same, Ne.symm same]

variable [KeyHash]

/-- Methods that are attached to a record without methods form overload sets,
oldest first. -/
theorem method?_foldl_addMethod
    {record : Record}
    (bare : record.methods = .empty)
    (signatures : List Signature)
    (name : String) :
    (signatures.foldl addMethod record).method? name = attached? signatures name := by
  have start : record.methods.Dictionary := bare ▸ OrderedMap.dictionary_empty
  induction signatures using List.reverseRecOn with
  | nil =>
      rw [List.foldl_nil, method?, bare, OrderedMap.coherent_empty.get?_eq,
        OrderedMap.toList_empty]
      rfl
  | append_singleton signatures signature ih =>
      have dictionary := dictionary_foldl_addMethod start signatures
      rw [List.foldl_concat, method?, methods_addMethod,
        dictionary.grown.coherent.get?_insert, attached?_concat]
      split
      · next same => rw [← same, ih]
      · exact ih

end RecordOf

namespace ClassDecl

variable [KeyHash]

theorem className_ownRecord (decl : ClassDecl) : decl.ownRecord.className = some decl.name :=
  List.foldlRecOn (motive := fun record : Record => record.className = some decl.name)
    decl.methods _ rfl fun _ same _ _ => same

theorem fields_ownRecord (decl : ClassDecl) :
    decl.ownRecord.fields = decl.fields.mapValues Value.deepCopy :=
  List.foldlRecOn
    (motive := fun record : Record => record.fields = decl.fields.mapValues Value.deepCopy)
    decl.methods _ rfl fun _ same _ _ => same

theorem Declared.ownFields {decl : ClassDecl} (declared : decl.Declared) :
    decl.ownRecord.fields.Dictionary := by
  rw [fields_ownRecord]
  exact declared.dictionary.mapValues Value.deepCopy

theorem Declared.field?_ownRecord
    {decl : ClassDecl}
    (declared : decl.Declared)
    (name : String) :
    decl.ownRecord.field? name = (decl.fields.get? name).map Value.deepCopy := by
  rw [RecordOf.field?, fields_ownRecord, declared.dictionary.grown.coherent.get?_mapValues]

/-- A class by itself has exactly the methods it declares. -/
theorem isSome_method?_ownRecord (decl : ClassDecl) (name : String) :
    (decl.ownRecord.method? name).isSome = true ↔ decl.DeclaresMethod name := by
  rw [ownRecord, RecordOf.method?_foldl_addMethod rfl, RecordOf.attached?]
  split
  · next none =>
    simpa [DeclaresMethod] using none
  · next some =>
    simpa [DeclaresMethod] using some

/-- A method of a class by itself has all the overloads declared for it. -/
theorem method?_ownRecord
    {decl : ClassDecl}
    {name : String}
    (declares : decl.DeclaresMethod name) :
    decl.ownRecord.method? name =
      some { name, overloads := decl.methods.filter fun signature => signature.name == name } := by
  rw [← isSome_method?_ownRecord] at declares
  rw [ownRecord, RecordOf.method?_foldl_addMethod rfl, RecordOf.attached?] at declares ⊢
  split at declares
  · cases declares
  · rfl

/-! ## Templates -/

theorem className_templateOver (decl : ClassDecl) (ancestors : List ClassDecl) :
    (decl.templateOver ancestors).className = some decl.name := by
  cases ancestors with
  | nil => exact decl.className_ownRecord
  | cons parent ancestors => rfl

/-- A merge along a chain goes one class further. -/
theorem merge_chain_cons
    {α : Type}
    (part : ClassDecl → OrderedMap α)
    (decl : ClassDecl)
    (chain : List ClassDecl) :
    OrderedMap.merge [.merge (chain.reverse.map part), part decl] =
      .merge ((decl :: chain).reverse.map part) := by
  rw [List.reverse_cons, List.map_append]
  exact OrderedMap.merge_flatten [] (chain.reverse.map part) [part decl]

/-- The fields of a template are those of the chain, merged from the most distant
ancestor on. -/
theorem fields_templateOver
    (decl : ClassDecl)
    (ancestors : List ClassDecl)
    (declared : ∀ other ∈ decl :: ancestors, other.Declared) :
    (decl.templateOver ancestors).fields =
      .merge ((decl :: ancestors).reverse.map fun other => other.ownRecord.fields) := by
  induction ancestors generalizing decl with
  | nil =>
      exact (declared decl (List.mem_singleton.mpr rfl)).ownFields.merge_singleton.symm
  | cons parent ancestors ih =>
      rw [List.forall_mem_cons] at declared
      change OrderedMap.merge [(parent.templateOver ancestors).fields, decl.ownRecord.fields] = _
      rw [ih parent declared.2]
      exact merge_chain_cons (fun other => other.ownRecord.fields) decl (parent :: ancestors)

/-- So are the method tables. -/
theorem methods_templateOver (decl : ClassDecl) (ancestors : List ClassDecl) :
    (decl.templateOver ancestors).methods =
      .merge ((decl :: ancestors).reverse.map fun other => other.ownRecord.methods) := by
  induction ancestors generalizing decl with
  | nil => exact decl.dictionary_ownRecord.merge_singleton.symm
  | cons parent ancestors ih =>
      have merged := RecordOf.mergeMethods_eq
        (parent.dictionary_templateOver ancestors) decl.dictionary_ownRecord
      refine Eq.trans merged ?_
      rw [ih parent]
      exact merge_chain_cons (fun other => other.ownRecord.methods) decl (parent :: ancestors)

end ClassDecl

/-! ## The most derived declaration -/

namespace Class

/-- The most derived class of a chain with a property. -/
def Nearest (cls : Class) (has : ClassDecl → Prop) (decl : ClassDecl) : Prop :=
  ∃ derived ancient, cls.chain = derived ++ decl :: ancient ∧ has decl ∧
    ∀ other ∈ derived, ¬has other

/-- The field names of a chain, most distant ancestor first, each name where it
is declared first. -/
def fieldOrder (cls : Class) : List String :=
  (cls.chain.reverse.flatMap fun decl => decl.fields.keys).eraseDups

variable {cls : Class} {β : Type}

/-- The nearest class with something is in the chain. -/
theorem Nearest.mem
    {has : ClassDecl → Prop}
    {decl : ClassDecl}
    (nearest : cls.Nearest has decl) :
    decl ∈ cls.chain := by
  obtain ⟨derived, ancient, split, -⟩ := nearest
  simp [split]

/-- The nearest class with something has it. -/
theorem Nearest.has
    {has : ClassDecl → Prop}
    {decl : ClassDecl}
    (nearest : cls.Nearest has decl) :
    has decl := by
  obtain ⟨derived, ancient, -, here, -⟩ := nearest
  exact here

/-- A search along the chain ends at the most derived class with an answer. -/
theorem findSome?_chain
    {has : ClassDecl → Prop}
    {answer : ClassDecl → Option β}
    (answers : ∀ other ∈ cls.chain, (answer other).isSome = true ↔ has other)
    {found : β} :
    cls.chain.findSome? answer = some found ↔
      ∃ decl, cls.Nearest has decl ∧ answer decl = some found := by
  rw [List.findSome?_eq_some_iff]
  constructor
  · rintro ⟨derived, decl, ancient, split, here, before⟩
    rw [split] at answers
    refine ⟨decl, ⟨derived, ancient, split, ?_, ?_⟩, here⟩
    · exact (answers decl (by simp)).mp (by simp [here])
    · intro other member present
      have answered := (answers other (by simp [member])).mpr present
      simp [before other member] at answered
  · rintro ⟨decl, ⟨derived, ancient, split, -, before⟩, here⟩
    rw [split] at answers
    refine ⟨derived, decl, ancient, split, here, ?_⟩
    intro other member
    have silent := mt (answers other (by simp [member])).mp (before other member)
    simpa using silent

section

variable [KeyHash]

/-- A merge along the chain answers as the most derived class does. -/
theorem get?_merge_chain
    {part : ClassDecl → OrderedMap β}
    (coherent : ∀ decl ∈ cls.chain, (part decl).Coherent)
    (key : String) :
    (OrderedMap.merge (cls.chain.reverse.map part)).get? key =
      cls.chain.findSome? fun decl => (part decl).get? key := by
  have inputs : ∀ map ∈ cls.chain.reverse.map part, map.Coherent := by
    simpa using coherent
  rw [(OrderedMap.mergeOf_merge inputs).get?_eq, List.map_reverse, List.reverse_reverse,
    List.findSome?_map]
  rfl

theorem field?_template
    (declared : ∀ decl ∈ cls.chain, decl.Declared)
    (name : String) :
    cls.template.field? name = cls.chain.findSome? fun decl => decl.ownRecord.field? name := by
  rw [RecordOf.field?, template, ClassDecl.fields_templateOver _ _ declared]
  exact get?_merge_chain (fun decl member => (declared decl member).ownFields.grown.coherent) name

/-- A method of the template comes from the first class of the chain that has
it. -/
theorem method?_template (name : String) :
    cls.template.method? name = cls.chain.findSome? fun decl => decl.ownRecord.method? name := by
  rw [RecordOf.method?, template, ClassDecl.methods_templateOver]
  exact get?_merge_chain (fun decl _ => decl.dictionary_ownRecord.grown.coherent) name

/-- The fields of the template are in the order in which the chain introduces
them, the root first. -/
theorem fieldNames_template (declared : ∀ decl ∈ cls.chain, decl.Declared) :
    cls.template.fieldNames = cls.fieldOrder := by
  rw [RecordOf.fieldNames, template, ClassDecl.fields_templateOver _ _ declared,
    OrderedMap.keys_merge, List.flatMap_map]
  simp only [ClassDecl.fields_ownRecord, OrderedMap.keys_mapValues]
  rfl

/-- What the declarations of a chain demand of a new instance. -/
structure Instance (cls : Class) (record : Record) : Prop where
  className_eq : record.className = some cls.name
  /-- The slots are the declared fields in order. -/
  named : ∀ slot ∈ record.fields.toList, ∃ name value, slot = .entry name value
  fieldNames_eq : record.fieldNames = cls.fieldOrder
  mem_fieldNames : ∀ name,
    name ∈ record.fieldNames ↔ ∃ decl ∈ cls.chain, name ∈ decl.fields.keys
  /-- A field has a copy of the most derived default. -/
  field : ∀ name value, record.field? name = some value ↔
    ∃ decl default, cls.Nearest (fun other => name ∈ other.fields.keys) decl ∧
      decl.fields.get? name = some default ∧ value = default.deepCopy ∧ Value.Same value default
  isSome_method : ∀ name,
    (record.method? name).isSome = true ↔ ∃ decl ∈ cls.chain, decl.DeclaresMethod name
  /-- The overloads of a method are those of the most derived class alone. -/
  method : ∀ name function, record.method? name = some function ↔
    ∃ decl, cls.Nearest (fun other => other.DeclaresMethod name) decl ∧
      function =
        { name, overloads := decl.methods.filter fun signature => signature.name == name }

/-- The template of a chain of declared classes has all the properties of an
instance. -/
theorem instance_template (declared : ∀ decl ∈ cls.chain, decl.Declared) :
    cls.Instance cls.template where
  className_eq := cls.decl.className_templateOver cls.ancestors
  named := by
    rw [template, ClassDecl.fields_templateOver _ _ declared]
    apply (OrderedMap.dictionary_merge _).keyed
    intro map member
    obtain ⟨decl, inChain, rfl⟩ := List.mem_map.mp member
    exact (declared decl (List.mem_reverse.mp inChain)).ownFields
  fieldNames_eq := fieldNames_template declared
  mem_fieldNames name := by
    rw [fieldNames_template declared, fieldOrder, List.mem_eraseDups, List.mem_flatMap]
    simp
  field name value := by
    have answers : ∀ other ∈ cls.chain,
        (other.ownRecord.field? name).isSome = true ↔ name ∈ other.fields.keys := by
      intro other member
      rw [(declared other member).field?_ownRecord, Option.isSome_map]
      exact (declared other member).isSome_default name
    rw [field?_template declared, findSome?_chain answers]
    constructor
    · rintro ⟨decl, nearest, found⟩
      rw [(declared decl nearest.mem).field?_ownRecord, Option.map_eq_some_iff] at found
      obtain ⟨default, there, rfl⟩ := found
      exact ⟨decl, default, nearest, there, rfl, Value.same_deepCopy default⟩
    · rintro ⟨decl, default, nearest, there, rfl, -⟩
      refine ⟨decl, nearest, ?_⟩
      rw [(declared decl nearest.mem).field?_ownRecord, there]
      rfl
  isSome_method name := by
    simp [method?_template, ClassDecl.isSome_method?_ownRecord]
  method name function := by
    rw [method?_template,
      findSome?_chain fun other _ => other.isSome_method?_ownRecord name]
    constructor
    · rintro ⟨decl, nearest, found⟩
      rw [ClassDecl.method?_ownRecord nearest.has, Option.some.injEq] at found
      exact ⟨decl, nearest, found.symm⟩
    · rintro ⟨decl, nearest, rfl⟩
      exact ⟨decl, nearest, ClassDecl.method?_ownRecord nearest.has⟩

/-- The template of a class is an instance of it, the constructor is the most
derived one, and a class is exactly what the names of its chain say. -/
theorem inheritance_takes_the_nearest_definition
    (cls : Class)
    (declared : ∀ decl ∈ cls.chain, decl.Declared) :
    cls.Instance cls.template ∧
    (∀ signature, cls.findConstructor? = some signature ↔
      ∃ decl, cls.Nearest (fun other => other.constructor?.isSome) decl ∧
        decl.constructor? = some signature) ∧
    ∀ name, cls.isA name = true ↔ ∃ decl ∈ cls.chain, decl.name = name := by
  refine ⟨instance_template declared, ?_, ?_⟩
  · exact fun signature => findSome?_chain fun _ _ => Iff.rfl
  · simp [isA]

end

/-- A method of the given identity. -/
def sampleSignature (id : Nat) (name : String) : Signature :=
  ⟨id, name, ⟨[]⟩, 'v', .user [] []⟩

def sampleShape : ClassDecl where
  name := "Shape"
  fields := .ofPairs [("label", .bool true), ("color", .int 1)]
  methods := [sampleSignature 1 "show", sampleSignature 2 "show"]
  constructor? := some (sampleSignature 3 "shape")

def samplePolygon : ClassDecl where
  name := "Polygon"
  fields := .ofPairs [("sides", .int 0), ("label", .void)]
  methods := [sampleSignature 4 "area", sampleSignature 5 "show", sampleSignature 6 "area"]
  constructor? := some (sampleSignature 7 "polygon")

def sampleSquare : ClassDecl where
  name := "Square"
  fields := .ofPairs [("color", .int 3), ("sides", .int 4)]
  methods := [sampleSignature 8 "diagonal"]
  constructor? := none

/-- Three classes that declare some of their names anew. -/
def sampleChain : Class where
  decl := sampleSquare
  ancestors := [samplePolygon, sampleShape]

/-- A field and a method that are overridden in a chain of three classes. -/
theorem sampleChain_takes_the_nearest_definition :
    (∀ decl ∈ sampleChain.chain, decl.Declared) ∧
      sampleChain.template.fieldNames = ["label", "color", "sides"] ∧
      sampleChain.template.field? "label" = some .void ∧
      sampleChain.template.method? "area" =
        some { name := "area", overloads := [sampleSignature 4 "area", sampleSignature 6 "area"] } ∧
      sampleChain.template.method? "show" =
        some { name := "show", overloads := [sampleSignature 5 "show"] } ∧
      sampleChain.findConstructor? = some (sampleSignature 7 "polygon") ∧
      sampleChain.isA "Shape" = true := by
  have declared : ∀ decl ∈ sampleChain.chain, decl.Declared := by
    intro decl member
    simp only [sampleChain, chain, List.mem_cons, List.not_mem_nil, or_false] at member
    rcases member with rfl | rfl | rfl <;> exact ClassDecl.declared_ofPairs ..
  obtain ⟨template, constructor, isA⟩ :=
    inheritance_takes_the_nearest_definition sampleChain declared
  have nearest (has : ClassDecl → Prop) (here : has samplePolygon) (below : ¬has sampleSquare) :
      sampleChain.Nearest has samplePolygon :=
    ⟨[sampleSquare], [sampleShape], rfl, here, by simpa using below⟩
  refine ⟨declared, template.fieldNames_eq.trans (by decide +kernel),
    (template.field "label" .void).mpr
      ⟨samplePolygon, .void, nearest _ (by decide) (by decide), by rfl, rfl, rfl⟩,
    (template.method "area" _).mpr ⟨samplePolygon, nearest _ ?_ ?_, rfl⟩,
    (template.method "show" _).mpr ⟨samplePolygon, nearest _ ?_ ?_, rfl⟩,
    (constructor _).mpr ⟨samplePolygon, nearest _ rfl (by simp [sampleSquare]), rfl⟩,
    (isA "Shape").mpr ⟨sampleShape, by simp [chain, sampleChain], rfl⟩⟩
  all_goals simp [ClassDecl.DeclaresMethod, samplePolygon, sampleSquare, sampleSignature]

end Class
end ScriptCore
