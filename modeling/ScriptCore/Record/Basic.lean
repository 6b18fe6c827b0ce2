import ScriptCore.Value.Equal

/-!
# Records

A record has ordered fields, an optional class name and a table of methods. A
method is an overload set under its name. Merging two records lets the right one
win, field by field and method by method.
-/

namespace ScriptCore
namespace RecordOf

/-- A record without class, fields and methods. -/
def empty : Record :=
  { className := none, fields := .empty, methods := .empty }

/-- A record with a class name only. -/
def ofClass (className : String) : Record :=
  { empty with className := some className }

variable [KeyHash]

def field? (record : Record) (name : String) : Option Value :=
  record.fields.get? name

/-- Write a field. The answer is the value that it had. -/
def setFieldReturning (record : Record) (name : String) (value : Value) : Option Value × Record :=
  let (previous, fields) := record.fields.insertReturning name value
  (previous, { record with fields })

/-- Write a field. -/
def setField (record : Record) (name : String) (value : Value) : Record :=
  (record.setFieldReturning name value).2

/-- Remove a field. The answer is the value that it had. -/
def removeFieldReturning (record : Record) (name : String) : Option Value × Record :=
  let (previous, fields) := record.fields.eraseReturning name
  (previous, { record with fields })

/-- Remove a field. -/
def removeField (record : Record) (name : String) : Record :=
  (record.removeFieldReturning name).2

@[simp] theorem setFieldReturning_fst (record : Record) (name : String) (value : Value) :
    (record.setFieldReturning name value).1 = record.field? name :=
  record.fields.insertReturning_fst name value

@[simp] theorem removeFieldReturning_fst (record : Record) (name : String) :
    (record.removeFieldReturning name).1 = record.field? name :=
  record.fields.eraseReturning_fst name

def fieldNames (record : Record) : List String :=
  record.fields.keys

def method? (record : Record) (name : String) : Option Function :=
  record.methods.get? name

/-- Attach a method; a method of the same name gains an overload. -/
def addMethod (record : Record) (signature : Signature) : Record :=
  let methods :=
    match record.methods.get? signature.name with
    | some function => record.methods.insert signature.name (function.push signature)
    | none => record.methods.insert signature.name (.ofSignature signature)
  { record with methods }

/-- The method table of a merge. An empty table leaves the other one as it
is. -/
def mergeMethods (left right : OrderedMap Function) : OrderedMap Function :=
  if right.isEmpty then left
  else if left.isEmpty then right
  else .merge [left, right]

/-- Merge two records; the right one wins, but the class of the left one is
kept. -/
def merge (left right : Record) : Record :=
  { className := left.className.or right.className
    fields := .merge [left.fields, right.fields]
    methods := mergeMethods left.methods right.methods }

/-- A copy with copied fields and the same method table. -/
def deepCopy (record : Record) : Record :=
  { record with fields := record.fields.mapValues Value.deepCopy }

/-- The same class, fields and methods. -/
def strictEq (left right : Record) : Bool :=
  left.className == right.className && left.fields.strictEq right.fields &&
    sameMethods left.methods right.methods

end RecordOf
end ScriptCore
