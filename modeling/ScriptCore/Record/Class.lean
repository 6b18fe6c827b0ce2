import ScriptCore.Record.Basic

/-!
# Classes

A class is a chain of declarations from the class itself to its most distant
ancestor. Its template is the record of a new instance: the fields and methods
of the ancestors, overridden by those of the class.
-/

namespace ScriptCore

/-- What one class declares. -/
structure ClassDecl where
  name : String
  fields : OrderedMap Value
  methods : List Signature
  constructor? : Option Signature

variable [KeyHash]

namespace ClassDecl

/-- The record of the declared fields and methods alone. -/
def ownRecord (decl : ClassDecl) : Record :=
  decl.methods.foldl RecordOf.addMethod
    { RecordOf.ofClass decl.name with fields := decl.fields.mapValues Value.deepCopy }

/-- The template of a declaration with the given ancestors, nearest first. -/
def templateOver (decl : ClassDecl) : List ClassDecl → Record
  | [] => decl.ownRecord
  | parent :: ancestors =>
      { (parent.templateOver ancestors).merge decl.ownRecord with className := some decl.name }

end ClassDecl

/-- A declaration with its ancestors, nearest first. -/
structure Class where
  decl : ClassDecl
  ancestors : List ClassDecl

namespace Class

def name (cls : Class) : String :=
  cls.decl.name

/-- The class and its ancestors, nearest first. -/
def chain (cls : Class) : List ClassDecl :=
  cls.decl :: cls.ancestors

/-- The class that this one extends. -/
def parent? (cls : Class) : Option Class :=
  match cls.ancestors with
  | [] => none
  | parent :: ancestors => some { decl := parent, ancestors }

/-- A class that extends a parent. -/
def extending (decl : ClassDecl) (parent? : Option Class) : Class :=
  { decl, ancestors := (parent?.map chain).getD [] }

/-- The constructor of the nearest class that has one. -/
def findConstructor? (cls : Class) : Option Signature :=
  cls.chain.findSome? ClassDecl.constructor?

/-- The record of a new instance. -/
def template (cls : Class) : Record :=
  cls.decl.templateOver cls.ancestors

/-- Whether a class of that name is in the chain. -/
def isA (cls : Class) (name : String) : Bool :=
  cls.chain.any fun decl => decl.name == name

end Class
end ScriptCore
