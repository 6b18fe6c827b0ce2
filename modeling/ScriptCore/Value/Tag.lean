/-!
# Value tags

Every value carries one of nine tags. A tag has a name for messages and a
letter for prototypes; the letter is read without regard to ASCII case.
-/

namespace ScriptCore

/-- The kind of a value. -/
inductive Tag where
  | void
  | bool
  | int
  | float
  | str
  | array
  | record
  | function
  | resource
deriving DecidableEq

namespace Tag

/-- All tags in their fixed order. -/
def all : List Tag :=
  [.void, .bool, .int, .float, .str, .array, .record, .function, .resource]

/-- The name of a tag in messages. -/
def name : Tag → String
  | void => "void"
  | bool => "bool"
  | int => "int"
  | float => "float"
  | str => "string"
  | array => "array"
  | record => "record"
  | function => "function"
  | resource => "resource"

/-- The lowercase prototype letter of a tag. -/
def code : Tag → Char
  | void => 'v'
  | bool => 'b'
  | int => 'i'
  | float => 'f'
  | str => 's'
  | array => 'a'
  | record => 'r'
  | function => 'c'
  | resource => 'h'

/-- The tag of a prototype letter in either case. -/
def ofCode? (char : Char) : Option Tag :=
  all.find? fun tag => tag.code == char.toLower

/-- The code of a tag stands for it. -/
theorem ofCode?_code (tag : Tag) : ofCode? tag.code = some tag := by
  cases tag <;> decide

/-- The tag of a name. -/
def ofName? (name : String) : Option Tag :=
  all.find? fun tag => tag.name == name

/-- The name of a tag stands for it. -/
theorem ofName?_name (tag : Tag) : ofName? tag.name = some tag := by
  cases tag <;> decide

/-- The tag as a capitalised word. -/
def word : Tag → String
  | void => "Void"
  | bool => "Bool"
  | int => "Int"
  | float => "Float"
  | str => "Str"
  | array => "Array"
  | record => "Record"
  | function => "Function"
  | resource => "Resource"

end Tag
end ScriptCore
