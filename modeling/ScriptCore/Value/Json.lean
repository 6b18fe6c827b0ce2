import ScriptCore.Json.Printer
import ScriptCore.Value.Coerce

/-!
# Values as JSON

An array without keys is a JSON array of its live values. An array with a key is
an object in slot order, where an unkeyed slot takes its position as its name,
with `#` put in front until the name is free. A record is an object of its keyed
fields. Functions and resources are shown by name and kind.

Back from JSON, null is void and an object is an array of keyed slots.
-/

namespace ScriptCore
namespace Value

/-- A name with a number of `#` in front. -/
def hashed (count : Nat) (name : String) : String :=
  String.ofList (List.replicate count '#') ++ name

/-- Put the least number of `#` before a name that makes it free. Among more
candidates than there are names one is free. -/
def freeName (isTaken : String → Bool) (candidates : Nat) (name : String) : String :=
  match (List.range candidates).find? fun count => !isTaken (hashed count name) with
  | some count => hashed count name
  | none => hashed candidates name

/-- The member name of the unkeyed slot at a position. -/
def positionName (keys : List String) (members : List (String × Json)) (index : Nat) : String :=
  freeName (fun name => keys.contains name || Json.hasMember members name)
    (keys.length + members.length + 1) (toString index)

mutual

/-- The JSON form of a value. -/
def toJson : Value → Json
  | void => .null
  | bool value => .bool value
  | int n => .integer n.toInt
  | float x => Json.ofFloat x
  | str bytes => .string (Utf8.text bytes)
  | array ⟨⟨slots⟩, _, _, _, _⟩ =>
      let keys := slots.filterMap Slot.key?
      if keys.isEmpty then .array (jsonItems slots)
      else .object (jsonMembers keys 0 [] slots)
  | record ⟨_, ⟨⟨slots⟩, _, _, _, _⟩, _⟩ => .object (jsonFields [] slots)
  | function f => .string ("<function " ++ f.name ++ ">")
  | resource ref => .string ("<resource " ++ ref.kind ++ ">")
termination_by structural value => value

/-- The live values of an array. -/
def jsonItems : List (Slot Value) → List Json
  | [] => []
  | .vacant :: slots => jsonItems slots
  | .item value :: slots => value.toJson :: jsonItems slots
  | .entry _ value :: slots => value.toJson :: jsonItems slots
termination_by structural slots => slots

/-- The members of an array with the given keys, from a position on, after the
members already made. -/
def jsonMembers (keys : List String) (index : Nat) (members : List (String × Json)) :
    List (Slot Value) → List (String × Json)
  | [] => members
  | .vacant :: slots => jsonMembers keys (index + 1) members slots
  | .item value :: slots =>
      let name := positionName keys members index
      jsonMembers keys (index + 1) (Json.insertMember members name value.toJson) slots
  | .entry key value :: slots =>
      jsonMembers keys (index + 1) (Json.insertMember members key value.toJson) slots
termination_by structural slots => slots

/-- The members of a record. -/
def jsonFields (members : List (String × Json)) : List (Slot Value) → List (String × Json)
  | [] => members
  | .vacant :: slots => jsonFields members slots
  | .item _ :: slots => jsonFields members slots
  | .entry key value :: slots => jsonFields (Json.insertMember members key value.toJson) slots
termination_by structural slots => slots

end

/-- The JSON text of a value. -/
def jsonText (value : Value) : String :=
  value.toJson.toText

/-- The number value of a JSON integer: an integer as far as 64 bits reach. -/
def ofJsonInteger (n : Int) : Value :=
  match Numeral.checked n with
  | some n => int (Int64.ofInt n)
  | none => float (Binary64.ofInt n)

mutual

variable [KeyHash]

/-- The value of a JSON value. -/
def ofJson : Json → Value
  | .null => void
  | .bool value => bool value
  | .integer n => ofJsonInteger n
  | .float x => float x
  | .string text => ofText text
  | .array items => array (OrderedMap.ofValues (ofJsonItems items))
  | .object members => array (OrderedMap.ofPairs (ofJsonMembers members))
termination_by structural json => json

/-- The values of the items of a JSON array. -/
def ofJsonItems : List Json → List Value
  | [] => []
  | item :: items => ofJson item :: ofJsonItems items
termination_by structural items => items

/-- The named values of the members of a JSON object. -/
def ofJsonMembers : List (String × Json) → List (String × Value)
  | [] => []
  | (name, value) :: members => (name, ofJson value) :: ofJsonMembers members
termination_by structural members => members

end

end Value
end ScriptCore
