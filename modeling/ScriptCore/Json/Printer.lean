import ScriptCore.Json.Basic

/-!
# JSON text

The text of a JSON value is compact: no blanks between tokens. Strings escape
the quote, the backslash and the control characters; everything else stands for
itself.
-/

namespace ScriptCore
namespace Json

/-- The form of one character in a string. -/
def escapeChar (char : Char) : List Char :=
  if char = '\x22' then ['\\', '\x22']
  else if char = '\\' then ['\\', '\\']
  else if char = '\x08' then ['\\', 'b']
  else if char = '\x0c' then ['\\', 'f']
  else if char = '\n' then ['\\', 'n']
  else if char = '\r' then ['\\', 'r']
  else if char = '\t' then ['\\', 't']
  else if char.toNat < 0x20 then
    ['\\', 'u', '0', '0', Nat.digitChar (char.toNat / 16), Nat.digitChar (char.toNat % 16)]
  else [char]

/-- A quoted string. -/
def stringText (text : String) : List Char :=
  '\x22' :: text.toList.flatMap escapeChar ++ ['\x22']

/-- Parts with commas between them. -/
def commaSeparated : List (List Char) → List Char
  | [] => []
  | [part] => part
  | part :: parts => part ++ ',' :: commaSeparated parts

mutual

/-- The characters of a JSON value. -/
def chars : Json → List Char
  | null => ['n', 'u', 'l', 'l']
  | bool true => ['t', 'r', 'u', 'e']
  | bool false => ['f', 'a', 'l', 's', 'e']
  | integer n => (toString n).toList
  | float x => (FloatLayout.json.finite x).toList
  | string text => stringText text
  | array items => '[' :: commaSeparated (itemChars items) ++ [']']
  | object members => '\x7b' :: commaSeparated (memberChars members) ++ ['\x7d']
termination_by structural json => json

/-- The texts of the items of an array. -/
def itemChars : List Json → List (List Char)
  | [] => []
  | item :: items => item.chars :: itemChars items
termination_by structural items => items

/-- The texts of the members of an object. -/
def memberChars : List (String × Json) → List (List Char)
  | [] => []
  | (name, value) :: members => (stringText name ++ ':' :: value.chars) :: memberChars members
termination_by structural members => members

end

/-- The text of a JSON value. -/
def toText (json : Json) : String :=
  String.ofList json.chars

end Json
end ScriptCore
