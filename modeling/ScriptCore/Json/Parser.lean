import ScriptCore.Json.Numeral

/-!
# Reading JSON

The reader accepts exactly one JSON value with blanks around it. Control
characters in strings, surrogates without a partner, leading zeros, trailing
commas and containers nested too deeply are refused. A repeated member keeps
its first place and its last value.

The reader works on characters. Its recursion is bounded by a fuel that the
length of the text always covers.
-/

namespace ScriptCore
namespace Json

/-- Largest number of containers around a value. -/
def maxDepth : Nat := 127

/-- Blanks between tokens. -/
def isBlank (char : Char) : Bool :=
  char = ' ' || char = '\t' || char = '\n' || char = '\r'

def skipBlanks (chars : List Char) : List Char :=
  chars.dropWhile isBlank

/-! ## Strings -/

/-- The value of a hexadecimal digit in either case. -/
def hexValue? (char : Char) : Option Nat :=
  if '0' ≤ char && char ≤ '9' then some (char.toNat - '0'.toNat)
  else if 'a' ≤ char && char ≤ 'f' then some (char.toNat - 'a'.toNat + 10)
  else if 'A' ≤ char && char ≤ 'F' then some (char.toNat - 'A'.toNat + 10)
  else none

/-- The number of four hexadecimal digits. -/
def hexUnit? (a b c d : Char) : Option Nat := do
  let a ← hexValue? a
  let b ← hexValue? b
  let c ← hexValue? c
  let d ← hexValue? d
  return a * 4096 + b * 256 + c * 16 + d

/-- The character of an escape of one letter. -/
def shortEscape? (letter : Char) : Option Char :=
  if letter = '\x22' then some '\x22'
  else if letter = '\\' then some '\\'
  else if letter = '/' then some '/'
  else if letter = 'b' then some '\x08'
  else if letter = 'f' then some '\x0c'
  else if letter = 'n' then some '\n'
  else if letter = 'r' then some '\r'
  else if letter = 't' then some '\t'
  else none

/-- The first unit of a surrogate pair. -/
def isHighSurrogate (unit : Nat) : Bool :=
  0xD800 ≤ unit && unit ≤ 0xDBFF

/-- The second unit of a surrogate pair. -/
def isLowSurrogate (unit : Nat) : Bool :=
  0xDC00 ≤ unit && unit ≤ 0xDFFF

/-- Read a string after its opening quote. -/
def readString : List Char → Option (List Char × List Char)
  | [] => none
  | '\x22' :: rest => some ([], rest)
  | '\\' :: 'u' :: a :: b :: c :: d :: rest => do
      let unit ← hexUnit? a b c d
      if isLowSurrogate unit then none
      else if isHighSurrogate unit then
        match rest with
        | '\\' :: 'u' :: e :: f :: g :: h :: rest₁ => do
            let low ← hexUnit? e f g h
            if isLowSurrogate low then
              let (chars, remaining) ← readString rest₁
              return (Char.ofNat (0x10000 + (unit - 0xD800) * 0x400 + (low - 0xDC00)) :: chars,
                remaining)
            else none
        | _ => none
      else
        let (chars, remaining) ← readString rest
        return (Char.ofNat unit :: chars, remaining)
  | '\\' :: letter :: rest => do
      let char ← shortEscape? letter
      let (chars, remaining) ← readString rest
      return (char :: chars, remaining)
  | char :: rest =>
      if char.toNat < 0x20 || char = '\\' then none
      else do
        let (chars, remaining) ← readString rest
        return (char :: chars, remaining)

/-! ## Values -/

/-- Drop an expected text from the start. -/
def expect? : List Char → List Char → Option (List Char)
  | [], chars => some chars
  | wanted :: more, char :: chars => if wanted = char then expect? more chars else none
  | _ :: _, [] => none

mutual

/-- Read a value inside the given number of containers that may still be
opened. -/
def readValue : Nat → Nat → List Char → Option (Json × List Char)
  | 0, _, _ => none
  | fuel + 1, depth, chars =>
      match skipBlanks chars with
      | 'n' :: rest => (expect? ['u', 'l', 'l'] rest).map fun rest => (null, rest)
      | 't' :: rest => (expect? ['r', 'u', 'e'] rest).map fun rest => (bool true, rest)
      | 'f' :: rest => (expect? ['a', 'l', 's', 'e'] rest).map fun rest => (bool false, rest)
      | '-' :: rest => readNumber true rest
      | '\x22' :: rest =>
          (readString rest).map fun (text, rest) => (string (String.ofList text), rest)
      | '[' :: rest =>
          match depth with
          | 0 => none
          | depth + 1 =>
              match skipBlanks rest with
              | ']' :: rest => some (array [], rest)
              | rest => (readItems fuel depth rest).map fun (items, rest) => (array items, rest)
      | '\x7b' :: rest =>
          match depth with
          | 0 => none
          | depth + 1 =>
              match skipBlanks rest with
              | '\x7d' :: rest => some (object [], rest)
              | rest =>
                  (readMembers fuel depth [] rest).map fun (members, rest) => (object members, rest)
      | rest => readNumber false rest

/-- Read the items of an array up to its closing bracket. -/
def readItems : Nat → Nat → List Char → Option (List Json × List Char)
  | 0, _, _ => none
  | fuel + 1, depth, chars => do
      let (item, rest) ← readValue fuel depth chars
      match skipBlanks rest with
      | ']' :: rest => return ([item], rest)
      | ',' :: rest =>
          let (items, rest) ← readItems fuel depth rest
          return (item :: items, rest)
      | _ => none

/-- Read the members of an object up to its closing brace. -/
def readMembers : Nat → Nat → List (String × Json) → List Char →
    Option (List (String × Json) × List Char)
  | 0, _, _, _ => none
  | fuel + 1, depth, members, chars =>
      match skipBlanks chars with
      | '\x22' :: rest => do
          let (name, rest) ← readString rest
          match skipBlanks rest with
          | ':' :: rest =>
              let (value, rest) ← readValue fuel depth rest
              let members := insertMember members (String.ofList name) value
              match skipBlanks rest with
              | '\x7d' :: rest => return (members, rest)
              | ',' :: rest => readMembers fuel depth members rest
              | _ => none
          | _ => none
      | _ => none

end

/-- Fuel that reading a text never exhausts. -/
def fuelFor (chars : List Char) : Nat :=
  2 * chars.length + 2

/-- Read a text that is one JSON value. -/
def parse? (text : String) : Option Json :=
  let chars := text.toList
  match readValue (fuelFor chars) maxDepth chars with
  | some (json, rest) => if (skipBlanks rest).isEmpty then some json else none
  | none => none

end Json
end ScriptCore
