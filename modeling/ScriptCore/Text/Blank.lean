/-!
# Blank characters

The line syntax separates words at characters with the Unicode property
White_Space. Numerals skip only the five ASCII blanks.
-/

namespace ScriptCore
namespace Text

/-- Characters with the Unicode property White_Space. -/
def isBlank (char : Char) : Bool :=
  let code := char.toNat
  (0x09 ≤ code && code ≤ 0x0D) || code == 0x20 || code == 0x85 || code == 0xA0 ||
    code == 0x1680 || (0x2000 ≤ code && code ≤ 0x200A) || code == 0x2028 || code == 0x2029 ||
    code == 0x202F || code == 0x205F || code == 0x3000

/-- Blanks before a numeral: space, tab, line feed, form feed and carriage
return. -/
def isNumeralBlank (byte : UInt8) : Bool :=
  byte == 0x20 || byte == 0x09 || byte == 0x0A || byte == 0x0C || byte == 0x0D

/-- Drop blanks at the start. -/
def trimLeft (chars : List Char) : List Char :=
  chars.dropWhile isBlank

/-- Drop blanks at both ends. -/
def trim (chars : List Char) : List Char :=
  (trimLeft (trimLeft chars).reverse).reverse

end Text
end ScriptCore
