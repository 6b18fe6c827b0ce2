import ScriptCore.Text.Extender
import ScriptCore.Text.Hidden

/-!
# Quoted text

Strings inside arrays and records, prototypes and variable names in messages
are shown between quotes. A backslash, the enclosing quote and five control
characters have short escapes; a character without a visible form of its own is
written by its code point in braces; everything else stands for itself.

Each character is escaped on its own, so the quoted form of a text is the
concatenation of the forms of its characters.
-/

namespace ScriptCore
namespace Text

/-- The halfwidth sound marks of Katakana, the only extenders that are letters
and not marks: they are visible without a base. -/
def isSoundMark (char : Char) : Bool :=
  char.toNat = 0xFF9E || char.toNat = 0xFF9F

/-- A character that stands for itself between quotes. Printable ASCII is
decided without a table. -/
def isPlain (char : Char) : Bool :=
  if char.toNat < 0x7F then 0x20 ≤ char.toNat
  else isSoundMark char || (!isExtender char && !isHidden char)

/-- A code point in braces, as lowercase hexadecimal digits. -/
def codePointEscape (char : Char) : List Char :=
  ['\\', 'u', '\x7b'] ++ Nat.toDigits 16 char.toNat ++ ['\x7d']

/-- The form of one character between the given quotes. -/
def escapeChar (quote : Char) (char : Char) : List Char :=
  if char = '\x00' then ['\\', '0']
  else if char = '\t' then ['\\', 't']
  else if char = '\r' then ['\\', 'r']
  else if char = '\n' then ['\\', 'n']
  else if char = '\\' || char = quote then ['\\', char]
  else if isPlain char then [char]
  else codePointEscape char

/-- The characters of a text between the given quotes. -/
def quotedWith (quote : Char) (chars : List Char) : List Char :=
  quote :: chars.flatMap (escapeChar quote) ++ [quote]

/-- A text between double quotes. -/
def quoted (text : String) : String :=
  String.ofList (quotedWith '\x22' text.toList)

/-- A character between single quotes. -/
def quotedChar (char : Char) : String :=
  String.ofList (quotedWith '\x27' [char])

end Text
end ScriptCore
