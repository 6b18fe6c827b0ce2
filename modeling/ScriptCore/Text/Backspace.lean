import ScriptCore.Text.Grapheme

/-!
# Backspaces

A line that does not come from a terminal may hold backspaces; each erases the
grapheme before it that is still there. The size of a grapheme is kept in one
byte, so of a grapheme of 256 bytes or more only the remainder is erased. An
erasure that would cut a character in half is impossible.
-/

namespace ScriptCore
namespace Text

/-- A line under construction: its characters, last first, and the sizes of its
graphemes as they are remembered. -/
structure Draft where
  chars : List Char
  sizes : List Nat

namespace Draft

/-- A line without characters. -/
def empty : Draft := ⟨[], []⟩

/-- The remembered size of a grapheme. -/
def graphemeSize (grapheme : List Char) : Nat :=
  grapheme.foldl (fun size char => size + char.utf8Size) 0 % 256

/-- Add a grapheme. -/
def push (draft : Draft) (grapheme : List Char) : Draft :=
  ⟨grapheme.reverse ++ draft.chars, graphemeSize grapheme :: draft.sizes⟩

/-- Drop characters that together have the given size. -/
def dropBytes? (size : Nat) : List Char → Option (List Char)
  | [] => if size = 0 then some [] else none
  | char :: chars =>
      if size = 0 then some (char :: chars)
      else if char.utf8Size ≤ size then dropBytes? (size - char.utf8Size) chars
      else none

/-- Erase the last grapheme, if there is one. -/
def erase? (draft : Draft) : Option Draft :=
  match draft.sizes with
  | [] => some draft
  | size :: sizes => (dropBytes? size draft.chars).map fun chars => ⟨chars, sizes⟩

/-- Add a grapheme, or erase one for a backspace. -/
def type? (draft : Draft) (grapheme : List Char) : Option Draft :=
  if grapheme = ['\x08'] then draft.erase?
  else some (draft.push grapheme)

end Draft

/-- A line with its backspaces carried out. -/
def applyBackspaces? (line : List Char) : Option (List Char) :=
  ((graphemes line).foldlM Draft.type? Draft.empty).map fun draft => draft.chars.reverse

end Text
end ScriptCore
