/-!
# Edit distance and suggestions

The distance of two texts is the least number of single-character insertions,
deletions and substitutions between them. It is computed row by row, in two rows
of scratch space that are swapped after each character. A suggestion for an
unknown name is the first of the nearest candidates within a threshold.
-/

namespace ScriptCore
namespace Suggest

/-- Two rows of the distance table: the one before, and scratch space for the
next one, with entries of an older row in it. -/
structure Rows where
  previous : Array Nat
  current : Array Nat

/-- Write the entry after a column, from the entry to its left and the two above. -/
def writeEntry (char target : Char) (previous : Array Nat) (column : Nat) (current : Array Nat) :
    Array Nat :=
  let substitution := previous.getD column 0 + if char = target then 0 else 1
  let deletion := previous.getD (column + 1) 0 + 1
  let insertion := current.getD column 0 + 1
  current.setIfInBounds (column + 1) (min (min substitution deletion) insertion)

/-- Write the entries after a column for the rest of the target. -/
def writeEntries (char : Char) (previous : Array Nat) :
    Nat → List Char → Array Nat → Array Nat
  | _, [], current => current
  | column, target :: targets, current =>
      writeEntries char previous (column + 1) targets
        (writeEntry char target previous column current)

/-- Write the row after a character of the source, and swap the rows. -/
def nextRow (targets : List Char) (index : Nat) (char : Char) (rows : Rows) : Rows :=
  let started := rows.current.setIfInBounds 0 (index + 1)
  { previous := writeEntries char rows.previous 0 targets started
    current := rows.previous }

/-- Write a row for every character of the rest of the source. -/
def nextRows (targets : List Char) : Nat → List Char → Rows → Rows
  | _, [], rows => rows
  | index, char :: chars, rows =>
      nextRows targets (index + 1) chars (nextRow targets index char rows)

/-- The row for an empty source, which counts insertions, and scratch space. -/
def initialRows (targets : List Char) : Rows where
  previous := Array.range (targets.length + 1)
  current := Array.replicate (targets.length + 1) 0

/-- Edit distance of two character lists. -/
def distanceOf (source target : List Char) : Nat :=
  if source.isEmpty || target.isEmpty then max source.length target.length
  else (nextRows target 0 source (initialRows target)).previous.getD target.length 0

/-- Edit distance of two texts. -/
def distance (source target : String) : Nat :=
  distanceOf source.toList target.toList

/-- The nearer of a candidate and the best one so far; the earlier one wins a
tie. -/
def nearer (best : Option (Nat × String)) (candidate : Nat × String) : Option (Nat × String) :=
  match best with
  | none => some candidate
  | some current => if candidate.1 < current.1 then some candidate else some current

/-- The first of the nearest candidates within a threshold. -/
def similar? (name : String) (candidates : List String) (threshold : Nat) : Option String :=
  let measured := candidates.map fun candidate => (distance name candidate, candidate)
  let close := measured.filter fun candidate => candidate.1 ≤ threshold
  (close.foldl nearer none).map Prod.snd

/-- The end of a message that suggests a name. -/
def hint (suggestion : Option String) : String :=
  match suggestion with
  | some name => "\n  hint: did you mean `" ++ name ++ "`?"
  | none => ""

/-- Distance up to which an unknown name is taken for a misspelling. -/
def threshold : Nat := 2

/-- The hint for an unknown name among the known ones. -/
def hintFor (name : String) (known : List String) : String :=
  hint (similar? name known threshold)

end Suggest
end ScriptCore
