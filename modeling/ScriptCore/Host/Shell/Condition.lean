import ScriptCore.Host.FileTree
import ScriptCore.Host.Shell.Arithmetic

/-!
# Conditions

The conditions of `test` and `[`: a word that is not empty, a property of a
text or a file, a comparison, and their combinations. What a word means depends
on the words around it, so that operators can also be compared as texts.

A condition without meaning has no truth value.
-/

namespace ScriptCore
namespace Shell

/-- The meaning of a word that can be an operator. -/
inductive TestOperator where
  | unary (letter : Char)
  | binary (name : String)
  | negation
  | both
  | either
  | opening
  | closing
deriving DecidableEq

/-- Letters of the operators on one text. -/
def unaryLetters : List Char :=
  ['r', 'w', 'x', 'e', 'f', 'd', 'c', 'b', 'p', 'u', 'g', 'k', 's', 't', 'z', 'n', 'h', 'O', 'G',
    'L', 'S']

/-- Operators between two texts. -/
def binaryNames : List String :=
  ["=", "!=", "<", ">", "-eq", "-ne", "-ge", "-gt", "-le", "-lt", "-nt", "-ot", "-ef"]

/-- The operator that a word can be. -/
def testOperator? (word : List Char) : Option TestOperator :=
  match word with
  | ['!'] => some .negation
  | ['('] => some .opening
  | [')'] => some .closing
  | ['-', 'a'] => some .both
  | ['-', 'o'] => some .either
  | ['-', letter] => if unaryLetters.contains letter then some (.unary letter) else none
  | _ =>
      let name := String.ofList word
      if binaryNames.contains name then some (.binary name) else none

/-- Whether a word is an operator between two texts. -/
def isBinary (word : List Char) : Bool :=
  match testOperator? word with
  | some (.binary _) => true
  | _ => false

/-- Whether the first of some words is an operand although it looks like an
operator on one text. -/
def isOperand : List (List Char) → Bool
  | [_] => true
  | [_, _] => false
  | _ :: second :: _ => isBinary second
  | [] => true

/-- The operator that the first of some words is. -/
def leadingOperator? (words : List (List Char)) : Option TestOperator :=
  match words with
  | [] => none
  | first :: rest =>
      match testOperator? first with
      | some (.unary letter) => if isOperand words then none else some (.unary letter)
      | some .opening => if rest.isEmpty then none else some .opening
      | found => found

/-- Whether a file has a property. -/
def fileHas (files : FileTree) (letter : Char) (path : List Char) : Bool :=
  match files.find (String.ofList path) with
  | .error _ => false
  | .ok .directory => ['e', 'd', 'r', 'w', 'x', 's', 'O', 'G'].contains letter
  | .ok (.file _) => ['e', 'f', 'r', 'w', 's', 'O', 'G'].contains letter
  | .ok .program => ['e', 'f', 'r', 'w', 'x', 's', 'O', 'G'].contains letter
  | .ok .device => ['e', 'c', 'r', 'w', 'O', 'G'].contains letter

/-- The truth of an operator on one text. No channel is a terminal. -/
def unaryHolds (files : FileTree) (letter : Char) (operand : List Char) : Option Bool :=
  match letter with
  | 'z' => some operand.isEmpty
  | 'n' => some !operand.isEmpty
  | 't' => (integerOf? true operand).map fun _ => false
  | _ => some (fileHas files letter operand)

/-- The order of two texts by their bytes. -/
def textLess : List Char → List Char → Bool
  | [], right => !right.isEmpty
  | _ :: _, [] => false
  | first :: left, second :: right =>
      first < second || (first = second && textLess left right)

/-- The truth of a comparison of integers. -/
def integersHold (name : String) (left right : Int) : Bool :=
  match name with
  | "-eq" => left = right
  | "-ne" => left ≠ right
  | "-ge" => right ≤ left
  | "-gt" => right < left
  | "-le" => left ≤ right
  | "-lt" => left < right
  | _ => false

/-- The truth of an operator between two texts. -/
def binaryHolds (files : FileTree) (name : String) (left right : List Char) : Option Bool :=
  match name with
  | "=" => some (left = right)
  | "!=" => some (left ≠ right)
  | "<" => some (textLess left right)
  | ">" => some (textLess right left)
  | "-nt" => some (fileHas files 'e' left && !fileHas files 'e' right)
  | "-ot" => some (!fileHas files 'e' left && fileHas files 'e' right)
  | "-ef" => some (fileHas files 'e' left && left = right)
  | _ => do
      let first ← integerOf? true left
      let second ← integerOf? true right
      return integersHold name first second

mutual

/-- A disjunction at the front of some words, with the last word that belongs
to it and those after it. -/
def readDisjunction (files : FileTree) : Nat → List (List Char) → Option (Bool × List (List Char))
  | 0, _ => none
  | fuel + 1, words => do
      let (left, last) ← readConjunction files fuel words
      if leadingOperator? last.tail = some .either then
        let (right, last) ← readDisjunction files fuel (last.drop 2)
        some (left || right, last)
      else some (left, last)

/-- A conjunction at the front of some words. -/
def readConjunction (files : FileTree) : Nat → List (List Char) → Option (Bool × List (List Char))
  | 0, _ => none
  | fuel + 1, words => do
      let (left, last) ← readNegation files fuel words
      if leadingOperator? last.tail = some .both then
        let (right, last) ← readConjunction files fuel (last.drop 2)
        some (left && right, last)
      else some (left, last)

/-- A condition that may be negated. -/
def readNegation (files : FileTree) : Nat → List (List Char) → Option (Bool × List (List Char))
  | 0, _ => none
  | fuel + 1, words =>
      if leadingOperator? words = some .negation then do
        match words with
        | _ :: next :: rest =>
            let (inner, last) ← readNegation files fuel (next :: rest)
            some (!inner, last)
        | _ => some (true, words)
      else readPrimary files fuel words

/-- A condition in parentheses, on one text or on two. -/
def readPrimary (files : FileTree) : Nat → List (List Char) → Option (Bool × List (List Char))
  | 0, _ => none
  | _ + 1, [] => some (false, [])
  | fuel + 1, first :: rest =>
      match leadingOperator? (first :: rest) with
      | some .opening => do
          if leadingOperator? rest = some .closing then some (false, rest)
          else
            let (inner, last) ← readDisjunction files fuel rest
            if leadingOperator? last.tail = some .closing then some (inner, last.tail)
            else none
      | some (.unary letter) =>
          match rest with
          | operand :: _ => do
              let holds ← unaryHolds files letter operand
              some (holds, rest)
          | [] => none
      | _ => do
          match leadingOperator? rest with
          | some (.binary name) =>
              match rest with
              | _ :: second :: _ =>
                  let holds ← binaryHolds files name first second
                  some (holds, rest.tail)
              | _ => none
          | _ => some (!first.isEmpty, first :: rest)

end

/-- The truth of a whole condition by its words. -/
def wholeHolds (files : FileTree) (words : List (List Char)) : Option Bool := do
  let (holds, last) ← readDisjunction files (8 * words.length + 16) words
  if last.tail.isEmpty then some holds else none

/-- The truth of a comparison of three words, whatever the first looks like. -/
def threeHold (files : FileTree) (left operator right : List Char) : Option Bool :=
  binaryHolds files (String.ofList operator) left right

/-- The truth of the condition that some words state, or of its negation.
Three words with an operator in the middle are a comparison; parentheses around
one or two words and a negation before two or three are taken off first. A
second negation among them changes nothing. -/
def conditionHolds (files : FileTree) : Nat → Bool → List (List Char) → Option Bool
  | 0, _, _ => none
  | fuel + 1, isNegated, words =>
      let whole (words : List (List Char)) : Option Bool :=
        (wholeHolds files words).map (· != isNegated)
      let reduced : Option Bool :=
        if words.length = 3 || words.length = 4 then
          if words.head? = some ['('] && words.getLast? = some [')'] then
            whole words.tail.dropLast
          else if words.head? = some ['!'] then conditionHolds files fuel true words.tail
          else whole words
        else whole words
      match words with
      | [] => some isNegated
      | [left, operator, right] =>
          if isBinary operator then
            (threeHold files left operator right).map (· != isNegated)
          else reduced
      | _ => reduced

/-- The exit status of `test` with the given words. -/
def testStatus (files : FileTree) (words : List (List Char)) : Nat :=
  match conditionHolds files (words.length + 1) false words with
  | some true => 0
  | some false => 1
  | none => 2

/-- The exit status of `[`, whose last word closes it. -/
def bracketStatus (files : FileTree) (words : List (List Char)) : Nat :=
  match words.getLast? with
  | some (']' :: _) => testStatus files words.dropLast
  | _ => 2

end Shell
end ScriptCore
