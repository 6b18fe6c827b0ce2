import ScriptCore.Host.Shell.Pattern
import ScriptCore.Host.Shell.Reader
import ScriptCore.Host.Shell.State

/-!
# Expansion of words

A word becomes a sequence of pieces: characters that know whether they were
quoted and whether they may separate fields, marks for empty quoted texts, and
gaps between the positional parameters. From its pieces a word is read as a
text, as a pattern, or as fields.

How the output of a command is taken is a parameter of the expansion.
-/

namespace ScriptCore
namespace Shell

/-- A piece of an expanded word. -/
inductive Piece where
  | char (char : Char) (isActive isSplit : Bool)
  /-- Shows that a field is there even if it has no characters. -/
  | mark
  /-- The end of a field. -/
  | gap
deriving DecidableEq

/-! ## Reading pieces -/

/-- The characters of pieces, with a blank for each gap. -/
def textOf (pieces : List Piece) : List Char :=
  pieces.filterMap fun
    | .char char _ _ => some char
    | .mark => none
    | .gap => some ' '

/-- The pattern of pieces. -/
def patternOfPieces (pieces : List Piece) : List PatternItem :=
  patternOf (pieces.filterMap fun
    | .char char isActive _ => some { char, isActive }
    | .mark => none
    | .gap => some { char := ' ', isActive := true })

/-- Fields under construction. -/
structure Fields where
  /-- Finished fields, last first. -/
  done : List (List Char)
  /-- Characters of the field that has begun, last first. -/
  current? : Option (List Char)
  /-- Whether only blanks have come since the last field. -/
  isAfterBlank : Bool

namespace Fields

/-- End the field that has begun. -/
def close (fields : Fields) : Fields :=
  match fields.current? with
  | some current => { fields with done := current.reverse :: fields.done, current? := none }
  | none => fields

/-- Add a piece, where the given characters separate fields. Blanks around
another separator belong to it. -/
def add (separators : List Char) (fields : Fields) : Piece → Fields
  | .mark => { fields with current? := some (fields.current?.getD []), isAfterBlank := false }
  | .gap => { fields.close with isAfterBlank := false }
  | .char char _ isSplit =>
      if isSplit && separators.contains char then
        if char = ' ' || char = '\t' || char = '\n' then
          match fields.current? with
          | some _ => { fields.close with isAfterBlank := true }
          | none => fields
        else if fields.current?.isSome then { fields.close with isAfterBlank := false }
        else if fields.isAfterBlank then { fields with isAfterBlank := false }
        else { fields with done := [] :: fields.done }
      else
        { fields with
          current? := some (char :: fields.current?.getD []), isAfterBlank := false }

/-- The fields of pieces. -/
def ofPieces (separators : List Char) (pieces : List Piece) : List (List Char) :=
  let fields := pieces.foldl (add separators) ⟨[], none, false⟩
  fields.close.done.reverse

end Fields

/-! ## Expansion -/

/-- Characters that come from an expansion. -/
def expanded (isQuoted : Bool) (chars : List Char) : List Piece :=
  chars.map fun char => .char char (!isQuoted) (!isQuoted)

/-- Pieces with gaps between them. -/
def withGaps : List (List Piece) → List Piece
  | [] => []
  | [pieces] => pieces
  | pieces :: rest => pieces ++ .gap :: withGaps rest

/-- Texts joined by a separator. -/
def joined (separator : List Char) : List (List Char) → List Char
  | [] => []
  | [chars] => chars
  | chars :: rest => chars ++ separator ++ joined separator rest

/-- The separator between positional parameters that become one text. -/
def State.joiner (state : State) : List Char :=
  match state.valueOf? "IFS" with
  | none => [' ']
  | some separators => separators.take 1

/-- The pieces of all positional parameters. -/
def positional (isStar isQuoted : Bool) : Act (List Piece) := do
  let state ← get
  if isQuoted then
    if isStar then return expanded true (joined state.joiner state.params)
    else return withGaps (state.params.map fun param => .mark :: expanded true param)
  else return withGaps (state.params.map (expanded false))

/-- Whether a name stands for all positional parameters. -/
def isPositional (name : String) : Bool :=
  name = "@" || name = "*"

/-- The text of a parameter. -/
def parameterText? (name : String) : Act (Option (List Char)) := do
  let state ← get
  if isPositional name then
    if state.params.isEmpty then return none
    else return some (joined (if name = "@" then [' '] else state.joiner) state.params)
  else return state.parameter? name

/-- The pieces of a parameter that is set. -/
def valuePieces (name : String) (isQuoted : Bool) (value : List Char) : Act (List Piece) :=
  if isPositional name then positional (name = "*") isQuoted
  else return expanded isQuoted value

/-- Whether parts hold all positional parameters as separate fields. -/
def mentionsAll (parts : List Part) : Bool :=
  parts.any fun
    | .parameter "@" _ => true
    | _ => false

/-- How an expression works with the variables of a shell. -/
def arithScope : ArithScope Act where
  read name := do
    match integerOf? false (((← get).valueOf? name).getD []) with
    | some value => return value
    | none => fail
  write name value := assign name (integerText value)
  fault
    | .invalid => fail
    | .overflow => throw (.killed divisionSignal)

/-- The value of an arithmetic expression as a text. -/
def arithmeticText (text : List Char) : Act (List Char) := do
  match ArithExpr.ofText? text with
  | some expression => return integerText (← expression.eval arithScope)
  | none => fail

mutual

/-- The pieces of parts. -/
def expandParts (takeOutput : Command → Act (List Char)) :
    Nat → Bool → Bool → List Part → Act (List Piece)
  | 0, _, _, _ => throw .exhausted
  | _ + 1, _, _, [] => return []
  | fuel + 1, isQuoted, isSplit, part :: parts => do
      let first ← expandPart takeOutput fuel isQuoted isSplit part
      let rest ← expandParts takeOutput fuel isQuoted isSplit parts
      return first ++ rest

/-- The pieces of a part, between quotes or not. The second flag says whether
text without quotes may separate fields. -/
def expandPart (takeOutput : Command → Act (List Char)) :
    Nat → Bool → Bool → Part → Act (List Piece)
  | 0, _, _, _ => throw .exhausted
  | fuel + 1, isQuoted, isSplit, part =>
      match part with
      | .literal chars => return chars.map fun char => .char char (!isQuoted) isSplit
      | .escaped chars => return .mark :: chars.map fun char => .char char false false
      | .quoted parts => do
          let pieces ← expandParts takeOutput fuel true false parts
          if pieces.isEmpty && mentionsAll parts then return []
          else return .mark :: pieces
      | .parameter name form => expandForm takeOutput fuel isQuoted name form
      | .output body => return expanded isQuoted (← takeOutput body)
      | .arithmetic parts => do
          let pieces ← expandParts takeOutput fuel true false parts
          return expanded isQuoted (← arithmeticText (textOf pieces))

/-- The pieces of a parameter. -/
def expandForm (takeOutput : Command → Act (List Char)) :
    Nat → Bool → String → Form → Act (List Piece)
  | 0, _, _, _ => throw .exhausted
  | fuel + 1, isQuoted, name, form => do
      let expandWord (word : List Part) : Act (List Piece) :=
        expandParts takeOutput fuel isQuoted (!isQuoted) word
      let isMissing (orEmpty : Bool) (value? : Option (List Char)) : Bool :=
        match value? with
        | none => true
        | some value => orEmpty && value.isEmpty
      let value? ← parameterText? name
      match form with
      | .invalid => fail
      | .value =>
          match value? with
          | some value => valuePieces name isQuoted value
          | none =>
              if (← hasFlag 'u') && !isPositional name then fail
              else return []
      | .length =>
          match value? with
          | some value => return expanded isQuoted (digitsOf value.length)
          | none =>
              if (← hasFlag 'u') && !isPositional name then fail
              else return expanded isQuoted ['0']
      | .default orEmpty word =>
          if isMissing orEmpty value? then expandWord word
          else valuePieces name isQuoted (value?.getD [])
      | .alternate orEmpty word =>
          if isMissing orEmpty value? then return []
          else expandWord word
      | .require orEmpty _ =>
          if isMissing orEmpty value? then fail
          else valuePieces name isQuoted (value?.getD [])
      | .assign orEmpty word =>
          if isMissing orEmpty value? then
            if isName name.toList then
              let value := textOf (← expandParts takeOutput fuel isQuoted false word)
              assign name value
              return expanded isQuoted value
            else fail
          else valuePieces name isQuoted (value?.getD [])
      | .trim isEnd isLongest word =>
          if value?.isNone && (← hasFlag 'u') && !isPositional name then fail
          else
            let pattern := patternOfPieces (← expandParts takeOutput fuel false false word)
            let value := value?.getD []
            return expanded isQuoted
              (if isEnd then trimEnd pattern isLongest value
              else trimStart pattern isLongest value)

end

/-- Replace a tilde at the start of a word by the home directory. -/
def expandTilde (word : Word) : Act Word := do
  match word with
  | .literal ('~' :: rest) :: parts =>
      match (← get).valueOf? "HOME" with
      | none => return word
      | some home =>
          match rest with
          | '/' :: _ => return .escaped home :: .literal rest :: parts
          | [] => if parts.isEmpty then return [.escaped home] else return word
          | _ => return word
  | _ => return word

/-- Ways to expand words, given how to take the output of a command. -/
structure Expander where
  takeOutput : Command → Act (List Char)
  fuel : Nat

namespace Expander

/-- The pieces of a word. -/
def pieces (expander : Expander) (word : Word) : Act (List Piece) := do
  expandParts expander.takeOutput expander.fuel false false (← expandTilde word)

/-- The text of a word. -/
def text (expander : Expander) (word : Word) : Act (List Char) := do
  return textOf (← expander.pieces word)

/-- The pattern of a word. -/
def pattern (expander : Expander) (word : Word) : Act (List PatternItem) := do
  return patternOfPieces (← expander.pieces word)

/-- The fields of a word. -/
def fields (expander : Expander) (word : Word) : Act (List (List Char)) := do
  let pieces ← expander.pieces word
  return Fields.ofPieces (← get).separators pieces

/-- The fields of several words. -/
def allFields (expander : Expander) (words : List Word) : Act (List (List Char)) := do
  return (← words.mapM expander.fields).flatten

/-- Commands whose arguments may be assignments. -/
def declarations : List String :=
  ["export", "local", "readonly"]

/-- The fields of a simple command. An assignment among the arguments of a
declaration is one field. -/
def commandFields (expander : Expander) (words : List Word) : Act (List (List Char)) := do
  match words with
  | [] => return []
  | first :: rest =>
      let isDeclaration :=
        match literalText? first with
        | some chars => declarations.contains (String.ofList chars)
        | none => false
      if isDeclaration then
        let fields ← expander.fields first
        let others ← rest.mapM fun word => do
          if (assignmentWord? word).isSome then return [← expander.text word]
          else expander.fields word
        return fields ++ others.flatten
      else expander.allFields words

end Expander

end Shell
end ScriptCore
