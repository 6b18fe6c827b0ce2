import ScriptCore.Host.Shell.Syntax

/-!
# Patterns

A pattern describes texts of bytes. Quoted characters stand for themselves;
without quotes `?` stands for any byte, `*` for any text, and brackets for one
byte of a set.
-/

namespace ScriptCore
namespace Shell

/-- A character of a pattern, and whether it may have a special meaning. -/
structure PatternChar where
  char : Char
  isActive : Bool
deriving DecidableEq

/-- A member of a set in brackets. -/
inductive SetMember where
  | range (first last : Char)
  | named (name : String)
deriving DecidableEq

/-- An element of a pattern. -/
inductive PatternItem where
  | exactly (char : Char)
  | anyByte
  | anyText
  | oneOf (isNegated : Bool) (members : List SetMember)
deriving DecidableEq

namespace SetMember

/-- Whether a named class holds a character. -/
def classHolds (name : String) (char : Char) : Bool :=
  match name with
  | "alpha" => char.isAlpha
  | "digit" => char.isDigit
  | "alnum" => char.isAlphanum
  | "lower" => char.isLower
  | "upper" => char.isUpper
  | "space" => char = ' ' || (0x09 ≤ char.toNat && char.toNat ≤ 0x0D)
  | "blank" => char = ' ' || char = '\t'
  | "cntrl" => char.toNat < 0x20 || char.toNat = 0x7F
  | "print" => 0x20 ≤ char.toNat && char.toNat < 0x7F
  | "graph" => 0x20 < char.toNat && char.toNat < 0x7F
  | "punct" => 0x20 < char.toNat && char.toNat < 0x7F && !char.isAlphanum
  | "xdigit" =>
      char.isDigit || ('a' ≤ char && char ≤ 'f') || ('A' ≤ char && char ≤ 'F')
  | _ => false

/-- Whether a member of a set holds a character. -/
def holds (member : SetMember) (char : Char) : Bool :=
  match member with
  | range first last => first ≤ char && char ≤ last
  | named name => classHolds name char

end SetMember

/-- The name of a class between `[:` and `:]`, and the rest. -/
def className? (chars : List PatternChar) : Option (String × List PatternChar) :=
  match chars with
  | ⟨'[', true⟩ :: ⟨':', _⟩ :: rest =>
      let name := rest.takeWhile fun item => item.char.isAlpha
      match rest.drop name.length with
      | ⟨':', _⟩ :: ⟨']', true⟩ :: rest =>
          some (String.ofList (name.map PatternChar.char), rest)
      | _ => none
  | _ => none

/-- The character at the front of a pattern, where a backslash takes the
special meaning from the next one. -/
def unescape : List PatternChar → Option (Char × List PatternChar)
  | [] => none
  | ⟨'\\', true⟩ :: item :: rest => some (item.char, rest)
  | item :: rest => some (item.char, rest)

/-- Read the members of a set up to its closing bracket. A closing bracket at
the front is a member. -/
def readMembersOfSet : Nat → Bool → List PatternChar → Option (List SetMember × List PatternChar)
  | 0, _, _ => none
  | _ + 1, _, [] => none
  | fuel + 1, isFirst, item :: rest =>
      if item = ⟨']', true⟩ && !isFirst then some ([], rest)
      else
        match className? (item :: rest) with
        | some (name, rest) => do
            let (members, rest) ← readMembersOfSet fuel false rest
            some (.named name :: members, rest)
        | none => do
            let (first, rest) ← unescape (item :: rest)
            match rest with
            | ⟨'-', true⟩ :: next :: after =>
                if next = ⟨']', true⟩ then
                  let (members, rest) ← readMembersOfSet fuel false rest
                  some (.range first first :: members, rest)
                else
                  let (last, after) ← unescape (next :: after)
                  let (members, rest) ← readMembersOfSet fuel false after
                  some (.range first last :: members, rest)
            | _ =>
                let (members, rest) ← readMembersOfSet fuel false rest
                some (.range first first :: members, rest)

/-- Read a set after its opening bracket. -/
def readSet (chars : List PatternChar) : Option (PatternItem × List PatternChar) :=
  let fuel := chars.length + 1
  match chars with
  | ⟨'!', true⟩ :: rest => do
      let (members, rest) ← readMembersOfSet fuel true rest
      some (.oneOf true members, rest)
  | _ => do
      let (members, rest) ← readMembersOfSet fuel true chars
      some (.oneOf false members, rest)

/-- The elements of a pattern. A bracket that is not closed stands for
itself. -/
def readPattern : Nat → List PatternChar → List PatternItem
  | 0, _ => []
  | _ + 1, [] => []
  | fuel + 1, item :: rest =>
      if item.isActive then
        match item.char with
        | '*' => .anyText :: readPattern fuel rest
        | '?' => .anyByte :: readPattern fuel rest
        | '\\' =>
            match rest with
            | next :: rest => .exactly next.char :: readPattern fuel rest
            | [] => [.exactly '\\']
        | '[' =>
            match readSet rest with
            | some (set, rest) => set :: readPattern fuel rest
            | none => .exactly '[' :: readPattern fuel rest
        | char => .exactly char :: readPattern fuel rest
      else .exactly item.char :: readPattern fuel rest

/-- The elements of a pattern. -/
def patternOf (chars : List PatternChar) : List PatternItem :=
  readPattern (chars.length + 1) chars

/-- The ends of a list, the longest first. -/
def suffixes {α : Type} : List α → List (List α)
  | [] => [[]]
  | item :: items => (item :: items) :: suffixes items

/-- Whether a text matches a pattern. -/
def matchesPattern : List PatternItem → List Char → Bool
  | [], chars => chars.isEmpty
  | .anyText :: items, chars => (suffixes chars).any fun rest => matchesPattern items rest
  | .anyByte :: _, [] => false
  | .anyByte :: items, _ :: chars => matchesPattern items chars
  | .exactly _ :: _, [] => false
  | .exactly expected :: items, char :: chars =>
      expected = char && matchesPattern items chars
  | .oneOf _ _ :: _, [] => false
  | .oneOf isNegated members :: items, char :: chars =>
      (members.any fun member => member.holds char) != isNegated && matchesPattern items chars

/-- A text without its shortest or longest beginning that matches. -/
def trimStart (pattern : List PatternItem) (isLongest : Bool) (chars : List Char) : List Char :=
  let cuts := List.range (chars.length + 1)
  let ordered := if isLongest then cuts.reverse else cuts
  match ordered.find? fun cut => matchesPattern pattern (chars.take cut) with
  | some cut => chars.drop cut
  | none => chars

/-- A text without its shortest or longest end that matches. -/
def trimEnd (pattern : List PatternItem) (isLongest : Bool) (chars : List Char) : List Char :=
  let cuts := List.range (chars.length + 1)
  let ordered := if isLongest then cuts else cuts.reverse
  match ordered.find? fun cut => matchesPattern pattern (chars.drop cut) with
  | some cut => chars.take cut
  | none => chars

end Shell
end ScriptCore
