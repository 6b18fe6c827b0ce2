import ScriptCore.Config.Settings

/-!
# Settings documents

A settings document has one assignment a line, with blank lines and comments
between them. A key is bare or quoted; a value is a truth value or an integer of
64 bits in decimal, hexadecimal, octal or binary. No key may be given twice.

Tables, strings, floats and lists as values never make a valid setting, so a
document with one of them is refused as a whole.
-/

namespace ScriptCore
namespace Document

/-- A value of a setting. -/
inductive Scalar where
  | flag (value : Bool)
  | integer (value : Int)
deriving DecidableEq

/-! ## Characters -/

def isBlank (char : Char) : Bool :=
  char = ' ' || char = '\t'

/-- Characters of a bare key. -/
def isKeyChar (char : Char) : Bool :=
  char.isAlphanum || char = '_' || char = '-'

/-- Characters that a comment or a quoted key may hold. -/
def isTextChar (char : Char) : Bool :=
  char = '\t' || (0x20 ≤ char.toNat && char.toNat != 0x7F)

/-- Drop blanks at the start. -/
def skipBlanks (chars : List Char) : List Char :=
  chars.dropWhile isBlank

/-- Whether nothing but blanks and a comment is left of a line. -/
def isLineEnd (chars : List Char) : Bool :=
  match skipBlanks chars with
  | [] => true
  | '#' :: comment => comment.all isTextChar
  | _ => false

/-! ## Integers -/

/-- The value of a digit. -/
def digit? (base : Nat) (char : Char) : Option Nat :=
  let value :=
    if char.isDigit then char.toNat - '0'.toNat
    else if 'a' ≤ char && char ≤ 'z' then char.toNat - 'a'.toNat + 10
    else if 'A' ≤ char && char ≤ 'Z' then char.toNat - 'A'.toNat + 10
    else base
  if value < base then some value else none

/-- Read digits after the first ones; a single underscore may stand between two
digits. -/
def digitsFrom? (base : Nat) (total : Nat) : List Char → Option Nat
  | [] => some total
  | '_' :: char :: rest => do
      let value ← digit? base char
      digitsFrom? base (total * base + value) rest
  | char :: rest => do
      let value ← digit? base char
      digitsFrom? base (total * base + value) rest

/-- Read digits, at least one. -/
def digits? (base : Nat) : List Char → Option Nat
  | [] => none
  | char :: rest => do
      let value ← digit? base char
      digitsFrom? base value rest

/-- Read decimal digits without leading zeros. -/
def decimal? (chars : List Char) : Option Nat :=
  match chars with
  | ['0'] => some 0
  | '0' :: _ => none
  | _ => digits? 10 chars

/-- Read an integer. Only a decimal one may have a sign. -/
def integer? (chars : List Char) : Option Int :=
  match chars with
  | '0' :: 'x' :: rest => (digits? 16 rest).map Int.ofNat
  | '0' :: 'o' :: rest => (digits? 8 rest).map Int.ofNat
  | '0' :: 'b' :: rest => (digits? 2 rest).map Int.ofNat
  | '+' :: rest => (decimal? rest).map Int.ofNat
  | '-' :: rest => (decimal? rest).map fun n => -Int.ofNat n
  | _ => (decimal? chars).map Int.ofNat

/-- Read a value. -/
def scalar? (chars : List Char) : Option Scalar :=
  if chars = "true".toList then some (.flag true)
  else if chars = "false".toList then some (.flag false)
  else do
    let n ← integer? chars
    if -9223372036854775808 ≤ n && n < 9223372036854775808 then some (.integer n) else none

/-! ## Keys -/

/-- The character of a code point. -/
def scalarChar? (code : Nat) : Option Char :=
  if code.isValidChar then some (Char.ofNat code) else none

/-- The character of a one-letter escape. -/
def escape? (char : Char) : Option Char :=
  if char = 'b' then some '\x08'
  else if char = 't' then some '\t'
  else if char = 'n' then some '\n'
  else if char = 'f' then some '\x0c'
  else if char = 'r' then some '\x0d'
  else if char = '\x22' then some '\x22'
  else if char = '\\' then some '\\'
  else none

/-- Read a fixed number of hexadecimal digits. -/
def codePoint? (width : Nat) (chars : List Char) : Option Char := do
  let digits := chars.take width
  if digits.length = width && digits.all (fun char => (digit? 16 char).isSome) then
    let code ← digits? 16 digits
    scalarChar? code
  else none

/-- Read a key between double quotes, after the first one. -/
def quotedKey? : Nat → List Char → Option (List Char × List Char)
  | 0, _ => none
  | _ + 1, [] => none
  | fuel + 1, char :: rest =>
      if char = '\x22' then some ([], rest)
      else if char = '\\' then
        match rest with
        | 'u' :: rest => do
            let char ← codePoint? 4 rest
            let (chars, rest) ← quotedKey? fuel (rest.drop 4)
            return (char :: chars, rest)
        | 'U' :: rest => do
            let char ← codePoint? 8 rest
            let (chars, rest) ← quotedKey? fuel (rest.drop 8)
            return (char :: chars, rest)
        | letter :: rest => do
            let char ← escape? letter
            let (chars, rest) ← quotedKey? fuel rest
            return (char :: chars, rest)
        | [] => none
      else if isTextChar char then do
        let (chars, rest) ← quotedKey? fuel rest
        return (char :: chars, rest)
      else none

/-- Read a key. -/
def key? (chars : List Char) : Option (String × List Char) :=
  match chars with
  | '\x22' :: rest => do
      let (key, rest) ← quotedKey? (rest.length + 1) rest
      return (String.ofList key, rest)
  | '\x27' :: rest =>
      let key := rest.takeWhile (· != '\x27')
      match rest.drop key.length with
      | _ :: rest => if key.all isTextChar then some (String.ofList key, rest) else none
      | [] => none
  | _ =>
      let key := chars.takeWhile isKeyChar
      if key.isEmpty then none else some (String.ofList key, chars.drop key.length)

/-! ## Lines -/

/-- Read a line: an assignment or nothing. -/
def line? (chars : List Char) : Option (Option (String × Scalar)) :=
  if isLineEnd chars then some none
  else do
    let (key, rest) ← key? (skipBlanks chars)
    match skipBlanks rest with
    | '=' :: rest =>
        let body := skipBlanks rest
        let token := body.takeWhile fun char => !isBlank char && char != '#'
        let value ← scalar? token
        if isLineEnd (body.drop token.length) then some (some (key, value)) else none
    | _ => none

/-- The lines of a text. -/
def splitLines : List Char → List (List Char)
  | [] => [[]]
  | '\x0d' :: '\n' :: rest => [] :: splitLines rest
  | '\n' :: rest => [] :: splitLines rest
  | char :: rest =>
      match splitLines rest with
      | first :: others => (char :: first) :: others
      | [] => [[char]]

/-- A mark of byte order at the start of a text is ignored. -/
def skipMark : List Char → List Char
  | '\uFEFF' :: rest => rest
  | chars => chars

/-- The assignments of a document, in order. -/
def assignments? (text : String) : Option (List (String × Scalar)) := do
  let lines ← (splitLines (skipMark text.toList)).mapM line?
  return lines.filterMap id

/-! ## Settings -/

/-- Apply one assignment. Unknown keys and values of another kind or range are
refused. -/
def update? (settings : Settings) (key : String) (value : Scalar) : Option Settings :=
  match value with
  | .flag flag =>
      if key = "safe_mode" then some { settings with safeMode := some flag } else none
  | .integer n =>
      if n < 0 then none
      else if key = "max_call_depth" then some { settings with maxCallDepth := n.toNat }
      else if key = "initial_order" && n < 4294967296 then
        some { settings with initialOrder := n.toNat }
      else none

/-- Apply assignments in order. -/
def updateAll? (settings : Settings) : List (String × Scalar) → Option Settings
  | [] => some settings
  | (key, value) :: rest => do
      let next ← update? settings key value
      updateAll? next rest

end Document

namespace Settings

/-- Read the settings of a document. -/
def parse? (text : String) : Option Settings := do
  let assignments ← Document.assignments? text
  let keys := assignments.map Prod.fst
  if keys.eraseDups.length = keys.length then Document.updateAll? {} assignments else none

end Settings
end ScriptCore
