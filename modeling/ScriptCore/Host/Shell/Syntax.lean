/-!
# Syntax of shell commands

Commands are trees. A word is a sequence of parts, because quoting and
expansion are decided part by part; a part can hold a whole command again.

Characters stand for single bytes: the shell counts, compares and matches
bytes.
-/

namespace ScriptCore
namespace Shell

/-- How a redirection treats its target. -/
inductive RedirectKind where
  /-- Read from a file. -/
  | read
  /-- Write to a file. -/
  | write
  /-- Open a file for both. -/
  | readWrite
  /-- Use another channel. -/
  | duplicate
  /-- Read the text that stands in the script. -/
  | document
deriving DecidableEq

mutual

/-- A part of a word. -/
inductive Part where
  /-- Text without quotes. -/
  | literal (chars : List Char)
  /-- Text whose characters stand for themselves. -/
  | escaped (chars : List Char)
  /-- Parts between double quotes. -/
  | quoted (parts : List Part)
  /-- The value of a parameter. -/
  | parameter (name : String) (form : Form)
  /-- The output of a command. -/
  | output (body : Command)
  /-- The value of an arithmetic expression. -/
  | arithmetic (parts : List Part)

/-- What becomes of the value of a parameter. -/
inductive Form where
  | value
  | length
  /-- A word for a parameter that is not set, or is empty. -/
  | default (orEmpty : Bool) (word : List Part)
  /-- The same, and the parameter is set to the word. -/
  | assign (orEmpty : Bool) (word : List Part)
  /-- It is an error if the parameter is not set, or is empty. -/
  | require (orEmpty : Bool) (word : List Part)
  /-- A word for a parameter that is set, and is not empty. -/
  | alternate (orEmpty : Bool) (word : List Part)
  /-- The value without a beginning or an end that matches a pattern. -/
  | trim (isEnd isLongest : Bool) (pattern : List Part)
  /-- A form that does not exist. -/
  | invalid

/-- A redirection of a channel. -/
inductive Redirect where
  | mk (channel : Nat) (kind : RedirectKind) (target : List Part)

/-- A command. -/
inductive Command where
  /-- No command. -/
  | nothing
  | simple
      (assignments : List (String × List Part))
      (words : List (List Part))
      (redirects : List Redirect)
  | redirected (body : Command) (redirects : List Redirect)
  | subshell (body : Command)
  | background (body : Command)
  | pipeline (stages : List Command)
  | negation (body : Command)
  | both (left right : Command)
  | either (left right : Command)
  | sequence (left right : Command)
  | branch (test yes no : Command)
  | loop (isUntil : Bool) (test body : Command)
  /-- A loop over words, or over the positional parameters. -/
  | each (name : String) (words? : Option (List (List Part))) (body : Command)
  | choice (subject : List Part) (cases : List (List (List Part) × Command))
  | define (name : String) (body : Command)

end

/-- A word. -/
abbrev Word := List Part

/-! ## Characters -/

/-- The bytes of a text, each as one character. -/
def bytesOf (bytes : List UInt8) : List Char :=
  bytes.map fun byte => Char.ofNat byte.toNat

def isNameStart (char : Char) : Bool :=
  char.isAlpha || char = '_'

def isNameChar (char : Char) : Bool :=
  char.isAlphanum || char = '_'

/-- Whether a text can name a variable. -/
def isName (chars : List Char) : Bool :=
  (chars.head?.map isNameStart).getD false && chars.all isNameChar

/-- Parameters with a name of one character that is no letter. -/
def isSpecialParameter (char : Char) : Bool :=
  ['@', '*', '#', '?', '-', '$', '!'].contains char

/-- Split a text of the form `name=value`. -/
def assignment? (chars : List Char) : Option (String × List Char) :=
  let name := chars.takeWhile isNameChar
  match chars.drop name.length with
  | '=' :: value => if isName name then some (String.ofList name, value) else none
  | _ => none

end Shell
end ScriptCore
