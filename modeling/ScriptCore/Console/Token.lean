import ScriptCore.Text.Blank

/-!
# Splitting a line

A line is split at blanks outside of strings and brackets. A string runs from a
double quote to the next one that no backslash precedes; brackets are square or
curly and must nest. Tokens keep their quotes and brackets.
-/

namespace ScriptCore

/-- Why a line could not be read. -/
inductive LineError where
  | unterminatedString
  | unbalanced (bracket : Char)
  | malformedLet
deriving DecidableEq

namespace LineError

/-- The error in words. -/
def message : LineError → String
  | unterminatedString => "unterminated string literal"
  | unbalanced bracket => "unbalanced `" ++ String.singleton bracket ++ "`"
  | malformedLet => "expected `let <name> = <literal>`"

end LineError

namespace Token

/-- Where the scan of a line stands: outside of strings, inside one, or after a
backslash inside one. -/
inductive Mode where
  | plain
  | quoted
  | escaped
deriving DecidableEq

def isOpening (char : Char) : Bool :=
  char = '[' || char = '\x7b'

/-- The opening bracket of a closing one. -/
def opening? (char : Char) : Option Char :=
  if char = ']' then some '['
  else if char = '\x7d' then some '\x7b'
  else none

/-- The token collected so far, last character first, unless it is empty. -/
def finished (current : List Char) : List String :=
  if current.isEmpty then [] else [String.ofList current.reverse]

/-- Split the rest of a line, given the open brackets, innermost first, and the
characters of the token at hand, last one first. -/
def splitFrom (mode : Mode) (nesting current : List Char) :
    List Char → Except LineError (List String)
  | [] =>
      match mode with
      | .plain =>
          match nesting with
          | [] => .ok (finished current)
          | bracket :: _ => .error (.unbalanced bracket)
      | _ => .error .unterminatedString
  | char :: rest =>
      match mode with
      | .escaped => splitFrom .quoted nesting (char :: current) rest
      | .quoted =>
          if char = '\\' then splitFrom .escaped nesting (char :: current) rest
          else if char = '\x22' then splitFrom .plain nesting (char :: current) rest
          else splitFrom .quoted nesting (char :: current) rest
      | .plain =>
          if char = '\x22' then splitFrom .quoted nesting (char :: current) rest
          else if isOpening char then
            splitFrom .plain (char :: nesting) (char :: current) rest
          else
            match opening? char with
            | some bracket =>
                if nesting.head? = some bracket then
                  splitFrom .plain nesting.tail (char :: current) rest
                else .error (.unbalanced char)
            | none =>
                if Text.isBlank char && nesting.isEmpty then do
                  let tokens ← splitFrom .plain [] [] rest
                  return finished current ++ tokens
                else splitFrom .plain nesting (char :: current) rest

/-- The tokens of a line. -/
def split (line : String) : Except LineError (List String) :=
  splitFrom .plain [] [] line.toList

end Token
end ScriptCore
