import ScriptCore.Console.AppError
import ScriptCore.Console.Token
import ScriptCore.Json.Parser
import ScriptCore.Value.Json

/-!
# Lines of the shell

A line is empty, a command of the shell itself after a colon, a binding of a
variable, or a call: a function name followed by literals. A literal is a
variable after a dollar sign, a JSON text, or else a bare word that stands for
itself.
-/

namespace ScriptCore

/-- An argument as written. -/
inductive Literal where
  | value (content : Value)
  | reference (name : String)

variable [KeyHash]

namespace Literal

/-- Read a token. -/
def parse (token : String) : Literal :=
  match token.toList with
  | '$' :: char :: rest => reference (String.ofList (char :: rest))
  | _ =>
      match Json.parse? token with
      | some json => value (Value.ofJson json)
      | none => value (.ofText token)

/-- Values of tokens where no variables exist. -/
def parseValues : List String → Except AppError (List Value)
  | [] => .ok []
  | token :: tokens =>
      match parse token with
      | .value first => do
          let values ← parseValues tokens
          return first :: values
      | .reference name =>
          .error (.argument ("`$" ++ name ++ "`: variables are only available in the shell"))

end Literal

/-- A line of the shell. -/
inductive Line where
  | empty
  | command (text : String)
  | binding (name : String) (literal : Literal)
  | call (name : String) (args : List Literal)

namespace Line

/-- The word that starts a binding. -/
def bindingWord : List Char := "let ".toList

/-- Read a binding after its first word. -/
def parseBinding (chars : List Char) : Except LineError Line :=
  let name := Text.trim (chars.takeWhile (· != '='))
  match chars.dropWhile (· != '=') with
  | [] => .error .malformedLet
  | _ :: rest =>
      let literal := Text.trim rest
      if name.isEmpty || name.any Text.isBlank || literal.isEmpty then .error .malformedLet
      else .ok (binding (String.ofList name) (.parse (String.ofList literal)))

/-- Read a line. -/
def parse (line : String) : Except LineError Line :=
  let chars := Text.trim line.toList
  match chars with
  | [] => .ok empty
  | first :: _ =>
      if first = ':' then .ok (command (String.ofList chars))
      else if bindingWord.isPrefixOf chars then parseBinding (chars.drop bindingWord.length)
      else do
        match ← Token.split (String.ofList chars) with
        | [] => return call "" []
        | name :: args => return call name (args.map Literal.parse)

end Line
end ScriptCore
