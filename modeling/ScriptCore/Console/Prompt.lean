import ScriptCore.Console.Session
import ScriptCore.Text.Backspace

/-!
# The interactive shell

The shell answers one line at a time. An answer has text for the two output
channels and says whether the shell goes on, and with which exit status it ends
if it does not. Backspaces in a line are carried out before it is read.
-/

namespace ScriptCore
namespace Prompt

/-- Text for the output and the error channel. -/
structure Answer where
  out : String
  err : String
  isLast : Bool
  code : Nat

namespace Answer

/-- An answer without text. -/
def silent : Answer :=
  { out := "", err := "", isLast := false, code := 0 }

/-- The answer that ends the shell after a line whose backspaces cannot be
carried out. -/
def broken : Answer :=
  { silent with isLast := true, code := 101 }

/-- Put the text of an answer before the text of what follows. -/
def before (first rest : Answer) : Answer :=
  { rest with out := first.out ++ rest.out, err := first.err ++ rest.err }

end Answer

/-- Text of lines, each with its line end. -/
def lines (content : List String) : String :=
  String.join (content.map fun line => line ++ "\n")

/-- Lines on the output channel. -/
def say (content : List String) : Answer :=
  { Answer.silent with out := lines content }

/-- A line on the error channel. -/
def complain (line : String) : Answer :=
  { Answer.silent with err := lines [line] }

/-- Name and version of the program. -/
def version : String := "ferrule 0.1.0"

/-- What the shell says first. -/
def greeting : String :=
  lines [version, "Type :help for help, :quit to exit.", ""]

/-- What the shell says last. -/
def farewell : String :=
  lines ["Goodbye!"]

/-- The help of the shell. -/
def help : List String :=
  ["Commands:",
    "  :help, :h, :?     Show this help",
    "  :quit, :q         Exit the REPL",
    "  :clear            Clear the screen",
    "  :functions, :f    List registered functions",
    "  :vars, :v         List global variables",
    "  :safe             Refuse privileged operations from now on",
    "",
    "Lines:",
    "  name arg ...      Call a function; args are JSON, $var or bare words",
    "  let x = literal   Bind a global variable",
    "",
    "Examples:",
    "  mkkeyarray x 1 y 2",
    "  let xs = [3, 1, 2]",
    "  fold add 0 $xs"]

/-- The control sequence that clears a terminal. -/
def clearScreen : String := "\x1b[2J\x1b[1;1H"

/-- A command of the shell itself. -/
inductive Command where
  | quit
  | help
  | clear
  | functions
  | globals
  | safe
deriving DecidableEq

/-- Names of commands. -/
def commands : List (String × Command) :=
  [(":quit", .quit), (":q", .quit), (":exit", .quit), (":help", .help), (":h", .help),
    (":?", .help), (":clear", .clear), (":functions", .functions), (":f", .functions),
    (":vars", .globals), (":v", .globals), (":safe", .safe)]

/-- Indent lines. -/
def indented (content : List String) : List String :=
  content.map fun line => "  " ++ line

/-- Run a command. -/
def runCommand (command : Command) : StateM Engine Answer := do
  match command with
  | .quit => return { Answer.silent with out := farewell, isLast := true }
  | .help => return say help
  | .clear => return { Answer.silent with out := clearScreen }
  | .functions => return say (indented (Session.functionLines (← get)))
  | .globals => return say (indented (Session.variableLines (← get)))
  | .safe =>
      match ← Session.enableSafeMode with
      | .ok _ => return say ["Safe mode on."]
      | .error error => return complain ("Error: " ++ error.message)

variable [KeyHash]

/-- Evaluate a line and show its reports and its result. -/
def runScript (line : String) : StateM Engine Answer := do
  match ← Session.evalLine line with
  | .error error => return complain ("Syntax error: " ++ error.message)
  | .ok evaluation =>
      return { Answer.silent with
        out := lines (evaluation.value?.toList.map Value.display)
        err := lines evaluation.reports }

/-- Answer the characters of a line. -/
def answerChars (line : List Char) : StateM Engine Answer := do
  let text := String.ofList (Text.trim line)
  match text.toList with
  | [] => return .silent
  | ':' :: _ =>
      match commands.lookup text with
      | some command => runCommand command
      | none => return say ["Unknown command: " ++ text, "Type :help for help."]
  | _ => runScript text

/-- Answer a line. -/
def answer (line : String) : StateM Engine Answer := do
  match Text.applyBackspaces? line.toList with
  | some chars => answerChars chars
  | none => return .broken

/-- The lines of an input; a last one without a line end counts too. -/
def inputLines (input : String) : List String :=
  let pieces := input.splitOn "\n"
  if pieces.getLast? = some "" then pieces.dropLast else pieces

/-- Answer lines until one ends the shell or there are no more. The result has
all text of both channels. -/
def converse : List String → StateM Engine Answer
  | [] => return { Answer.silent with out := farewell, isLast := true }
  | line :: rest => do
      let first ← answer line
      if first.isLast then return first
      else return first.before (← converse rest)

end Prompt
end ScriptCore
