import ScriptCore.Config.Document
import ScriptCore.Console.Usage

/-!
# The application

The program as a function from its arguments, its input, the files it may read
and the shell of its host to what it prints and its exit status.
-/

namespace ScriptCore
namespace Application

open Engine

/-- What a run of the program shows. -/
structure Output where
  code : Nat
  out : String
  err : String
deriving DecidableEq

namespace Output

/-- Success with text on the output channel. -/
def ok (out : String) : Output :=
  { code := 0, out, err := "" }

/-- The output of an error. -/
def ofError (error : AppError) : Output :=
  { code := error.exitCode, out := "", err := Prompt.lines ["Error: " ++ error.message] }

end Output

/-- How the program reads a file: its text, or why it cannot be read. -/
abbrev Files := String → Except String String

/-- Settings from the file at a path. -/
def loadSettings (files : Files) (path : String) : Except AppError Settings :=
  match files path with
  | .error reason => .error (.io ("cannot read '" ++ path ++ "': " ++ reason))
  | .ok text =>
      match Settings.parse? text with
      | some settings => .ok settings
      | none => .error (.settings path "not a valid settings document")

/-- The settings of an invocation. -/
def settingsFor (files : Files) (invocation : Arguments.Invocation) :
    Except AppError Settings := do
  let settings ←
    match invocation.config with
    | some path => loadSettings files path
    | none => .ok {}
  return settings.withSafeModeFlag invocation.safeMode

variable [KeyHash]

/-- A new engine with the standard library. -/
def newEngine (settings : Settings) (shell : CommandShell) (environment : Environment) : Engine :=
  (installLibrary.run.run (Engine.new settings (.new shell environment))).2

/-- What a call shows as its result. -/
def resultText (asJson : Bool) (value : Value) : String :=
  if asJson then Prompt.lines [value.jsonText]
  else if value.isVoid then ""
  else Prompt.lines [value.display]

/-- Reports as warnings. -/
def warnings (reports : List String) : String :=
  Prompt.lines (reports.map fun report => "warning: " ++ report)

/-- Why a call failed. -/
def failureText : Failure → String
  | .error error => error.display
  | .fault message => message
  | .exhausted => "out of frames"

/-- Call one function on literal arguments. The last report of a failed call is
the failure itself, which is shown as an error. -/
def callOnce (engine : Engine) (name : String) (tokens : List String) (asJson : Bool) : Output :=
  match Literal.parseValues tokens with
  | .error error => .ofError error
  | .ok values =>
      let (outcome, after) := (Engine.run (Engine.call name values)).run.run engine
      match outcome with
      | .ok value =>
          { code := 0, out := resultText asJson value, err := warnings after.reports }
      | .error failure =>
          { code := 1
            out := ""
            err := warnings after.reports.dropLast ++
              Prompt.lines ["Error: " ++ failureText failure] }

/-- List the registered functions. -/
def listFunctions (engine : Engine) : Output :=
  .ok (Prompt.lines (Session.functionLines engine))

/-- Run the interactive shell on an input. -/
def interact (engine : Engine) (input : String) : Output :=
  let answer := ((Prompt.converse (Prompt.inputLines input)).run engine).1
  { code := answer.code, out := Prompt.greeting ++ answer.out, err := answer.err }

/-- Run an invocation. -/
def invoke
    (files : Files)
    (shell : CommandShell)
    (environment : Environment)
    (invocation : Arguments.Invocation)
    (input : String) :
    Output :=
  match settingsFor files invocation with
  | .error error => .ofError error
  | .ok settings =>
      let engine := newEngine settings shell environment
      match invocation.command with
      | .call name args asJson => callOnce engine name args asJson
      | .functions => listFunctions engine
      | .shell => interact engine input

/-- Run the program. -/
def run
    (files : Files)
    (shell : CommandShell)
    (environment : Environment)
    (args : List String)
    (input : String) :
    Output :=
  match Arguments.parse args with
  | .version => .ok (Prompt.lines [Prompt.version])
  | .help topic => .ok (Prompt.lines (Usage.help topic))
  | .usage => { code := 2, out := "", err := Prompt.lines Usage.fault }
  | .invoke invocation => invoke files shell environment invocation input

end Application
end ScriptCore
