import ScriptCore.Console.Application
import ScriptCore.Host.Shell.Run
import ScriptCore.OrderedMap.Spread

/-!
# Command line

Reads the arguments, the environment and the settings file, and prints what the
application answers. The interactive shell answers line by line.
-/

namespace ScriptCore
namespace CommandLine

/-- Print the text of both channels. -/
def printAll (out err : String) : IO Unit := do
  let stdout ← IO.getStdout
  let stderr ← IO.getStderr
  stderr.putStr err
  stdout.putStr out
  stdout.flush
  stderr.flush

/-- Read the settings file of an invocation ahead, if it names one. -/
def readFiles (args : List String) : IO Application.Files := do
  match Arguments.parse args with
  | .invoke { config := some path, .. } =>
      try
        let text ← IO.FS.readFile path
        return fun _ => .ok text
      catch _ =>
        return fun _ => .error "No such file or directory (os error 2)"
  | _ => return fun _ => .error "No such file or directory (os error 2)"

/-- Environment entries between NUL bytes. -/
def splitEntries : Bytes → List Bytes
  | [] => [[]]
  | byte :: rest =>
      match splitEntries rest with
      | first :: others => if byte = 0 then [] :: first :: others else (byte :: first) :: others
      | [] => [[byte]]

/-- The environment of entries of the form `name=value`. -/
def environmentOf (content : Bytes) : Environment :=
  (splitEntries content).foldl
    (fun environment entry =>
      let name := entry.takeWhile (· != 0x3D)
      if Environment.isValidName name then
        environment.set name (entry.drop (name.length + 1))
      else environment)
    .empty

/-- The environment of this process, empty where it cannot be read. -/
def readEnvironment : IO Environment := do
  try
    let content ← IO.FS.readBinFile "/proc/self/environ"
    return environmentOf content.toList
  catch _ => return .empty

/-- Answer lines until the shell is over. The result is its exit status. -/
partial def converse (input : IO.FS.Stream) (engine : Engine) : IO Nat := do
  let line ← input.getLine
  if line.isEmpty then
    printAll Prompt.farewell ""
    return 0
  else
    let (reply, engine) := (Prompt.answer line).run engine
    printAll reply.out reply.err
    if reply.isLast then return reply.code
    else converse input engine

/-- Run the program on its arguments. -/
def start (args : List String) : IO UInt32 := do
  let files ← readFiles args
  let environment ← readEnvironment
  match Arguments.parse args with
  | .invoke invocation =>
      match invocation.command, Application.settingsFor files invocation with
      | .shell, .ok settings =>
          printAll Prompt.greeting ""
          let engine := Application.newEngine settings Shell.commandShell environment
          let code ← converse (← IO.getStdin) engine
          return UInt32.ofNat code
      | _, _ =>
          let output := Application.invoke files Shell.commandShell environment invocation ""
          printAll output.out output.err
          return UInt32.ofNat output.code
  | _ =>
      let output := Application.run files Shell.commandShell environment args ""
      printAll output.out output.err
      return UInt32.ofNat output.code

end CommandLine
end ScriptCore

/-- The command line of the scripting engine. -/
def main (args : List String) : IO UInt32 :=
  ScriptCore.CommandLine.start args
