import ScriptCore.Host.Environment

/-!
# Shell commands

How a command of a script runs is up to the host: it may end with an exit code,
be killed by a signal, or not start at all, for a reason that only the host
knows.
-/

namespace ScriptCore

/-- What became of a shell command. -/
inductive CommandResult where
  | exited (code : Int32)
  | killed
  | notStarted (reason : String)
deriving DecidableEq

/-- The shell of a host. A command may depend on the process environment and on
the commands that ran before it, the newest first. -/
structure CommandShell where
  run : Environment → List String → String → CommandResult

namespace CommandShell

/-- The shell of a host on which no shell is found. -/
def missing : CommandShell where
  run _ _ _ := .notStarted "No such file or directory (os error 2)"

end CommandShell
end ScriptCore
