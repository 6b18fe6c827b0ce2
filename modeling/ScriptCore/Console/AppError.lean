import ScriptCore.Engine.SafeMode
import ScriptCore.Error

/-!
# Errors of the application

What can go wrong around a script: files, settings, arguments and safe mode.
Each error has a text and an exit status.
-/

namespace ScriptCore

/-- An error of the application. -/
inductive AppError where
  | io (message : String)
  | settings (path reason : String)
  | argument (message : String)
  | script (error : ScriptError)
  | safeMode (error : SafeModeError)

namespace AppError

/-- The text of an error. -/
def message : AppError → String
  | io message => "IO error: " ++ message
  | settings path reason => "Config error in " ++ path ++ ": " ++ reason
  | argument message => "Invalid argument: " ++ message
  | script error => error.display
  | safeMode error => error.message

/-- The exit status: two for what the user can mend on the command line or in
the settings, else one. -/
def exitCode : AppError → Nat
  | argument _ => 2
  | settings _ _ => 2
  | _ => 1

end AppError
end ScriptCore
