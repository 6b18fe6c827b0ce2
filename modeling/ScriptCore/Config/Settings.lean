import ScriptCore.OrderedMap.Basic

/-!
# Settings

What a host decides before an engine starts: the safe-mode flag, the cap on
nested calls and the bucket order of new scopes.
-/

namespace ScriptCore

/-- Settings of an engine. An unset safe-mode flag is left to the host. -/
structure Settings where
  safeMode : Option Bool := none
  maxCallDepth : Nat := 10000
  initialOrder : Nat := OrderedMap.defaultOrder
deriving DecidableEq

namespace Settings

/-- A command-line flag turns safe mode on, whatever the settings say. -/
def withSafeModeFlag (settings : Settings) (flag : Bool) : Settings :=
  if flag then { settings with safeMode := some true } else settings

/-- The settings as a document, one assignment a line. -/
def toText (settings : Settings) : String :=
  let safeMode :=
    match settings.safeMode with
    | none => ""
    | some flag => "safe_mode = " ++ toString flag ++ "\n"
  safeMode ++ "max_call_depth = " ++ toString settings.maxCallDepth ++ "\n" ++
    "initial_order = " ++ toString settings.initialOrder ++ "\n"

end Settings
end ScriptCore
