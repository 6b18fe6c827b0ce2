/-!
# Safe mode

The safe-mode flag can be set once. Until then it reads as off.
-/

namespace ScriptCore

/-- The flag of safe mode, if it has been set. -/
structure SafeMode where
  flag : Option Bool
deriving DecidableEq

/-- A refused attempt to set the flag again, with the flag in force. -/
structure SafeModeError where
  current : Bool
deriving DecidableEq

namespace SafeModeError

def message (error : SafeModeError) : String :=
  "safe mode was already set to " ++ toString error.current

end SafeModeError

namespace SafeMode

/-- A flag that has not been set. -/
def unset : SafeMode := ⟨none⟩

/-- A flag that has been set. -/
def preset (flag : Bool) : SafeMode := ⟨some flag⟩

def isSet (mode : SafeMode) : Bool :=
  mode.flag.isSome

def isEnabled (mode : SafeMode) : Bool :=
  mode.flag.getD false

/-- Set the flag, unless it has been set before. -/
def set (mode : SafeMode) (flag : Bool) : Except SafeModeError SafeMode :=
  match mode.flag with
  | none => .ok (preset flag)
  | some current => .error { current }

@[simp] theorem set_unset (flag : Bool) : unset.set flag = .ok (preset flag) := rfl

@[simp] theorem set_preset (current flag : Bool) :
    (preset current).set flag = .error { current } := rfl

end SafeMode
end ScriptCore
