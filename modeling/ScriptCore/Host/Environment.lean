import ScriptCore.Text.Utf8

/-!
# Process environment

The environment of the host process is a list of named byte strings, newest
first, with at most one entry for a name. A name is usable only if it is not
empty and has neither `=` nor NUL in it; a usable value has no NUL.
-/

namespace ScriptCore

/-- Environment variables. -/
structure Environment where
  entries : List (Bytes × Bytes)
deriving DecidableEq

namespace Environment

/-- An environment without variables. -/
def empty : Environment := ⟨[]⟩

/-- The value of a variable. -/
def get? (environment : Environment) (name : Bytes) : Option Bytes :=
  environment.entries.lookup name

/-- Remove a variable. -/
def unset (environment : Environment) (name : Bytes) : Environment :=
  ⟨environment.entries.filter fun entry => entry.1 != name⟩

/-- Set a variable. -/
def set (environment : Environment) (name value : Bytes) : Environment :=
  ⟨(name, value) :: (environment.unset name).entries⟩

/-- Names that the process environment can hold. -/
def isValidName (name : Bytes) : Bool :=
  !name.isEmpty && !name.contains 0x3D && !name.contains 0

/-- Values that the process environment can hold. -/
def isValidValue (value : Bytes) : Bool :=
  !value.contains 0

@[simp] theorem get?_set_self (environment : Environment) (name value : Bytes) :
    (environment.set name value).get? name = some value := by
  simp [get?, set]

end Environment
end ScriptCore
