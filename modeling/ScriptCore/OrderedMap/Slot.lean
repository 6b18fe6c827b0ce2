/-!
# Container slots

A position of an ordered container is vacant, holds a value, or holds a value
under a key. Everything a container shows to its users is a function of its
slots; this module has the functions of a single slot and of a slot list.
-/

namespace ScriptCore

/-- One position of an ordered container. -/
inductive Slot (α : Type) where
  | vacant
  | item (value : α)
  | entry (key : String) (value : α)
deriving DecidableEq

namespace Slot

variable {α β : Type}

/-- The value in a slot. -/
def value? : Slot α → Option α
  | vacant => none
  | item value => some value
  | entry _ value => some value

/-- The key of a slot. -/
def key? : Slot α → Option String
  | vacant => none
  | item _ => none
  | entry key _ => some key

/-- A slot with an optional key. -/
def ofEntry (key? : Option String) (value : α) : Slot α :=
  match key? with
  | none => item value
  | some key => entry key value

/-- Replace the value and keep the key; a vacant slot becomes an unkeyed one. -/
def write (slot : Slot α) (value : α) : Slot α :=
  match slot with
  | vacant => item value
  | item _ => item value
  | entry key _ => entry key value

/-- Apply a function to the value. -/
def map (f : α → β) : Slot α → Slot β
  | vacant => vacant
  | item value => item (f value)
  | entry key value => entry key (f value)

def isVacant : Slot α → Bool
  | vacant => true
  | _ => false

/-- Whether the slot has the given key. -/
def hasKey (key : String) (slot : Slot α) : Bool :=
  slot.key? == some key

@[simp] theorem value?_vacant : (vacant : Slot α).value? = none := rfl

@[simp] theorem value?_item (value : α) : (item value).value? = some value := rfl

@[simp] theorem value?_entry (key : String) (value : α) :
    (entry key value).value? = some value := rfl

@[simp] theorem key?_vacant : (vacant : Slot α).key? = none := rfl

@[simp] theorem key?_item (value : α) : (item value).key? = none := rfl

@[simp] theorem key?_entry (key : String) (value : α) :
    (entry key value).key? = some key := rfl

@[simp] theorem key?_map (f : α → β) (slot : Slot α) : (slot.map f).key? = slot.key? := by
  cases slot <;> rfl

@[simp] theorem value?_map (f : α → β) (slot : Slot α) :
    (slot.map f).value? = slot.value?.map f := by
  cases slot <;> rfl

@[simp] theorem isVacant_map (f : α → β) (slot : Slot α) :
    (slot.map f).isVacant = slot.isVacant := by
  cases slot <;> rfl

end Slot
end ScriptCore
