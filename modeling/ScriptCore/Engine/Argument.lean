import ScriptCore.Engine.State

/-!
# Arguments of a native

A native sees its bound arguments as numbered slots and may overwrite them.
Reading past the last argument gives void; writing there does nothing.
-/

namespace ScriptCore
namespace Engine

/-- The argument at a position. -/
def slotAt (engine : Engine) (index : Nat) : Value :=
  engine.slots.getD index .void

/-- Overwrite the argument at a position. -/
def setSlot (index : Nat) (value : Value) (engine : Engine) : Engine :=
  { engine with slots := engine.slots.set index value }

/-- The argument at a position. -/
def arg (index : Nat) : StateM Engine Value := do
  return (← get).slotAt index

/-- Take the argument at a position and leave void there. -/
def takeArg (index : Nat) : StateM Engine Value := do
  let value ← arg index
  modify (setSlot index .void)
  return value

/-- Take all arguments and leave void in their places. -/
def takeArgs : StateM Engine (List Value) := do
  let engine ← get
  set { engine with slots := engine.slots.map fun _ => Value.void }
  return engine.slots

end Engine
end ScriptCore
