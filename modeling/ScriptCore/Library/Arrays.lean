import ScriptCore.Value.Compare

/-!
# Array functions

The pure part of the array natives. An element is addressed by a position or by
a key: a non-negative integer is a position, a string is a key, and any other
value addresses nothing.
-/

namespace ScriptCore

/-- The address of an array element. -/
inductive Address where
  | index (place : Nat)
  | key (text : String)
  | invalid
deriving DecidableEq

variable [KeyHash]

namespace Address

/-- The address that a value denotes. -/
def ofValue : Value → Address
  | .int n => if 0 ≤ n.toInt then index n.toInt.toNat else invalid
  | .str bytes => key (Utf8.text bytes)
  | _ => invalid

/-- The position that an address denotes. -/
def position? (address : Address) (items : OrderedMap Value) : Option Nat :=
  match address with
  | index place => if (items.getAt? place).isSome then some place else none
  | key text => items.keyIndex? text
  | invalid => none

end Address

namespace ArrayLibrary

/-- Keys of keyed elements and positions of the others. -/
def addresses (items : OrderedMap Value) : List Value :=
  items.entries.map fun (index, key?, _) =>
    match key? with
    | some key => .ofText key
    | none => .ofNat index

/-- The element at an address, void where there is none. -/
def get (items : OrderedMap Value) (address : Address) : Value :=
  match address with
  | .index index => items.valueAt index
  | .key key => (items.get? key).getD .void
  | .invalid => .void

/-- Remove the element at an address, if there is one. -/
def delete? (items : OrderedMap Value) (address : Address) : Option (OrderedMap Value) :=
  (address.position? items).map items.deleteAt

/-- Merge arrays, and append arguments that are not arrays. -/
def merge (args : List Value) : OrderedMap Value :=
  args.foldl
    (fun merged arg =>
      match arg with
      | .array items => merged.extend items
      | other => merged.append other)
    .empty

/-- The position of the first element equal to a value, or void. -/
def search (items : OrderedMap Value) (wanted : Value) : Value :=
  match items.search? wanted with
  | some index => .ofNat index
  | none => .void

end ArrayLibrary
end ScriptCore
