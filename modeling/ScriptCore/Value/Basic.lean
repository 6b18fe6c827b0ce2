import ScriptCore.OrderedMap.Basic
import ScriptCore.Signature.Basic

/-!
# Values

A value is void, a scalar, a byte string, an array, a record, a function or a
resource. Arrays and records hold ordered containers of values. A resource is
known here only by its identity and kind; its handle belongs to the host.
-/

namespace ScriptCore

/-- Ordered fields with an optional class name and a method table. -/
structure RecordOf (α : Type) where
  className : Option String
  fields : OrderedMap α
  methods : OrderedMap Function

/-- Identity and kind of a host resource. -/
structure ResourceRef where
  id : Nat
  kind : String
deriving DecidableEq

/-- A script value. -/
inductive Value where
  | void
  | bool (value : Bool)
  | int (value : Int64)
  | float (value : Binary64)
  | str (bytes : Bytes)
  | array (items : OrderedMap Value)
  | record (content : RecordOf Value)
  | function (overloads : Function)
  | resource (ref : ResourceRef)

/-- Records of values. -/
abbrev Record := RecordOf Value

namespace Value

instance : Inhabited Value := ⟨void⟩

/-- The tag of a value. -/
def tag : Value → Tag
  | void => .void
  | bool _ => .bool
  | int _ => .int
  | float _ => .float
  | str _ => .str
  | array _ => .array
  | record _ => .record
  | function _ => .function
  | resource _ => .resource

/-- The string value of a text. -/
def ofText (text : String) : Value :=
  str (Utf8.encode text)

/-- The integer value of a count. -/
def ofNat (n : Nat) : Value :=
  int (Int64.ofNat n)

/-- An array of unkeyed values. -/
def ofList (values : List Value) : Value :=
  array (OrderedMap.ofValues values)

/-- An array of string values. -/
def ofTexts (texts : List String) : Value :=
  ofList (texts.map ofText)

/-- An array with at most one element. -/
def ofOption (value? : Option Value) : Value :=
  ofList value?.toList

def isVoid : Value → Bool
  | void => true
  | _ => false

/-- Whether a value counts as true. -/
def isTruthy : Value → Bool
  | void => false
  | bool value => value
  | int value => value != 0
  | float value => !value.isZero
  | str bytes => !bytes.isEmpty
  | array items => decide (0 < items.liveCount)
  | record _ => true
  | function _ => true
  | resource _ => true

def asBool? : Value → Option Bool
  | bool value => some value
  | _ => none

def asInt? : Value → Option Int64
  | int value => some value
  | _ => none

def asFloat? : Value → Option Binary64
  | float value => some value
  | _ => none

def asBytes? : Value → Option Bytes
  | str bytes => some bytes
  | _ => none

/-- The text of a string value, with replacement characters. -/
def asText? (value : Value) : Option String :=
  value.asBytes?.map Utf8.text

def asArray? : Value → Option (OrderedMap Value)
  | array items => some items
  | _ => none

def asRecord? : Value → Option Record
  | record fields => some fields
  | _ => none

/-! ## Copies -/

mutual

variable [KeyHash]

/-- A copy with the same structure; functions and resources are shared. -/
def deepCopy : Value → Value
  | array ⟨⟨slots⟩, _, order, keyed, vacant⟩ =>
      array (OrderedMap.rebuildBuckets ⟨⟨deepCopySlots slots⟩, #[], order, keyed, vacant⟩)
  | record ⟨className, ⟨⟨slots⟩, _, order, keyed, vacant⟩, methods⟩ =>
      record ⟨className,
        OrderedMap.rebuildBuckets ⟨⟨deepCopySlots slots⟩, #[], order, keyed, vacant⟩, methods⟩
  | void => void
  | bool value => bool value
  | int value => int value
  | float value => float value
  | str bytes => str bytes
  | function f => function f
  | resource ref => resource ref
termination_by structural value => value

/-- Copies of the values in a slot list. -/
def deepCopySlots : List (Slot Value) → List (Slot Value)
  | [] => []
  | .vacant :: slots => .vacant :: deepCopySlots slots
  | .item value :: slots => .item value.deepCopy :: deepCopySlots slots
  | .entry key value :: slots => .entry key value.deepCopy :: deepCopySlots slots
termination_by structural slots => slots

end

/-! ## Resources -/

mutual

/-- Identities of the resources that a value refers to. -/
def resourceIds : Value → List Nat
  | array ⟨⟨slots⟩, _, _, _, _⟩ => slotResourceIds slots
  | record ⟨_, ⟨⟨slots⟩, _, _, _, _⟩, _⟩ => slotResourceIds slots
  | resource ref => [ref.id]
  | void => []
  | bool _ => []
  | int _ => []
  | float _ => []
  | str _ => []
  | function _ => []
termination_by structural value => value

/-- Identities of the resources that a slot list refers to. -/
def slotResourceIds : List (Slot Value) → List Nat
  | [] => []
  | .vacant :: slots => slotResourceIds slots
  | .item value :: slots => value.resourceIds ++ slotResourceIds slots
  | .entry _ value :: slots => value.resourceIds ++ slotResourceIds slots
termination_by structural slots => slots

end

end Value

namespace OrderedMap

/-- The value at a position, void where there is none. -/
def valueAt (items : OrderedMap Value) (index : Nat) : Value :=
  (items.getAt? index).getD .void

end OrderedMap
end ScriptCore
