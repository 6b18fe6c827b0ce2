import ScriptCore.Number.Layout
import ScriptCore.Number.Leading
import ScriptCore.Value.Basic

/-!
# Coercion

One table, indexed by the tag of the value and the wanted tag, decides every
conversion: forced parameters, comparison across tags, writes to linked
variables and results of predicates. Void converts to every scalar, scalars
convert among each other where the value allows it, and arrays, records,
functions and resources convert only to themselves.
-/

namespace ScriptCore

/-- A conversion without a rule, or whose rule refused the value. -/
structure CastError where
  source : Tag
  target : Tag
deriving DecidableEq

namespace CastError

def message (error : CastError) : String :=
  "cannot coerce " ++ error.source.name ++ " to " ++ error.target.name

end CastError

namespace Value

/-- Decimal text of an integer. -/
def intText (n : Int64) : String :=
  toString n.toInt

/-- Text of a truth value. -/
def boolText (value : Bool) : String :=
  if value then "true" else "false"

/-- Strings that count as false. -/
def isFalseText (bytes : Bytes) : Bool :=
  bytes.isEmpty || bytes == [0x30] || bytes == Utf8.encode "false"

/-- Convert void to a scalar. -/
def coerceVoid : Tag → Option Value
  | .void => some void
  | .bool => some (bool false)
  | .int => some (int 0)
  | .float => some (float .zero)
  | .str => some (str [])
  | _ => none

/-- Convert a truth value to a scalar. -/
def coerceBool (value : Bool) : Tag → Option Value
  | .bool => some (bool value)
  | .int => some (int (if value then 1 else 0))
  | .float => some (float (Binary64.ofInt (if value then 1 else 0)))
  | .str => some (ofText (boolText value))
  | _ => none

/-- Convert an integer to a scalar. -/
def coerceInt (n : Int64) : Tag → Option Value
  | .bool => some (bool (n != 0))
  | .int => some (int n)
  | .float => some (float (Binary64.ofInt n.toInt))
  | .str => some (ofText (intText n))
  | _ => none

/-- Convert a float to a scalar. An integer part exists only for finite
numbers. -/
def coerceFloat (x : Binary64) : Tag → Option Value
  | .bool => some (bool (!x.isZero))
  | .int => if x.isFinite then some (int x.truncate) else none
  | .float => some (float x)
  | .str => some (ofText x.toText)
  | _ => none

/-- Convert a string to a scalar; numbers are read from its start. -/
def coerceStr (bytes : Bytes) : Tag → Option Value
  | .bool => some (bool (!isFalseText bytes))
  | .int => (Numeral.leadingInt? bytes).map int
  | .float => (Numeral.leadingFloat? bytes).map float
  | .str => some (str bytes)
  | _ => none

/-- The entry of the coercion table for a value and a wanted tag. -/
def coerce? (value : Value) (target : Tag) : Option Value :=
  match value with
  | void => coerceVoid target
  | bool b => coerceBool b target
  | int n => coerceInt n target
  | float x => coerceFloat x target
  | str bytes => coerceStr bytes target
  | array _ => if target = .array then some value else none
  | record _ => if target = .record then some value else none
  | function _ => if target = .function then some value else none
  | resource _ => if target = .resource then some value else none

/-- Convert a value to a tag. -/
def coerce (value : Value) (target : Tag) : Except CastError Value :=
  match value.coerce? target with
  | some converted => .ok converted
  | none => .error { source := value.tag, target }

/-- A value has a cast to its own tag, which is the value. -/
theorem coerce?_tag_self (value : Value) : value.coerce? value.tag = some value := by
  cases value <;> simp [coerce?, tag, coerceVoid, coerceBool, coerceInt, coerceFloat, coerceStr]

end Value
end ScriptCore
