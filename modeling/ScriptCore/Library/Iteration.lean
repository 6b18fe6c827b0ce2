import ScriptCore.Engine.Call

/-!
# Higher-order functions

Each function visits the live elements of an array in order, with one call per
element, and stops at the first failure. Keys carry over to the result. The call
itself is a parameter.
-/

namespace ScriptCore
namespace Iteration

/-- Entries of a container without their positions. -/
abbrev Entries := List (Option String × Value)

/-- Live entries in order. -/
def entriesOf (items : OrderedMap Value) : Entries :=
  items.entries.map Prod.snd

variable [KeyHash]

/-- A container of entries. -/
def ofEntries (entries : Entries) : OrderedMap Value :=
  entries.foldl (fun items (key?, value) => items.insertEntry key? value) .empty

/-- The results of a call for every element. -/
def map (call : Value → Run Value) : Entries → Run Entries
  | [] => return []
  | (key?, value) :: entries => do
      let result ← call value
      let results ← map call entries
      return (key?, result) :: results

/-- Elements for which a test holds. -/
def filter (test : Value → Run Bool) : Entries → Run Entries
  | [] => return []
  | (key?, value) :: entries => do
      let keep ← test value
      let kept ← filter test entries
      return if keep then (key?, value) :: kept else kept

/-- Elements before the first one that fails a test. -/
def takeWhile (test : Value → Run Bool) : Entries → Run Entries
  | [] => return []
  | (key?, value) :: entries => do
      if ← test value then
        let taken ← takeWhile test entries
        return (key?, value) :: taken
      else return []

/-- Elements from the first one on that fails a test. -/
def dropWhile (test : Value → Run Bool) : Entries → Run Entries
  | [] => return []
  | (key?, value) :: entries => do
      if ← test value then dropWhile test entries
      else return (key?, value) :: entries

/-- Combine elements from left to right. -/
def fold (call : Value → Value → Run Value) (accumulator : Value) : List Value → Run Value
  | [] => return accumulator
  | value :: values => do
      let next ← call accumulator value
      fold call next values

/-- Combine elements from right to left; the accumulator is still the first
argument. -/
def foldr (call : Value → Value → Run Value) (accumulator : Value) (values : List Value) :
    Run Value :=
  fold call accumulator values.reverse

/-- Call a predicate and convert its result to a truth value. -/
def test (call : Value → Run Value) (value : Value) : Run Bool := do
  let result ← call value
  match result.coerce .bool with
  | .ok converted => return converted.isTruthy
  | .error cast => Run.fail (.coercion "predicate result" 0 cast)

end Iteration
end ScriptCore
