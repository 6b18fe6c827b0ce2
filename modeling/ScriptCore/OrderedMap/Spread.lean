import ScriptCore.OrderedMap.Basic

/-!
# Spreading keys

The function that this program takes to spread keys over buckets. Nothing but
the program itself and examples that are run depends on the choice.
-/

namespace ScriptCore

/-- Spread keys by a polynomial in their characters. -/
instance : KeyHash where
  hash key := key.toList.foldl (fun total char => (total * 31 + char.toNat) % 4294967296) 7

end ScriptCore
