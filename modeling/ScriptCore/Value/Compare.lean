import ScriptCore.Value.Coerce

/-!
# Comparison

To compare two values the right one is first converted to the tag of the left
one; if that fails, or a NaN is involved, they are unordered. Containers are
ordered by their number of slots and then slot by slot: a missing key comes
before every key, keys go by their bytes, and a vacant slot counts as void.
-/

namespace ScriptCore

/-- Lexicographic order. -/
def lexicographic {α : Type} (compareItem : α → α → Ordering) : List α → List α → Ordering
  | [], [] => .eq
  | [], _ :: _ => .lt
  | _ :: _, [] => .gt
  | left :: lefts, right :: rights =>
      (compareItem left right).then (lexicographic compareItem lefts rights)

/-- Byte strings by their bytes, a proper start first. -/
def compareBytes (left right : Bytes) : Ordering :=
  lexicographic (fun l r => Ord.compare l.toNat r.toNat) left right

/-- Texts by their bytes. -/
def compareText (left right : String) : Ordering :=
  compareBytes (Utf8.encode left) (Utf8.encode right)

/-- Optional texts; a missing one comes first. -/
def compareText? : Option String → Option String → Ordering
  | none, none => .eq
  | none, some _ => .lt
  | some _, none => .gt
  | some left, some right => compareText left right

namespace Function

/-- Overload sets by name, then by number of signatures, then by the identities
of their signatures. -/
def compare (left right : Function) : Ordering :=
  (compareText left.name right.name).then <|
    (Ord.compare left.overloads.length right.overloads.length).then <|
      lexicographic (fun l r => Ord.compare l.id r.id) left.overloads right.overloads

end Function

namespace Value

/-- Comparison of two values of one tag that are no containers. -/
def compareLeaf : Value → Value → Option Ordering
  | void, void => some .eq
  | bool left, bool right => some (Ord.compare left.toNat right.toNat)
  | int left, int right => some (Ord.compare left.toInt right.toInt)
  | float left, float right => left.compare right
  | str left, str right => some (compareBytes left right)
  | function left, function right => some (left.compare right)
  | resource left, resource right => some (Ord.compare left.id right.id)
  | _, _ => none

mutual

/-- Compare after converting the right operand to the tag of the left one. -/
def compare : Value → Value → Option Ordering
  | array ⟨⟨left⟩, _, _, _, _⟩, array ⟨⟨right⟩, _, _, _, _⟩ =>
      match Ord.compare left.length right.length with
      | .eq => compareSlots left right
      | unequal => some unequal
  | record ⟨leftClass, ⟨⟨left⟩, _, _, _, _⟩, _⟩, record ⟨rightClass, ⟨⟨right⟩, _, _, _, _⟩, _⟩ =>
      match compareText? leftClass rightClass with
      | .eq =>
          match Ord.compare left.length right.length with
          | .eq => compareSlots left right
          | unequal => some unequal
      | unequal => some unequal
  | left, right => (right.coerce? left.tag).bind left.compareLeaf
termination_by structural left => left

/-- Compare slot lists up to the first difference. -/
def compareSlots : List (Slot Value) → List (Slot Value) → Option Ordering
  | [], _ => some .eq
  | _ :: _, [] => some .eq
  | slot :: slots, other :: others =>
      match compareText? slot.key? other.key? with
      | .eq =>
          let right := other.value?.getD void
          let values :=
            match slot with
            | .vacant => (right.coerce? .void).bind (compareLeaf void)
            | .item left => left.compare right
            | .entry _ left => left.compare right
          match values with
          | some .eq => compareSlots slots others
          | result => result
      | unequal => some unequal
termination_by structural slots => slots

end

/-- Whether the left value comes before the right one or is equal to it. -/
def ordered (left right : Value) : Bool :=
  match left.compare right with
  | some .lt => true
  | some .eq => true
  | _ => false

/-- Equality after conversion. -/
def equal (left right : Value) : Bool :=
  left.compare right == some .eq

end Value

namespace OrderedMap

/-- The first position whose value equals the wanted one after conversion. -/
def search? (items : OrderedMap Value) (wanted : Value) : Option Nat :=
  (items.entries.find? fun (_, _, value) => value.equal wanted).map fun (index, _, _) => index

end OrderedMap
end ScriptCore
