import ScriptCore.OrderedMap.Spread
import ScriptCore.Proofs.Json.Reading
import ScriptCore.Proofs.Text.Quoted
import ScriptCore.Proofs.Value.JsonInverse
import ScriptCore.Value.Display

/-!
# The displayed text of an array determines its slots

The text of an array can be read from left to right. The first character of a
slot tells a vacant slot from a value and the tag of the value; the text of the
value ends where a comma or the closing bracket follows. A string and a key both
start with a quote, but only a key has an arrow behind it. Commas, brackets and
arrows inside a string do no harm because the string is quoted.

This holds of arrays of any depth whose leaves are void, truth values, integers
and strings of valid UTF-8. It is stated for a value together with the text that
follows it, which is what the induction over the nesting needs.
-/

namespace ScriptCore

/-! ## Characters of a text -/

namespace Value

/-- The characters of a value inside an array. -/
def shown (value : Value) : List Char :=
  (nestedText value value.display).toList

end Value

namespace Slot

/-- The characters of a slot of an array. -/
def shown : Slot Value → List Char
  | vacant => ['_']
  | item value => value.shown
  | entry key value =>
      Text.quotedWith '\x22' key.toList ++ (' ' :: '=' :: '>' :: ' ' :: value.shown)

end Slot

namespace SlotList

/-- The characters behind a slot of an array, given the slots that follow it. -/
def shownAfter : List (Slot Value) → List Char
  | [] => [']']
  | slot :: slots => ',' :: ' ' :: (slot.shown ++ shownAfter slots)

/-- The characters behind the opening bracket of an array. -/
def shown : List (Slot Value) → List Char
  | [] => [']']
  | slot :: slots => slot.shown ++ shownAfter slots

end SlotList

namespace Value

/-- The displayed slots are the shown ones. -/
theorem displaySlots_eq (slots : List (Slot Value)) :
    displaySlots slots = slots.map fun slot => String.ofList slot.shown := by
  induction slots with
  | nil => rfl
  | cons slot slots ih =>
      cases slot with
      | vacant => simp [displaySlots, Slot.shown, ih]
      | item value => simp [displaySlots, Slot.shown, shown, ih]
      | entry key value =>
          simp [displaySlots, Slot.shown, shown, ih, Text.quoted,
            ← String.toList_inj]

end Value

namespace SlotList

theorem intercalate_shown (slots : List (Slot Value)) :
    Value.separator.toList.intercalate (slots.map Slot.shown) ++ [']'] = shown slots := by
  cases slots with
  | nil => rfl
  | cons slot slots =>
      induction slots generalizing slot with
      | nil => simp [shown, shownAfter]
      | cons next slots ih =>
          rw [List.map_cons, List.map_cons, List.intercalate_cons_cons, ← List.map_cons,
            List.append_assoc, ih]
          simp [shown, shownAfter, Value.separator]

end SlotList

namespace Value

variable {value : Value} {slots others : List (Slot Value)} {rest otherRest : List Char}

theorem toList_display_array (items : OrderedMap Value) :
    (array items).display.toList = '[' :: SlotList.shown items.toList := by
  obtain ⟨⟨slots⟩, buckets, order, keyed, vacant⟩ := items
  have inner := SlotList.intercalate_shown slots
  rw [display, displaySlots_eq]
  simp [String.toList_intercalate, Function.comp_def, OrderedMap.toList, ← inner]

theorem shown_array (items : OrderedMap Value) :
    (array items).shown = '[' :: SlotList.shown items.toList :=
  toList_display_array items

theorem shown_int (n : Int64) : (int n).shown = (Json.integer n.toInt).chars := rfl

/-- A string is shown in quotes. -/
theorem shown_str (bytes : Bytes) :
    (str bytes).shown = Text.quotedWith '\x22' (Utf8.text bytes).toList := by
  simp [shown, nestedText, display, Text.quoted]

/-! ## First characters -/

/-- A value that may stand in an array of texts and numbers: a leaf that shows
all that it is, or an array. -/
def isTextual : Value → Bool
  | void => true
  | bool _ => true
  | int _ => true
  | str bytes => Utf8.isValid bytes
  | array _ => true
  | _ => false

/-- A tree of textual values. -/
abbrev Textual (value : Value) : Prop :=
  value.Throughout fun part => part.isTextual = true

/-- The tag of a value in an array, told by the first character of its text. -/
def tagOfFirst (first : Char) : Option Tag :=
  if first = 'v' then some .void
  else if first = 't' || first = 'f' then some .bool
  else if first = '-' || first.isDigit then some .int
  else if first = '\x22' then some .str
  else if first = '[' then some .array
  else none

/-- A digit begins an integer. -/
theorem tagOfFirst_of_isDigit {first : Char} (digit : first.isDigit = true) :
    tagOfFirst first = some .int := by
  have apart (letter : Char) (other : letter.isDigit = false) : first ≠ letter := by
    rintro rfl
    simp [digit] at other
  simp [tagOfFirst, digit, apart 'v' (by decide), apart 't' (by decide), apart 'f' (by decide)]

/-- The first shown character of a value tells its tag. -/
theorem exists_first
    (textual : value.isTextual = true) :
    ∃ first more, value.shown = first :: more ∧ tagOfFirst first = some value.tag := by
  cases value with
  | void => exact ⟨_, _, rfl, rfl⟩
  | bool value => cases value <;> exact ⟨_, _, rfl, rfl⟩
  | int n =>
      rw [shown_int, Json.chars_integer]
      split
      · obtain ⟨first, more, digits, digit⟩ := Json.exists_toDigits_cons n.toInt.toNat
        exact ⟨first, more, digits, tagOfFirst_of_isDigit digit⟩
      · exact ⟨_, _, rfl, rfl⟩
  | str bytes => exact ⟨_, _, shown_str bytes, rfl⟩
  | array items => exact ⟨_, _, shown_array items, rfl⟩
  | float x => cases textual
  | record content => cases textual
  | function f => cases textual
  | resource ref => cases textual

theorem tagOfFirst_of_shown_append
    {rest more : List Char}
    {first : Char}
    (textual : value.isTextual = true)
    (same : value.shown ++ rest = first :: more) :
    tagOfFirst first = some value.tag := by
  obtain ⟨start, later, text, tag⟩ := exists_first textual
  rw [text] at same
  obtain ⟨rfl, -⟩ := List.cons.inj same
  exact tag

/-- Texts that start alike are texts of values of one tag. -/
theorem tag_eq_of_shown_append
    {value other : Value}
    (textual : value.isTextual = true)
    (textualOther : other.isTextual = true)
    (same : value.shown ++ rest = other.shown ++ otherRest) :
    value.tag = other.tag := by
  obtain ⟨first, more, text, tag⟩ := exists_first textualOther
  rw [text] at same
  have tags := (tagOfFirst_of_shown_append textual same).symm.trans tag
  exact Option.some.inj tags

/-! ## Reading a value -/

/-- What may follow a slot: the comma before the next one, the closing bracket,
or nothing. -/
def Ends (rest : List Char) : Prop :=
  ∀ char ∈ rest.head?, char = ',' ∨ char = ']'

theorem Ends.delimited (ends : Ends rest) : Json.Delimited rest := by
  intro char here
  rcases ends char here with rfl | rfl <;> decide

theorem ends_shownAfter (slots : List (Slot Value)) (rest : List Char) :
    Ends (SlotList.shownAfter slots ++ rest) := by
  cases slots <;> simp [Ends, SlotList.shownAfter]

/-- The text of the value, where it ends, tells the value from every other, and
where it ends. -/
def Legible (value : Value) : Prop :=
  ∀ (other : Value) (rest otherRest : List Char),
    Textual other → Ends rest → Ends otherRest →
      value.shown ++ rest = other.shown ++ otherRest → Same value other ∧ rest = otherRest

/-- The text of void is read back as it alone. -/
theorem legible_void : Legible void := by
  intro other rest otherRest textual ends endsOther same
  have tags := tag_eq_of_shown_append rfl textual.here same
  cases other with
  | void => exact ⟨rfl, List.append_cancel_left same⟩
  | _ => cases tags

theorem legible_bool (value : Bool) : Legible (bool value) := by
  intro other rest otherRest textual ends endsOther same
  have tags := tag_eq_of_shown_append rfl textual.here same
  cases other with
  | bool otherValue =>
      cases value <;> cases otherValue <;>
        simp_all [shown, nestedText, display, boolText, Same]
  | _ => cases tags

theorem legible_int (n : Int64) : Legible (int n) := by
  intro other rest otherRest textual ends endsOther same
  have tags := tag_eq_of_shown_append rfl textual.here same
  cases other with
  | int m =>
      -- an integer is shown as in JSON, and JSON texts can be read back
      have readsBack (k : Int64) : Json.ReadsBack 0 (.integer k.toInt) :=
        Json.readsBack_integer k.le_toInt (by have := k.toInt_lt; omega)
      rw [shown_int, shown_int] at same
      obtain ⟨fuel, enough, enoughOther⟩ :
          ∃ fuel, 2 * (Json.integer n.toInt).chars.length ≤ fuel ∧
            2 * (Json.integer m.toInt).chars.length ≤ fuel :=
        ⟨_, Nat.le_max_left _ _, Nat.le_max_right _ _⟩
      have read := readsBack n fuel rest enough ends.delimited
      rw [same, readsBack m fuel otherRest enoughOther endsOther.delimited] at read
      simp only [Option.some.injEq, Prod.mk.injEq, Json.integer.injEq, Int64.toInt_inj] at read
      exact ⟨congrArg int read.1, read.2.symm⟩
  | _ => cases tags

/-- The text of a string of valid bytes is read back as it alone. -/
theorem legible_str {bytes : Bytes} (valid : Utf8.isValid bytes = true) : Legible (str bytes) := by
  intro other rest otherRest textual ends endsOther same
  have textualHere : (str bytes).isTextual = true := valid
  have tags := tag_eq_of_shown_append textualHere textual.here same
  cases other with
  | str others =>
      rw [shown_str, shown_str] at same
      obtain ⟨chars, rests⟩ := Text.quotedWith_append_inj same
      have texts := congrArg Utf8.encode (String.toList_inj.mp chars)
      rw [Utf8.encode_text valid, Utf8.encode_text textual.here] at texts
      exact ⟨congrArg str texts.symm, rests⟩
  | _ => cases tags

/-! ## Reading slots -/

theorem sameSlots_cons
    {slot other : Slot Value}
    {slots others : List (Slot Value)} :
    SameSlots (slot :: slots) (other :: others) ↔
      SameSlots [slot] [other] ∧ SameSlots slots others := by
  cases slot <;> cases other <;> simp [SameSlots, and_assoc]

/-- A value does not start like a vacant slot. -/
theorem shown_append_ne_vacant
    (textual : value.isTextual = true)
    (rest more : List Char) :
    value.shown ++ rest ≠ Slot.vacant.shown ++ more := by
  intro same
  have tag := tagOfFirst_of_shown_append textual same
  simp [tagOfFirst] at tag

/-- A value does not start like a key: where a string has an end, a key has an
arrow. -/
theorem shown_append_ne_entry
    {value inner : Value}
    {key : String}
    (textual : value.isTextual = true)
    (ends : Ends rest)
    (more : List Char) :
    value.shown ++ rest ≠ (Slot.entry key inner).shown ++ more := by
  intro same
  have tag : some Tag.str = some value.tag := tagOfFirst_of_shown_append textual same
  cases value with
  | str bytes =>
      rw [shown_str, Slot.shown, List.append_assoc] at same
      obtain ⟨-, rests⟩ := Text.quotedWith_append_inj same
      have blank := ends ' ' (by simp [rests])
      simp at blank
  | _ => cases tag

/-- The text of a slot, where it ends, tells the slot and where it ends. -/
theorem slot_shown_append_inj
    {slot other : Slot Value}
    (legible : ∀ value ∈ slot.value?, Legible value)
    (textual : ∀ value ∈ slot.value?, value.isTextual = true)
    (textualOther : ∀ value ∈ other.value?, Textual value)
    (ends : Ends rest)
    (endsOther : Ends otherRest)
    (same : slot.shown ++ rest = other.shown ++ otherRest) :
    SameSlots [slot] [other] ∧ rest = otherRest := by
  cases slot with
  | vacant =>
      cases other with
      | vacant => exact ⟨⟨[], rfl, rfl⟩, (List.cons.inj same).2⟩
      | item value =>
          exact absurd same.symm (shown_append_ne_vacant (textualOther value rfl).here _ _)
      | entry key value => cases same
  | item value =>
      cases other with
      | vacant => exact absurd same (shown_append_ne_vacant (textual value rfl) _ _)
      | item otherValue =>
          obtain ⟨values, rests⟩ :=
            legible value rfl otherValue rest otherRest (textualOther otherValue rfl) ends endsOther
              same
          exact ⟨⟨otherValue, [], rfl, values, rfl⟩, rests⟩
      | entry key otherValue =>
          exact absurd same (shown_append_ne_entry (textual value rfl) ends _)
  | entry key value =>
      cases other with
      | vacant => cases same
      | item otherValue =>
          exact absurd same.symm
            (shown_append_ne_entry (textualOther otherValue rfl).here endsOther _)
      | entry otherKey otherValue =>
          rw [Slot.shown, Slot.shown, List.append_assoc, List.append_assoc] at same
          obtain ⟨keys, later⟩ := Text.quotedWith_append_inj same
          obtain rfl := String.toList_inj.mp keys
          simp only [List.cons_append, List.cons.injEq, true_and] at later
          obtain ⟨values, rests⟩ :=
            legible value rfl otherValue rest otherRest (textualOther otherValue rfl) ends endsOther
              later
          exact ⟨⟨otherValue, [], rfl, values, rfl⟩, rests⟩

/-- The text behind a slot tells the slots that follow and where they end. -/
theorem shownAfter_append_inj
    (legible : ∀ value ∈ slots.filterMap Slot.value?, Legible value)
    (textual : ∀ value ∈ slots.filterMap Slot.value?, value.isTextual = true)
    (textualOthers : ∀ value ∈ others.filterMap Slot.value?, Textual value)
    (same : SlotList.shownAfter slots ++ rest = SlotList.shownAfter others ++ otherRest) :
    SameSlots slots others ∧ rest = otherRest := by
  induction slots generalizing others with
  | nil =>
      cases others with
      | nil => exact ⟨rfl, (List.cons.inj same).2⟩
      | cons other others => cases same
  | cons slot slots ih =>
      cases others with
      | nil => cases same
      | cons other others =>
          simp only [SlotList.shownAfter, List.cons_append, List.append_assoc, List.cons.injEq,
            true_and] at same
          rw [SlotList.forall_mem_values_cons] at legible textual textualOthers
          obtain ⟨here, later⟩ := slot_shown_append_inj legible.1 textual.1 textualOthers.1
            (ends_shownAfter slots rest) (ends_shownAfter others otherRest) same
          obtain ⟨slotsSame, rests⟩ :=
            ih legible.2 textual.2 textualOthers.2 later
          exact ⟨sameSlots_cons.mpr ⟨here, slotsSame⟩, rests⟩

/-- No slot starts like the end of an array. -/
theorem slot_shown_append_ne_close
    {slot : Slot Value}
    (textual : ∀ value ∈ slot.value?, value.isTextual = true)
    (more rest : List Char) :
    slot.shown ++ more ≠ ']' :: rest := by
  intro same
  cases slot with
  | vacant => cases same
  | item value =>
      have tag := tagOfFirst_of_shown_append (textual value rfl) same
      simp [tagOfFirst] at tag
  | entry key value => cases same

/-- The text behind the opening bracket tells the slots and where they end. -/
theorem slots_shown_append_inj
    (legible : ∀ value ∈ slots.filterMap Slot.value?, Legible value)
    (textual : ∀ value ∈ slots.filterMap Slot.value?, value.isTextual = true)
    (textualOthers : ∀ value ∈ others.filterMap Slot.value?, Textual value)
    (same : SlotList.shown slots ++ rest = SlotList.shown others ++ otherRest) :
    SameSlots slots others ∧ rest = otherRest := by
  cases slots with
  | nil =>
      cases others with
      | nil => exact ⟨rfl, (List.cons.inj same).2⟩
      | cons other others =>
          rw [SlotList.forall_mem_values_cons] at textualOthers
          have starts : other.shown ++ (SlotList.shownAfter others ++ otherRest) = ']' :: rest := by
            simpa [SlotList.shown] using same.symm
          exact absurd starts
            (slot_shown_append_ne_close (fun value here => (textualOthers.1 value here).here) _ _)
  | cons slot slots =>
      cases others with
      | nil =>
          rw [SlotList.forall_mem_values_cons] at textual
          have starts : slot.shown ++ (SlotList.shownAfter slots ++ rest) = ']' :: otherRest := by
            simpa [SlotList.shown] using same
          exact absurd starts (slot_shown_append_ne_close textual.1 _ _)
      | cons other others =>
          refine shownAfter_append_inj legible textual textualOthers ?_
          exact congrArg (',' :: ' ' :: ·) same

/-- The text of an array is read back as it alone if those of its elements are. -/
theorem legible_array
    {items : OrderedMap Value}
    (legible : ∀ child ∈ items.values, Legible child)
    (textual : ∀ child ∈ items.values, child.isTextual = true) :
    Legible (array items) := by
  intro other rest otherRest textualOther ends endsOther same
  have tags := tag_eq_of_shown_append rfl textualOther.here same
  cases other with
  | array others =>
      rw [shown_array, shown_array] at same
      rw [same_array]
      exact slots_shown_append_inj legible textual textualOther.inside (List.cons.inj same).2
  | _ => cases tags

/-- The text of a textual value tells it from every other. -/
theorem Textual.legible (textual : Textual value) : Legible value := by
  induction value using nested with
  | step value ih =>
    cases value with
    | void => exact legible_void
    | bool value => exact legible_bool value
    | int n => exact legible_int n
    | str bytes => exact legible_str textual.here
    | array items =>
        refine legible_array (fun child member => ?_) fun child member => ?_
        · exact ih child member (textual.inside child member)
        · exact (textual.inside child member).here
    | float x => cases textual.here
    | record content => cases textual.here
    | function f => cases textual.here
    | resource ref => cases textual.here

/-! ## The slots determine the text -/

/-- Slots that are the same are shown alike if the values in them are. -/
theorem map_shown_of_sameSlots
    (shownSame : ∀ value ∈ slots.filterMap Slot.value?, ∀ other, Same value other →
      value.shown = other.shown)
    (same : SameSlots slots others) :
    slots.map Slot.shown = others.map Slot.shown := by
  induction slots generalizing others with
  | nil =>
      cases same
      rfl
  | cons slot slots ih =>
      rw [SlotList.forall_mem_values_cons] at shownSame
      cases slot with
      | vacant =>
          obtain ⟨rest, rfl, later⟩ := same
          rw [List.map_cons, List.map_cons, ih shownSame.2 later]
      | item value =>
          obtain ⟨other, rest, rfl, here, later⟩ := same
          rw [List.map_cons, List.map_cons, ih shownSame.2 later]
          simp only [Slot.shown, shownSame.1 value rfl other here]
      | entry key value =>
          obtain ⟨other, rest, rfl, here, later⟩ := same
          rw [List.map_cons, List.map_cons, ih shownSame.2 later]
          simp only [Slot.shown, shownSame.1 value rfl other here]

/-- Arrays with the same slots are shown alike. -/
theorem shown_array_of_sameSlots
    {items others : OrderedMap Value}
    (shownSame : ∀ child ∈ items.values, ∀ other, Same child other → child.shown = other.shown)
    (same : SameSlots items.toList others.toList) :
    (array items).shown = (array others).shown := by
  rw [shown_array, shown_array, ← SlotList.intercalate_shown, ← SlotList.intercalate_shown,
    map_shown_of_sameSlots shownSame same]

/-- Textual values that are the same are shown alike. -/
theorem Textual.shown_eq
    (textual : Textual value) :
    ∀ other, Same value other → value.shown = other.shown := by
  induction value using nested with
  | step value ih =>
    intro other same
    cases value with
    | void => exact congrArg shown same.symm
    | bool value => exact congrArg shown same.symm
    | int n => exact congrArg shown same.symm
    | str bytes => exact congrArg shown same.symm
    | array items =>
        obtain ⟨others, rfl, slots⟩ : ∃ others, other = array others ∧
            SameSlots items.toList others.toList := same
        refine shown_array_of_sameSlots (fun child member => ?_) slots
        exact ih child member (textual.inside child member)
    | float x => cases textual.here
    | record content => cases textual.here
    | function f => cases textual.here
    | resource ref => cases textual.here

/-- Two arrays of any depth over void, truth values, integers and strings of
valid UTF-8 have one text exactly if they have the same slots: the same keys,
the same values and the same vacant places, in every array inside them too. -/
theorem display_eq_iff_sameSlots
    {left right : OrderedMap Value}
    (textual : Textual (array left))
    (textualOther : Textual (array right)) :
    (array left).display = (array right).display ↔ SameSlots left.toList right.toList := by
  have ends : Ends [] := by simp [Ends]
  rw [← same_array, ← String.toList_inj]
  constructor
  · intro texts
    have same : (array left).shown ++ [] = (array right).shown ++ [] := by
      rw [List.append_nil, List.append_nil]
      exact texts
    exact (textual.legible (array right) [] [] textualOther ends ends same).1
  · exact textual.shown_eq (array right)

/-- A string with all the punctuation of a displayed array, a vacant slot and a
nested array under a key. -/
def punctuatedSample : OrderedMap Value :=
  ((OrderedMap.ofValues [ofText "a\", _, \"]\" => [", int (-1), void]).insert "k\\"
    (ofList [ofText "true", bool true])).deleteAt 1

/-- The slots that the string of the other sample imitates. -/
def imitatedSample : OrderedMap Value :=
  (((OrderedMap.ofValues [ofText "a", int (-1)]).insert "]" (ofList [])).append void).deleteAt 1

/-- Strings and keys with quotes, brackets, separators and backslashes: the two
displays differ as the slots do. -/
theorem samples_display_apart :
    (Textual (array punctuatedSample) ∧ Textual (array imitatedSample)) ∧
      ((array punctuatedSample).display = (array imitatedSample).display ↔
        SameSlots punctuatedSample.toList imitatedSample.toList) ∧
      (array punctuatedSample).display =
        "[\"a\\\", _, \\\"]\\\" => [\", _, void, \"k\\\\\" => [\"true\", true]]" ∧
      (array imitatedSample).display = "[\"a\", _, \"]\" => [], void]" := by
  have textual : Textual (array punctuatedSample) := by decide +kernel
  have textualOther : Textual (array imitatedSample) := by decide +kernel
  exact ⟨⟨textual, textualOther⟩, display_eq_iff_sameSlots textual textualOther,
    by decide +kernel, by decide +kernel⟩

end Value
end ScriptCore
