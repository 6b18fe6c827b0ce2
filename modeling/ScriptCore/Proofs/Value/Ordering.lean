import Mathlib.Order.Compare
import ScriptCore.OrderedMap.Spread
import ScriptCore.Proofs.OrderedMap.Values
import ScriptCore.Value.Compare

/-!
# The order on aligned values

Comparison converts its right operand, may find no order, and stops at the first
difference, so it is no order on all values. It is one where conversion has
nothing to do: among values of one tag whose slots are again of one tag, position
by position, and that hold neither floats nor functions.

The proof separates what comparison looks at first, the heading of a value, from
the slots that it looks at afterwards. Headings are totally preordered without
any condition. The slots are handled by induction on the left value, and the laws
pass from headings and slots to values through `firstDifference`.
-/

namespace ScriptCore

/-! ## Comparators -/

/-- The lexicographic comparison is that of the library. -/
theorem lexicographic_eq {α : Type} (compareItem : α → α → Ordering) :
    lexicographic compareItem = List.compareLex compareItem := by
  funext left right
  induction left generalizing right with
  | nil => cases right <;> rfl
  | cons item left ih =>
      cases right with
      | nil => rfl
      | cons other right =>
          rw [lexicographic, ih, List.compareLex_cons_cons]

instance transCmp_lexicographic
    {α : Type}
    {compareItem : α → α → Ordering}
    [Std.TransCmp compareItem] :
    Std.TransCmp (lexicographic compareItem) := by
  rw [lexicographic_eq]
  infer_instance

instance transCmp_compareBytes : Std.TransCmp compareBytes :=
  inferInstanceAs (Std.TransCmp (lexicographic (compareOn UInt8.toNat)))

instance transCmp_compareText : Std.TransCmp compareText where
  eq_swap {_ _} := transCmp_compareBytes.eq_swap
  isLE_trans {_ _ _} := transCmp_compareBytes.isLE_trans

instance transCmp_compareText? : Std.TransCmp compareText? where
  eq_swap {left right} := by
    cases left <;> cases right <;> try rfl
    exact transCmp_compareText.eq_swap
  isLE_trans {left middle right} first second := by
    cases left <;> cases middle <;> cases right <;> try first | rfl | contradiction
    exact transCmp_compareText.isLE_trans first second

/-- Steps of a comparator that do not descend compose. -/
theorem compare_then
    {α : Type}
    {comparator : α → α → Ordering}
    [Std.TransCmp comparator]
    {a b c : α}
    (first : (comparator a b).isLE = true)
    (second : (comparator b c).isLE = true) :
    comparator a c = (comparator a b).then (comparator b c) := by
  cases firstStep : comparator a b with
  | lt => exact Std.TransCmp.lt_of_lt_of_isLE firstStep second
  | eq => exact Std.TransCmp.congr_left firstStep
  | gt => simp [firstStep] at first

/-! ## Partial comparisons -/

/-- The first comparison decides, unless it finds its operands equal. -/
def firstDifference : Option Ordering → Option Ordering → Option Ordering
  | some .eq, rest => rest
  | first, _ => first

@[simp] theorem firstDifference_eq_left (rest : Option Ordering) :
    firstDifference (some .eq) rest = rest := rfl

@[simp] theorem firstDifference_eq_right (first : Option Ordering) :
    firstDifference first (some .eq) = first := by
  rcases first with _ | (_ | _ | _) <;> rfl

theorem firstDifference_eq_some
    {first rest : Option Ordering}
    {order : Ordering}
    (decided : firstDifference first rest = some order) :
    (first = some .eq ∧ rest = some order) ∨ (first = some order ∧ order ≠ .eq) := by
  rcases first with _ | (_ | _ | _)
  · cases decided
  · cases decided
    exact .inr ⟨rfl, by decide⟩
  · exact .inl ⟨rfl, decided⟩
  · cases decided
    exact .inr ⟨rfl, by decide⟩

/-- Two comparisons have a result, and one gives the reverse of the other. -/
def Mirrored (forth back : Option Ordering) : Prop :=
  ∃ order, forth = some order ∧ back = some order.swap

/-- Comparisons part by part are mirrored if those of the parts are. -/
theorem Mirrored.firstDifference
    {forth back forthRest backRest : Option Ordering}
    (first : Mirrored forth back)
    (rest : forth = some .eq → Mirrored forthRest backRest) :
    Mirrored (firstDifference forth forthRest) (firstDifference back backRest) := by
  obtain ⟨order, rfl, rfl⟩ := first
  cases order with
  | lt => exact ⟨.lt, rfl, rfl⟩
  | eq => exact rest rfl
  | gt => exact ⟨.gt, rfl, rfl⟩

/-- Two steps that do not descend make one that does not descend, and that finds
equality only if both do. -/
def Composes (first second whole : Option Ordering) : Prop :=
  ∀ order next, first = some order → second = some next →
    order.isLE = true → next.isLE = true → whole = some (order.then next)

/-- Comparisons part by part compose if those of the parts do. -/
theorem Composes.firstDifference
    {first second whole firstRest secondRest wholeRest : Option Ordering}
    (heads : Composes first second whole)
    (rests : first = some .eq → second = some .eq → Composes firstRest secondRest wholeRest) :
    Composes (firstDifference first firstRest) (firstDifference second secondRest)
      (firstDifference whole wholeRest) := by
  intro order next firstStep secondStep ascends ascendsNext
  -- A step is decided by its head, or by its rest where the head finds equality.
  rcases firstDifference_eq_some firstStep with ⟨equal, rest⟩ | ⟨head, unequal⟩ <;>
    rcases firstDifference_eq_some secondStep with ⟨equalNext, restNext⟩ | ⟨headNext, unequalNext⟩
  · rw [heads _ _ equal equalNext rfl rfl]
    exact rests equal equalNext _ _ rest restNext ascends ascendsNext
  · rw [heads _ _ equal headNext rfl ascendsNext]
    cases order <;> cases next <;> simp_all [ScriptCore.firstDifference]
  · rw [heads _ _ head equalNext ascends rfl]
    cases order <;> cases next <;> simp_all [ScriptCore.firstDifference]
  · rw [heads _ _ head headNext ascends ascendsNext]
    cases order <;> cases next <;> simp_all [ScriptCore.firstDifference]

/-- A total comparator, taken as a partial one. -/
theorem mirrored_some
    {α : Type}
    (comparator : α → α → Ordering)
    [Std.TransCmp comparator]
    (a b : α) :
    Mirrored (some (comparator a b)) (some (comparator b a)) :=
  ⟨comparator a b, rfl, congrArg some Std.OrientedCmp.eq_swap⟩

/-- A transitive comparison composes. -/
theorem composes_some
    {α : Type}
    (comparator : α → α → Ordering)
    [Std.TransCmp comparator]
    (a b c : α) :
    Composes (some (comparator a b)) (some (comparator b c)) (some (comparator a c)) := by
  rintro _ _ ⟨⟩ ⟨⟩ ascends ascendsNext
  exact congrArg some (compare_then ascends ascendsNext)

/-! ## Headings and slots -/

/-- The value that comparison sees in a slot. -/
def Slot.seen (slot : Slot Value) : Value :=
  slot.value?.getD .void

namespace Value

/-- The slots of an array or of a record. -/
def slotList : Value → List (Slot Value)
  | array items => items.toList
  | record content => content.fields.toList
  | _ => []

/-- The class of a record. -/
def className? : Value → Option String
  | record content => content.className
  | _ => none

/-- What comparison looks at between the class and the slots. -/
def rank : Value → List Int
  | bool b => [b.toNat]
  | int n => [n.toInt]
  | str bytes => bytes.map fun byte => byte.toNat
  | resource ref => [ref.id]
  | array items => [items.toList.length]
  | record content => [content.fields.toList.length]
  | _ => []

theorem compare_natCast (a b : Nat) : Ord.compare (a : Int) b = Ord.compare a b := by
  simp only [Ord.compare, compareOfLessAndEq, Int.ofNat_lt, Int.ofNat_inj]

/-- Bytes compare as the integers they stand for. -/
theorem lexicographic_map_natCast (left right : Bytes) :
    lexicographic Ord.compare (left.map fun byte => (byte.toNat : Int))
      (right.map fun byte => (byte.toNat : Int)) = compareBytes left right := by
  unfold compareBytes
  induction left generalizing right with
  | nil => cases right <;> rfl
  | cons byte left ih =>
      cases right with
      | nil => rfl
      | cons other right =>
          simp only [List.map_cons, lexicographic, compare_natCast, ih]

theorem firstDifference_match (order : Ordering) (rest : Option Ordering) :
    (match order with
      | .eq => rest
      | unequal => some unequal) = firstDifference (some order) rest := by
  cases order <;> rfl

/-- A partial comparison that goes on when the first parts are equal. -/
theorem firstDifference_match? (first rest : Option Ordering) :
    (match first with
      | some .eq => rest
      | result => result) = firstDifference first rest := by
  rcases first with _ | (_ | _ | _) <;> rfl

theorem compare_array (left right : OrderedMap Value) :
    (array left).compare (array right) =
      firstDifference (some (Ord.compare left.toList.length right.toList.length))
        (compareSlots left.toList right.toList) :=
  firstDifference_match _ _

theorem compare_record (left right : Record) :
    (record left).compare (record right) =
      firstDifference (some (compareText? left.className right.className))
        (firstDifference
          (some (Ord.compare left.fields.toList.length right.fields.toList.length))
          (compareSlots left.fields.toList right.fields.toList)) :=
  (firstDifference_match _ _).trans (congrArg _ (firstDifference_match _ _))

/-- Slots are compared by key, then by value, up to the first difference. -/
theorem compareSlots_cons (slot other : Slot Value) (slots others : List (Slot Value)) :
    compareSlots (slot :: slots) (other :: others) =
      firstDifference (some (compareText? slot.key? other.key?))
        (firstDifference (slot.seen.compare other.seen) (compareSlots slots others)) := by
  rw [← firstDifference_match, ← firstDifference_match?]
  cases slot with
  | vacant => rfl
  | item value => rfl
  | entry key value => rfl

@[simp] theorem compareSlots_nil (others : List (Slot Value)) :
    compareSlots [] others = some .eq := rfl

/-- Values of one tag that are no containers are compared as they are. -/
theorem compare_leaf
    {left right : Value}
    (same : left.tag = right.tag)
    (noArray : left.tag ≠ .array)
    (noRecord : left.tag ≠ .record) :
    left.compare right = left.compareLeaf right := by
  have kept : right.coerce? left.tag = some right := same ▸ coerce?_tag_self right
  have converted : left.compare right = (right.coerce? left.tag).bind left.compareLeaf := by
    cases left <;> first | rfl | contradiction
  rw [converted, kept, Option.bind_some]

/-- Without conversions, values are compared by class, by rank, and slot by slot. -/
theorem compare_eq
    {left right : Value}
    (same : left.tag = right.tag)
    (noFloat : left.tag ≠ .float)
    (noFunction : left.tag ≠ .function) :
    left.compare right =
      firstDifference (some (compareText? left.className? right.className?))
        (firstDifference (some (lexicographic Ord.compare left.rank right.rank))
          (compareSlots left.slotList right.slotList)) := by
  by_cases array : left.tag = .array
  · cases left <;> cases array
    cases right <;> cases same
    rw [compare_array]
    simp [className?, rank, slotList, lexicographic, compare_natCast, compareText?]
  by_cases record : left.tag = .record
  · cases left <;> cases record
    cases right <;> cases same
    rw [compare_record]
    simp [className?, rank, slotList, lexicographic, compare_natCast]
  rw [compare_leaf same array record]
  cases left <;> cases right <;>
    simp only [tag, reduceCtorEq, ne_eq, not_true_eq_false] at same noFloat noFunction array record
  all_goals
    simp [compareLeaf, className?, rank, slotList, lexicographic, compareText?, compare_natCast,
      lexicographic_map_natCast]

/-! ## Aligned values -/

/-- A value that is neither a float nor a function and holds none in its slots. -/
inductive Discrete : Value → Prop where
  | intro {value : Value}
      (noFloat : value.tag ≠ .float)
      (noFunction : value.tag ≠ .function)
      (slots : ∀ slot ∈ value.slotList, slot.seen.Discrete) :
      value.Discrete

/-- Values of one tag that, if they have equally many slots, are aligned at every
position. A vacant slot counts as void. -/
inductive Aligned : Value → Value → Prop where
  | intro {left right : Value}
      (tag : left.tag = right.tag)
      (positions : left.slotList.length = right.slotList.length →
        ∀ (position : Nat) {slot other : Slot Value},
          left.slotList[position]? = some slot → right.slotList[position]? = some other →
            Aligned slot.seen other.seen) :
      Aligned left right

theorem Discrete.aligned_self {value : Value} (discrete : value.Discrete) :
    value.Aligned value := by
  induction discrete with
  | intro _ _ _ ih =>
      refine .intro rfl ?_
      intro _ position slot other found foundOther
      cases found.symm.trans foundOther
      exact ih slot (List.mem_of_getElem? found)

/-- Values of one tag and equal rank have equally many slots. -/
theorem length_slotList_of_rank
    {left right : Value}
    (same : left.tag = right.tag)
    (rank : lexicographic Ord.compare left.rank right.rank = .eq) :
    left.slotList.length = right.slotList.length := by
  cases left <;> cases right <;> cases same <;> try rfl
  all_goals
    simp only [Value.rank, lexicographic, Ordering.then_eq, Std.compare_eq_iff_eq] at rank
    exact Int.ofNat_inj.mp rank

/-! ## Reversal -/

/-- Comparisons of slots are mirrored if those of the values at each position
are. -/
theorem mirrored_compareSlots
    {lefts rights : List (Slot Value)}
    (values : ∀ (position : Nat) {slot other : Slot Value},
      lefts[position]? = some slot → rights[position]? = some other →
        Mirrored (slot.seen.compare other.seen) (other.seen.compare slot.seen)) :
    Mirrored (compareSlots lefts rights) (compareSlots rights lefts) := by
  induction lefts generalizing rights with
  | nil => cases rights <;> exact ⟨.eq, rfl, rfl⟩
  | cons slot slots ih =>
      cases rights with
      | nil => exact ⟨.eq, rfl, rfl⟩
      | cons other others =>
          rw [compareSlots_cons, compareSlots_cons]
          refine (mirrored_some compareText? _ _).firstDifference fun _ => ?_
          refine (values 0 rfl rfl).firstDifference fun _ => ?_
          exact ih fun position => values (position + 1)

/-- Comparison in the two directions gives opposite results. -/
theorem mirrored_compare
    {left right : Value}
    (discrete : left.Discrete)
    (discreteRight : right.Discrete)
    (aligned : left.Aligned right) :
    Mirrored (left.compare right) (right.compare left) := by
  induction discrete generalizing right with
  | @intro left noFloat noFunction _ ih =>
      obtain ⟨noFloatRight, noFunctionRight, slotsRight⟩ := discreteRight
      obtain ⟨same, positions⟩ := aligned
      rw [compare_eq same noFloat noFunction, compare_eq same.symm noFloatRight noFunctionRight]
      refine (mirrored_some compareText? _ _).firstDifference fun _ => ?_
      refine (mirrored_some (lexicographic Ord.compare) _ _).firstDifference fun rank => ?_
      have lengths := length_slotList_of_rank same (Option.some.inj rank)
      apply mirrored_compareSlots
      intro position slot other found foundOther
      exact ih slot (List.mem_of_getElem? found)
        (slotsRight other (List.mem_of_getElem? foundOther))
        (positions lengths position found foundOther)

/-! ## Transitivity -/

/-- Comparisons of as many slots compose if those of the values at each position
do. -/
theorem composes_compareSlots
    {lefts middles rights : List (Slot Value)}
    (lengths : lefts.length = middles.length)
    (lengthsRight : middles.length = rights.length)
    (values : ∀ (position : Nat) {slot middle other : Slot Value},
      lefts[position]? = some slot → middles[position]? = some middle →
        rights[position]? = some other →
          Composes (slot.seen.compare middle.seen) (middle.seen.compare other.seen)
            (slot.seen.compare other.seen)) :
    Composes (compareSlots lefts middles) (compareSlots middles rights)
      (compareSlots lefts rights) := by
  induction lefts generalizing middles rights with
  | nil =>
      rw [List.eq_nil_of_length_eq_zero lengths.symm]
      rintro _ _ ⟨⟩ ⟨⟩ _ _
      rfl
  | cons slot slots ih =>
      obtain ⟨middle, middles, rfl⟩ := List.exists_cons_of_length_eq_add_one lengths.symm
      obtain ⟨other, others, rfl⟩ := List.exists_cons_of_length_eq_add_one lengthsRight.symm
      rw [compareSlots_cons, compareSlots_cons, compareSlots_cons]
      refine (composes_some compareText? _ _ _).firstDifference fun _ _ => ?_
      refine (values 0 rfl rfl rfl).firstDifference fun _ _ => ?_
      exact ih (Nat.succ.inj lengths) (Nat.succ.inj lengthsRight)
        fun position => values (position + 1)

/-- Comparisons along a chain of three compose. -/
theorem composes_compare
    {left middle right : Value}
    (discrete : left.Discrete)
    (discreteMiddle : middle.Discrete)
    (discreteRight : right.Discrete)
    (first : left.Aligned middle)
    (second : middle.Aligned right)
    (whole : left.Aligned right) :
    Composes (left.compare middle) (middle.compare right) (left.compare right) := by
  induction discrete generalizing middle right with
  | @intro left noFloat noFunction _ ih =>
      obtain ⟨noFloatMiddle, noFunctionMiddle, slotsMiddle⟩ := discreteMiddle
      obtain ⟨-, -, slotsRight⟩ := discreteRight
      obtain ⟨same, positions⟩ := first
      obtain ⟨sameNext, positionsNext⟩ := second
      obtain ⟨sameWhole, positionsWhole⟩ := whole
      rw [compare_eq same noFloat noFunction, compare_eq sameNext noFloatMiddle noFunctionMiddle,
        compare_eq sameWhole noFloat noFunction]
      refine (composes_some compareText? _ _ _).firstDifference fun _ _ => ?_
      refine (composes_some (lexicographic Ord.compare) _ _ _).firstDifference
        fun rank rankNext => ?_
      have lengths := length_slotList_of_rank same (Option.some.inj rank)
      have lengthsNext := length_slotList_of_rank sameNext (Option.some.inj rankNext)
      apply composes_compareSlots lengths lengthsNext
      intro position slot between other found foundBetween foundOther
      exact ih slot (List.mem_of_getElem? found)
        (slotsMiddle between (List.mem_of_getElem? foundBetween))
        (slotsRight other (List.mem_of_getElem? foundOther))
        (positions lengths position found foundBetween)
        (positionsNext lengthsNext position foundBetween foundOther)
        (positionsWhole (lengths.trans lengthsNext) position found foundOther)

/-! ## The preorder -/

theorem ordered_iff {left right : Value} :
    left.ordered right = true ↔ ∃ order, left.compare right = some order ∧ order.isLE = true := by
  unfold ordered
  rcases left.compare right with _ | (_ | _ | _) <;> simp

/-- Comparison is a total preorder on aligned values without floats and
functions. It always has a result, which is reversed with the operands and is
equality for a value and itself. Along a chain of three values the steps compose:
if neither descends, the whole does not, and it is an equality only if both steps
are. So `ordered` is total and transitive on such values. -/
theorem compare_total_preorder
    {a b c : Value}
    (discreteA : a.Discrete)
    (discreteB : b.Discrete)
    (discreteC : c.Discrete)
    (alignedAB : a.Aligned b)
    (alignedBC : b.Aligned c)
    (alignedAC : a.Aligned c) :
    (∃ order, a.compare b = some order ∧ b.compare a = some order.swap) ∧
      a.compare a = some .eq ∧
      (∀ first second, a.compare b = some first → b.compare c = some second →
        first.isLE = true → second.isLE = true → a.compare c = some (first.then second)) ∧
      (a.ordered b = true ∨ b.ordered a = true) ∧
      (a.ordered b = true → b.ordered c = true → a.ordered c = true) := by
  obtain ⟨order, forth, back⟩ := mirrored_compare discreteA discreteB alignedAB
  have composes := composes_compare discreteA discreteB discreteC alignedAB alignedBC alignedAC
  refine ⟨⟨order, forth, back⟩, ?_, composes, ?_, ?_⟩
  · obtain ⟨order, forth, back⟩ := mirrored_compare discreteA discreteA discreteA.aligned_self
    rw [forth] at back ⊢
    cases order <;> first | rfl | cases back
  · rw [ordered_iff, ordered_iff]
    cases order with
    | lt => exact .inl ⟨_, forth, rfl⟩
    | eq => exact .inl ⟨_, forth, rfl⟩
    | gt => exact .inr ⟨_, back, rfl⟩
  · simp only [ordered_iff]
    rintro ⟨first, firstStep, ascends⟩ ⟨second, secondStep, ascendsNext⟩
    refine ⟨_, composes first second firstStep secondStep ascends ascendsNext, ?_⟩
    cases first with
    | lt => rfl
    | eq => exact ascendsNext
    | gt => cases ascends

/-- A keyed number, a slot that may be vacant and a nested array of texts. -/
def sampleRow (number : Int64) (middle : Slot Value) (texts : List String) : Value :=
  array (.rebuildBuckets {
    slots := #[.entry "k" (int number), middle, .item (ofTexts texts)]
    buckets := #[]
    order := 1
    keyed := 0
    vacant := if middle.isVacant then 1 else 0 })

/-- The sample rows have no floats and functions. -/
theorem discrete_sampleRow
    (number : Int64)
    (middle : Slot Value)
    (texts : List String)
    (vacant : middle.seen = void) :
    (sampleRow number middle texts).Discrete := by
  have text (bytes : Bytes) : (str bytes).Discrete :=
    .intro (by simp [tag]) (by simp [tag]) (by simp [slotList])
  refine .intro (by simp [sampleRow, tag]) (by simp [sampleRow, tag]) ?_
  simp only [sampleRow, slotList, OrderedMap.toList, OrderedMap.rebuildBuckets,
    List.forall_mem_cons, vacant]
  refine ⟨.intro ?_ ?_ ?_, .intro ?_ ?_ ?_, .intro ?_ ?_ ?_, ?_⟩ <;>
    simp [Slot.seen, tag, slotList, ofTexts, ofList, ofText, text]

/-- The sample rows are aligned with each other, a vacant slot with a void
element. -/
theorem aligned_sampleRow
    (number other : Int64)
    (middle between : Slot Value)
    (texts others : List String)
    (vacant : middle.seen = void)
    (vacantOther : between.seen = void) :
    (sampleRow number middle texts).Aligned (sampleRow other between others) := by
  have leaf {left right : Value} (same : left.tag = right.tag) (none : left.slotList = []) :
      left.Aligned right :=
    .intro same fun _ _ _ _ found => by simp [none] at found
  have nested : (ofTexts texts).Aligned (ofTexts others) := by
    refine .intro rfl ?_
    intro _ position slot other found foundOther
    simp only [ofTexts, ofList, slotList, OrderedMap.toList_ofValues, List.getElem?_map,
      Option.map_eq_some_iff] at found foundOther
    obtain ⟨_, ⟨text, -, rfl⟩, rfl⟩ := found
    obtain ⟨_, ⟨text, -, rfl⟩, rfl⟩ := foundOther
    exact leaf rfl rfl
  refine .intro rfl ?_
  intro _ position slot other found foundOther
  match position with
  | 0 =>
      cases found
      cases foundOther
      exact leaf rfl rfl
  | 1 =>
      cases found
      cases foundOther
      rw [vacant, vacantOther]
      exact leaf rfl rfl
  | 2 =>
      cases found
      cases foundOther
      exact nested
  | position + 3 => cases found

/-- Three rows in order, with nested arrays and a vacant slot. -/
theorem sampleRows_ordered :
    (sampleRow 1 .vacant ["x"]).compare (sampleRow 1 (.item void) ["x", "y"]) = some .lt ∧
      (sampleRow 1 (.item void) ["x", "y"]).compare (sampleRow 2 .vacant []) = some .lt ∧
      (sampleRow 1 .vacant ["x"]).compare (sampleRow 2 .vacant []) = some .lt := by
  have first : (sampleRow 1 .vacant ["x"]).compare (sampleRow 1 (.item void) ["x", "y"]) =
    some .lt := by decide +kernel
  have second : (sampleRow 1 (.item void) ["x", "y"]).compare (sampleRow 2 .vacant []) =
    some .lt := by decide +kernel
  have laws := compare_total_preorder
    (discrete_sampleRow 1 .vacant ["x"] rfl)
    (discrete_sampleRow 1 (.item void) ["x", "y"] rfl)
    (discrete_sampleRow 2 .vacant [] rfl)
    (aligned_sampleRow 1 1 .vacant (.item void) ["x"] ["x", "y"] rfl rfl)
    (aligned_sampleRow 1 2 (.item void) .vacant ["x", "y"] [] rfl rfl)
    (aligned_sampleRow 1 2 .vacant .vacant ["x"] [] rfl rfl)
  exact ⟨first, second, laws.2.2.1 _ _ first second rfl rfl⟩

end Value
end ScriptCore
