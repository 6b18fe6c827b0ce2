import ScriptCore.OrderedMap.Spread
import ScriptCore.Proofs.OrderedMap.Values

/-!
# Merged containers

Merging adds the slots of all inputs, one after the other, to an empty
container. The result is described here by the slots of the inputs in a row: an
unkeyed value stays where it stands, a key stands where it occurs first and has
the value that it has last, and vacant slots are left out.

Adding the slots of a merge is the same as adding the slots that went into it,
so a merge among the inputs may be replaced by its own inputs. The order of the
table depends on the number of keys alone, so this holds for whole containers
and not only for their slots.
-/

namespace ScriptCore

variable {α : Type}

namespace Slot

/-- The value of a slot without a key. -/
def item? : Slot α → Option α
  | item value => some value
  | _ => none

@[simp] theorem item?_vacant : (vacant : Slot α).item? = none := rfl

@[simp] theorem item?_item (value : α) : (item value).item? = some value := rfl

@[simp] theorem item?_entry (key : String) (value : α) : (entry key value).item? = none := rfl

end Slot

namespace SlotList

variable {key : String} {slots others : List (Slot α)}

/-! ## Writing under keys that are present -/

theorem mem_keysOf_cons {slot : Slot α} :
    key ∈ Slot.keysOf (slot :: slots) ↔ slot.hasKey key = true ∨ key ∈ Slot.keysOf slots := by
  simp [Slot.keysOf, Slot.hasKey_iff]

/-- An entry under a key that is present changes no key. -/
theorem keysOf_insert_of_mem
    (present : key ∈ Slot.keysOf slots)
    (value : α) :
    Slot.keysOf (insert key value slots) = Slot.keysOf slots := by
  apply Slot.keysOf_congr
  induction slots with
  | nil => cases present
  | cons slot slots ih =>
      rw [mem_keysOf_cons] at present
      by_cases here : slot.hasKey key = true
      · simp [insert, here, Slot.hasKey_iff.mp here]
      · simp [insert, here, ih (present.resolve_left here)]

/-- An entry under a new key puts that key at the end. -/
theorem keysOf_insert_of_absent
    (absent : key ∉ Slot.keysOf slots)
    (value : α) :
    Slot.keysOf (insert key value slots) = Slot.keysOf slots ++ [key] := by
  rw [insert_of_absent absent]
  simp [Slot.keysOf]

theorem mem_keysOf_insert {key other : String} {value : α} :
    other ∈ Slot.keysOf (insert key value slots) ↔ other ∈ Slot.keysOf slots ∨ other = key := by
  by_cases present : key ∈ Slot.keysOf slots
  · rw [keysOf_insert_of_mem present]
    constructor
    · exact .inl
    · rintro (member | rfl)
      · exact member
      · exact present
  · rw [keysOf_insert_of_absent present, List.mem_append, List.mem_singleton]

/-- Keys that differ still do after an insertion. -/
theorem nodup_keysOf_insert
    (different : (Slot.keysOf slots).Nodup)
    (key : String)
    (value : α) :
    (Slot.keysOf (insert key value slots)).Nodup := by
  by_cases present : key ∈ Slot.keysOf slots
  · rw [keysOf_insert_of_mem present]
    exact different
  · rw [keysOf_insert_of_absent present, ← List.concat_eq_append]
    exact different.concat present

/-- The second of two writes under one key counts. -/
theorem insert_insert (key : String) (first second : α) (slots : List (Slot α)) :
    insert key second (insert key first slots) = insert key second slots := by
  induction slots with
  | nil => simp [insert, hasKey_entry]
  | cons slot slots ih =>
      by_cases present : slot.hasKey key = true
      · simp [insert, present, hasKey_entry]
      · simp [insert, present, ih]

/-- An entry under a key that is present has no effect on slots after it. -/
theorem insert_append_of_mem
    (present : key ∈ Slot.keysOf slots)
    (value : α)
    (more : List (Slot α)) :
    insert key value (slots ++ more) = insert key value slots ++ more := by
  induction slots with
  | nil => cases present
  | cons slot slots ih =>
      rw [mem_keysOf_cons] at present
      by_cases here : slot.hasKey key = true
      · simp [insert, here]
      · simp [insert, here, ih (present.resolve_left here)]

/-- A write under a key that is present can be made before or after a write
under another key. -/
theorem insert_comm_of_mem
    {key other : String}
    (present : key ∈ Slot.keysOf slots)
    (different : key ≠ other)
    (value content : α) :
    insert key value (insert other content slots) =
      insert other content (insert key value slots) := by
  induction slots with
  | nil => cases present
  | cons slot slots ih =>
      rw [mem_keysOf_cons] at present
      by_cases here : slot.hasKey key = true
      · have elsewhere : ¬ slot.hasKey other = true := by
          rw [Slot.hasKey_iff] at here ⊢
          simpa [here] using different
        simp [insert, here, elsewhere, hasKey_entry, different.symm]
      · by_cases there : slot.hasKey other = true
        · simp [insert, here, there, hasKey_entry, different]
        · simp [insert, here, there, ih (present.resolve_left here)]

/-! ## Adding slots -/

theorem mem_keysOf_add {slot : Slot α} :
    key ∈ Slot.keysOf (add slots slot) ↔ key ∈ Slot.keysOf slots ∨ slot.hasKey key = true := by
  cases slot with
  | vacant => simp [add, Slot.hasKey]
  | item value => simp [add, Slot.keysOf, Slot.hasKey]
  | entry other value => rw [add, mem_keysOf_insert, hasKey_entry, decide_eq_true_eq]

/-- Keys that differ still do after one more slot. -/
theorem nodup_keysOf_add
    (different : (Slot.keysOf slots).Nodup)
    (slot : Slot α) :
    (Slot.keysOf (add slots slot)).Nodup := by
  cases slot with
  | vacant => exact different
  | item value =>
      have same : Slot.keysOf (add slots (.item value)) = Slot.keysOf slots := by
        simp [add, Slot.keysOf]
      exact same ▸ different
  | entry key value => exact nodup_keysOf_insert different key value

/-- The keys after some slots have been added are those of both lists. -/
theorem mem_keysOf_foldl_add :
    key ∈ Slot.keysOf (others.foldl add slots) ↔
      key ∈ Slot.keysOf slots ∨ key ∈ Slot.keysOf others := by
  induction others generalizing slots with
  | nil => simp [Slot.keysOf]
  | cons slot others ih =>
      rw [List.foldl_cons, ih, mem_keysOf_add, mem_keysOf_cons, or_assoc]

/-- Merged slots have different keys. -/
theorem nodup_keysOf_merged (slots : List (Slot α)) :
    (Slot.keysOf (slots.foldl add [])).Nodup :=
  List.foldlRecOn (motive := fun merged => (Slot.keysOf merged).Nodup) slots add List.nodup_nil
    fun _ different slot _ => nodup_keysOf_add different slot

/-- A write under a key that is present can be made before or after other slots
are added. -/
theorem insert_foldl_add
    (present : key ∈ Slot.keysOf slots)
    (absent : key ∉ Slot.keysOf others)
    (value : α) :
    insert key value (others.foldl add slots) = others.foldl add (insert key value slots) := by
  induction others generalizing slots with
  | nil => rfl
  | cons slot others ih =>
      rw [mem_keysOf_cons, not_or] at absent
      have step : insert key value (add slots slot) = add (insert key value slots) slot := by
        cases slot with
        | vacant => rfl
        | item content => exact insert_append_of_mem present value _
        | entry other content =>
            refine insert_comm_of_mem present ?_ value content
            simpa [hasKey_entry] using absent.1
      rw [List.foldl_cons, List.foldl_cons, ← step]
      exact ih (mem_keysOf_add.mpr (.inl present)) absent.2

/-- Adding slots in which a key was written is adding them and writing the key
afterwards. -/
theorem foldl_add_insert
    (different : (Slot.keysOf others).Nodup)
    (key : String)
    (value : α)
    (slots : List (Slot α)) :
    (insert key value others).foldl add slots = insert key value (others.foldl add slots) := by
  induction others generalizing slots with
  | nil => rfl
  | cons slot others ih =>
      by_cases here : slot.hasKey key = true
      · -- No later slot has the key, so the write moves forward to this one.
        obtain ⟨old, rfl⟩ : ∃ old, slot = .entry key old := by
          rw [Slot.hasKey_iff] at here
          cases slot <;> simp_all
        rw [Slot.keysOf, List.filterMap_cons_some (Slot.key?_entry key old), List.nodup_cons]
          at different
        have present : key ∈ Slot.keysOf (insert key old slots) := mem_keysOf_insert.mpr (.inr rfl)
        rw [insert, if_pos here, List.foldl_cons, List.foldl_cons, add, add,
          insert_foldl_add present different.1, insert_insert]
      · have later : (Slot.keysOf others).Nodup :=
          different.sublist ((List.sublist_cons_self slot others).filterMap Slot.key?)
        rw [insert, if_neg here, List.foldl_cons, List.foldl_cons, ih later]

/-- Slots with different keys can be added with one more slot among them, or with
that slot afterwards. -/
theorem foldl_add_add
    (different : (Slot.keysOf others).Nodup)
    (slot : Slot α)
    (slots : List (Slot α)) :
    (add others slot).foldl add slots = add (others.foldl add slots) slot := by
  cases slot with
  | vacant => rfl
  | item value => rw [add, List.foldl_concat]
  | entry key value => exact foldl_add_insert different key value slots

/-- Adding merged slots is adding the slots that were merged. -/
theorem foldl_add_merged (others slots : List (Slot α)) :
    (others.foldl add []).foldl add slots = others.foldl add slots := by
  induction others using List.reverseRecOn with
  | nil => rfl
  | append_singleton others slot ih =>
      rw [List.foldl_concat, List.foldl_concat, foldl_add_add (nodup_keysOf_merged others),
        ih]

/-! ## First places and last values -/

/-- Whether a slot gets a place of its own after the slots before it: it is
occupied, and its key, if it has one, is new. -/
def isNewAfter (before : List (Slot α)) : Slot α → Bool
  | .vacant => false
  | .item _ => true
  | .entry key _ => !before.any (Slot.hasKey key)

/-- The slots with a place of their own after the slots before them. -/
def firstSlots (before : List (Slot α)) : List (Slot α) → List (Slot α)
  | [] => []
  | slot :: slots =>
      if isNewAfter before slot then slot :: firstSlots (before ++ [slot]) slots
      else firstSlots (before ++ [slot]) slots

/-- The value of the last slot with a key. -/
def last? (slots : List (Slot α)) (key : String) : Option α :=
  get? slots.reverse key

/-- The slot with the last value under its key. -/
def withLast (slots : List (Slot α)) : Slot α → Slot α
  | .entry key value => .entry key ((last? slots key).getD value)
  | slot => slot

@[simp] theorem key?_withLast (slots : List (Slot α)) (slot : Slot α) :
    (withLast slots slot).key? = slot.key? := by
  cases slot <;> rfl

@[simp] theorem hasKey_withLast (slots : List (Slot α)) (slot : Slot α) (key : String) :
    (withLast slots slot).hasKey key = slot.hasKey key := by
  simp [Slot.hasKey]

theorem last?_concat (slots : List (Slot α)) (slot : Slot α) (key : String) :
    last? (slots ++ [slot]) key = if slot.hasKey key then slot.value? else last? slots key := by
  rw [last?, List.reverse_concat, get?_cons, last?]

theorem withLast_concat_unkeyed
    {slot : Slot α}
    (unkeyed : slot.key? = none)
    (slots : List (Slot α)) :
    withLast (slots ++ [slot]) = withLast slots := by
  funext other
  cases other with
  | vacant => rfl
  | item value => rfl
  | entry key value => simp [withLast, last?_concat, Slot.hasKey, unkeyed]

/-- One more entry replaces the value under its key. -/
theorem withLast_concat_entry
    (key : String)
    (value : α)
    (slots : List (Slot α))
    (slot : Slot α) :
    withLast (slots ++ [.entry key value]) slot =
      if slot.hasKey key then .entry key value else withLast slots slot := by
  cases slot with
  | vacant => rfl
  | item content => rfl
  | entry other content =>
      by_cases same : key = other
      · subst same
        simp [withLast, last?_concat, hasKey_entry]
      · simp [withLast, last?_concat, hasKey_entry, same, Ne.symm same]

/-- One more slot is kept if it is the first of its key. -/
theorem firstSlots_concat (before slots : List (Slot α)) (slot : Slot α) :
    firstSlots before (slots ++ [slot]) =
      firstSlots before slots ++ if isNewAfter (before ++ slots) slot then [slot] else [] := by
  induction slots generalizing before with
  | nil => simp [firstSlots]
  | cons head slots ih =>
      rw [List.cons_append, firstSlots, firstSlots, ih]
      split <;> simp

/-- Writing a key among slots that have their last values. -/
theorem insert_map_withLast
    (different : (Slot.keysOf others).Nodup)
    (key : String)
    (value : α)
    (slots : List (Slot α)) :
    insert key value (others.map (withLast slots)) =
      others.map (withLast (slots ++ [.entry key value])) ++
        if key ∈ Slot.keysOf others then [] else [.entry key value] := by
  induction others with
  | nil => simp [insert, Slot.keysOf]
  | cons slot others ih =>
      have later : (Slot.keysOf others).Nodup :=
        different.sublist ((List.sublist_cons_self slot others).filterMap Slot.key?)
      rw [List.map_cons, List.map_cons, insert, hasKey_withLast, withLast_concat_entry]
      by_cases here : slot.hasKey key = true
      · -- The other slots have other keys and keep their values.
        rw [Slot.keysOf, List.filterMap_cons_some (Slot.hasKey_iff.mp here), List.nodup_cons]
          at different
        have unchanged : others.map (withLast (slots ++ [.entry key value])) =
            others.map (withLast slots) := by
          apply List.map_congr_left
          intro other member
          rw [withLast_concat_entry, if_neg]
          intro same
          exact different.1 (List.mem_filterMap.mpr ⟨other, member, Slot.hasKey_iff.mp same⟩)
        simp [here, unchanged, mem_keysOf_cons]
      · simp [here, ih later, mem_keysOf_cons]

/-- Merged slots stand where they occur first, with the values they have last. -/
theorem foldl_add_eq (slots : List (Slot α)) :
    slots.foldl add [] = (firstSlots [] slots).map (withLast slots) := by
  induction slots using List.reverseRecOn with
  | nil => rfl
  | append_singleton slots slot ih =>
      rw [List.foldl_concat, firstSlots_concat, List.nil_append]
      cases slot with
      | vacant =>
          rw [withLast_concat_unkeyed rfl, add, ih]
          simp [isNewAfter]
      | item value =>
          rw [withLast_concat_unkeyed rfl, add, ih]
          simp [isNewAfter, withLast]
      | entry key value =>
          have sameKeys : Slot.keysOf (slots.foldl add []) = Slot.keysOf (firstSlots [] slots) := by
            rw [ih]
            exact Slot.keysOf_congr (by simp [Function.comp_def])
          have different : (Slot.keysOf (firstSlots [] slots)).Nodup :=
            sameKeys ▸ nodup_keysOf_merged slots
          have known : key ∈ Slot.keysOf (firstSlots [] slots) ↔
              slots.any (Slot.hasKey key) = true := by
            rw [← sameKeys, mem_keysOf_foldl_add]
            simp [Slot.keysOf, Slot.hasKey_iff]
          rw [add, ih, insert_map_withLast different, List.map_append]
          congr 1
          by_cases present : slots.any (Slot.hasKey key) = true
          · simp [isNewAfter, known.mpr present, present]
          · simp [isNewAfter, mt known.mp present, present, withLast_concat_entry, hasKey_entry]

/-! ## Questions to merged slots -/

/-- The first of two lists is searched first. -/
theorem get?_append (slots others : List (Slot α)) (key : String) :
    get? (slots ++ others) key = (get? slots key).or (get? others key) := by
  induction slots with
  | nil => rfl
  | cons slot slots ih =>
      rw [List.cons_append, get?_cons, get?_cons, ih]
      split
      · next here =>
        rw [Slot.hasKey_iff] at here
        cases slot with
        | vacant => cases here
        | item value => cases here
        | entry other value => rfl
      · rfl

theorem get?_add (slots : List (Slot α)) (slot : Slot α) (key : String) :
    get? (add slots slot) key = if slot.hasKey key then slot.value? else get? slots key := by
  cases slot with
  | vacant => simp [add, Slot.hasKey]
  | item value => simp [add, get?, Slot.hasKey]
  | entry other value => simp [add, get?_insert, hasKey_entry]

/-- Merged slots answer with the last value under a key. -/
theorem get?_merged (slots : List (Slot α)) (key : String) :
    get? (slots.foldl add []) key = last? slots key := by
  induction slots using List.reverseRecOn with
  | nil => rfl
  | append_singleton slots slot ih =>
      rw [List.foldl_concat, get?_add, ih, last?_concat]

theorem last?_append (slots others : List (Slot α)) (key : String) :
    last? (slots ++ others) key = (last? others key).or (last? slots key) := by
  rw [last?, List.reverse_append, get?_append, last?, last?]

/-- Where keys are unique, the last value under a key is the first one. -/
theorem last?_of_nodup
    (different : (Slot.keysOf slots).Nodup)
    (key : String) :
    last? slots key = get? slots key := by
  induction slots with
  | nil => rfl
  | cons slot slots ih =>
      have later : (Slot.keysOf slots).Nodup :=
        different.sublist ((List.sublist_cons_self slot slots).filterMap Slot.key?)
      have single : last? [slot] key = if slot.hasKey key then slot.value? else none := by
        rw [last?, List.reverse_singleton, get?_cons]
        rfl
      rw [← List.singleton_append, last?_append, ih later, single,
        List.singleton_append, get?_cons]
      by_cases here : slot.hasKey key = true
      · rw [Slot.keysOf, List.filterMap_cons_some (Slot.hasKey_iff.mp here), List.nodup_cons]
          at different
        simp [here, get?_of_absent different.1]
      · simp [here]

/-- An insertion by key changes no unkeyed value. -/
theorem item?_insert (key : String) (value : α) (slots : List (Slot α)) :
    (insert key value slots).filterMap Slot.item? = slots.filterMap Slot.item? := by
  induction slots with
  | nil => rfl
  | cons slot slots ih =>
      by_cases here : slot.hasKey key = true
      · have unkeyed : slot.item? = none := by
          rw [Slot.hasKey_iff] at here
          cases slot <;> simp_all
        rw [insert, if_pos here, List.filterMap_cons_none (Slot.item?_entry key value),
          List.filterMap_cons_none unkeyed]
      · simp [insert, here, List.filterMap_cons, ih]

/-- Merging keeps the unkeyed values and their order. -/
theorem item?_merged (slots : List (Slot α)) :
    (slots.foldl add []).filterMap Slot.item? = slots.filterMap Slot.item? := by
  induction slots using List.reverseRecOn with
  | nil => rfl
  | append_singleton slots slot ih =>
      rw [List.foldl_concat, List.filterMap_append, ← ih]
      cases slot with
      | vacant => simp [add]
      | item value => rw [add, List.filterMap_append]
      | entry key value => simp [add, item?_insert]

/-- Merged slots are not vacant. -/
theorem occupied_merged
    (slots : List (Slot α))
    {slot : Slot α}
    (member : slot ∈ slots.foldl add []) :
    slot.isVacant = false := by
  induction slots using List.reverseRecOn with
  | nil => cases member
  | append_singleton slots added ih =>
      rw [List.foldl_concat] at member
      cases added with
      | vacant => exact ih member
      | item value =>
          rcases List.mem_append.mp member with before | new
          · exact ih before
          · rw [List.mem_singleton.mp new, Slot.isVacant_item]
      | entry key value =>
          rcases mem_insert member with rfl | before
          · rfl
          · exact ih before

end SlotList

/-! ## Containers -/

namespace OrderedMap

theorem order_setAt (map : OrderedMap α) (index : Nat) (value : α) :
    (map.setAt index value).order = map.order := by
  unfold setAt setAtReturning
  split <;> rfl

theorem buckets_setAt (map : OrderedMap α) (index : Nat) (value : α) :
    (map.setAt index value).buckets = map.buckets := by
  unfold setAt setAtReturning
  split <;> rfl

theorem keyed_setAt (map : OrderedMap α) (index : Nat) (value : α) :
    (map.setAt index value).keyed = map.keyed := by
  unfold setAt setAtReturning
  split <;> rfl

/-- The order that a table of the default order has after a number of keys. -/
def orderAfter : Nat → Nat
  | 0 => defaultOrder
  | count + 1 =>
      if 2 ^ orderAfter count * 3 < (count + 1) * 4 ∧ orderAfter count < maxOrder then
        orderAfter count + 1
      else orderAfter count

section Table

variable [KeyHash]

/-- A coherent container whose table grew from the default order by its own keys
only. -/
structure Grown (map : OrderedMap α) : Prop where
  coherent : map.Coherent
  order_eq : map.order = orderAfter map.keyed

theorem grown_empty : (empty : OrderedMap α).Grown :=
  ⟨coherent_empty, rfl⟩

namespace Grown

variable {map other : OrderedMap α}

/-- A new entry keeps the order the one that the number of keys gives. -/
theorem pushEntry
    (grown : map.Grown)
    {key : String}
    (absent : map.keyIndex? key = none)
    (value : α) :
    (map.pushEntry key value).Grown := by
  refine ⟨grown.coherent.pushEntry ((grown.coherent.keyIndex?_eq_none_iff key).mp absent) value, ?_⟩
  have full : map.isFull = true ↔ 2 ^ orderAfter map.keyed * 3 < (map.keyed + 1) * 4 ∧
      orderAfter map.keyed < maxOrder := by
    simp [isFull, grown.coherent.size_buckets, grown.order_eq]
  unfold OrderedMap.pushEntry
  split
  · next isFull =>
    have keyed : map.grow.keyed = map.keyed := grown.coherent.keyed_eq.symm
    change map.order + 1 = orderAfter (map.grow.keyed + 1)
    rw [keyed, orderAfter, if_pos (full.mp isFull), grown.order_eq]
  · next hasRoom =>
    change map.order = orderAfter (map.keyed + 1)
    rw [orderAfter, if_neg (mt full.mpr hasRoom), grown.order_eq]

/-- An entry with or without a key keeps the order of a table the one that its
keys need. -/
theorem insertEntry (grown : map.Grown) (key? : Option String) (value : α) :
    (map.insertEntry key? value).Grown := by
  cases key? with
  | none => exact ⟨grown.coherent.append value, grown.order_eq⟩
  | some key =>
      change (map.insert key value).Grown
      rw [insert_eq]
      split
      · next index found =>
        refine ⟨grown.coherent.setAt index value, ?_⟩
        rw [order_setAt, keyed_setAt, grown.order_eq]
      · next absent => exact grown.pushEntry absent value

/-- Containers that grew by their own keys are equal if their slots are. -/
theorem eq_of_toList_eq
    (grown : map.Grown)
    (grownOther : other.Grown)
    (same : map.toList = other.toList) :
    map = other := by
  have order : map.order = other.order := by
    rw [grown.order_eq, grownOther.order_eq, grown.coherent.keyed_eq, grownOther.coherent.keyed_eq,
      same]
  exact grown.coherent.eq_of_toList_eq grownOther.coherent order same

end Grown

theorem grown_merge (maps : List (OrderedMap α)) : (merge maps).Grown :=
  List.foldlRecOn maps _ grown_empty fun _ merged map _ =>
    List.foldlRecOn map.entries _ merged fun _ grown entry _ =>
      grown.insertEntry entry.2.1 entry.2.2

/-- A merge adds the slots of all inputs in a row. -/
theorem toList_merge_flatMap (maps : List (OrderedMap α)) :
    (merge maps).toList = (maps.flatMap toList).foldl SlotList.add [] := by
  rw [toList_merge, List.foldl_map, List.foldl_flatMap]

/-- A merge among the inputs may be replaced by its own inputs. -/
theorem merge_flatten (before maps after : List (OrderedMap α)) :
    merge (before ++ merge maps :: after) = merge (before ++ maps ++ after) := by
  apply (grown_merge _).eq_of_toList_eq (grown_merge _)
  simp only [toList_merge_flatMap, List.flatMap_append, List.flatMap_cons, List.foldl_append,
    SlotList.foldl_add_merged]

/-- A merge has, under each key, the value of the last slot with it. -/
theorem get?_merge (maps : List (OrderedMap α)) (key : String) :
    (merge maps).get? key = SlotList.last? (maps.flatMap toList) key := by
  rw [(coherent_merge maps).get?_eq, toList_merge_flatMap, SlotList.get?_merged]

/-- The last of several coherent containers with a key has its last value. -/
theorem last?_flatMap_toList
    {maps : List (OrderedMap α)}
    (coherent : ∀ map ∈ maps, map.Coherent)
    (key : String) :
    SlotList.last? (maps.flatMap toList) key = maps.reverse.findSome? fun map => map.get? key := by
  induction maps with
  | nil => rfl
  | cons map maps ih =>
      rw [List.forall_mem_cons] at coherent
      rw [List.flatMap_cons, SlotList.last?_append, ih coherent.2,
        SlotList.last?_of_nodup coherent.1.keys_nodup, ← coherent.1.get?_eq, List.reverse_cons,
        List.findSome?_append]
      congr 1
      cases found : map.get? key <;> simp [found]

/-- How a merged container comes from the inputs. -/
structure MergeOf (maps : List (OrderedMap α)) (merged : OrderedMap α) : Prop where
  /-- No slot is vacant. -/
  occupied : ∀ slot ∈ merged.toList, slot.isVacant = false
  vacant_eq : merged.vacant = 0
  /-- The keys are those of the inputs, each once. -/
  mem_keys : ∀ key, key ∈ merged.keys ↔ ∃ map ∈ maps, key ∈ map.keys
  keys_nodup : merged.keys.Nodup
  /-- The last input with a key gives its value. -/
  get?_eq : ∀ key, merged.get? key = maps.reverse.findSome? fun map => map.get? key
  /-- The unkeyed values are those of the inputs, in order. -/
  items_eq : merged.toList.filterMap Slot.item? =
    maps.flatMap fun map => map.toList.filterMap Slot.item?
  /-- In the row of all input slots, the slots keep their order, a key stands at
  its first place and has its last value. -/
  toList_eq : merged.toList =
    (SlotList.firstSlots [] (maps.flatMap toList)).map (SlotList.withLast (maps.flatMap toList))

/-- The merge of coherent containers has all the properties of one. -/
theorem mergeOf_merge
    {maps : List (OrderedMap α)}
    (coherent : ∀ map ∈ maps, map.Coherent) :
    MergeOf maps (merge maps) where
  occupied := by
    rw [toList_merge_flatMap]
    exact fun _ => SlotList.occupied_merged _
  vacant_eq := by
    rw [(coherent_merge maps).vacant_eq, toList_merge_flatMap, Slot.vacantCount,
      List.countP_eq_zero]
    intro slot member
    simp [SlotList.occupied_merged _ member]
  mem_keys key := by
    have inputs : Slot.keysOf (maps.flatMap toList) = maps.flatMap keys := List.filterMap_flatMap
    rw [keys_eq_keysOf, toList_merge_flatMap, SlotList.mem_keysOf_foldl_add, inputs,
      List.mem_flatMap]
    simp [Slot.keysOf]
  keys_nodup := (coherent_merge maps).keys_nodup
  get?_eq key := by rw [get?_merge, last?_flatMap_toList coherent]
  items_eq := by
    rw [toList_merge_flatMap, SlotList.item?_merged, List.filterMap_flatMap]
  toList_eq := by rw [toList_merge_flatMap, SlotList.foldl_add_eq]

/-- Merging lets the last input with a key give its value and the first one its
place. It is associative: the three ways to merge three containers lead to the
same container, bucket table included. -/
theorem merge_right_biased_associative
    {maps : List (OrderedMap α)}
    (coherent : ∀ map ∈ maps, map.Coherent) :
    MergeOf maps (merge maps) ∧
      ∀ a b c : OrderedMap α,
        merge [merge [a, b], c] = merge [a, b, c] ∧
          merge [a, merge [b, c]] = merge [a, b, c] := by
  refine ⟨mergeOf_merge coherent, fun a b c => ⟨?_, ?_⟩⟩
  · exact merge_flatten [] [a, b] [c]
  · exact merge_flatten [a] [b, c] []

end Table

/-- A vacant slot, two keys and an unkeyed value between them. -/
def sampleLeft : OrderedMap Nat :=
  (((ofPairs [("a", 1), ("b", 2)]).append 3).insert "c" 4).erase "a"

/-- A new key, an unkeyed value and a key of `sampleLeft`. -/
def sampleRight : OrderedMap Nat :=
  ((ofPairs [("d", 5)]).append 6).insert "b" 7

/-- The shared key keeps its place in the left sample and takes its value from the
right one, and the vacant slot is gone. -/
theorem samples_merged :
    (∀ map ∈ [sampleLeft, sampleRight], map.Coherent) ∧
      MergeOf [sampleLeft, sampleRight] (merge [sampleLeft, sampleRight]) ∧
      merge [sampleLeft, merge [sampleRight, sampleLeft]] =
        merge [sampleLeft, sampleRight, sampleLeft] ∧
      (merge [sampleLeft, sampleRight]).toList =
        [.entry "b" 7, .item 3, .entry "c" 4, .entry "d" 5, .item 6] := by
  have left : sampleLeft.Coherent :=
    (((coherent_ofPairs _).append 3).insert "c" 4).erase "a"
  have right : sampleRight.Coherent :=
    ((coherent_ofPairs _).append 6).insert "b" 7
  have coherent : ∀ map ∈ [sampleLeft, sampleRight], map.Coherent := by
    simp [left, right]
  have laws := merge_right_biased_associative coherent
  exact ⟨coherent, laws.1, (laws.2 sampleLeft sampleRight sampleLeft).2, by decide +kernel⟩

end OrderedMap
end ScriptCore
