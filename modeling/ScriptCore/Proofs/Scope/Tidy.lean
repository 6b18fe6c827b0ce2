import ScriptCore.Proofs.OrderedMap.Compaction
import ScriptCore.Proofs.Scope.Answers

/-!
# Tidy scopes

Removing a global name leaves a vacant slot behind, and once vacant slots outnumber
the live ones the global scope is compacted. No other operation on a stack makes a
slot vacant, so in every stack that operations lead to at least half of the global
slots are live, and inner scopes have no vacant slots at all.

Whether a removal compacts the scope or not, the live slots after it are those of the
other names, in the same order.
-/

namespace ScriptCore

/-! ## Slots that become vacant -/

namespace SlotList

variable {α : Type}

/-- An insertion takes no vacant slot and makes none. -/
theorem vacantCount_insert (key : String) (value : α) (slots : List (Slot α)) :
    Slot.vacantCount (insert key value slots) = Slot.vacantCount slots := by
  unfold Slot.vacantCount
  induction slots with
  | nil => rfl
  | cons slot slots ih =>
      rw [insert]
      split
      · next present => simp [Slot.occupied_of_hasKey present]
      · rw [List.countP_cons, List.countP_cons, ih]

theorem length_le_insert (key : String) (value : α) (slots : List (Slot α)) :
    slots.length ≤ (insert key value slots).length := by
  induction slots with
  | nil => exact Nat.zero_le _
  | cons slot slots ih =>
      rw [insert]
      split
      · exact Nat.le_refl _
      · exact Nat.succ_le_succ ih

/-- Making the slot of a key vacant takes that slot from the live ones. -/
theorem filter_vacate
    {slots : List (Slot α)}
    (different : (Slot.keysOf slots).Nodup)
    (key : String) :
    (changeKey key (fun _ => .vacant) slots).filter (fun slot => !slot.isVacant) =
      (slots.filter fun slot => !slot.isVacant).filter fun slot => !slot.hasKey key := by
  induction slots with
  | nil => rfl
  | cons slot slots ih =>
      have later : (Slot.keysOf slots).Nodup :=
        different.sublist ((List.sublist_cons_self slot slots).filterMap Slot.key?)
      rw [changeKey]
      split
      · next present =>
        -- No later slot has the key, so the filter keeps them all.
        rw [Slot.keysOf, List.filterMap_cons_some (Slot.hasKey_iff.mp present), List.nodup_cons]
          at different
        have others : ∀ other ∈ slots.filter (fun slot => !slot.isVacant),
            (!other.hasKey key) = true := by
          intro other member
          rw [Bool.not_eq_true', Bool.eq_false_iff, Ne, Slot.hasKey_iff]
          intro same
          exact different.1 (List.mem_filterMap.mpr ⟨other, List.mem_of_mem_filter member, same⟩)
        rw [List.filter_cons_of_neg (by simp),
          List.filter_cons_of_pos (by simp [Slot.occupied_of_hasKey present]),
          List.filter_cons_of_neg (by simp [present]), List.filter_eq_self.mpr others]
      · next absent =>
        rw [List.filter_cons, List.filter_cons, ih later]
        split
        · rw [List.filter_cons_of_pos (by simpa using absent)]
        · rfl

end SlotList

namespace OrderedMap
namespace Coherent

variable {α : Type} [KeyHash] {map : OrderedMap α}

theorem vacant_insert (coherent : map.Coherent) (key : String) (value : α) :
    (map.insert key value).vacant = map.vacant := by
  rw [(coherent.insert key value).vacant_eq, coherent.toList_insert, SlotList.vacantCount_insert,
    coherent.vacant_eq]

/-- An insertion makes no fewer live slots. -/
theorem liveCount_le_insert (coherent : map.Coherent) (key : String) (value : α) :
    map.liveCount ≤ (map.insert key value).liveCount := by
  have longer := SlotList.length_le_insert key value map.toList
  rw [← coherent.toList_insert, ← size_eq_length, ← size_eq_length] at longer
  unfold liveCount
  rw [coherent.vacant_insert]
  exact Nat.sub_le_sub_right longer _

theorem liveSlots_erase (coherent : map.Coherent) (key : String) :
    (map.erase key).liveSlots = map.liveSlots.filter fun slot => !slot.hasKey key := by
  rw [liveSlots, coherent.toList_erase, SlotList.filter_vacate coherent.keys_nodup]
  rfl

end Coherent
end OrderedMap

/-! ## Scopes -/

variable [KeyHash]

/-- The live slots after a removal are those of the other names. -/
theorem ScopeStack.liveSlots_removeFrom
    {scope : Scope}
    (coherent : scope.Coherent)
    (name : String) :
    (removeFrom scope name).liveSlots = scope.liveSlots.filter fun slot => !slot.hasKey name := by
  rw [removeFrom_eq]
  split
  · rw [(coherent.erase name).liveSlots_compact, coherent.liveSlots_erase]
  · exact coherent.liveSlots_erase name

/-- The signatures of an overload set have the name that it is bound to. -/
def Binding.Named (name : String) : Binding → Prop
  | .plain _ => True
  | .linked _ _ => True
  | .function overloads => ∀ signature ∈ overloads.overloads, signature.name = name

/-- A slot holds a binding under a name. -/
def NamedSlot (slot : Slot Binding) : Prop :=
  ∃ name binding, slot = .entry name binding ∧ binding.Named name

/-- A coherent scope at a depth, with a name for every live slot. In the global scope
vacant slots do not outnumber the live ones; in any other scope there are none. -/
structure TidyScope (index : Nat) (scope : Scope) : Prop where
  coherent : scope.Coherent
  named : ∀ slot ∈ scope.liveSlots, NamedSlot slot
  vacant_le : scope.vacant ≤ if index = 0 then scope.liveCount else 0

namespace TidyScope

variable {index : Nat} {scope : Scope} {name : String} {binding : Binding}

theorem withOrder (index order : Nat) : TidyScope index (.withOrder order) where
  coherent := OrderedMap.coherent_withOrder order
  named slot member := by cases member
  vacant_le := Nat.zero_le _

/-- Binding a name makes no slot vacant. -/
theorem insert (tidy : TidyScope index scope) (named : binding.Named name) :
    TidyScope index (scope.insert name binding) where
  coherent := tidy.coherent.insert name binding
  named slot member := by
    rw [OrderedMap.liveSlots, List.mem_filter, tidy.coherent.toList_insert] at member
    rcases SlotList.mem_insert member.1 with new | old
    · exact ⟨name, binding, new, named⟩
    · exact tidy.named slot (List.mem_filter.mpr ⟨old, member.2⟩)
  vacant_le := by
    rw [tidy.coherent.vacant_insert]
    refine Nat.le_trans tidy.vacant_le ?_
    split
    · exact tidy.coherent.liveCount_le_insert name binding
    · exact Nat.le_refl 0

/-- Removing a name compacts the scope when it is time. -/
theorem removeFrom (tidy : TidyScope 0 scope) (name : String) :
    TidyScope 0 (ScopeStack.removeFrom scope name) where
  coherent := ScopeStack.coherent_removeFrom tidy.coherent name
  named slot member := by
    rw [ScopeStack.liveSlots_removeFrom tidy.coherent] at member
    exact tidy.named slot (List.mem_of_mem_filter member)
  vacant_le := by
    rw [if_pos rfl]
    rw [ScopeStack.removeFrom_eq]
    split
    -- A compacted scope has no vacant slot, and one that is not compacted has few.
    · rw [(tidy.coherent.erase name).vacant_compact]
      exact Nat.zero_le _
    · next few => exact Nat.not_lt.mp few

/-- A function found in a tidy scope has the name under which it is found. -/
theorem named_get? (tidy : TidyScope index scope) (found : scope.get? name = some binding) :
    binding.Named name := by
  rw [tidy.coherent.get?_eq, SlotList.get?, Option.bind_eq_some_iff] at found
  obtain ⟨slot, first, holds⟩ := found
  have present : slot.hasKey name = true := List.find?_some first
  have live : slot ∈ scope.liveSlots := by
    refine List.mem_filter.mpr ⟨List.mem_of_find?_eq_some first, ?_⟩
    rw [Slot.occupied_of_hasKey present]
    rfl
  obtain ⟨key, content, rfl, named⟩ := tidy.named slot live
  rw [Slot.hasKey_iff, Slot.key?_entry, Option.some.injEq] at present
  rw [Slot.value?_entry, Option.some.injEq] at holds
  rw [← present, ← holds]
  exact named

end TidyScope

/-! ## Stacks -/

namespace ScopeStack

variable {stack : ScopeStack}

/-- The stacks that operations lead to, whatever the cells are. -/
inductive Built : ScopeStack → Prop where
  | new (order : Nat) : Built (withOrder order)
  | cells {stack : ScopeStack} (cells : Array Value) (before : Built stack) :
      Built { stack with cells }
  | push {stack : ScopeStack} (before : Built stack) : Built stack.push
  | pop {stack after : ScopeStack} (before : Built stack) (popped : stack.pop? = some after) :
      Built after
  | truncate {stack : ScopeStack} (depth : Nat) (before : Built stack) :
      Built (stack.truncate depth)
  | define {stack : ScopeStack} (name : String) (value : Value) (before : Built stack) :
      Built (stack.define name value)
  | assign {stack after : ScopeStack} {name : String} {value : Value} (before : Built stack)
      (assigned : stack.assign name value = .ok after) :
      Built after
  | link {stack : ScopeStack} (name : String) (tag : Tag) (cell : Nat) (before : Built stack) :
      Built (stack.link name tag cell)
  | register {stack : ScopeStack} (signature : Signature) (before : Built stack) :
      Built (stack.defineFunction signature)
  | unbind {stack : ScopeStack} (name : String) (before : Built stack) :
      Built (stack.unbindGlobal name)

theorem Built.unbindAll (built : stack.Built) (names : List String) :
    (names.foldl unbindGlobal stack).Built :=
  List.foldlRecOn names _ built fun _ before name _ => .unbind name before

/-- Every scope of a stack is tidy. -/
abbrev Tidy (stack : ScopeStack) : Prop :=
  stack.AtEveryDepth TidyScope

/-- An overload set that gains a signature is still named. -/
theorem Tidy.defineFunction (tidy : stack.Tidy) (signature : Signature) :
    (stack.defineFunction signature).Tidy := by
  refine tidy.rebinds (rebinds_global stack signature.name _) fun _ inside => inside.insert ?_
  split
  · next overloads found =>
    intro member inside
    rcases List.mem_append.mp inside with old | new
    · exact tidy.global.named_get? found member old
    · rw [List.mem_singleton.mp new]
  · intro member inside
    rw [List.mem_singleton.mp inside]

/-- Every built stack is tidy. -/
theorem Built.tidy (built : stack.Built) : stack.Tidy := by
  induction built with
  | new order => exact atEveryDepth_withOrder (.withOrder 0 order)
  | cells cells _ tidy => exact tidy
  | push _ tidy => exact tidy.push (.withOrder _ _)
  | pop _ popped tidy => exact tidy.pop? popped
  | truncate depth _ tidy => exact tidy.truncate depth
  | @define stack name value _ tidy =>
      exact tidy.rebinds (stack.define_rebinds name value) fun _ inside => inside.insert trivial
  | assign _ assigned tidy =>
      rcases assign_cases assigned with ⟨cells, rfl⟩ | ⟨rebinds, -⟩
      · exact tidy
      · exact tidy.rebinds rebinds fun _ inside => inside.insert trivial
  | @link stack name tag cell _ tidy =>
      exact tidy.rebinds (rebinds_global stack name _) fun _ inside => inside.insert trivial
  | register signature _ tidy => exact tidy.defineFunction signature
  | unbind name _ tidy => exact tidy.unbindGlobal fun inside => inside.removeFrom name

/-! ## Removing names -/

theorem liveSlots_foldl_unbindGlobal (coherent : stack.global.Coherent) (names : List String) :
    (names.foldl unbindGlobal stack).global.liveSlots =
      stack.global.liveSlots.filter fun slot => !names.any fun name => slot.hasKey name := by
  induction names generalizing stack with
  | nil => simp
  | cons name names ih =>
      have first : (stack.unbindGlobal name).global.liveSlots =
          stack.global.liveSlots.filter fun slot => !slot.hasKey name :=
        liveSlots_removeFrom coherent name
      rw [List.foldl_cons, ih (coherent_removeFrom coherent name), first,
        List.filter_filter]
      simp only [List.any_cons, Bool.not_or, Bool.and_comm]

end ScopeStack

/-! ## Overload sets -/

/-- The signatures that a slot of a scope makes callable. -/
def Slot.signatures (slot : Slot Binding) : List Signature :=
  match slot.value? with
  | some (.function overloads) => overloads.overloads
  | _ => []

omit [KeyHash] in
/-- Removing the slots of some names removes the signatures of these names. -/
theorem flatMap_signatures_filter
    {slots : List (Slot Binding)}
    (named : ∀ slot ∈ slots, NamedSlot slot)
    (names : List String) :
    (slots.filter fun slot => !names.any fun name => slot.hasKey name).flatMap Slot.signatures =
      (slots.flatMap Slot.signatures).filter fun signature => signature.name ∉ names := by
  induction slots with
  | nil => rfl
  | cons slot slots ih =>
      obtain ⟨⟨name, binding, rfl, bound⟩, later⟩ := List.forall_mem_cons.mp named
      have same : ∀ signature ∈ (Slot.entry name binding).signatures, signature.name = name := by
        cases binding with
        | plain value => exact fun _ member => absurd member List.not_mem_nil
        | linked tag cell => exact fun _ member => absurd member List.not_mem_nil
        | function overloads => exact bound
      have removed : (names.any fun other => (Slot.entry name binding).hasKey other) =
          decide (name ∈ names) := by
        rw [Bool.eq_iff_iff, List.any_eq_true, decide_eq_true_iff]
        simp [Slot.hasKey_iff]
      rw [List.flatMap_cons, List.filter_append, ← ih later]
      by_cases member : name ∈ names
      · have none : (Slot.entry name binding).signatures.filter
            (fun signature => signature.name ∉ names) = [] := by
          rw [List.filter_eq_nil_iff]
          intro signature inside
          simp [same signature inside, member]
        rw [List.filter_cons_of_neg (by simp [removed, member]), none, List.nil_append]
      · have all : (Slot.entry name binding).signatures.filter
            (fun signature => signature.name ∉ names) = (Slot.entry name binding).signatures := by
          rw [List.filter_eq_self]
          intro signature inside
          simp [same signature inside, member]
        rw [List.filter_cons_of_pos (by simp [removed, member]), all, List.flatMap_cons]

end ScriptCore
