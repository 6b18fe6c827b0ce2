import ScriptCore.Proofs.OrderedMap.Values
import ScriptCore.Proofs.Scope.Names

/-!
# What the scopes of a stack answer for a name

Each scope of a stack either has a binding of a name or none. The list of these
answers, from the global scope on, decides what the name stands for: the last
binding in it is the nearest one. Opening a scope adds an empty answer, closing
scopes cuts the list, and a write changes the list of one name at one place.
-/

namespace ScriptCore

theorem OrderedMap.get?_withOrder {α : Type} [KeyHash] (order : Nat) (key : String) :
    (withOrder order : OrderedMap α).get? key = none := by
  rw [(coherent_withOrder order).get?_eq]
  rfl

namespace ScopeStack

variable {stack after : ScopeStack} {name : String} {binding : Binding} {index : Nat}

/-! ## Every scope of a stack -/

variable [KeyHash]

/-- Every scope after a write. -/
theorem Rebinds.scopeAt?_eq (rebinds : stack.Rebinds index name binding after) (place : Nat) :
    after.scopeAt? place =
      if place = index then (stack.scopeAt? place).map fun scope => scope.insert name binding
      else stack.scopeAt? place := by
  split
  · next here =>
    subst here
    cases found : stack.scopeAt? place with
    | some scope => exact rebinds.target scope found
    | none =>
        cases now : after.scopeAt? place with
        | none => rfl
        | some scope =>
            have inside := lt_depth_of_scopeAt? now
            rw [rebinds.depth] at inside
            obtain ⟨old, there⟩ := exists_scopeAt? inside
            rw [found] at there
            cases there
  · next elsewhere => exact rebinds.others place elsewhere

/-- Every scope of a stack satisfies a property of its depth. -/
def AtEveryDepth (property : Nat → Scope → Prop) (stack : ScopeStack) : Prop :=
  ∀ index scope, stack.scopeAt? index = some scope → property index scope

omit [KeyHash] in
/-- A new stack has a property at every depth if an empty scope has it at depth
zero. -/
theorem atEveryDepth_withOrder
    {property : Nat → Scope → Prop}
    {order : Nat}
    (empty : property 0 (.withOrder order)) :
    (withOrder order).AtEveryDepth property := by
  intro index scope found
  have first : index = 0 := Nat.lt_one_iff.mp (lt_depth_of_scopeAt? found)
  subst first
  rw [scopeAt?_zero, Option.some.injEq] at found
  exact found ▸ empty

namespace AtEveryDepth

variable {property : Nat → Scope → Prop}

omit [KeyHash] in
theorem global (holds : stack.AtEveryDepth property) : property 0 stack.global :=
  holds 0 stack.global scopeAt?_zero

omit [KeyHash] in
/-- A stack whose scopes are the lower ones of another stack. -/
theorem of_lower
    (holds : stack.AtEveryDepth property)
    (same : ∀ index < after.depth, after.scopeAt? index = stack.scopeAt? index) :
    after.AtEveryDepth property := by
  intro index scope found
  rw [same index (lt_depth_of_scopeAt? found)] at found
  exact holds index scope found

omit [KeyHash] in
/-- A new scope keeps a property at every depth if the empty scope has it. -/
theorem push
    (holds : stack.AtEveryDepth property)
    (empty : property stack.depth (.withOrder stack.order)) :
    stack.push.AtEveryDepth property := by
  intro index scope found
  have inside : index ≤ stack.depth := Nat.lt_succ_iff.mp (lt_depth_of_scopeAt? found)
  rcases Nat.lt_or_eq_of_le inside with below | rfl
  · rw [scopeAt?_push below] at found
    exact holds index scope found
  · rw [scopeAt?_push_depth, Option.some.injEq] at found
    exact found ▸ empty

omit [KeyHash] in
theorem pop? (holds : stack.AtEveryDepth property) (popped : stack.pop? = some after) :
    after.AtEveryDepth property :=
  holds.of_lower fun _ below => scopeAt?_of_pop? popped below

omit [KeyHash] in
theorem truncate (holds : stack.AtEveryDepth property) (depth : Nat) :
    (stack.truncate depth).AtEveryDepth property := by
  apply holds.of_lower
  intro index below
  rw [depth_truncate] at below
  exact scopeAt?_truncate (by omega)

/-- A change of one binding keeps a property at every depth if inserting the
binding does. -/
theorem rebinds
    (holds : stack.AtEveryDepth property)
    (rebinds : stack.Rebinds index name binding after)
    (insert : ∀ scope, property index scope → property index (scope.insert name binding)) :
    after.AtEveryDepth property := by
  intro other scope found
  rw [rebinds.scopeAt?_eq] at found
  split at found
  · next here =>
    subst here
    obtain ⟨old, there, rfl⟩ := Option.map_eq_some_iff.mp found
    exact insert old (holds other old there)
  · exact holds other scope found

/-- Unbinding a global name keeps a property at every depth if removing the name
does. -/
theorem unbindGlobal
    (holds : stack.AtEveryDepth property)
    (remove : property 0 stack.global → property 0 (removeFrom stack.global name)) :
    (stack.unbindGlobal name).AtEveryDepth property := by
  intro index scope found
  by_cases global : index = 0
  · subst global
    rw [scopeAt?_zero, Option.some.injEq] at found
    exact found ▸ remove holds.global
  · rw [scopeAt?_unbindGlobal name global] at found
    exact holds index scope found

end AtEveryDepth

/-- Every scope of a stack satisfies a property. -/
def Everywhere (property : Scope → Prop) (stack : ScopeStack) : Prop :=
  ∀ index scope, stack.scopeAt? index = some scope → property scope

omit [KeyHash] in
theorem everywhere_withOrder
    {property : Scope → Prop}
    {order : Nat}
    (empty : property (.withOrder order)) :
    (withOrder order).Everywhere property :=
  atEveryDepth_withOrder empty

namespace Everywhere

variable {property : Scope → Prop}

omit [KeyHash] in
theorem global (everywhere : stack.Everywhere property) : property stack.global :=
  everywhere 0 stack.global scopeAt?_zero

omit [KeyHash] in
theorem push
    (everywhere : stack.Everywhere property)
    (empty : property (.withOrder stack.order)) :
    stack.push.Everywhere property :=
  AtEveryDepth.push everywhere empty

omit [KeyHash] in
theorem pop? (everywhere : stack.Everywhere property) (popped : stack.pop? = some after) :
    after.Everywhere property :=
  AtEveryDepth.pop? everywhere popped

omit [KeyHash] in
theorem truncate (everywhere : stack.Everywhere property) (depth : Nat) :
    (stack.truncate depth).Everywhere property :=
  AtEveryDepth.truncate everywhere depth

theorem rebinds
    (everywhere : stack.Everywhere property)
    (rebinds : stack.Rebinds index name binding after)
    (insert : ∀ scope, property scope → property (scope.insert name binding)) :
    after.Everywhere property :=
  AtEveryDepth.rebinds everywhere rebinds insert

theorem unbindGlobal
    (everywhere : stack.Everywhere property)
    (remove : ∀ scope, property scope → property (removeFrom scope name)) :
    (stack.unbindGlobal name).Everywhere property :=
  AtEveryDepth.unbindGlobal everywhere (remove stack.global)

end Everywhere

/-- Every scope of a stack is coherent. -/
abbrev Coherent (stack : ScopeStack) : Prop :=
  stack.Everywhere OrderedMap.Coherent

namespace Coherent

/-- A new scope keeps the scopes coherent. -/
theorem push (coherent : stack.Coherent) : stack.push.Coherent :=
  Everywhere.push coherent (OrderedMap.coherent_withOrder stack.order)

/-- A change of one binding keeps the scopes coherent. -/
theorem rebinds
    (coherent : stack.Coherent)
    (rebinds : stack.Rebinds index name binding after) :
    after.Coherent :=
  Everywhere.rebinds coherent rebinds fun _ inside => inside.insert name binding

theorem unbindGlobal (coherent : stack.Coherent) (name : String) :
    (stack.unbindGlobal name).Coherent :=
  Everywhere.unbindGlobal coherent fun _ inside => coherent_removeFrom inside name

end Coherent

/-! ## Answers -/

/-- What the scopes answer for a name, the global one first. -/
def answers (stack : ScopeStack) (name : String) : List (Option Binding) :=
  stack.scopes.reverse.map fun scope => scope.get? name

/-- The answer at a depth is that of the scope there. -/
theorem getElem?_answers (stack : ScopeStack) (name : String) (index : Nat) :
    (stack.answers name)[index]? = (stack.scopeAt? index).map fun scope => scope.get? name :=
  List.getElem?_map ..

theorem length_answers (stack : ScopeStack) (name : String) :
    (stack.answers name).length = stack.depth := by
  simp [answers, scopes, depth]

theorem binding?_eq_findSome? (stack : ScopeStack) (name : String) :
    stack.binding? name = stack.scopes.findSome? fun scope => scope.get? name := by
  rw [scopes, List.findSome?_append, List.findSome?_singleton]
  rfl

/-- The nearest binding is the last answer. -/
theorem binding?_eq_answers (stack : ScopeStack) (name : String) :
    stack.binding? name = ((stack.answers name).filterMap id).getLast? := by
  rw [answers, List.filterMap_map, List.filterMap_reverse, List.getLast?_reverse,
    List.head?_filterMap, binding?_eq_findSome?]
  rfl

/-- A stack whose scopes are the lower ones of another stack. -/
theorem answers_of_lower
    (same : ∀ index < after.depth, after.scopeAt? index = stack.scopeAt? index)
    (name : String) :
    after.answers name = (stack.answers name).take after.depth := by
  apply List.ext_getElem?
  intro index
  rw [List.getElem?_take]
  split
  · next below => rw [getElem?_answers, getElem?_answers, same index below]
  · next above =>
    rw [List.getElem?_eq_none]
    rw [length_answers]
    omega

/-- A new scope adds no answer. -/
theorem answers_push (stack : ScopeStack) (name : String) :
    stack.push.answers name = stack.answers name ++ [none] := by
  have opened : stack.push.scopes = .withOrder stack.order :: stack.scopes := rfl
  rw [answers, opened, List.reverse_cons, List.map_append, List.map_singleton,
    OrderedMap.get?_withOrder]
  rfl

/-- Closing a scope takes its answer away. -/
theorem answers_of_pop? (popped : stack.pop? = some after) (name : String) :
    after.answers name = (stack.answers name).take after.depth := by
  exact answers_of_lower (fun _ below => scopeAt?_of_pop? popped below) name

/-- Closing scopes down to a depth takes the answers of the inner ones away. -/
theorem answers_truncate (stack : ScopeStack) {depth : Nat} (positive : 0 < depth) (name : String) :
    (stack.truncate depth).answers name = (stack.answers name).take depth := by
  have cut := depth_truncate stack depth
  rw [answers_of_lower fun index below => scopeAt?_truncate (by omega), cut,
    ← length_answers stack name, List.take_eq_take_iff]
  omega

/-- A write to another name. -/
theorem Rebinds.answers_other
    (rebinds : stack.Rebinds index name binding after)
    (coherent : stack.Coherent)
    {other : String}
    (different : other ≠ name) :
    after.answers other = stack.answers other := by
  apply List.ext_getElem?
  intro place
  rw [getElem?_answers, getElem?_answers, rebinds.scopeAt?_eq]
  split
  · cases found : stack.scopeAt? place with
    | none => rfl
    | some scope =>
        rw [Option.map_some, Option.map_some, Option.map_some,
          (coherent place scope found).get?_insert, if_neg different]
  · rfl

/-- A write to the name itself. -/
theorem Rebinds.answers_self
    (rebinds : stack.Rebinds index name binding after)
    (coherent : stack.Coherent) :
    after.answers name = (stack.answers name).set index (some binding) := by
  apply List.ext_getElem?
  intro place
  rw [getElem?_answers, rebinds.scopeAt?_eq, List.getElem?_set', getElem?_answers]
  by_cases here : place = index
  · rw [if_pos here, if_pos here.symm]
    cases found : stack.scopeAt? place with
    | none => rfl
    | some scope =>
        rw [Option.map_some, Option.map_some, (coherent place scope found).get?_insert, if_pos rfl]
        rfl
  · rw [if_neg here, if_neg (Ne.symm here)]

/-- Unbinding a global name changes no answer for other names. -/
theorem answers_unbindGlobal
    (coherent : stack.Coherent)
    {other : String}
    (different : other ≠ name) :
    (stack.unbindGlobal name).answers other = stack.answers other := by
  apply List.ext_getElem?
  intro place
  rw [getElem?_answers, getElem?_answers]
  by_cases global : place = 0
  · rw [global, scopeAt?_zero, scopeAt?_zero, Option.map_some, Option.map_some]
    change some ((removeFrom stack.global name).get? other) = _
    rw [get?_removeFrom coherent.global, if_neg different]
  · rw [scopeAt?_unbindGlobal name global]

/-! ## The nearest binding -/

/-- A scope has a binding of a name, and no scope above it has one. -/
structure Nearest
    (stack : ScopeStack)
    (index : Nat)
    (name : String)
    (binding : Binding) : Prop where
  here : ∃ scope, stack.scopeAt? index = some scope ∧ scope.get? name = some binding
  above : ∀ other scope, index < other → stack.scopeAt? other = some scope →
    scope.get? name = none

/-- A name is unbound exactly if no scope has it. -/
theorem binding?_eq_none_iff :
    stack.binding? name = none ↔
      ∀ index scope, stack.scopeAt? index = some scope → scope.get? name = none := by
  rw [binding?_eq_findSome?, List.findSome?_eq_none_iff]
  constructor
  · intro absent index scope found
    exact absent scope (List.mem_reverse.mp (List.mem_of_getElem? found))
  · intro absent scope member
    obtain ⟨index, found⟩ := List.getElem?_of_mem (List.mem_reverse.mpr member)
    exact absent index scope found

omit [KeyHash] in
/-- The depth of a scope is the number of scopes below it, and what is deeper is
above it. -/
theorem scopeAt?_of_scopes
    {above below : List Scope}
    {scope : Scope}
    (split : stack.scopes = above ++ scope :: below) :
    stack.scopeAt? below.length = some scope ∧
      ∀ other higher, below.length < other → stack.scopeAt? other = some higher →
        higher ∈ above := by
  have order : stack.scopes.reverse = below.reverse ++ scope :: above.reverse := by
    rw [split, List.reverse_append, List.reverse_cons, List.append_assoc, List.singleton_append]
  constructor
  · rw [scopeAt?, order, ← List.length_reverse, List.getElem?_append_right (Nat.le_refl _),
      Nat.sub_self, List.getElem?_cons_zero]
  · intro other higher later there
    rw [scopeAt?, order, List.getElem?_append_right (by rw [List.length_reverse]; omega),
      List.length_reverse] at there
    obtain ⟨distance, apart⟩ := Nat.exists_eq_add_of_lt later
    rw [show other - below.length = distance + 1 by omega, List.getElem?_cons_succ] at there
    exact List.mem_reverse.mp (List.mem_of_getElem? there)

/-- A scope that has a name, under scopes that do not. -/
theorem nearest_of_split
    {above below : List Scope}
    {scope : Scope}
    (split : stack.scopes = above ++ scope :: below)
    (bound : scope.get? name = some binding)
    (absent : ∀ higher ∈ above, higher.get? name = none) :
    stack.Nearest below.length name binding := by
  obtain ⟨here, inAbove⟩ := scopeAt?_of_scopes split
  refine ⟨⟨scope, here, bound⟩, ?_⟩
  intro other higher later there
  exact absent higher (inAbove other higher later there)

/-- Every bound name has a nearest binding at some depth. -/
theorem exists_nearest (found : stack.binding? name = some binding) :
    ∃ index, stack.Nearest index name binding := by
  rw [binding?_eq_findSome?, List.findSome?_eq_some_iff] at found
  obtain ⟨above, scope, below, split, bound, absent⟩ := found
  exact ⟨below.length, nearest_of_split split bound absent⟩

namespace Nearest

theorem lt_depth (nearest : stack.Nearest index name binding) : index < stack.depth := by
  obtain ⟨scope, found, -⟩ := nearest.here
  exact lt_depth_of_scopeAt? found

/-- There is one nearest binding. -/
theorem unique
    (nearest : stack.Nearest index name binding)
    {other : Nat}
    {second : Binding}
    (same : stack.Nearest other name second) :
    index = other ∧ binding = second := by
  obtain ⟨scope, found, bound⟩ := nearest.here
  obtain ⟨otherScope, otherFound, otherBound⟩ := same.here
  rcases Nat.lt_trichotomy index other with before | rfl | after
  · rw [nearest.above other otherScope before otherFound] at otherBound
    cases otherBound
  · rw [found, Option.some.injEq] at otherFound
    subst otherFound
    exact ⟨rfl, Option.some.inj (bound.symm.trans otherBound)⟩
  · rw [same.above index scope after found] at bound
    cases bound

/-- The nearest binding is the one that a look-up gives. -/
theorem binding?_eq (nearest : stack.Nearest index name binding) :
    stack.binding? name = some binding := by
  cases found : stack.binding? name with
  | none =>
      obtain ⟨scope, there, bound⟩ := nearest.here
      rw [binding?_eq_none_iff.mp found index scope there] at bound
      cases bound
  | some second =>
      obtain ⟨other, same⟩ := exists_nearest found
      rw [(nearest.unique same).2]

/-- A write where nothing above has the name. -/
theorem of_rebinds
    (rebinds : stack.Rebinds index name binding after)
    (coherent : stack.Coherent)
    (inside : index < stack.depth)
    (above : ∀ other scope, index < other → stack.scopeAt? other = some scope →
      scope.get? name = none) :
    after.Nearest index name binding := by
  obtain ⟨scope, found⟩ := exists_scopeAt? inside
  refine ⟨⟨_, rebinds.target scope found, ?_⟩, ?_⟩
  · rw [(coherent index scope found).get?_insert, if_pos rfl]
  · intro other higher later there
    rw [rebinds.others other (Nat.ne_of_gt later)] at there
    exact above other higher later there

end Nearest

/-! ## The scope that an assignment changes -/

/-- The home of a name is the innermost of the scopes that have it. -/
theorem homeIn?_eq_some
    {inner : List Scope}
    (found : homeIn? name inner = some index) :
    ∃ above scope below, inner = above ++ scope :: below ∧ index = below.length + 1 ∧
      scope.contains name = true ∧ ∀ other ∈ above, other.contains name = false := by
  induction inner with
  | nil => cases found
  | cons head tail ih =>
      rw [homeIn?] at found
      split at found
      · next present =>
        cases found
        exact ⟨[], head, tail, rfl, rfl, present, by simp⟩
      · next absent =>
        obtain ⟨above, scope, below, split, place, contained, free⟩ := ih found
        refine ⟨head :: above, scope, below, by rw [split]; rfl, place, contained, ?_⟩
        exact List.forall_mem_cons.mpr ⟨Bool.eq_false_iff.mpr absent, free⟩

/-- A name is at home where its nearest binding is. -/
theorem nearest_home (found : stack.binding? name = some binding) :
    stack.Nearest (stack.home name) name binding := by
  have absent {scope : Scope} (free : scope.contains name = false) : scope.get? name = none := by
    rw [← Option.not_isSome_iff_eq_none, OrderedMap.isSome_get?, free]
    exact Bool.false_ne_true
  suffices there : ∃ other, stack.Nearest (stack.home name) name other by
    obtain ⟨other, nearest⟩ := there
    rw [nearest.binding?_eq, Option.some.injEq] at found
    exact found ▸ nearest
  cases home : homeIn? name stack.inner with
  | some index =>
      obtain ⟨above, scope, below, split, rfl, contained, free⟩ := homeIn?_eq_some home
      rw [← OrderedMap.isSome_get?] at contained
      obtain ⟨other, bound⟩ := Option.isSome_iff_exists.mp contained
      have whole : stack.scopes = above ++ scope :: (below ++ [stack.global]) := by
        simp [scopes, split]
      have nearest := nearest_of_split whole bound fun higher member => absent (free higher member)
      rw [List.length_append] at nearest
      exact ⟨other, by rwa [ScopeStack.home, home]⟩
  | none =>
      rcases replaceIn_cases name binding stack.inner with ⟨-, -, free⟩ | ⟨_, _, _, -, -, atHome, -⟩
      · have present : stack.contains name = true := by rw [contains, found]; rfl
        rw [contains_global free] at present
        have bound := present
        rw [← OrderedMap.isSome_get?] at bound
        obtain ⟨other, bound⟩ := Option.isSome_iff_exists.mp bound
        have whole : stack.scopes = stack.inner ++ stack.global :: [] := rfl
        have nearest : stack.Nearest 0 name other :=
          nearest_of_split whole bound fun higher member => absent (free higher member)
        exact ⟨other, by rwa [ScopeStack.home, home, Option.getD_none, if_pos present]⟩
      · rw [home] at atHome
        cases atHome

end ScopeStack
end ScriptCore
