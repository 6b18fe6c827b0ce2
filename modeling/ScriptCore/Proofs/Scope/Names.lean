import ScriptCore.Proofs.OrderedMap.Keys
import ScriptCore.Scope.Stack

/-!
# Names in the scopes of a stack

What every operation on a scope stack does to each single scope, counted from
the global scope at zero. Opening, closing and truncating leave the scopes
below alone. Every write changes one scope, where it binds one name.
-/

namespace ScriptCore
namespace ScopeStack

variable {stack after : ScopeStack} {scope : Scope} {index : Nat} {name bound : String}

/-- The scope at a depth binds a name. -/
def Binds (stack : ScopeStack) (index : Nat) (name : String) : Prop :=
  ∃ scope, stack.scopeAt? index = some scope ∧ name ∈ scope.keys

theorem scopeAt?_zero : stack.scopeAt? 0 = some stack.global := by
  simp [scopeAt?, scopes]

theorem scopeAt?_succ (index : Nat) :
    stack.scopeAt? (index + 1) = stack.inner.reverse[index]? := by
  simp [scopeAt?, scopes]

theorem lt_depth_of_scopeAt?
    (found : stack.scopeAt? index = some scope) :
    index < stack.depth := by
  cases index with
  | zero => exact Nat.zero_lt_succ _
  | succ index =>
      rw [scopeAt?_succ] at found
      have inside := (List.getElem?_eq_some_iff.mp found).1
      rw [List.length_reverse] at inside
      exact Nat.succ_lt_succ inside

/-- There is a scope at every depth below that of the stack. -/
theorem exists_scopeAt? (inside : index < stack.depth) :
    ∃ scope, stack.scopeAt? index = some scope := by
  cases index with
  | zero => exact ⟨_, scopeAt?_zero⟩
  | succ index =>
      rw [scopeAt?_succ]
      have bound : index < stack.inner.reverse.length := by
        rw [List.length_reverse]
        exact Nat.lt_of_succ_lt_succ inside
      exact ⟨_, List.getElem?_eq_getElem bound⟩

theorem depth_pos : 0 < stack.depth :=
  Nat.zero_lt_succ _

/-! ## Opening and closing -/

/-- Closing the scope that was opened last. -/
theorem truncate_push : stack.push.truncate stack.depth = stack := by
  simp [truncate, push, pushReturning, depth]

/-- A new scope leaves the others where they are. -/
theorem scopeAt?_push (below : index < stack.depth) :
    stack.push.scopeAt? index = stack.scopeAt? index := by
  cases index with
  | zero => rw [scopeAt?_zero, scopeAt?_zero]; rfl
  | succ index =>
      have inside : index < stack.inner.reverse.length := by
        rw [List.length_reverse]
        exact Nat.lt_of_succ_lt_succ below
      rw [scopeAt?_succ, scopeAt?_succ, push, pushReturning, List.reverse_cons,
        List.getElem?_append_left inside]

/-- The scope that was just opened is empty. -/
theorem scopeAt?_push_depth :
    stack.push.scopeAt? stack.depth = some (.withOrder stack.order) := by
  rw [depth, scopeAt?_succ, push, pushReturning, List.reverse_cons, ← List.length_reverse,
    List.getElem?_concat_length]

/-- What closes is the innermost scope, and everything else stays. -/
theorem pop?_eq_some (popped : stack.pop? = some after) :
    ∃ scope, stack = { after with inner := scope :: after.inner } := by
  unfold pop? at popped
  cases inner : stack.inner with
  | nil =>
      rw [inner] at popped
      cases popped
  | cons scope rest =>
      rw [inner] at popped
      cases popped
      exact ⟨scope, by rw [← inner]⟩

theorem depth_of_pop? (popped : stack.pop? = some after) : stack.depth = after.depth + 1 := by
  obtain ⟨scope, rfl⟩ := pop?_eq_some popped
  rfl

/-- Closing a scope leaves the others where they are. -/
theorem scopeAt?_of_pop?
    (popped : stack.pop? = some after)
    (below : index < after.depth) :
    after.scopeAt? index = stack.scopeAt? index := by
  obtain ⟨scope, rfl⟩ := pop?_eq_some popped
  cases index with
  | zero => rw [scopeAt?_zero, scopeAt?_zero]
  | succ index =>
      have inside : index < after.inner.reverse.length := by
        rw [List.length_reverse]
        exact Nat.lt_of_succ_lt_succ below
      rw [scopeAt?_succ, scopeAt?_succ, List.reverse_cons, List.getElem?_append_left inside]

/-- Closing scopes down to a depth leaves those below it, and always the global
one. -/
theorem scopeAt?_truncate
    {depth index : Nat}
    (below : index < max depth 1) :
    (stack.truncate depth).scopeAt? index = stack.scopeAt? index := by
  cases index with
  | zero => rw [scopeAt?_zero, scopeAt?_zero]; rfl
  | succ index =>
      rw [scopeAt?_succ, scopeAt?_succ, truncate, List.reverse_drop]
      by_cases inside : index < stack.inner.length
      · rw [List.getElem?_take_of_lt]
        simp only [ScopeStack.depth]
        omega
      · rw [List.getElem?_eq_none, List.getElem?_eq_none]
        · simp only [List.length_reverse]
          omega
        · simp only [List.length_take, List.length_reverse]
          omega

/-! ## Writes -/

variable [KeyHash]

/-- A stack after a write: one scope binds a name, and the others are as
before. -/
structure Rebinds
    (stack : ScopeStack)
    (index : Nat)
    (name : String)
    (binding : Binding)
    (after : ScopeStack) : Prop where
  depth : after.depth = stack.depth
  target : ∀ scope, stack.scopeAt? index = some scope →
    after.scopeAt? index = some (scope.insert name binding)
  others : ∀ other, other ≠ index → after.scopeAt? other = stack.scopeAt? other

namespace Rebinds

variable {index : Nat} {name : String} {binding : Binding}

/-- A change of one binding unbinds no name. -/
theorem binds
    (rebinds : stack.Rebinds index name binding after)
    {other : Nat}
    (before : stack.Binds other bound) :
    after.Binds other bound := by
  obtain ⟨scope, found, member⟩ := before
  by_cases same : other = index
  · subst same
    exact ⟨_, rebinds.target scope found, OrderedMap.mem_keys_insert.mpr (.inl member)⟩
  · exact ⟨scope, by rw [rebinds.others other same, found], member⟩

/-- A change of one binding binds no name but its own. -/
theorem binds_or_eq
    (rebinds : stack.Rebinds index name binding after)
    {other : Nat}
    (now : after.Binds other bound) :
    stack.Binds other bound ∨ other = index ∧ bound = name := by
  obtain ⟨scope, found, member⟩ := now
  by_cases same : other = index
  · subst same
    have inside := lt_depth_of_scopeAt? found
    rw [rebinds.depth] at inside
    obtain ⟨old, there⟩ := exists_scopeAt? inside
    rw [rebinds.target old there, Option.some.injEq] at found
    subst found
    rcases OrderedMap.mem_keys_insert.mp member with kept | new
    · exact .inl ⟨old, there, kept⟩
    · exact .inr ⟨rfl, new⟩
  · rw [rebinds.others other same] at found
    exact .inl ⟨scope, found, member⟩

end Rebinds

theorem rebinds_global (stack : ScopeStack) (name : String) (binding : Binding) :
    stack.Rebinds 0 name binding
      { stack with global := stack.global.insert name binding } where
  depth := rfl
  target scope found := by
    rw [scopeAt?_zero, Option.some.injEq] at found
    rw [scopeAt?_zero, found]
  others other different := by
    obtain ⟨index, rfl⟩ := Nat.exists_eq_succ_of_ne_zero different
    rw [Nat.succ_eq_add_one, scopeAt?_succ, scopeAt?_succ]

omit [KeyHash] in
/-- A scope stands at the depth given by the scopes below it. -/
theorem scopeAt?_of_split
    {above below : List Scope}
    (split : stack.inner = above ++ scope :: below) :
    stack.scopeAt? (below.length + 1) = some scope := by
  rw [scopeAt?_succ, split]
  simp only [List.reverse_append, List.reverse_cons, List.append_assoc, List.cons_append,
    List.nil_append, List.getElem?_append, List.length_reverse, Nat.lt_irrefl, if_false,
    Nat.sub_self, List.getElem?_cons_zero]

theorem rebinds_inner
    {above below : List Scope}
    (split : stack.inner = above ++ scope :: below)
    (name : String)
    (binding : Binding) :
    stack.Rebinds (below.length + 1) name binding
      { stack with inner := above ++ scope.insert name binding :: below } where
  depth := by simp [depth, split]
  target old found := by
    rw [scopeAt?_of_split split, Option.some.injEq] at found
    rw [← found]
    exact scopeAt?_of_split rfl
  others other different := by
    cases other with
    | zero => rw [scopeAt?_zero, scopeAt?_zero]
    | succ index =>
        rw [scopeAt?_succ, scopeAt?_succ, split]
        simp only [List.reverse_append, List.reverse_cons, List.append_assoc, List.cons_append,
          List.nil_append, List.getElem?_append, List.length_reverse]
        split
        · rfl
        · have past : index - below.length ≠ 0 := by omega
          obtain ⟨rest, equal⟩ := Nat.exists_eq_succ_of_ne_zero past
          rw [equal, Nat.succ_eq_add_one, List.getElem?_cons_succ, List.getElem?_cons_succ]

/-- A binding goes to the innermost scope. -/
theorem bind_rebinds (stack : ScopeStack) (name : String) (binding : Binding) :
    stack.Rebinds stack.inner.length name binding (stack.bind name binding) := by
  unfold bind
  cases inner : stack.inner with
  | nil =>
      have rebound := rebinds_global stack name binding
      rw [inner] at rebound
      exact rebound
  | cons scope rest =>
      have split : stack.inner = [] ++ scope :: rest := inner
      exact rebinds_inner split name binding

theorem define_rebinds (stack : ScopeStack) (name : String) (value : Value) :
    stack.Rebinds stack.inner.length name (.plain value) (stack.define name value) :=
  bind_rebinds stack name (.plain value)

/-! ## Assignments -/

/-- The scope of the nearest binding of a name among inner scopes, counted from
the global scope at zero. -/
def homeIn? (name : String) : List Scope → Option Nat
  | [] => none
  | scope :: scopes => if scope.contains name then some (scopes.length + 1) else homeIn? name scopes

/-- The scope that an assignment to a name changes: that of the nearest binding,
or the innermost one. -/
def home (stack : ScopeStack) (name : String) : Nat :=
  (homeIn? name stack.inner).getD
    (if stack.global.contains name then 0 else stack.inner.length)

/-- Either some inner scope has the name and the nearest one gets the binding,
or none has it. -/
theorem replaceIn_cases (name : String) (binding : Binding) (inner : List Scope) :
    (replaceIn name binding inner = none ∧ homeIn? name inner = none ∧
        ∀ scope ∈ inner, scope.contains name = false) ∨
      ∃ above scope below, inner = above ++ scope :: below ∧ scope.contains name = true ∧
        homeIn? name inner = some (below.length + 1) ∧
        replaceIn name binding inner = some (above ++ scope.insert name binding :: below) := by
  induction inner with
  | nil => exact .inl ⟨rfl, rfl, by simp⟩
  | cons head tail ih =>
      by_cases present : head.contains name = true
      · right
        exact ⟨[], head, tail, rfl, present, by rw [homeIn?, if_pos present],
          by rw [replaceIn, if_pos present]; rfl⟩
      · rw [replaceIn, homeIn?, if_neg present, if_neg present]
        rcases ih with ⟨none, homeless, absent⟩ |
          ⟨above, scope, below, split, contained, atHome, replaced⟩
        · left
          refine ⟨by rw [none]; rfl, homeless, ?_⟩
          intro scope member
          rcases List.mem_cons.mp member with rfl | later
          · exact Bool.eq_false_iff.mpr present
          · exact absent scope later
        · right
          refine ⟨head :: above, scope, below, by rw [split]; rfl, contained, atHome, ?_⟩
          rw [replaced]
          rfl

/-- A name has no nearest scope if no scope has it. -/
theorem nearest?_eq_none
    {inner : List Scope}
    (absent : ∀ scope ∈ inner, scope.contains name = false) :
    nearest? name inner = none := by
  rw [nearest?, List.findSome?_eq_none_iff]
  intro scope member
  rw [OrderedMap.getHashed?_hash, ← Option.not_isSome_iff_eq_none, OrderedMap.isSome_get?,
    absent scope member]
  simp

theorem contains_global
    (absent : ∀ scope ∈ stack.inner, scope.contains name = false) :
    stack.contains name = stack.global.contains name := by
  rw [contains, binding?, nearest?_eq_none absent, Option.none_or, OrderedMap.isSome_get?]

/-- Replacing a binding changes the scope that has it. -/
theorem replace_rebinds
    (present : stack.contains name = true)
    (binding : Binding) :
    stack.Rebinds (stack.home name) name binding (stack.replace name binding) ∧
      stack.Binds (stack.home name) name := by
  unfold replace home
  rcases replaceIn_cases name binding stack.inner with ⟨none, homeless, absent⟩ |
    ⟨above, scope, below, split, contained, atHome, replaced⟩
  · rw [contains_global absent] at present
    rw [none, homeless, Option.getD_none, if_pos present]
    exact ⟨rebinds_global stack name binding,
      stack.global, scopeAt?_zero, OrderedMap.mem_keys_of_contains present⟩
  · rw [replaced, atHome, Option.getD_some]
    exact ⟨rebinds_inner split name binding,
      scope, scopeAt?_of_split split, OrderedMap.mem_keys_of_contains contained⟩

/-- An unbound name is at home in the innermost scope. -/
theorem home_of_absent (absent : ¬ stack.contains name = true) :
    stack.home name = stack.inner.length := by
  unfold home
  rcases replaceIn_cases name (.plain .void) stack.inner with ⟨-, homeless, nowhere⟩ |
    ⟨above, scope, below, split, contained, -, -⟩
  · rw [contains_global nowhere] at absent
    rw [homeless, Option.getD_none, if_neg absent]
  · refine absurd ?_ absent
    rw [contains, binding?, Option.isSome_or]
    have found : (nearest? name stack.inner).isSome = true := by
      rw [nearest?, List.findSome?_isSome_iff]
      refine ⟨scope, by rw [split]; simp, ?_⟩
      rw [OrderedMap.getHashed?_hash, OrderedMap.isSome_get?, contained]
    rw [found, Bool.true_or]

/-- An assignment writes to a cell, or it binds the name in its home; a name
without a binding is at home in the innermost scope. -/
theorem assign_cases
    {value : Value}
    (assigned : stack.assign name value = .ok after) :
    (∃ cells, after = { stack with cells }) ∨
      stack.Rebinds (stack.home name) name (.plain value) after ∧
        (stack.Binds (stack.home name) name ∨ stack.home name = stack.inner.length) := by
  unfold assign at assigned
  by_cases present : stack.contains name = true
  · rw [if_pos present] at assigned
    have rebound := replace_rebinds present (.plain value)
    have replaced (same : after = stack.replace name (.plain value)) :
        stack.Rebinds (stack.home name) name (.plain value) after ∧
          (stack.Binds (stack.home name) name ∨ stack.home name = stack.inner.length) := by
      rw [same]
      exact ⟨rebound.1, .inl rebound.2⟩
    cases binding : stack.binding? name with
    | none =>
        rw [contains, binding] at present
        cases present
    | some nearest =>
        rw [set?, binding] at assigned
        cases nearest with
        | linked tag cell =>
            left
            dsimp only at assigned
            cases converted : value.coerce tag with
            | error cast =>
                rw [converted] at assigned
                cases assigned
            | ok written =>
                rw [converted] at assigned
                cases assigned
                exact ⟨_, rfl⟩
        | plain old =>
            cases assigned
            exact .inr (replaced rfl)
        | function overloads =>
            cases assigned
            exact .inr (replaced rfl)
  · rw [if_neg present] at assigned
    cases assigned
    right
    rw [home_of_absent present]
    exact ⟨define_rebinds stack name value, .inr rfl⟩

/-! ## Global names -/

theorem defineFunction_rebinds (stack : ScopeStack) (signature : Signature) :
    ∃ binding, stack.Rebinds 0 signature.name binding (stack.defineFunction signature) :=
  ⟨_, rebinds_global stack signature.name _⟩

/-- Removing a name from a scope takes no other name out. -/
theorem mem_keys_removeFrom_or_eq
    (name : String)
    (member : bound ∈ scope.keys) :
    bound ∈ (removeFrom scope name).keys ∨ bound = name := by
  rw [removeFrom_eq]
  split
  · rw [OrderedMap.keys_compact]
    exact OrderedMap.mem_keys_erase_or_eq name member
  · exact OrderedMap.mem_keys_erase_or_eq name member

/-- Removing a name from a scope adds none. -/
theorem mem_keys_of_mem_keys_removeFrom
    (member : bound ∈ (removeFrom scope name).keys) :
    bound ∈ scope.keys := by
  rw [removeFrom_eq] at member
  split at member
  · rw [OrderedMap.keys_compact] at member
    exact OrderedMap.mem_keys_of_mem_keys_erase member
  · exact OrderedMap.mem_keys_of_mem_keys_erase member

/-- Unbinding a global name leaves the inner scopes as they are. -/
theorem scopeAt?_unbindGlobal
    (name : String)
    (inner : index ≠ 0) :
    (stack.unbindGlobal name).scopeAt? index = stack.scopeAt? index := by
  obtain ⟨position, rfl⟩ := Nat.exists_eq_succ_of_ne_zero inner
  rw [Nat.succ_eq_add_one, scopeAt?_succ, scopeAt?_succ]
  rfl

/-- Unbinding a global name binds none. -/
theorem binds_of_binds_unbindGlobal
    (now : (stack.unbindGlobal name).Binds index bound) :
    stack.Binds index bound := by
  obtain ⟨scope, found, member⟩ := now
  by_cases global : index = 0
  · subst global
    rw [scopeAt?_zero, Option.some.injEq] at found
    subst found
    exact ⟨stack.global, scopeAt?_zero, mem_keys_of_mem_keys_removeFrom member⟩
  · exact ⟨scope, by rw [← scopeAt?_unbindGlobal name global, found], member⟩

/-- Unbinding a global name unbinds no other. -/
theorem binds_unbindGlobal_or_eq
    (name : String)
    (before : stack.Binds index bound) :
    (stack.unbindGlobal name).Binds index bound ∨ index = 0 ∧ bound = name := by
  obtain ⟨scope, found, member⟩ := before
  by_cases global : index = 0
  · subst global
    rw [scopeAt?_zero, Option.some.injEq] at found
    subst found
    rcases mem_keys_removeFrom_or_eq name member with kept | removed
    · exact .inl ⟨_, scopeAt?_zero, kept⟩
    · exact .inr ⟨rfl, removed⟩
  · exact .inl ⟨scope, by rw [scopeAt?_unbindGlobal name global, found], member⟩

theorem depth_foldl_unbindGlobal (names : List String) (stack : ScopeStack) :
    (names.foldl unbindGlobal stack).depth = stack.depth := by
  induction names generalizing stack with
  | nil => rfl
  | cons name names ih => exact ih (stack.unbindGlobal name)

/-- Unbinding global names leaves the inner scopes as they are. -/
theorem scopeAt?_foldl_unbindGlobal
    (names : List String)
    (inner : index ≠ 0) :
    (names.foldl unbindGlobal stack).scopeAt? index = stack.scopeAt? index := by
  induction names generalizing stack with
  | nil => rfl
  | cons name names ih =>
      rw [List.foldl_cons, ih, scopeAt?_unbindGlobal name inner]

theorem binds_of_binds_foldl
    {names : List String}
    (now : (names.foldl unbindGlobal stack).Binds index bound) :
    stack.Binds index bound := by
  induction names generalizing stack with
  | nil => exact now
  | cons name names ih =>
      exact binds_of_binds_unbindGlobal (ih now)

theorem binds_foldl_or_mem
    (names : List String)
    (before : stack.Binds index bound) :
    (names.foldl unbindGlobal stack).Binds index bound ∨ index = 0 ∧ bound ∈ names := by
  induction names generalizing stack with
  | nil => exact .inl before
  | cons name names ih =>
      rcases binds_unbindGlobal_or_eq name before with kept | ⟨global, removed⟩
      · rcases ih kept with still | ⟨global, member⟩
        · exact .inl still
        · exact .inr ⟨global, List.mem_cons_of_mem name member⟩
      · exact .inr ⟨global, List.mem_cons.mpr (.inl removed)⟩

/-! ## Answers of the global scope -/

theorem coherent_removeFrom (coherent : scope.Coherent) (name : String) :
    (removeFrom scope name).Coherent := by
  rw [removeFrom_eq]
  split
  · exact (coherent.erase name).compact
  · exact coherent.erase name

/-- Removing a name changes the answer for that name alone. -/
theorem get?_removeFrom (coherent : scope.Coherent) (name other : String) :
    (removeFrom scope name).get? other = if other = name then none else scope.get? other := by
  rw [removeFrom_eq]
  split
  · rw [(coherent.erase name).get?_compact, coherent.get?_erase]
  · exact coherent.get?_erase name other

theorem coherent_foldl_unbindGlobal (coherent : stack.global.Coherent) (names : List String) :
    (names.foldl unbindGlobal stack).global.Coherent := by
  induction names generalizing stack with
  | nil => exact coherent
  | cons name names ih =>
      exact ih (coherent_removeFrom coherent name)

/-- Removing names touches the global scope alone. -/
theorem foldl_unbindGlobal_eq (names : List String) (stack : ScopeStack) :
    ∃ global, names.foldl unbindGlobal stack = { stack with global } := by
  induction names generalizing stack with
  | nil => exact ⟨stack.global, rfl⟩
  | cons name names ih => exact ih (stack.unbindGlobal name)

/-- Unbinding global names removes these and leaves what the others are bound
to. -/
theorem get?_foldl_unbindGlobal
    (coherent : stack.global.Coherent)
    (names : List String)
    (other : String) :
    (names.foldl unbindGlobal stack).global.get? other =
      if other ∈ names then none else stack.global.get? other := by
  induction names generalizing stack with
  | nil => simp
  | cons name names ih =>
      have first : (stack.unbindGlobal name).global.get? other =
          if other = name then none else stack.global.get? other :=
        get?_removeFrom coherent name other
      rw [List.foldl_cons, ih (coherent_removeFrom coherent name), first]
      by_cases same : other = name <;> simp [same]

/-- A write keeps the global scope coherent. -/
theorem Rebinds.coherent
    {binding : Binding}
    (rebinds : stack.Rebinds index name binding after)
    (coherent : stack.global.Coherent) :
    after.global.Coherent := by
  by_cases global : index = 0
  · subst global
    have written := rebinds.target stack.global scopeAt?_zero
    rw [scopeAt?_zero, Option.some.injEq] at written
    rw [written]
    exact coherent.insert name binding
  · have kept := rebinds.others 0 (Ne.symm global)
    rw [scopeAt?_zero, scopeAt?_zero, Option.some.injEq] at kept
    rw [kept]
    exact coherent

/-- A name that is found is bound in some scope. -/
theorem exists_binds_of_contains (visible : stack.contains name = true) :
    ∃ index, stack.Binds index name := by
  exact ⟨_, (replace_rebinds visible (.plain .void)).2⟩

end ScopeStack
end ScriptCore
