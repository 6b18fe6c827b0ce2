import ScriptCore.OrderedMap.Spread
import ScriptCore.Proofs.Engine.Handlers
import ScriptCore.Proofs.Scope.Reachable

/-!
# Assignment by name

An assignment goes to the nearest binding of a name. A variable or an overload
set there becomes a variable; a link stores the converted value in its cell,
unless the conversion fails. A name without a binding becomes a variable of the
innermost scope. Other names keep their values, except those linked to the cell
that was written.
-/

namespace ScriptCore

namespace Engine

variable {engine : Engine} {scopes after : ScopeStack} {name : String} {value : Value}

variable [KeyHash]

theorem assign_ok (assigned : scopes.assign name value = .ok after) :
    assign name value { engine with scopes } = (.ok (), { engine with scopes := after }) := by
  rw [assign, Run.get_bind, assigned]
  rfl

theorem assign_error {cast : CastError} (refused : scopes.assign name value = .error cast) :
    assign name value { engine with scopes } =
      (.error (.error { cause := .assignment name cast }), { engine with scopes }) := by
  rw [assign, Run.get_bind, refused]
  rfl

end Engine

namespace ScopeStack

variable {stack after : ScopeStack} {name other : String} {value stored : Value}
  {binding : Binding} {index : Nat}

/-! ## What an assignment does -/

section

variable [KeyHash]

/-- The nearest binding of a name is a link whose type the value cannot be
converted to. -/
def Refuses (stack : ScopeStack) (name : String) (value : Value) (cast : CastError) : Prop :=
  ∃ index tag cell, stack.Nearest index name (.linked tag cell) ∧ value.coerce tag = .error cast

/-- One scope binds a name. The rest of that scope, the other scopes and the
cells are as before. -/
structure ChangesOnly
    (stack : ScopeStack)
    (index : Nat)
    (name : String)
    (binding : Binding)
    (after : ScopeStack) : Prop where
  here : ∃ old new, stack.scopeAt? index = some old ∧ after.scopeAt? index = some new ∧
    new.keys = (if name ∈ old.keys then old.keys else old.keys ++ [name]) ∧
    ∀ other, new.get? other = if other = name then some binding else old.get? other
  others : ∀ other, other ≠ index → after.scopeAt? other = stack.scopeAt? other
  cells : after.cells = stack.cells

/-- What is stored where when a value is assigned to a name. -/
inductive Stores (stack : ScopeStack) (name : String) (value : Value) :
    Value → ScopeStack → Prop where
  | plain {index : Nat} {old : Binding} {after : ScopeStack}
      (nearest : stack.Nearest index name old)
      (unlinked : old.isLinked = false)
      (changes : stack.ChangesOnly index name (.plain value) after) :
      Stores stack name value value after
  | cell {index : Nat} {tag : Tag} {cell : Nat} {converted : Value}
      (nearest : stack.Nearest index name (.linked tag cell))
      (known : cell < stack.cells.size)
      (converts : value.coerce tag = .ok converted) :
      Stores stack name value converted
        { stack with cells := stack.cells.set cell converted known }
  | new {after : ScopeStack}
      (absent : ∀ index scope, stack.scopeAt? index = some scope → scope.get? name = none)
      (changes : stack.ChangesOnly (stack.depth - 1) name (.plain value) after) :
      Stores stack name value value after

/-- Two names stand for one cell. -/
def Share (stack : ScopeStack) (name other : String) : Prop :=
  ∃ index tag second tag' cell, stack.Nearest index name (.linked tag cell) ∧
    stack.Nearest second other (.linked tag' cell)

/-- What can be read after a value was stored under a name. -/
structure Reads
    (stack : ScopeStack)
    (name : String)
    (stored : Value)
    (after : ScopeStack) : Prop where
  depth : after.depth = stack.depth
  self : after.get? name = some stored
  shared : ∀ other, stack.Share name other → after.get? other = some stored
  others : ∀ other, other ≠ name → ¬ stack.Share name other → after.get? other = stack.get? other

/-! ## Writes to a scope -/

theorem Nearest.get?_eq (nearest : stack.Nearest index name binding) :
    stack.get? name = some (binding.value stack.cells) := by
  rw [get?, nearest.binding?_eq, Option.map_some]

namespace Rebinds

theorem changesOnly
    (rebinds : stack.Rebinds index name binding after)
    (coherent : stack.Coherent)
    (inside : index < stack.depth)
    (cells : after.cells = stack.cells) :
    stack.ChangesOnly index name binding after where
  here := by
    obtain ⟨old, found⟩ := exists_scopeAt? inside
    have before := coherent index old found
    refine ⟨old, _, found, rebinds.target old found, ?_, ?_⟩
    · simp only [OrderedMap.keys_insert, before.contains_iff]
    · exact fun other => before.get?_insert name other binding
  others := rebinds.others
  cells := cells

/-- A write to a scope makes no difference to other names. -/
theorem get?_other
    (rebinds : stack.Rebinds index name binding after)
    (coherent : stack.Coherent)
    (cells : after.cells = stack.cells)
    (different : other ≠ name) :
    after.get? other = stack.get? other := by
  rw [get?, get?, binding?_eq_answers, binding?_eq_answers,
    rebinds.answers_other coherent different, cells]

/-- A variable that replaces whatever is nearest, where that is no link. -/
theorem reads
    (rebinds : stack.Rebinds index name (.plain value) after)
    (coherent : stack.Coherent)
    (inside : index < stack.depth)
    (above : ∀ other scope, index < other → stack.scopeAt? other = some scope →
      scope.get? name = none)
    (cells : after.cells = stack.cells)
    (unlinked : ∀ tag cell, stack.binding? name ≠ some (.linked tag cell)) :
    stack.Reads name value after where
  depth := rebinds.depth
  self := (Nearest.of_rebinds rebinds coherent inside above).get?_eq
  shared := by
    rintro other ⟨_, tag, _, _, cell, nearest, -⟩
    exact absurd nearest.binding?_eq (unlinked tag cell)
  others _ different _ := rebinds.get?_other coherent cells different

end Rebinds

/-! ## Writes to a cell -/

/-- A written cell is read through every name that is linked to it. -/
theorem get?_setCell_shared
    {tag : Tag}
    {cell : Nat}
    (nearest : stack.Nearest index name (.linked tag cell))
    (known : cell < stack.cells.size)
    (stored : Value) :
    get? { stack with cells := stack.cells.set cell stored known } name = some stored := by
  have found := nearest.binding?_eq
  change (stack.binding? name).map (Binding.value (stack.cells.set cell stored known)) = _
  rw [found, Option.map_some, Binding.value, Array.getD_eq_getD_getElem?,
    Array.getElem?_set_self, Option.getD_some]

/-- A name that is not linked to a cell keeps its value when the cell is
written. -/
theorem get?_setCell_other
    {cell : Nat}
    (apart : ∀ tag, stack.binding? name ≠ some (.linked tag cell))
    (known : cell < stack.cells.size)
    (stored : Value) :
    get? { stack with cells := stack.cells.set cell stored known } name = stack.get? name := by
  change (stack.binding? name).map (Binding.value (stack.cells.set cell stored known)) =
    (stack.binding? name).map (Binding.value stack.cells)
  cases found : stack.binding? name with
  | none => rfl
  | some binding =>
      cases binding with
      | plain content => rfl
      | function overloads => rfl
      | linked tag number =>
          have different : cell ≠ number := by
            rintro rfl
            exact apart tag found
          rw [Option.map_some, Option.map_some, Binding.value, Binding.value,
            Array.getD_eq_getD_getElem?, Array.getD_eq_getD_getElem?,
            Array.getElem?_set_ne known different]

/-- All names linked to a cell read what is stored in it. -/
theorem reads_setCell
    {tag : Tag}
    {cell : Nat}
    (nearest : stack.Nearest index name (.linked tag cell))
    (known : cell < stack.cells.size)
    (stored : Value) :
    stack.Reads name stored { stack with cells := stack.cells.set cell stored known } where
  depth := rfl
  self := get?_setCell_shared nearest known stored
  shared := by
    rintro other ⟨_, _, _, _, number, same, linked⟩
    cases (nearest.unique same).2
    exact get?_setCell_shared linked known stored
  others other _ apart := by
    apply get?_setCell_other
    intro tag' found
    obtain ⟨second, linked⟩ := exists_nearest found
    exact apart ⟨_, _, _, _, _, nearest, linked⟩

/-! ## Assignment -/

/-- An assignment to an unbound name stores the value in the innermost scope. -/
theorem Sound.stores_new
    (sound : stack.Sound)
    (unbound : stack.binding? name = none)
    (value : Value) :
    ∃ after, stack.Stores name value value after ∧ stack.Reads name value after ∧
      stack.assign name value = .ok after := by
  have absent := binding?_eq_none_iff.mp unbound
  have innermost : stack.inner.length < stack.depth := Nat.lt_succ_self _
  have rebinds := stack.define_rebinds name value
  have cells := stack.cells_define name value
  refine ⟨stack.define name value, ?_, ?_, assign_unbound unbound value⟩
  · exact .new absent (rebinds.changesOnly sound.coherent innermost cells)
  · refine rebinds.reads sound.coherent innermost ?_ cells ?_
    · exact fun other scope _ there => absent other scope there
    · intro tag cell linked
      rw [unbound] at linked
      cases linked

/-- An assignment to a variable or a function stores the value where the name is
bound. -/
theorem Sound.stores_variable
    (sound : stack.Sound)
    {old : Binding}
    (found : stack.binding? name = some old)
    (unlinked : old.isLinked = false)
    (value : Value) :
    ∃ after, stack.Stores name value value after ∧ stack.Reads name value after ∧
      stack.assign name value = .ok after := by
  have nearest := nearest_home found
  have rebinds := (replace_rebinds (contains_of_binding? found) (.plain value)).1
  have cells := stack.cells_replace name (.plain value)
  refine ⟨stack.replace name (.plain value), ?_, ?_, assign_unlinked found unlinked value⟩
  · exact .plain nearest unlinked
      (rebinds.changesOnly sound.coherent nearest.lt_depth cells)
  · refine rebinds.reads sound.coherent nearest.lt_depth nearest.above cells ?_
    intro tag cell same
    rw [found, Option.some.injEq] at same
    rw [same] at unlinked
    cases unlinked

theorem assign_refused {cast : CastError} (refuses : stack.Refuses name value cast) :
    stack.assign name value = .error cast := by
  obtain ⟨index, tag, cell, nearest, fails⟩ := refuses
  rw [assign_linked nearest.binding?_eq, fails]
  rfl

/-- A value that no link refuses is stored. -/
theorem Sound.exists_stores
    (sound : stack.Sound)
    (accepted : ∀ cast, ¬ stack.Refuses name value cast) :
    ∃ stored after, stack.Stores name value stored after ∧ stack.Reads name stored after ∧
      stack.assign name value = .ok after := by
  cases found : stack.binding? name with
  | none => exact ⟨value, sound.stores_new found value⟩
  | some old =>
      cases old with
      | linked tag cell =>
          have nearest := nearest_home found
          have known : cell < stack.cells.size := sound.valid found
          cases converts : value.coerce tag with
          | error cast => exact absurd ⟨_, tag, cell, nearest, converts⟩ (accepted cast)
          | ok converted =>
              have written := assign_linked found value
              rw [converts, Except.map, Array.setIfInBounds, dif_pos known] at written
              exact ⟨converted, _, .cell nearest known converts,
                reads_setCell nearest known converted, written⟩
      | plain content => exact ⟨value, sound.stores_variable found rfl value⟩
      | function overloads => exact ⟨value, sound.stores_variable found rfl value⟩

/-- An assignment writes the nearest binding of a name and nothing else. A value
that a link refuses leaves the whole engine as it was; any other value is
stored, and it is read through the name and through every name of the same
cell. -/
theorem assign_writes_nearest_binding
    (stack : ScopeStack)
    (reachable : stack.Reachable)
    (name : String)
    (value : Value) :
    (∀ cast, stack.Refuses name value cast →
      stack.assign name value = .error cast ∧
      ∀ engine : Engine, Engine.assign name value { engine with scopes := stack } =
        (.error (.error { cause := .assignment name cast }), { engine with scopes := stack })) ∧
    ((∀ cast, ¬ stack.Refuses name value cast) →
      ∃ stored after, stack.Stores name value stored after ∧ stack.Reads name stored after ∧
        stack.assign name value = .ok after ∧
        ∀ engine : Engine, Engine.assign name value { engine with scopes := stack } =
          (.ok (), { engine with scopes := after })) ∧
    (stack.contains name = true →
      stack.set? name value = (stack.assign name value).map some) := by
  refine ⟨?_, ?_, fun present => set?_eq_map_assign present value⟩
  · intro cast refuses
    have refused := assign_refused refuses
    exact ⟨refused, fun engine => Engine.assign_error refused⟩
  · intro accepted
    obtain ⟨stored, after, stores, reads, assigned⟩ := reachable.sound.exists_stores accepted
    exact ⟨stored, after, stores, reads, assigned, fun engine => Engine.assign_ok assigned⟩

end

/-- Three names of one cell, and a scope that hides one of them. -/
def linkedNames : ScopeStack :=
  (((((withOrder 4).newCell (.int 0)).link "count" .int 0).link "sum" .int 0).link
    "total" .int 0).push.define "total" (.int 5)

theorem reachable_linkedNames : linkedNames.Reachable := by
  refine .define (.push ?_) _ _
  refine .link (.link (.link (.newCell (.new 4) _) _ _ _ ?_) _ _ _ ?_) _ _ _ ?_ <;> decide

/-- A cell that is written under one name is read under another; an array is
refused. -/
theorem assign_linkedNames :
    (∃ after, linkedNames.assign "count" (.bool true) = .ok after ∧
      after.get? "count" = some (.int 1) ∧ after.get? "sum" = some (.int 1) ∧
      after.get? "total" = some (.int 5)) ∧
    ∀ engine : Engine,
      Engine.assign "count" (.array .empty) { engine with scopes := linkedNames } =
        (.error (.error { cause := .assignment "count" ⟨.array, .int⟩ }),
          { engine with scopes := linkedNames }) := by
  have count : linkedNames.binding? "count" = some (.linked .int 0) := by cbv
  have sum : linkedNames.binding? "sum" = some (.linked .int 0) := by cbv
  have total : linkedNames.binding? "total" = some (.plain (.int 5)) := by cbv
  constructor
  · have accepted : ∀ cast, ¬ linkedNames.Refuses "count" (.bool true) cast := by
      rintro cast ⟨_, tag, cell, nearest, fails⟩
      cases count.symm.trans nearest.binding?_eq
      cases fails
    obtain ⟨stored, after, stores, reads, assigned, -⟩ :=
      (assign_writes_nearest_binding linkedNames reachable_linkedNames "count" (.bool true)).2.1
        accepted
    have converted : stored = .int 1 := by
      cases stores with
      | plain nearest unlinked =>
          cases count.symm.trans nearest.binding?_eq
          cases unlinked
      | cell nearest known converts =>
          cases count.symm.trans nearest.binding?_eq
          cases converts
          rfl
      | new absent =>
          cases count.symm.trans (binding?_eq_none_iff.mpr absent)
    subst converted
    refine ⟨after, assigned, reads.self, reads.shared "sum" ?_, ?_⟩
    · exact ⟨_, _, _, _, _, nearest_home count, nearest_home sum⟩
    · rw [reads.others "total" (by decide), (nearest_home total).get?_eq]
      · rfl
      · rintro ⟨_, _, _, _, _, -, linked⟩
        cases total.symm.trans linked.binding?_eq
  · intro engine
    have refuses : linkedNames.Refuses "count" (.array .empty) ⟨.array, .int⟩ :=
      ⟨_, .int, 0, nearest_home count, rfl⟩
    exact ((assign_writes_nearest_binding linkedNames reachable_linkedNames "count"
      (.array .empty)).1 _ refuses).2 engine

end ScopeStack
end ScriptCore
