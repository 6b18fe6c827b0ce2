import ScriptCore.Proofs.Scope.Answers

/-!
# Reachable stacks

A stack starts with the global scope alone. Scopes are opened and closed,
variables are defined and written, cells are linked to global names and written
by their host, and functions are registered and removed. Whatever the order,
every scope stays coherent, every link leads to a cell that exists, and no
overload set is empty.
-/

namespace ScriptCore

/-- A link leads to one of the cells, and an overload set has a signature. -/
def Binding.Valid (cells : Nat) : Binding → Prop
  | .plain _ => True
  | .linked _ cell => cell < cells
  | .function overloads => overloads.overloads ≠ []

/-- A binding stays valid when there are more cells. -/
theorem Binding.Valid.mono {binding : Binding} {cells more : Nat} (valid : binding.Valid cells)
    (grown : cells ≤ more) : binding.Valid more := by
  cases binding with
  | plain value => trivial
  | linked tag cell => exact Nat.lt_of_lt_of_le valid grown
  | function overloads => exact valid

variable [KeyHash]

/-- A coherent scope of valid bindings. -/
structure SoundScope (cells : Nat) (scope : Scope) : Prop where
  coherent : scope.Coherent
  valid : scope.All (Binding.Valid cells)

namespace SoundScope

variable {cells : Nat} {scope : Scope}

theorem withOrder (order : Nat) : SoundScope cells (.withOrder order) :=
  ⟨OrderedMap.coherent_withOrder order, OrderedMap.all_withOrder order⟩

/-- A valid binding keeps a scope sound. -/
theorem insert (sound : SoundScope cells scope) (name : String) {binding : Binding}
    (valid : binding.Valid cells) : SoundScope cells (scope.insert name binding) :=
  ⟨sound.coherent.insert name binding, sound.valid.insert name valid⟩

/-- Removing a name keeps a scope sound. -/
theorem removeFrom (sound : SoundScope cells scope) (name : String) :
    SoundScope cells (ScopeStack.removeFrom scope name) where
  coherent := ScopeStack.coherent_removeFrom sound.coherent name
  valid := by
    rw [ScopeStack.removeFrom_eq]
    split
    · exact (sound.valid.erase name).compact
    · exact sound.valid.erase name

theorem mono {more : Nat} (sound : SoundScope cells scope) (grown : cells ≤ more) :
    SoundScope more scope :=
  ⟨sound.coherent, fun binding member => (sound.valid binding member).mono grown⟩

end SoundScope

namespace ScopeStack

variable {stack after : ScopeStack} {name : String} {value : Value}

/-- The stacks that can be made. -/
inductive Reachable : ScopeStack → Prop where
  | new (order : Nat) : Reachable (withOrder order)
  | push {stack : ScopeStack} (before : Reachable stack) : Reachable stack.push
  | pop {stack after : ScopeStack} (before : Reachable stack) (popped : stack.pop? = some after) :
      Reachable after
  | truncate {stack : ScopeStack} (before : Reachable stack) (depth : Nat) :
      Reachable (stack.truncate depth)
  | define {stack : ScopeStack} (before : Reachable stack) (name : String) (value : Value) :
      Reachable (stack.define name value)
  | newCell {stack : ScopeStack} (before : Reachable stack) (value : Value) :
      Reachable (stack.newCell value)
  | writeCell {stack : ScopeStack} (before : Reachable stack) (cell : Nat) (value : Value) :
      Reachable { stack with cells := stack.cells.setIfInBounds cell value }
  | link {stack : ScopeStack} (before : Reachable stack) (name : String) (tag : Tag) (cell : Nat)
      (known : cell < stack.cells.size) :
      Reachable (stack.link name tag cell)
  | register {stack : ScopeStack} (before : Reachable stack) (signature : Signature) :
      Reachable (stack.defineFunction signature)
  | unbind {stack : ScopeStack} (before : Reachable stack) (name : String) :
      Reachable (stack.unbindGlobal name)
  | set {stack after : ScopeStack} (before : Reachable stack) {name : String} {value : Value}
      (written : stack.set? name value = .ok (some after)) :
      Reachable after
  | assign {stack after : ScopeStack} (before : Reachable stack) {name : String} {value : Value}
      (written : stack.assign name value = .ok after) :
      Reachable after

/-! ## Writes by name -/

/-- A definition touches no cell. -/
theorem cells_define (stack : ScopeStack) (name : String) (value : Value) :
    (stack.define name value).cells = stack.cells := by
  unfold define bind
  split <;> rfl

theorem cells_replace (stack : ScopeStack) (name : String) (binding : Binding) :
    (stack.replace name binding).cells = stack.cells := by
  unfold replace
  split <;> rfl

/-- Writing a linked name stores the converted value in its cell. -/
theorem set?_linked
    {tag : Tag}
    {cell : Nat}
    (found : stack.binding? name = some (.linked tag cell))
    (value : Value) :
    stack.set? name value = (value.coerce tag).map fun converted =>
      some { stack with cells := stack.cells.setIfInBounds cell converted } := by
  rw [set?, found]
  dsimp only
  cases value.coerce tag <;> rfl

/-- Writing a variable or a function replaces the nearest binding. -/
theorem set?_unlinked
    {old : Binding}
    (found : stack.binding? name = some old)
    (unlinked : old.isLinked = false)
    (value : Value) :
    stack.set? name value = .ok (some (stack.replace name (.plain value))) := by
  rw [set?, found]
  cases old with
  | linked tag cell => cases unlinked
  | plain content => rfl
  | function overloads => rfl

/-- A write by name finds no binding, stores a converted value in a cell, or
replaces a binding that is not linked. -/
theorem set?_cases
    {updated : Option ScopeStack}
    (written : stack.set? name value = .ok updated) :
    (stack.binding? name = none ∧ updated = none) ∨
      (∃ tag cell converted, stack.binding? name = some (.linked tag cell) ∧
        value.coerce tag = .ok converted ∧
        updated = some { stack with cells := stack.cells.setIfInBounds cell converted }) ∨
      ∃ old, stack.binding? name = some old ∧ old.isLinked = false ∧
        updated = some (stack.replace name (.plain value)) := by
  cases found : stack.binding? name with
  | none =>
      rw [set?, found] at written
      cases written
      exact .inl ⟨rfl, rfl⟩
  | some old =>
      right
      cases old with
      | linked tag cell =>
          rw [set?_linked found] at written
          left
          cases converted : value.coerce tag with
          | error cast =>
              rw [converted] at written
              cases written
          | ok result =>
              rw [converted] at written
              cases written
              exact ⟨tag, cell, result, rfl, converted, rfl⟩
      | plain content =>
          rw [set?_unlinked found rfl] at written
          cases written
          exact .inr ⟨_, rfl, rfl, rfl⟩
      | function overloads =>
          rw [set?_unlinked found rfl] at written
          cases written
          exact .inr ⟨_, rfl, rfl, rfl⟩

theorem contains_of_binding? {old : Binding} (found : stack.binding? name = some old) :
    stack.contains name = true := by
  rw [contains, found]
  rfl

/-- An assignment to a linked name converts the value and stores it in the cell,
or fails with the cast. -/
theorem assign_linked
    {tag : Tag}
    {cell : Nat}
    (found : stack.binding? name = some (.linked tag cell))
    (value : Value) :
    stack.assign name value = (value.coerce tag).map fun converted =>
      { stack with cells := stack.cells.setIfInBounds cell converted } := by
  rw [assign, if_pos (contains_of_binding? found), set?_linked found]
  cases value.coerce tag <;> rfl

/-- An assignment to a variable or a function replaces the nearest binding. -/
theorem assign_unlinked
    {old : Binding}
    (found : stack.binding? name = some old)
    (unlinked : old.isLinked = false)
    (value : Value) :
    stack.assign name value = .ok (stack.replace name (.plain value)) := by
  rw [assign, if_pos (contains_of_binding? found), set?_unlinked found unlinked]
  rfl

/-- An assignment to an unbound name defines it in the innermost scope. -/
theorem assign_unbound (absent : stack.binding? name = none) (value : Value) :
    stack.assign name value = .ok (stack.define name value) := by
  have unbound : stack.contains name = false := by
    rw [contains, absent]
    rfl
  rw [assign, unbound]
  rfl

/-- A bound name is always written. -/
theorem set?_eq_map_assign (present : stack.contains name = true) (value : Value) :
    stack.set? name value = (stack.assign name value).map some := by
  obtain ⟨old, found⟩ := Option.isSome_iff_exists.mp present
  cases old with
  | linked tag cell =>
      rw [set?_linked found, assign_linked found]
      cases value.coerce tag <;> rfl
  | plain content =>
      rw [set?_unlinked found rfl, assign_unlinked found rfl]
      rfl
  | function overloads =>
      rw [set?_unlinked found rfl, assign_unlinked found rfl]
      rfl

/-! ## Soundness -/

/-- Coherent scopes whose bindings are valid. -/
def Sound (stack : ScopeStack) : Prop :=
  stack.Everywhere (SoundScope stack.cells.size)

namespace Sound

/-- The scopes of a sound stack are coherent. -/
theorem coherent (sound : stack.Sound) : stack.Coherent :=
  fun index scope found => (sound index scope found).coherent

theorem valid {binding : Binding} (sound : stack.Sound)
    (found : stack.binding? name = some binding) : binding.Valid stack.cells.size := by
  obtain ⟨index, nearest⟩ := exists_nearest found
  obtain ⟨scope, there, bound⟩ := nearest.here
  exact (sound index scope there).valid.get? bound

/-- A change to a valid binding keeps a stack sound. -/
theorem rebinds
    {index : Nat}
    {binding : Binding}
    (sound : stack.Sound)
    (rebinds : stack.Rebinds index name binding after)
    (cells : after.cells = stack.cells)
    (valid : binding.Valid stack.cells.size) :
    after.Sound := by
  unfold Sound
  rw [cells]
  exact Everywhere.rebinds sound rebinds fun _ inside => inside.insert name valid

theorem setCell (sound : stack.Sound) (cell : Nat) (value : Value) :
    Sound { stack with cells := stack.cells.setIfInBounds cell value } := by
  unfold Sound
  rw [Array.size_setIfInBounds]
  exact sound

theorem newCell (sound : stack.Sound) (value : Value) : (stack.newCell value).Sound := by
  intro index scope found
  refine (sound index scope found).mono ?_
  rw [ScopeStack.newCell, Array.size_push]
  exact Nat.le_succ _

theorem define (sound : stack.Sound) (name : String) (value : Value) :
    (stack.define name value).Sound :=
  sound.rebinds (stack.define_rebinds name value) (stack.cells_define name value) trivial

/-- A registered function has at least the signature that was registered. -/
theorem defineFunction (sound : stack.Sound) (signature : Signature) :
    (stack.defineFunction signature).Sound := by
  refine sound.rebinds (rebinds_global stack signature.name _) rfl ?_
  split
  · exact List.append_ne_nil_of_right_ne_nil _ (List.cons_ne_nil _ _)
  · exact List.cons_ne_nil _ _

theorem set?
    (sound : stack.Sound)
    (written : stack.set? name value = .ok (some after)) :
    after.Sound := by
  rcases set?_cases written with ⟨-, none⟩ | ⟨_, cell, converted, -, -, updated⟩ |
    ⟨old, found, -, updated⟩
  · cases none
  · cases updated
    exact sound.setCell cell converted
  · cases updated
    exact sound.rebinds (replace_rebinds (contains_of_binding? found) (.plain value)).1
      (stack.cells_replace name _) trivial

end Sound

/-- Every stack that the operations lead to is sound. -/
theorem Reachable.sound (reachable : stack.Reachable) : stack.Sound := by
  induction reachable with
  | new order => exact everywhere_withOrder (.withOrder order)
  | push _ sound => exact Everywhere.push sound (.withOrder _)
  | pop _ popped sound =>
      obtain ⟨scope, rebuilt⟩ := pop?_eq_some popped
      have lower := Everywhere.pop? sound popped
      rw [rebuilt] at lower
      exact lower
  | truncate _ depth sound => exact Everywhere.truncate sound depth
  | define _ name value sound => exact sound.define name value
  | newCell _ value sound => exact sound.newCell value
  | writeCell _ cell value sound => exact sound.setCell cell value
  | @link stack _ name tag cell known sound =>
      exact sound.rebinds (rebinds_global stack name (.linked tag cell)) rfl known
  | register _ signature sound => exact sound.defineFunction signature
  | unbind _ name sound =>
      exact Everywhere.unbindGlobal sound fun _ inside => inside.removeFrom name
  | set _ written sound => exact sound.set? written
  | @assign stack _ _ name value written sound =>
      cases present : stack.contains name with
      | true => exact sound.set? (by rw [set?_eq_map_assign present, written]; rfl)
      | false =>
          rw [contains, Option.isSome_eq_false_iff, Option.isNone_iff_eq_none] at present
          rw [assign_unbound present, Except.ok.injEq] at written
          exact written ▸ sound.define name value

end ScopeStack
end ScriptCore
