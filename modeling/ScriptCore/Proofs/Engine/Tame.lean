import ScriptCore.Engine.Dispatch
import ScriptCore.Proofs.Value.Tame

/-!
# Tame engines

An engine is tame if every signature that it can reach is: through its scopes
and cells, its classes, the payload of its last exception and the arguments of
the native that runs. Whatever tame values are written to a tame engine, it
stays tame.

The engine inside a call also has a depth of calls and a cap on it. Nothing but
opening and closing a frame changes the former, and nothing changes the latter.
-/

namespace ScriptCore

/-! ## Scopes -/

/-- A binding through which only tame signatures can be reached. The content of
a cell is not part of a binding. -/
def Binding.Tame : Binding → Prop
  | .plain value => value.Tame
  | .linked _ _ => True
  | .function overloads => overloads.Tame

/-- A stack whose bindings and cells are tame. -/
structure ScopeStack.Tame (stack : ScopeStack) : Prop where
  global : stack.global.All Binding.Tame
  inner : ∀ scope ∈ stack.inner, scope.All Binding.Tame
  cells : ∀ value ∈ stack.cells, value.Tame

namespace ScopeStack

variable {stack : ScopeStack} {name : String}

/-- A new stack is tame. -/
theorem tame_withOrder (order : Nat) : (withOrder order).Tame where
  global := OrderedMap.all_withOrder order
  inner := fun _ member => nomatch member
  cells := by simp [withOrder]

namespace Tame

/-! ### Reading -/

theorem cell (tame : stack.Tame) (cell : Nat) : (stack.cells.getD cell .void).Tame := by
  rw [Array.getD_eq_getD_getElem?]
  exact Value.tame_getD fun value found => tame.cells value (Array.mem_of_getElem? found)

theorem value {binding : Binding} (tame : stack.Tame) (holds : binding.Tame) :
    (binding.value stack.cells).Tame := by
  cases binding with
  | plain value => exact holds
  | linked tag cell => exact tame.cell cell
  | function overloads => exact holds

theorem scopeAt? {index : Nat} {scope : Scope} (tame : stack.Tame)
    (there : stack.scopeAt? index = some scope) : scope.All Binding.Tame := by
  have member := List.mem_of_getElem? there
  rw [List.mem_reverse, ScopeStack.scopes, List.mem_append, List.mem_singleton] at member
  rcases member with inner | rfl
  · exact tame.inner scope inner
  · exact tame.global

variable [KeyHash]

theorem binding? {binding : Binding} (tame : stack.Tame)
    (found : stack.binding? name = some binding) : binding.Tame := by
  rcases Option.or_eq_some_iff.mp found with nearest | ⟨-, global⟩
  · obtain ⟨scope, inner, there⟩ := List.exists_of_findSome?_eq_some nearest
    exact (tame.inner scope inner).getHashed? there
  · exact tame.global.get? global

/-- A name of a tame stack has a tame value. -/
theorem get? {value : Value} (tame : stack.Tame) (found : stack.get? name = some value) :
    value.Tame := by
  obtain ⟨binding, bound, rfl⟩ := Option.map_eq_some_iff.mp found
  exact tame.value (tame.binding? bound)

theorem lookupFunction? {function : Function} (tame : stack.Tame)
    (found : stack.lookupFunction? name = some function) : function.Tame := by
  obtain ⟨binding, bound, callable⟩ := Option.bind_eq_some_iff.mp found
  have holds := tame.binding? bound
  cases binding with
  | plain value =>
      cases value <;> cases callable
      exact holds
  | linked tag cell => cases callable
  | function overloads =>
      cases callable
      exact holds

/-! ### Writing -/

omit [KeyHash] in
theorem push (tame : stack.Tame) : stack.push.Tame where
  global := tame.global
  inner := List.forall_mem_cons.mpr ⟨OrderedMap.all_withOrder _, tame.inner⟩
  cells := tame.cells

omit [KeyHash] in
theorem pop? {rest : ScopeStack} (tame : stack.Tame) (popped : stack.pop? = some rest) :
    rest.Tame := by
  unfold ScopeStack.pop? at popped
  split at popped
  · cases popped
  · next scope inner opened =>
    cases popped
    have inside := tame.inner
    rw [opened, List.forall_mem_cons] at inside
    exact ⟨tame.global, inside.2, tame.cells⟩

omit [KeyHash] in
theorem truncate (tame : stack.Tame) (depth : Nat) : (stack.truncate depth).Tame where
  global := tame.global
  inner := fun scope member => tame.inner scope (List.mem_of_mem_drop member)
  cells := tame.cells

omit [KeyHash] in
theorem withGlobal (tame : stack.Tame) {scope : Scope} (all : scope.All Binding.Tame) :
    { stack with global := scope }.Tame :=
  ⟨all, tame.inner, tame.cells⟩

omit [KeyHash] in
theorem withCells (tame : stack.Tame) {cells : Array Value} (all : ∀ value ∈ cells, value.Tame) :
    { stack with cells }.Tame :=
  ⟨tame.global, tame.inner, all⟩

omit [KeyHash] in
theorem setCell (tame : stack.Tame) (cell : Nat) {value : Value} (holds : value.Tame) :
    { stack with cells := stack.cells.setIfInBounds cell value }.Tame := by
  apply tame.withCells
  intro other member
  rcases Array.mem_or_eq_of_mem_setIfInBounds member with before | rfl
  · exact tame.cells other before
  · exact holds

omit [KeyHash] in
theorem newCell (tame : stack.Tame) {value : Value} (holds : value.Tame) :
    (stack.newCell value).Tame := by
  apply tame.withCells
  intro other member
  rcases Array.mem_push.mp member with before | rfl
  · exact tame.cells other before
  · exact holds

/-- A definition of a tame value keeps a stack tame. -/
theorem define (tame : stack.Tame) (name : String) {value : Value} (holds : value.Tame) :
    (stack.define name value).Tame := by
  have plain : (Binding.plain value).Tame := holds
  unfold ScopeStack.define ScopeStack.bind
  split
  · exact tame.withGlobal (tame.global.insert name plain)
  · next scope inner opened =>
    have inside := tame.inner
    rw [opened, List.forall_mem_cons] at inside
    exact ⟨tame.global, List.forall_mem_cons.mpr ⟨inside.1.insert name plain, inside.2⟩,
      tame.cells⟩

theorem replaceIn
    {binding : Binding}
    {scopes replaced : List Scope}
    (tame : ∀ scope ∈ scopes, scope.All Binding.Tame)
    (holds : binding.Tame)
    (found : replaceIn name binding scopes = some replaced) :
    ∀ scope ∈ replaced, scope.All Binding.Tame := by
  induction scopes generalizing replaced with
  | nil => cases found
  | cons scope scopes ih =>
      rw [List.forall_mem_cons] at tame
      unfold ScopeStack.replaceIn at found
      split at found
      · cases found
        exact List.forall_mem_cons.mpr ⟨tame.1.insert name holds, tame.2⟩
      · obtain ⟨rest, later, rfl⟩ := Option.map_eq_some_iff.mp found
        exact List.forall_mem_cons.mpr ⟨tame.1, ih tame.2 later⟩

theorem replace (tame : stack.Tame) {binding : Binding} (holds : binding.Tame) :
    (stack.replace name binding).Tame := by
  unfold ScopeStack.replace
  split
  · next found => exact ⟨tame.global, replaceIn tame.inner holds found, tame.cells⟩
  · exact tame.withGlobal (tame.global.insert name holds)

theorem set?
    {value : Value}
    {updated : Option ScopeStack}
    (tame : stack.Tame)
    (holds : value.Tame)
    (done : stack.set? name value = .ok updated) :
    (updated.getD stack).Tame := by
  unfold ScopeStack.set? at done
  split at done
  · cases done
    exact tame
  · next tag cell bound =>
    cases coerced : value.coerce tag with
    | error cast =>
        rw [coerced] at done
        cases done
    | ok converted =>
        rw [coerced] at done
        cases done
        exact tame.setCell cell (holds.coerce coerced)
  · cases done
    exact tame.replace holds

/-- Assigning a tame value keeps a stack tame. -/
theorem assign
    {value : Value}
    {after : ScopeStack}
    (tame : stack.Tame)
    (holds : value.Tame)
    (done : stack.assign name value = .ok after) :
    after.Tame := by
  unfold ScopeStack.assign at done
  split at done
  · cases updated : stack.set? name value with
    | error cast =>
        rw [updated] at done
        cases done
    | ok changed =>
        rw [updated] at done
        cases done
        exact tame.set? holds updated
  · cases done
    exact tame.define name holds

/-- A tame overload keeps a stack tame. -/
theorem defineFunction (tame : stack.Tame) {signature : Signature} (holds : signature.Tame) :
    (stack.defineFunction signature).Tame := by
  apply tame.withGlobal
  apply tame.global.insert
  split
  · next overloads found =>
    have before : overloads.Tame := tame.global.get? found
    exact before.push holds
  · exact Function.tame_ofSignature holds

theorem unbindGlobal (tame : stack.Tame) (name : String) : (stack.unbindGlobal name).Tame := by
  suffices all : (ScopeStack.removeFrom stack.global name).All Binding.Tame from
    tame.withGlobal all
  rw [ScopeStack.removeFrom_eq]
  split
  · exact (tame.global.erase name).compact
  · exact tame.global.erase name

end Tame
end ScopeStack

/-! ## Engines -/

namespace Engine

/-- An engine that reaches tame signatures only. -/
structure Tame (engine : Engine) : Prop where
  scopes : engine.scopes.Tame
  classes : ∀ entry ∈ engine.classes, entry.2.Tame
  exception : ∀ payload ∈ engine.exception.payload?, payload.Tame
  slots : ∀ value ∈ engine.slots, value.Tame

/-- A new engine is tame. -/
theorem tame_new (settings : Settings) (host : Host) : (Engine.new settings host).Tame where
  scopes := ScopeStack.tame_withOrder _
  classes := fun _ member => nomatch member
  exception := fun _ member => nomatch member
  slots := fun _ member => nomatch member

/-- A tame engine with the given depth of calls and the given cap on it. -/
structure Within (depth cap : Nat) (engine : Engine) : Prop where
  tame : engine.Tame
  callDepth : engine.callDepth = depth
  maxCallDepth : engine.maxCallDepth = cap

namespace Within

variable {depth cap : Nat} {engine : Engine}

/-- An edit of the parts of an engine that hold no signatures. -/
theorem of_same
    {after : Engine}
    (within : Within depth cap engine)
    (same : after = { engine with
      modules := after.modules
      loading := after.loading
      hasEvaluator := after.hasEvaluator
      safeMode := after.safeMode
      reports := after.reports
      nextSignature := after.nextSignature
      host := after.host }) :
    Within depth cap after := by
  rw [same]
  exact ⟨⟨within.tame.scopes, within.tame.classes, within.tame.exception, within.tame.slots⟩,
    within.callDepth, within.maxCallDepth⟩

theorem report (within : Within depth cap engine) (message : String) :
    Within depth cap (engine.report message) := by
  unfold Engine.report
  generalize pushReport engine.reports message = reports
  exact within.of_same rfl

theorem withScopes (within : Within depth cap engine) {scopes : ScopeStack} (tame : scopes.Tame) :
    Within depth cap { engine with scopes } :=
  ⟨⟨tame, within.tame.classes, within.tame.exception, within.tame.slots⟩,
    within.callDepth, within.maxCallDepth⟩

theorem withClasses
    (within : Within depth cap engine)
    {classes : List (String × Class)}
    (tame : ∀ entry ∈ classes, entry.2.Tame) :
    Within depth cap { engine with classes } :=
  ⟨⟨within.tame.scopes, tame, within.tame.exception, within.tame.slots⟩,
    within.callDepth, within.maxCallDepth⟩

theorem withException
    (within : Within depth cap engine)
    {exception : ExceptionState}
    (tame : ∀ payload ∈ exception.payload?, payload.Tame) :
    Within depth cap { engine with exception } :=
  ⟨⟨within.tame.scopes, within.tame.classes, tame, within.tame.slots⟩,
    within.callDepth, within.maxCallDepth⟩

theorem withSlots
    (within : Within depth cap engine)
    {slots : List Value}
    (tame : ∀ value ∈ slots, value.Tame) :
    Within depth cap { engine with slots } :=
  ⟨⟨within.tame.scopes, within.tame.classes, within.tame.exception, tame⟩,
    within.callDepth, within.maxCallDepth⟩

/-- Closing the frames above a recorded depth. -/
theorem restore {inner : Nat} (within : Within inner cap engine) (scopeDepth callDepth : Nat) :
    Within callDepth cap (engine.restore scopeDepth callDepth) :=
  ⟨⟨within.tame.scopes.truncate scopeDepth, within.tame.classes, within.tame.exception,
    within.tame.slots⟩, rfl, within.maxCallDepth⟩

theorem push (within : Within depth cap engine) :
    Within depth cap (engine.mapScopes ScopeStack.push) :=
  within.withScopes within.tame.scopes.push

/-- One more call is one level deeper under the same cap. -/
theorem deepen (within : Within depth cap engine) : Within (depth + 1) cap engine.deepen :=
  ⟨⟨within.tame.scopes, within.tame.classes, within.tame.exception, within.tame.slots⟩,
    congrArg Nat.succ within.callDepth, within.maxCallDepth⟩

/-- An error that nobody handled leaves the engine at rest. -/
theorem settle
    (within : Within depth cap engine)
    (error : ScriptError)
    (tame : ∀ payload ∈ error.payload?, payload.Tame) :
    Within 0 cap (engine.settle error) := by
  unfold Engine.settle
  cases raised : error.payload? with
  | none => exact (within.restore 1 0).report _
  | some payload =>
      refine ((within.restore 1 0).report _).withException ?_
      intro other member
      cases member
      exact tame payload raised

/-! ### Reading -/

theorem slotAt (within : Within depth cap engine) (index : Nat) : (engine.slotAt index).Tame := by
  unfold Engine.slotAt
  rw [List.getD_eq_getElem?_getD]
  exact Value.tame_getD fun value found => within.tame.slots value (List.mem_of_getElem? found)

/-- A class of a tame engine is tame. -/
theorem class? {name : String} {cls : Class} (within : Within depth cap engine)
    (found : engine.class? name = some cls) : cls.Tame := by
  obtain ⟨before, after, split, -⟩ := List.lookup_eq_some_iff.mp found
  exact within.tame.classes (name, cls) (by simp [split])

variable [KeyHash]

/-- A variable in a frame of a tame engine has a tame value. -/
theorem bindingAt? {index : Nat} {name : String} {value : Value} (within : Within depth cap engine)
    (found : engine.bindingAt? index name = some value) : value.Tame := by
  obtain ⟨binding, bound, rfl⟩ := Option.map_eq_some_iff.mp found
  obtain ⟨scope, there, inside⟩ := Option.bind_eq_some_iff.mp bound
  exact within.tame.scopes.value ((within.tame.scopes.scopeAt? there).get? inside)

/-! ### Registration -/

omit [KeyHash] in
theorem setSlot (within : Within depth cap engine) (index : Nat) {value : Value}
    (tame : value.Tame) : Within depth cap (engine.setSlot index value) := by
  apply within.withSlots
  intro other member
  rcases List.mem_or_eq_of_mem_set member with before | rfl
  · exact within.tame.slots other before
  · exact tame

theorem registerSignature (within : Within depth cap engine) {signature : Signature}
    (tame : signature.Tame) : Within depth cap (engine.registerSignature signature) := by
  have noted : Within depth cap (engine.noteGlobal signature.name) := within.of_same rfl
  exact noted.withScopes (within.tame.scopes.defineFunction tame)

theorem registerVariable (within : Within depth cap engine) (name : String) (tag : Tag)
    (cell : Nat) : Within depth cap (engine.registerVariable name tag cell) := by
  have noted : Within depth cap (engine.noteGlobal name) := within.of_same rfl
  have linked : (Binding.linked tag cell).Tame := trivial
  exact noted.withScopes (within.tame.scopes.withGlobal
    (within.tame.scopes.global.insert name linked))

omit [KeyHash] in
theorem newCell (within : Within depth cap engine) (name : String) {value : Value}
    (tame : value.Tame) : Within depth cap (engine.newCell name value) := by
  have made : Within depth cap { engine with scopes := engine.scopes.newCell value } :=
    within.withScopes (within.tame.scopes.newCell tame)
  exact made.of_same rfl

omit [KeyHash] in
theorem removeClass (within : Within depth cap engine) (name : String) :
    Within depth cap (engine.removeClass name) :=
  within.withClasses fun entry member => within.tame.classes entry (List.mem_of_mem_filter member)

omit [KeyHash] in
theorem registerClass (within : Within depth cap engine) {cls : Class} (tame : cls.Tame) :
    Within depth cap (engine.registerClass cls) := by
  have noted : Within depth cap (engine.noteClass cls.name) := within.of_same rfl
  have cleared := noted.removeClass cls.name
  exact cleared.withClasses (List.forall_mem_cons.mpr ⟨tame, cleared.tame.classes⟩)

theorem unbindGlobal (within : Within depth cap engine) (name : String) :
    Within depth cap (engine.mapScopes fun scopes => scopes.unbindGlobal name) :=
  within.withScopes (within.tame.scopes.unbindGlobal name)

/-- Removing the names of a module stays within the depth and the cap. -/
theorem removeNames (within : Within depth cap engine) (names : ModuleNames) :
    Within depth cap (engine.removeNames names) := by
  unfold Engine.removeNames
  refine List.foldlRecOn names.classes _ ?_ fun _ rest name _ => rest.removeClass name
  exact List.foldlRecOn names.globals _ within fun _ rest name _ => rest.unbindGlobal name

/-- Defining tame arguments stays within the depth and the cap. -/
theorem bindParams (within : Within depth cap engine) (params : List String) {args : List Value}
    (tame : ∀ arg ∈ args, arg.Tame) :
    Within depth cap (engine.mapScopes fun scopes => bindParams scopes params args) := by
  suffices bound : ∀ scopes : ScopeStack, scopes.Tame →
      (Engine.bindParams scopes params args).Tame from
    within.withScopes (bound _ within.tame.scopes)
  induction params generalizing args with
  | nil =>
      intro scopes scopesTame
      cases args with
      | nil => exact scopesTame
      | cons arg args => exact scopesTame.define surplusName (Value.tame_ofList.mpr tame)
  | cons name params ih =>
      intro scopes scopesTame
      cases args with
      | nil => exact ih tame _ (scopesTame.define name Value.tame_void)
      | cons arg args =>
          rw [List.forall_mem_cons] at tame
          exact ih tame.2 _ (scopesTame.define name tame.1)

end Within
end Engine
end ScriptCore
