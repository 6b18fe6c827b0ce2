import ScriptCore.Proofs.Engine.Frames

/-!
# Variables of a frame

A variable of an inner scope is written in that scope only. As long as the scope
is not closed, the variable has the value it started with or one that was
written to it there, whatever scopes are opened above, whatever they call by the
same name, and however deep the calls nest that are made meanwhile.

The argument takes any set of allowed values. A body guards a variable if its
rights let it neither close the scope nor write any other value there.
-/

namespace ScriptCore

variable [KeyHash]

/-- A variable of a scope has an allowed value. -/
def Carries (allowed : Value → Prop) (frame : Nat) (name : String) (stack : ScopeStack) : Prop :=
  ∃ scope, stack.scopeAt? frame = some scope ∧ scope.Coherent ∧
    ∃ value : Value, scope.get? name = some (.plain value) ∧ allowed value

/-- Rights that neither close a scope nor write a value that is not allowed to
one of its variables. -/
structure Rights.Guards
    (rights : Rights)
    (allowed : Value → Prop)
    (frame : Nat)
    (name : String) : Prop where
  final : rights.resets = false
  leaves : ∀ engine : Engine, rights.leaves engine = true → frame + 1 < engine.depth
  defines : ∀ (engine : Engine) value, rights.defines engine name value = true →
    engine.depth = frame + 1 → allowed value
  assigns : ∀ (engine : Engine) value, rights.assigns engine name value = true →
    engine.scopes.home name = frame → allowed value

namespace Carries

variable {allowed : Value → Prop} {frame : Nat} {name : String} {before after : ScopeStack}

theorem lt_depth (carries : Carries allowed frame name before) : frame < before.depth := by
  obtain ⟨scope, found, -⟩ := carries
  exact ScopeStack.lt_depth_of_scopeAt? found

theorem of_same
    (carries : Carries allowed frame name before)
    (same : after.scopeAt? frame = before.scopeAt? frame) :
    Carries allowed frame name after := by
  unfold Carries
  rw [same]
  exact carries

/-- A write of a variable, which is not this one or has an allowed value. -/
theorem of_rebinds
    {index : Nat}
    {other : String}
    {value : Value}
    (carries : Carries allowed frame name before)
    (rebinds : before.Rebinds index other (.plain value) after)
    (written : index = frame → other = name → allowed value) :
    Carries allowed frame name after := by
  by_cases here : frame = index
  · subst here
    obtain ⟨scope, found, coherent, old, stored, fits⟩ := carries
    refine ⟨_, rebinds.target scope found, coherent.insert other (.plain value), ?_⟩
    by_cases same : name = other
    · exact ⟨value, by rw [coherent.get?_insert, if_pos same], written rfl same.symm⟩
    · exact ⟨old, by rw [coherent.get?_insert, if_neg same, stored], fits⟩
  · exact carries.of_same (rebinds.others frame here)

/-- A change within guarding rights, where the scope is not the global one. -/
theorem of_change
    {rights : Rights}
    {engine : Engine}
    (guards : rights.Guards allowed frame name)
    (inner : frame ≠ 0)
    (carries : Carries allowed frame name engine.scopes)
    (change : Engine.ScopeChange rights engine after) :
    Carries allowed frame name after := by
  cases change with
  | cells cells => exact carries
  | push => exact carries.of_same (ScopeStack.scopeAt?_push carries.lt_depth)
  | pop _ may popped =>
      have above := guards.leaves engine may
      have shrunk := ScopeStack.depth_of_pop? popped
      change engine.depth = after.depth + 1 at shrunk
      exact carries.of_same (ScopeStack.scopeAt?_of_pop? popped (by omega))
  | define other value may =>
      refine carries.of_rebinds (engine.scopes.define_rebinds other value) ?_
      rintro here rfl
      exact guards.defines engine value may (congrArg Nat.succ here)
  | assign other value _ may rebinds place =>
      refine carries.of_rebinds rebinds ?_
      rintro here rfl
      exact guards.assigns engine value may here
  | register other binding _ may rebinds => exact carries.of_same (rebinds.others frame inner)
  | remove names may =>
      exact carries.of_same (ScopeStack.scopeAt?_foldl_unbindGlobal names inner)

theorem restore
    {before after : Engine}
    (inside : frame < before.depth)
    (carries : Carries allowed frame name after.scopes) :
    Carries allowed frame name (after.restore before.depth before.callDepth).scopes := by
  apply carries.of_same
  apply ScopeStack.scopeAt?_truncate
  omega

end Carries

namespace Engine

/-- A variable with an allowed value keeps one. -/
def KeepsAllowed
    (allowed : Value → Prop)
    (frame : Nat)
    (name : String)
    (before after : Engine) : Prop :=
  Carries allowed frame name before.scopes → Carries allowed frame name after.scopes

variable {allowed : Value → Prop} {frame : Nat} {name : String}

/-- A body keeps the variables that it guards, provided that the calls it makes
do. -/
theorem kept_allowed
    {dispatch : Dispatcher}
    {rights : Rights}
    (guards : rights.Guards allowed frame name)
    (inner : frame ≠ 0)
    (calls : ∀ call, Respects (KeepsAllowed allowed frame name) (dispatch call)) :
    Kept dispatch rights (KeepsAllowed allowed frame name) := by
  apply Kept.of_changes
  · exact guards.final
  · exact fun first second carries => second (first carries)
  · exact calls
  · exact fun _ change carries => carries.of_change guards inner change
  · intro engine after keeps carries
    have pushed : Carries allowed frame name engine.scopes.push :=
      carries.of_same (ScopeStack.scopeAt?_push carries.lt_depth)
    exact (keeps pushed).restore carries.lt_depth
  · intro engine after keeps carries
    exact (keeps carries).restore carries.lt_depth

/-- A variable of a frame that is opened later is no variable of this scope. -/
theorem admits_allowed {depth : Nat} (inside : frame < depth) :
    Admits (KeepsAllowed allowed frame name) (depth + 1) := by
  intro engine inFrame other value carries
  have length : engine.scopes.inner.length = depth := Nat.succ.inj inFrame
  exact carries.of_same ((engine.scopes.define_rebinds other value).others frame (by omega))

/-- Calls that guard a variable of an inner scope keep it, to any depth of
nesting. -/
theorem dispatch_keeps_allowed
    {policy : Policy}
    (guards : ∀ depth, frame < depth → (policy depth).Guards allowed frame name)
    (inner : frame ≠ 0)
    (frames : Nat)
    (call : Call) :
    Respects (KeepsAllowed allowed frame name) (policy.dispatch frames call) := by
  refine Policy.dispatch_respects (fun _ carries => carries) ?_ frames call
  intro dispatch calls call engine carries
  have inside : frame < engine.depth := carries.lt_depth
  have kept : Kept dispatch (policy engine.opened.depth) (KeepsAllowed allowed frame name) :=
    kept_allowed (guards _ (Nat.lt_succ_of_lt inside)) inner calls
  have opened : Carries allowed frame name engine.opened.scopes :=
    carries.of_same (ScopeStack.scopeAt?_push inside)
  exact (kept.invoke (admits_allowed inside) call opened).restore inside

/-! ## The receiver in the frame of a method -/

/-- A definition in the frame changes its scope alone. -/
theorem define_innermost
    {stack : ScopeStack}
    {scope : Scope}
    (innermost : stack.inner.length = frame)
    (found : stack.scopeAt? frame = some scope)
    (param : String)
    (value : Value) :
    (stack.define param value).inner.length = frame ∧
      (stack.define param value).scopeAt? frame = some (scope.insert param (.plain value)) := by
  have rebinds := stack.define_rebinds param value
  rw [innermost] at rebinds
  exact ⟨(Nat.succ.inj rebinds.depth).trans innermost, rebinds.target scope found⟩

/-- Binding parameters keeps the table of the frame coherent. -/
theorem coherent_bindParams
    (stack : ScopeStack)
    {scope : Scope}
    (innermost : stack.inner.length = frame)
    (found : stack.scopeAt? frame = some scope)
    (coherent : scope.Coherent)
    (params : List String)
    (args : List Value) :
    (bindParams stack params args).inner.length = frame ∧
      ∃ bound, (bindParams stack params args).scopeAt? frame = some bound ∧ bound.Coherent := by
  induction params generalizing stack scope args with
  | nil =>
      cases args with
      | nil => exact ⟨innermost, scope, found, coherent⟩
      | cons first rest =>
          have surplus := define_innermost innermost found surplusName (.ofList (first :: rest))
          exact ⟨surplus.1, _, surplus.2, coherent.insert _ _⟩
  | cons param params ih =>
      have next := define_innermost innermost found param (args.headD .void)
      exact ih _ next.1 next.2 (coherent.insert _ _) args.tail

/-- The frame of a call with its parameters bound. -/
theorem coherent_frame (engine : Engine) (params : List String) (args : List Value) :
    (bindParams engine.scopes.push params args).inner.length = engine.depth ∧
      ∃ scope, (bindParams engine.scopes.push params args).scopeAt? engine.depth = some scope ∧
        scope.Coherent :=
  coherent_bindParams engine.scopes.push rfl ScopeStack.scopeAt?_push_depth
    (OrderedMap.coherent_withOrder _) params args

theorem depth_frame (engine : Engine) (params : List String) (args : List Value) :
    (engine.opened.mapScopes fun scopes => bindParams scopes params args).depth =
      engine.depth + 1 :=
  congrArg Nat.succ (coherent_frame engine params args).1

/-- The frame of a method has its receiver when the body starts. -/
theorem carries_receiver
    (engine : Engine)
    (params : List String)
    (args : List Value)
    {receiver : Value}
    (fits : allowed receiver) :
    Carries allowed engine.depth receiverName
      ((engine.opened.mapScopes fun scopes => bindParams scopes params args).define
        receiverName receiver).scopes := by
  obtain ⟨length, scope, found, coherent⟩ := coherent_frame engine params args
  have placed := (define_innermost length found receiverName receiver).2
  exact ⟨_, placed, coherent.insert _ _, receiver,
    by rw [coherent.get?_insert, if_pos rfl], fits⟩

theorem bindingAt?_of_carries
    {engine : Engine}
    (carries : Carries allowed frame name engine.scopes) :
    ∃ value, engine.bindingAt? frame name = some value ∧ allowed value := by
  obtain ⟨scope, found, -, value, stored, fits⟩ := carries
  refine ⟨value, ?_, fits⟩
  rw [bindingAt?, found, Option.bind_some, stored]
  rfl

end Engine
end ScriptCore
