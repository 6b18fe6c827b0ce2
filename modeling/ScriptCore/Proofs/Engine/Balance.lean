import ScriptCore.OrderedMap.Spread
import ScriptCore.Proofs.Engine.Frames

/-!
# Balance of the scope stack

A body that closes only the scopes it opened itself, and whose nested scripts do
not fail, leaves the scopes below its own alone, apart from the values of their
variables. The guard of a call, a handler and a failed script then bring the
stack back to where it was, however the body ends and whatever it leaves open.

The argument goes from single changes to bodies, from bodies to calls, and by
the depth of nesting to calls within calls.
-/

namespace ScriptCore

/-- What the bodies of a run may do to names: which global names they may
register and remove, and to which variables they may write void. A variable is
given by its scope and its name. -/
structure Conduct where
  registers : String → Bool
  removes : String → Bool
  voids : Nat → String → Bool

section

variable [KeyHash]

namespace Conduct

/-- The rights of a body that may close only scopes above a floor. In the scope
right below the floor it may create some names. -/
def rights (conduct : Conduct) (floor : Nat) (creates : String → Bool) : Rights where
  enters := true
  leaves engine := decide (floor < engine.depth)
  defines engine name value :=
    (decide (floor < engine.depth) || creates name) &&
      (conduct.voids (engine.depth - 1) name || !value.isVoid)
  assigns engine name value :=
    (decide (floor < engine.depth) || creates name) &&
      (conduct.voids (engine.scopes.home name) name || !value.isVoid)
  registers := conduct.registers
  removes := conduct.removes
  resets := false

/-- Every called body may close the scopes above its own frame, and create any
name in its frame. -/
def policy (conduct : Conduct) : Policy :=
  fun frame => conduct.rights frame fun _ => true

end Conduct

/-! ## Scopes below a floor -/

/-- The scopes below a floor are still there and bind what they did, apart from
names that were allowed to come or go. -/
structure Intact
    (conduct : Conduct)
    (floor : Nat)
    (creates : String → Bool)
    (before after : ScopeStack) : Prop where
  depth : floor ≤ after.depth
  bound : ∀ index < floor, ∀ name, after.Binds index name →
    before.Binds index name ∨ index = 0 ∧ conduct.registers name ∨
      index + 1 = floor ∧ creates name
  still : ∀ index < floor, ∀ name, before.Binds index name →
    after.Binds index name ∨ index = 0 ∧ conduct.removes name

namespace Intact

variable {conduct : Conduct} {floor : Nat} {creates : String → Bool}
variable {before middle after : ScopeStack}

omit [KeyHash] in
/-- Scopes that stay intact twice stay intact. -/
theorem trans
    (first : Intact conduct floor creates before middle)
    (second : Intact conduct floor creates middle after) :
    Intact conduct floor creates before after where
  depth := second.depth
  bound index below name now := by
    rcases second.bound index below name now with kept | new
    · exact first.bound index below name kept
    · exact .inr new
  still index below name old := by
    rcases first.still index below name old with kept | gone
    · exact second.still index below name kept
    · exact .inr gone

omit [KeyHash] in
/-- The scopes below the floor are the very same. -/
theorem of_same
    (deep : floor ≤ after.depth)
    (same : ∀ index < floor, after.scopeAt? index = before.scopeAt? index) :
    Intact conduct floor creates before after where
  depth := deep
  bound index below name now := by
    left
    unfold ScopeStack.Binds at now ⊢
    rw [same index below] at now
    exact now
  still index below name old := by
    left
    unfold ScopeStack.Binds at old ⊢
    rw [same index below]
    exact old

/-- A change of one binding leaves the scopes below a floor intact if it is
allowed there. -/
theorem of_rebinds
    {index : Nat}
    {name : String}
    {binding : Binding}
    (deep : floor ≤ before.depth)
    (rebinds : before.Rebinds index name binding after)
    (allowed : index < floor → before.Binds index name ∨ index = 0 ∧ conduct.registers name ∨
      index + 1 = floor ∧ creates name) :
    Intact conduct floor creates before after where
  depth := by
    rw [rebinds.depth]
    exact deep
  bound other below bound now := by
    rcases rebinds.binds_or_eq now with old | ⟨rfl, rfl⟩
    · exact .inl old
    · exact allowed below
  still other below bound old := .inl (rebinds.binds old)

theorem of_remove
    (deep : floor ≤ before.depth)
    {names : List String}
    (allowed : ∀ name ∈ names, conduct.removes name) :
    Intact conduct floor creates before (names.foldl ScopeStack.unbindGlobal before) where
  depth := by
    rw [ScopeStack.depth_foldl_unbindGlobal]
    exact deep
  bound index below name now := .inl (ScopeStack.binds_of_binds_foldl now)
  still index below name old := by
    rcases ScopeStack.binds_foldl_or_mem names old with kept | ⟨global, member⟩
    · exact .inl kept
    · exact .inr ⟨global, allowed name member⟩

omit [KeyHash] in
theorem truncate
    {depth : Nat}
    (deep : floor ≤ before.depth)
    (deepEnough : floor ≤ depth) :
    Intact conduct floor creates before (before.truncate depth) := by
  apply of_same
  · rw [ScopeStack.depth_truncate]
    omega
  · intro index below
    apply ScopeStack.scopeAt?_truncate
    omega

omit [KeyHash] in
/-- Below a lower floor, nothing is created. -/
theorem lower (intact : Intact conduct (floor + 1) creates before after) :
    Intact conduct floor (fun _ => false) before after where
  depth := by
    have higher := intact.depth
    omega
  bound index below name now := by
    rcases intact.bound index (by omega) name now with old | registered | ⟨top, -⟩
    · exact .inl old
    · exact .inr (.inl registered)
    · omega
  still index below name old := intact.still index (by omega) name old

/-- A change of the scopes within the rights leaves those below the floor
intact. -/
theorem of_change
    {engine : Engine}
    (deep : floor ≤ engine.depth)
    (change : Engine.ScopeChange (conduct.rights floor creates) engine after) :
    Intact conduct floor creates engine.scopes after := by
  -- A name created at the innermost scope is below the floor only if the
  -- stack is exactly as deep as the floor.
  have innermost {name : String} (created : (decide (floor < engine.depth) || creates name) = true)
      (below : engine.scopes.inner.length < floor) :
      engine.scopes.inner.length + 1 = floor ∧ creates name := by
    change floor ≤ engine.scopes.inner.length + 1 at deep
    refine ⟨by omega, ?_⟩
    rw [Bool.or_eq_true, decide_eq_true_iff] at created
    rcases created with above | allowed
    · change floor < engine.scopes.inner.length + 1 at above
      omega
    · exact allowed
  cases change with
  | cells cells => exact of_same deep fun _ _ => rfl
  | push =>
      refine of_same (Nat.le_succ_of_le deep) fun index below => ?_
      exact ScopeStack.scopeAt?_push (Nat.lt_of_lt_of_le below deep)
  | pop _ may popped =>
      have above : floor < engine.depth := of_decide_eq_true may
      have shrunk := ScopeStack.depth_of_pop? popped
      change engine.depth = after.depth + 1 at shrunk
      refine of_same (by omega) fun index below => ?_
      exact ScopeStack.scopeAt?_of_pop? popped (by omega)
  | define name value may =>
      refine of_rebinds deep (engine.scopes.define_rebinds name value) fun below => ?_
      exact .inr (.inr (innermost (Bool.and_eq_true_iff.mp may).1 below))
  | assign name value _ may rebinds place =>
      refine of_rebinds deep rebinds fun below => ?_
      rcases place with bound | atTop
      · exact .inl bound
      · rw [atTop] at below ⊢
        exact .inr (.inr (innermost (Bool.and_eq_true_iff.mp may).1 below))
  | register name binding _ may rebinds =>
      exact of_rebinds deep rebinds fun _ => .inr (.inl ⟨rfl, may⟩)
  | remove names may => exact of_remove deep may

end Intact

/-! ## Bodies and calls -/

namespace Engine

/-- How a body leaves an engine: at the same depth of calls, and with the scopes
below its floor intact. -/
def Keeps
    (conduct : Conduct)
    (floor : Nat)
    (creates : String → Bool)
    (before after : Engine) : Prop :=
  after.callDepth = before.callDepth ∧
    (floor ≤ before.depth → Intact conduct floor creates before.scopes after.scopes)

/-- How a call or a handler leaves an engine: at the same depths of scopes and
calls, with the same names in every scope. Some names may have been created in
the innermost scope, and global names registered or removed. -/
structure Restored
    (conduct : Conduct)
    (creates : String → Bool)
    (before after : Engine) : Prop where
  depth : after.depth = before.depth
  callDepth : after.callDepth = before.callDepth
  bound : ∀ index name, after.scopes.Binds index name →
    before.scopes.Binds index name ∨ index = 0 ∧ conduct.registers name ∨
      index + 1 = before.depth ∧ creates name
  still : ∀ index name, before.scopes.Binds index name →
    after.scopes.Binds index name ∨ index = 0 ∧ conduct.removes name

variable {conduct : Conduct} {creates : String → Bool} {before after : Engine}

omit [KeyHash] in
theorem Restored.refl (conduct : Conduct) (engine : Engine) :
    Restored conduct (fun _ => false) engine engine where
  depth := rfl
  callDepth := rfl
  bound _ _ now := .inl now
  still _ _ old := .inl old

omit [KeyHash] in
/-- Closing the scopes opened since restores the stack. -/
theorem Restored.of_intact
    (intact : Intact conduct before.depth creates before.scopes after.scopes) :
    Restored conduct creates before (after.restore before.depth before.callDepth) := by
  have positive : 0 < before.depth := ScopeStack.depth_pos
  have truncated : Intact conduct before.depth creates before.scopes
      (after.scopes.truncate before.depth) :=
    intact.trans (Intact.truncate intact.depth (Nat.le_refl _))
  have depth : (after.scopes.truncate before.depth).depth = before.depth := by
    rw [ScopeStack.depth_truncate]
    have deep := intact.depth
    omega
  refine ⟨depth, rfl, ?_, ?_⟩
  · intro index name now
    have below : index < before.depth := by
      obtain ⟨scope, found, -⟩ := now
      have inside := ScopeStack.lt_depth_of_scopeAt? found
      exact depth ▸ inside
    exact truncated.bound index below name now
  · intro index name old
    have below : index < before.depth := by
      obtain ⟨scope, found, -⟩ := old
      exact ScopeStack.lt_depth_of_scopeAt? found
    exact truncated.still index below name old

omit [KeyHash] in
/-- What restores an engine keeps the scopes below every floor. -/
theorem Restored.keeps
    (restored : Restored conduct (fun _ => false) before after)
    (floor : Nat)
    (creates : String → Bool) :
    Keeps conduct floor creates before after := by
  refine ⟨restored.callDepth, fun deep => ⟨?_, ?_, ?_⟩⟩
  · change floor ≤ after.depth
    rw [restored.depth]
    exact deep
  · intro index below name now
    rcases restored.bound index name now with old | registered | ⟨-, created⟩
    · exact .inl old
    · exact .inr (.inl registered)
    · cases created
  · intro index below name old
    exact restored.still index name old

/-- A body within its rights keeps the scopes below its floor, provided that
the calls it makes restore the stack. -/
theorem kept_keeps
    (conduct : Conduct)
    {dispatch : Dispatcher}
    (floor : Nat)
    (creates : String → Bool)
    (calls : ∀ call, Respects (Restored conduct fun _ => false) (dispatch call)) :
    Kept dispatch (conduct.rights floor creates) (Keeps conduct floor creates) := by
  apply Kept.of_changes
  · rfl
  · rintro first second third ⟨firstDepth, firstIntact⟩ ⟨secondDepth, secondIntact⟩
    refine ⟨secondDepth.trans firstDepth, fun deep => ?_⟩
    have middle := firstIntact deep
    exact middle.trans (secondIntact middle.depth)
  · exact fun call engine => (calls call engine).keeps floor creates
  · exact fun sameCalls change => ⟨sameCalls, fun deep => .of_change deep change⟩
  -- A guard that opens a scope, then a handler that does not.
  · rintro engine after ⟨-, intact⟩
    refine ⟨rfl, fun deep => ?_⟩
    have pushed : Intact conduct floor creates engine.scopes engine.scopes.push :=
      .of_change deep .push
    have ended := pushed.trans (intact pushed.depth)
    exact ended.trans (.truncate ended.depth deep)
  · rintro engine after ⟨-, intact⟩
    refine ⟨rfl, fun deep => ?_⟩
    have ended := intact deep
    exact ended.trans (.truncate ended.depth deep)

/-- Defining a variable in the frame of a body leaves the scopes below alone. -/
theorem admits_keeps (conduct : Conduct) (frame : Nat) :
    Admits (Keeps conduct frame fun _ => true) frame := by
  intro engine inFrame name value
  refine ⟨rfl, fun deep => ?_⟩
  refine .of_rebinds deep (engine.scopes.define_rebinds name value) fun _ => ?_
  exact .inr (.inr ⟨inFrame, rfl⟩)

/-- Calls within their rights restore the stack, to any depth of nesting. -/
theorem dispatch_restores (conduct : Conduct) (frames : Nat) (call : Call) :
    Respects (Restored conduct fun _ => false) (conduct.policy.dispatch frames call) := by
  refine Policy.dispatch_respects (Restored.refl conduct) ?_ frames call
  intro dispatch calls call engine
  have kept : Kept dispatch (conduct.policy engine.opened.depth)
      (Keeps conduct engine.opened.depth fun _ => true) :=
    kept_keeps conduct engine.opened.depth (fun _ => true) calls
  have ended := kept.invoke (admits_keeps conduct engine.opened.depth) call
  -- The floor of the body is its own frame, which may get names; the caller
  -- sees only the scopes below.
  have below := (ended.2 (Nat.le_refl _)).lower
  have pushed : Intact conduct engine.depth (fun _ => false) engine.scopes engine.scopes.push :=
    .of_change (Nat.le_refl _) .push
  exact Restored.of_intact (pushed.trans below)

end Engine

/-! ## Operations -/

/-- A dispatcher that takes its supply of frames from the engine. -/
def Engine.supplied (supply : Engine → Nat) : Dispatcher := fun call => do
  Engine.dispatch (supply (← get)) call

theorem Engine.dispatcher_eq :
    dispatcher = supplied fun engine => engine.maxCallDepth + spareFrames := rfl

/-- A dispatcher that enforces a policy and takes its supply of frames from the
engine. -/
def Policy.supplied (policy : Policy) (supply : Engine → Nat) : Dispatcher := fun call => do
  policy.dispatch (supply (← get)) call

/-- The ways to make a call from outside. -/
inductive Operation where
  | signature (callee : Signature) (args : List Value)
  | function (callee : Function) (args : List Value)
  | named (name : String) (args : List Value)
  | value (callee : Value) (args : List Value)
  | method (receiver : Value) (name : String) (args : List Value)
  | construct (className : String) (args : List Value)

namespace Operation

open Engine

/-- The reply of a call without a receiver. -/
def replyOf (body : Run Value) : StateM Engine Reply := do
  return { outcome := ← body.run, receiver? := none }

/-- Perform an operation. -/
def perform (dispatch : Dispatcher) : Operation → StateM Engine Reply
  | .signature callee args => replyOf (callSignature dispatch callee args)
  | .function callee args => replyOf (callFunction dispatch callee args)
  | .named name args => replyOf (callByName dispatch name args)
  | .value callee args => replyOf (callValue dispatch callee args)
  | .method receiver name args => callMethod dispatch receiver name args
  | .construct className args => replyOf (instantiate dispatch className args)

omit [KeyHash] in
theorem callFunction_state
    (dispatch : Dispatcher)
    (function : Function)
    (args : List Value)
    (engine : Engine) :
    (callFunction dispatch function args engine).2 = engine ∨
      ∃ call, (callFunction dispatch function args engine).2 = (dispatch call engine).2 := by
  unfold callFunction
  cases function.resolve? args.length with
  | none => exact .inl rfl
  | some signature => exact .inr ⟨_, rfl⟩

theorem callByName_state
    (dispatch : Dispatcher)
    (name : String)
    (args : List Value)
    (engine : Engine) :
    (callByName dispatch name args engine).2 = engine ∨
      ∃ call, (callByName dispatch name args engine).2 = (dispatch call engine).2 := by
  unfold callByName
  rw [Run.get_bind]
  cases engine.scopes.lookupFunction? name with
  | none => exact .inl rfl
  | some function => exact callFunction_state dispatch function args engine

/-- An operation makes at most one call and does nothing else to the engine. -/
theorem perform_state (dispatch : Dispatcher) (operation : Operation) (engine : Engine) :
    (operation.perform dispatch engine).2 = engine ∨
      ∃ call, (operation.perform dispatch engine).2 = (dispatch call engine).2 := by
  cases operation with
  | signature callee args => exact .inr ⟨_, rfl⟩
  | function callee args => exact callFunction_state dispatch callee args engine
  | named name args => exact callByName_state dispatch name args engine
  | value callee args =>
      cases callee with
      | function function => exact callFunction_state dispatch function args engine
      | str bytes => exact callByName_state dispatch (Utf8.text bytes) args engine
      | _ => exact .inl rfl
  | method receiver name args =>
      change (callMethod dispatch receiver name args engine).2 = engine ∨
        ∃ call, (callMethod dispatch receiver name args engine).2 = (dispatch call engine).2
      unfold callMethod
      cases resolveMethod receiver name args.length with
      | ok signature => exact .inr ⟨_, rfl⟩
      | error error => exact .inl rfl
  | construct className args =>
      change (instantiate dispatch className args engine).2 = engine ∨
        ∃ call, (instantiate dispatch className args engine).2 = (dispatch call engine).2
      unfold instantiate
      rw [Run.get_bind]
      cases engine.class? className with
      | none => exact .inl rfl
      | some cls =>
          dsimp only
          cases cls.findConstructor? with
          | none => exact .inl rfl
          | some signature => exact .inr ⟨_, rfl⟩

/-- Every operation restores the depth of scopes and calls. -/
theorem perform_restores
    (conduct : Conduct)
    (supply : Engine → Nat)
    (operation : Operation) :
    Respects (Restored conduct fun _ => false)
      (operation.perform (conduct.policy.supplied supply)) := by
  intro engine
  rcases operation.perform_state (conduct.policy.supplied supply) engine with same | ⟨call, called⟩
  · rw [same]
    exact Restored.refl conduct engine
  · rw [called]
    exact dispatch_restores conduct (supply engine) call engine

end Operation

end

namespace Engine

/-- A computation came back: with a value or with a script error. A fault of
the host, or running out of frames, ends the whole run. -/
def returned {α : Type} : Except Failure α → Bool
  | .ok _ => true
  | .error (.error _) => true
  | .error _ => false

/-- A handler that comes back has restored the stack. -/
theorem Restored.attempt
    {conduct : Conduct}
    {creates : String → Bool}
    {body : Run Value}
    {engine : Engine}
    (intact : Intact conduct engine.depth creates engine.scopes (body engine).2.scopes)
    (back : returned (attempt body engine).1) :
    Restored conduct creates engine (attempt body engine).2 := by
  have restored := Restored.of_intact intact
  rcases ended : body engine with ⟨outcome, after⟩
  rw [ended] at restored
  rcases outcome with failure | value
  · cases failure with
    | error error =>
        obtain ⟨exception, left⟩ := attempt_error ended
        rw [left]
        exact ⟨restored.depth, restored.callDepth, restored.bound, restored.still⟩
    | fault message =>
        rw [attempt_pass (by simp) ended] at back
        cases back
    | exhausted =>
        rw [attempt_pass (by simp) ended] at back
        cases back
  · rw [attempt_ok ended]
    exact restored

section

variable [KeyHash]

/-- A body leaves the scopes that were open before it intact. -/
theorem exec_intact
    (conduct : Conduct)
    (supply : Engine → Nat)
    (creates : String → Bool)
    (body : Program)
    (engine : Engine) :
    Intact conduct engine.depth creates engine.scopes
      ((conduct.rights engine.depth creates).exec (conduct.policy.supplied supply) body
        engine).2.scopes := by
  have calls : ∀ call, Respects (Restored conduct fun _ => false)
      (conduct.policy.supplied supply call) :=
    fun call engine => dispatch_restores conduct (supply engine) call engine
  have kept := kept_keeps conduct engine.depth creates calls
  exact (kept.execSteps .void body engine).2 (Nat.le_refl _)

omit [KeyHash] in
/-- An error that ends a script leaves the global scope alone and no active
call. -/
theorem depths_settle (error : ScriptError) (engine : Engine) :
    (settle error engine).depth = 1 ∧ (settle error engine).callDepth = 0 := by
  have rested : (engine.scopes.truncate 1).depth = 1 := by
    rw [ScopeStack.depth_truncate]
    have positive : 0 < engine.scopes.depth := ScopeStack.depth_pos
    omega
  unfold settle report
  cases error.payload? with
  | none => exact ⟨rested, rfl⟩
  | some payload => exact ⟨rested, rfl⟩

omit [KeyHash] in
/-- A script that fails leaves the global scope alone and no active call. -/
theorem depths_run
    {body : Run Value}
    {engine after : Engine}
    {error : ScriptError}
    (failed : run body engine = (.error (.error error), after)) :
    after.depth = 1 ∧ after.callDepth = 0 := by
  rcases ended : body { engine with exception := .normal } with ⟨outcome, last⟩
  by_cases script : ∃ cause, outcome = .error (.error cause)
  · obtain ⟨cause, rfl⟩ := script
    rw [run_error ended] at failed
    cases failed
    exact depths_settle error last
  · rw [run_pass (fun cause same => script ⟨cause, same⟩) ended] at failed
    cases failed
    exact absurd ⟨error, rfl⟩ script

/-- The stack after an exit: both depths are those at entry, every scope has the
names it had, and no other name is found. Names may have been created in the
scope that was innermost at entry, and global names registered. -/
structure Unwound
    (registers creates : String → Bool)
    (before after : Engine) : Prop where
  depth : after.depth = before.depth
  callDepth : after.callDepth = before.callDepth
  names : ∀ index name, after.scopes.Binds index name →
    before.scopes.Binds index name ∨ index = 0 ∧ registers name ∨
      index + 1 = before.depth ∧ creates name
  hidden : ∀ name, (∀ index, ¬ before.scopes.Binds index name) →
    registers name = false → creates name = false → after.scopes.get? name = none

/-- An engine that is restored is unwound to where it was. -/
theorem Restored.unwound
    {conduct : Conduct}
    {creates : String → Bool}
    {before after : Engine}
    (restored : Restored conduct creates before after) :
    Unwound conduct.registers creates before after where
  depth := restored.depth
  callDepth := restored.callDepth
  names := restored.bound
  hidden name absent unregistered uncreated := by
    by_contra found
    have visible : after.scopes.contains name = true := by
      rw [ScopeStack.get?, Option.map_eq_none_iff, ← ne_eq, Option.ne_none_iff_isSome] at found
      exact found
    obtain ⟨index, bound⟩ := ScopeStack.exists_binds_of_contains visible
    rcases restored.bound index name bound with old | ⟨-, registered⟩ | ⟨-, created⟩
    · exact absent index old
    · simp [unregistered] at registered
    · simp [uncreated] at created

/-- Every exit restores the stack. Take any run whose bodies close only scopes
they opened themselves and whose nested scripts do not fail, so that enforcing
this makes no difference. However it ends and whatever scopes it leaves open,
after a call or a handler both depths are those at entry, and no name of a scope
opened since is found any more. A script that fails leaves the global scope
alone and no nested call. -/
theorem every_exit_restores_the_stack (conduct : Conduct) (supply : Engine → Nat) :
    (∀ (operation : Operation) (engine : Engine),
      operation.perform (conduct.policy.supplied supply) engine =
        operation.perform (supplied supply) engine →
      Unwound conduct.registers (fun _ => false) engine
        (operation.perform (supplied supply) engine).2) ∧
    (∀ (creates : String → Bool) (body : Program) (engine : Engine),
      attempt ((conduct.rights engine.depth creates).exec (conduct.policy.supplied supply) body)
          engine =
        attempt (Program.exec (supplied supply) body) engine →
      returned (attempt (Program.exec (supplied supply) body) engine).1 →
      Unwound conduct.registers creates engine
        (attempt (Program.exec (supplied supply) body) engine).2) ∧
    ∀ (body : Program) (engine after : Engine) (error : ScriptError),
      run (Program.exec (supplied supply) body) engine = (.error (.error error), after) →
      after.depth = 1 ∧ after.callDepth = 0 := by
  refine ⟨?_, ?_, ?_⟩
  · intro operation engine within
    rw [← within]
    exact (operation.perform_restores conduct supply engine).unwound
  · intro creates body engine within back
    rw [← within] at back ⊢
    exact (Restored.attempt (exec_intact conduct supply creates body engine) back).unwound
  · intro body engine after error failed
    exact depths_run failed

end

/-- A native that opens a scope and throws. -/
def throwingSignature : Signature where
  id := 0
  name := "inner"
  prototype := ⟨[]⟩
  returns := 'v'
  implementation := .native 0
    [.action .enter, .action (.define "z" (.int 3)), .action (.throw (.int 4))]

/-- A native that handles the exception of another one and throws in turn, with
three scopes of its own left open. -/
def nestingSignature : Signature where
  id := 1
  name := "outer"
  prototype := ⟨[]⟩
  returns := 'v'
  implementation := .native 0
    [.action .enter, .action (.define "x" (.int 1)),
      .attempt [.action .enter, .action (.define "y" (.int 2)), .action (.call "inner" [])],
      .action .leave, .action .enter, .action .enter, .action .enter,
      .action (.throw (.int 5))]

/-- An engine with both natives and one inner scope. -/
def nestingEngine : Engine :=
  (((Engine.new {} .bare).registerSignature
    throwingSignature).registerSignature nestingSignature).mapScopes ScopeStack.push

/-- No global name comes or goes, and no variable becomes void. -/
def quietConduct : Conduct where
  registers _ := false
  removes _ := false
  voids _ _ := false

/-- A body that opens a scope and fails in a call. -/
def nestingBody : Program :=
  [.action .enter, .action (.call "outer" [])]

/-- A throw leaves a call that has handled another one and left scopes open, by
way of an operation, a handler and a script. -/
theorem nested_throws_restore_the_stack :
    Unwound (fun _ => false) (fun _ => false) nestingEngine
        ((Operation.named "outer" []).perform (supplied fun _ => 3) nestingEngine).2 ∧
      Unwound (fun _ => false) (fun _ => false) nestingEngine
        (attempt (Program.exec (supplied fun _ => 3) nestingBody) nestingEngine).2 ∧
      (run (Program.exec (supplied fun _ => 3) nestingBody) nestingEngine).2.depth = 1 ∧
      (run (Program.exec (supplied fun _ => 3) nestingBody) nestingEngine).2.callDepth = 0 := by
  have restores := every_exit_restores_the_stack quietConduct fun _ => 3
  refine ⟨restores.1 (.named "outer" []) nestingEngine (by cbv),
    restores.2.1 (fun _ => false) nestingBody nestingEngine (by cbv) rfl, ?_⟩
  have failed : (run (Program.exec (supplied fun _ => 3) nestingBody) nestingEngine).1 =
      .error (.error { cause := .thrown (.int 5) }) := rfl
  exact restores.2.2 nestingBody nestingEngine _ _ (Prod.ext failed rfl)

end Engine
end ScriptCore
