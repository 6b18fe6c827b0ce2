import ScriptCore.OrderedMap.Spread
import ScriptCore.Proofs.Engine.Balance
import ScriptCore.Proofs.Engine.FrameVariables

/-!
# What a call leaves to its caller

A callee that closes only scopes it opened itself leaves every scope of its
caller in place, with the names bound there. A method finds its receiver again
in its own frame: through everything that the body and its calls do, the frame
stays, its table stays coherent, and the variable keeps a value that is not void
unless void is written to it.
-/

namespace ScriptCore

/-! ## A variable of a scope -/

section

variable [KeyHash]

/-- A variable of a scope has a value that is not void. -/
def Holds (frame : Nat) (name : String) (stack : ScopeStack) : Prop :=
  ∃ scope, stack.scopeAt? frame = some scope ∧ scope.Coherent ∧
    ∃ value : Value, scope.get? name = some (.plain value) ∧ value.isVoid = false

/-- A body that writes no void to a variable below its floor guards it. -/
theorem Conduct.guards
    {conduct : Conduct}
    {frame floor : Nat}
    {name : String}
    {creates : String → Bool}
    (below : frame < floor)
    (solid : conduct.voids frame name = false) :
    (conduct.rights floor creates).Guards (fun value => value.isVoid = false) frame name := by
  have written {value : Value} (may : (conduct.voids frame name || !value.isVoid) = true) :
      value.isVoid = false := by
    rwa [solid, Bool.false_or, Bool.not_eq_true'] at may
  refine ⟨rfl, ?_, ?_, ?_⟩
  · intro engine may
    exact Nat.lt_of_le_of_lt below (of_decide_eq_true may)
  · intro engine value may here
    have allowed := (Bool.and_eq_true_iff.mp may).2
    rw [here, Nat.add_sub_cancel] at allowed
    exact written allowed
  · intro engine value may here
    have allowed := (Bool.and_eq_true_iff.mp may).2
    rw [here] at allowed
    exact written allowed

end

namespace Engine

section

variable [KeyHash]

/-- A variable that is not void stays so. -/
def KeepsVariable (frame : Nat) (name : String) (before after : Engine) : Prop :=
  Holds frame name before.scopes → Holds frame name after.scopes

variable {conduct : Conduct} {frame : Nat} {name : String}

/-- A body keeps a variable below its floor, provided that the calls it makes
do. -/
theorem kept_variable
    {dispatch : Dispatcher}
    {floor : Nat}
    {creates : String → Bool}
    (inner : frame ≠ 0)
    (below : frame < floor)
    (solid : conduct.voids frame name = false)
    (calls : ∀ call, Respects (KeepsVariable frame name) (dispatch call)) :
    Kept dispatch (conduct.rights floor creates) (KeepsVariable frame name) :=
  kept_allowed (Conduct.guards below solid) inner calls

/-- Calls within their rights keep a variable of an inner scope, to any depth of
nesting. -/
theorem dispatch_keeps_variable
    (inner : frame ≠ 0)
    (solid : conduct.voids frame name = false)
    (frames : Nat)
    (call : Call) :
    Respects (KeepsVariable frame name) (conduct.policy.dispatch frames call) :=
  dispatch_keeps_allowed (fun _ inside => Conduct.guards inside solid) inner frames call

/-! ## The receiver of a method -/

/-- The frame of a method holds its receiver when the body starts. -/
theorem holds_receiver
    (engine : Engine)
    (params : List String)
    (args : List Value)
    {receiver : Value}
    (solid : receiver.isVoid = false) :
    let framed := engine.opened.mapScopes fun scopes => bindParams scopes params args
    framed.depth = engine.depth + 1 ∧
      Holds engine.depth receiverName (framed.define receiverName receiver).scopes :=
  ⟨depth_frame engine params args, carries_receiver engine params args solid⟩

theorem bindingAt?_of_holds
    {engine : Engine}
    (holds : Holds frame name engine.scopes) :
    ∃ value, engine.bindingAt? frame name = some value ∧ value.isVoid = false :=
  bindingAt?_of_carries holds

/-- A user-defined method within its rights leaves a receiver that is not void,
if void is not written to the receiver in its frame. -/
theorem dispatch_leaves_receiver
    {params : List String}
    {body : Program}
    {receiver : Value}
    (frames : Nat)
    {call : Call}
    {engine : Engine}
    (user : call.signature.implementation = .user params body)
    (given : call.receiver? = some receiver)
    (solid : receiver.isVoid = false)
    (unwritten : conduct.voids engine.depth receiverName = false) :
    ∃ left, (conduct.policy.dispatch frames call engine).1.receiver? = some left ∧
      left.isVoid = false := by
  rcases conduct.policy.dispatch_cases frames call engine with
    ⟨outcome, refused⟩ | ⟨fewer, -, ran⟩
  · rw [refused]
    exact ⟨receiver, given, solid⟩
  rw [ran]
  change ∃ left, (conduct.policy.invoke (conduct.policy.dispatch fewer) call
    engine.opened).1.receiver? = some left ∧ left.isVoid = false
  have invoked : conduct.policy.invoke (conduct.policy.dispatch fewer) call engine.opened =
      invokeUser call params ((conduct.policy engine.opened.depth).exec
        (conduct.policy.dispatch fewer) body) engine.opened := by
    unfold Policy.invoke
    rw [user]
    rfl
  rw [invoked]
  rcases invokeUser_cases call params ((conduct.policy engine.opened.depth).exec
      (conduct.policy.dispatch fewer) body) engine.opened with
    ⟨outcome, idle⟩ | ⟨args, ⟨missing, -⟩ | ⟨self, present, ended⟩⟩
  · rw [idle]
    exact ⟨receiver, given, solid⟩
  · rw [given] at missing
    cases missing
  · rw [given, Option.some.injEq] at present
    subst present
    rw [ended]
    obtain ⟨depth, holds⟩ := holds_receiver engine params args solid
    have inner : engine.depth ≠ 0 := Nat.ne_of_gt ScopeStack.depth_pos
    have kept : Kept (conduct.policy.dispatch fewer) (conduct.policy engine.opened.depth)
        (KeepsVariable engine.depth receiverName) :=
      kept_variable inner (Nat.lt_succ_self _) unwritten
        (dispatch_keeps_variable inner unwritten fewer)
    -- The receiver is read back at the index of the frame, however deep the
    -- stack is when the body ends.
    have still := kept.withSlots (kept.execSteps .void body) [] _ holds
    obtain ⟨value, found, valueSolid⟩ := bindingAt?_of_holds still
    refine ⟨_, rfl, ?_⟩
    unfold Rights.exec
    rw [depth, Nat.add_sub_cancel, found]
    exact valueSolid

/-- A call leaves the frames of its caller in place. Take any call whose bodies
close only scopes they opened themselves and whose nested scripts do not fail,
so that enforcing this makes no difference. The stack is as deep as before, and
every scope binds the names it bound, except for global names that the run was
free to remove. A user-defined method leaves a receiver that is not void, unless
void was written to the receiver in its frame. -/
theorem callee_keeps_the_frames_of_its_caller (conduct : Conduct) (supply : Engine → Nat) :
    (∀ (operation : Operation) (engine : Engine),
      operation.perform (conduct.policy.supplied supply) engine =
        operation.perform (supplied supply) engine →
      (operation.perform (supplied supply) engine).2.depth = engine.depth ∧
        ∀ index name, engine.scopes.Binds index name →
          (operation.perform (supplied supply) engine).2.scopes.Binds index name ∨
            index = 0 ∧ conduct.removes name) ∧
    ∀ (call : Call) (engine : Engine) (params : List String) (body : Program) (receiver : Value),
      call.signature.implementation = .user params body →
      call.receiver? = some receiver →
      receiver.isVoid = false →
      conduct.voids engine.depth receiverName = false →
      conduct.policy.supplied supply call engine = supplied supply call engine →
      ∃ left, (supplied supply call engine).1.receiver? = some left ∧ left.isVoid = false := by
  refine ⟨?_, ?_⟩
  · intro operation engine within
    rw [← within]
    have restored := operation.perform_restores conduct supply engine
    exact ⟨restored.depth, restored.still⟩
  · intro call engine params body receiver user given solid unwritten within
    rw [← within]
    exact dispatch_leaves_receiver (supply engine) user given solid unwritten

end

/-- A function that makes a `self` of an inner scope void and fails. -/
def failingSignature : Signature where
  id := 0
  name := "fail"
  prototype := ⟨[]⟩
  returns := 'v'
  implementation := .user []
    [.action .enter, .action (.define "self" .void), .action (.throw (.int 1))]

/-- A user-defined method that replaces its receiver, hides it behind a void one
and fails in a call. -/
def hidingSignature : Signature where
  id := 1
  name := "hide"
  prototype := ⟨[]⟩
  returns := 'v'
  implementation := .user []
    [.action (.define "self" (.int 7)), .action .enter, .action (.define "self" .void),
      .action (.call "fail" [])]

/-- An engine that runs user-defined bodies, with one inner scope. -/
def hidingEngine : Engine :=
  { ((Engine.new {} .bare).registerSignature failingSignature).mapScopes
      ScopeStack.push with hasEvaluator := true }

/-- A call of the method on an empty record. -/
def hidingCall : Call where
  signature := hidingSignature
  args := []
  receiver? := some (.record { className := none, fields := .empty, methods := .empty })

/-- Void may be written to every variable that is not in the frame of the
call. -/
def receiverConduct : Conduct where
  registers _ := false
  removes _ := false
  voids index _ := index != 2

/-- The method fails with a void variable over its receiver, and still the
receiver of its own frame is written back. -/
theorem hiding_method_keeps_its_receiver :
    (∃ left, (supplied (fun _ => 2) hidingCall hidingEngine).1.receiver? = some left ∧
        left.isVoid = false) ∧
      ((Operation.named "fail" []).perform (supplied fun _ => 2) hidingEngine).2.depth = 2 ∧
      ((Operation.named "fail" []).perform (supplied fun _ => 2)
        hidingEngine).2.scopes.Binds 0 "fail" := by
  have keeps := callee_keeps_the_frames_of_its_caller receiverConduct fun _ => 2
  have operation := keeps.1 (.named "fail" []) hidingEngine (by cbv)
  have bound : hidingEngine.scopes.Binds 0 "fail" := ⟨_, rfl, by decide⟩
  refine ⟨keeps.2 hidingCall hidingEngine _ _ _ rfl rfl rfl rfl (by cbv), operation.1, ?_⟩
  rcases operation.2 0 "fail" bound with kept | ⟨-, removed⟩
  · exact kept
  · cases removed

/-! ## Calls outside their rights -/

/-- A native without parameters. -/
def nativeSignature (body : Program) : Signature where
  id := 0
  name := "native"
  prototype := ⟨[]⟩
  returns := 'v'
  implementation := .native 0 body

/-- A call of a user-defined method without parameters on an empty record. -/
def methodCall (body : Program) : Call where
  signature :=
    { id := 1, name := "method", prototype := ⟨[]⟩, returns := 'v'
      implementation := .user [] body }
  args := []
  receiver? := some (.record { className := none, fields := .empty, methods := .empty })

/-- A function that assigns void to a variable of its caller. -/
def clearingSignature : Signature where
  id := 2
  name := "clear"
  prototype := ⟨[]⟩
  returns := 'v'
  implementation := .user [] [.action (.assign "self" .void)]

/-- An engine with a linked variable, the clearing function and one inner
scope. -/
def linkedEngine : Engine :=
  { ((((Engine.new {} .bare).newCell "cell" (.int 1)).registerVariable
      "v" .int 0).registerSignature clearingSignature).mapScopes ScopeStack.push with
    hasEvaluator := true }

/-- In general a callee can destroy what its caller has. It closes a scope of its
caller by leaving once too often or by failing out of a nested script, it removes
a global variable, and it leaves a void receiver by closing its frame or through
a function that assigns to the receiver. -/
theorem callee_can_destroy_the_frames_of_its_caller :
    linkedEngine.depth = 2 ∧
      ((Operation.signature (nativeSignature [.action .leave, .action .leave]) []).perform
        (supplied fun _ => 2) linkedEngine).2.depth = 1 ∧
      ((Operation.signature (nativeSignature [.run [.action (.throw .void)]]) []).perform
        (supplied fun _ => 2) linkedEngine).2.depth = 1 ∧
      linkedEngine.scopes.contains "v" = true ∧
      ((Operation.signature (nativeSignature [.action (.unlink "v")]) []).perform
        (supplied fun _ => 2) linkedEngine).2.scopes.contains "v" = false ∧
      (supplied (fun _ => 2) (methodCall [.action .leave]) linkedEngine).1.receiver? =
        some .void ∧
      (supplied (fun _ => 2) (methodCall [.action (.call "clear" [])])
        linkedEngine).1.receiver? = some .void := by
  refine ⟨?_, ?_, ?_, ?_, ?_, ?_, ?_⟩ <;> rfl

end Engine
end ScriptCore
