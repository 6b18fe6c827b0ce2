import ScriptCore.OrderedMap.Spread
import ScriptCore.Proofs.Engine.Entries
import ScriptCore.Proofs.Scope.Answers

/-!
# Arguments as variables

A user-defined body starts in a scope of its own that has its parameters, the
arguments past them under one more name, and its receiver. No argument is lost:
those of the parameters and the surplus ones are all that were bound, in order.
What the enclosing scopes call by the same names makes no difference.
-/

namespace ScriptCore

/-! ## A scope of variables -/

theorem SlotList.get?_entries
    {entries : List (String × Value)}
    {name : String}
    {value : Value}
    (different : (entries.map Prod.fst).Nodup)
    (member : (name, value) ∈ entries) :
    SlotList.get? (entries.map fun entry => .entry entry.1 (Binding.plain entry.2)) name =
      some (.plain value) := by
  induction entries with
  | nil => cases member
  | cons entry entries ih =>
      rw [List.map_cons, List.nodup_cons] at different
      rw [List.map_cons, get?_cons, hasKey_entry]
      rcases List.mem_cons.mp member with rfl | later
      · simp
      · have other : name ≠ entry.1 := by
          rintro rfl
          exact different.1 (List.mem_map.mpr ⟨_, later, rfl⟩)
        rw [decide_eq_false other]
        exact ih different.2 later

namespace ScopeStack

variable {base stack : ScopeStack} {entries : List (String × Value)} {name : String}
  {value : Value}

variable [KeyHash]

/-- A stack with one scope more than another, which has the given variables. -/
structure FrameOver
    (base : ScopeStack)
    (entries : List (String × Value))
    (stack : ScopeStack) : Prop where
  depth : stack.depth = base.depth + 1
  lower : ∀ index < base.depth, stack.scopeAt? index = base.scopeAt? index
  here : ∃ scope, stack.scopeAt? base.depth = some scope ∧ scope.Coherent ∧
    scope.toList = entries.map fun entry => .entry entry.1 (.plain entry.2)

theorem frameOver_push (base : ScopeStack) : base.FrameOver [] base.push where
  depth := rfl
  lower _ below := scopeAt?_push below
  here := ⟨_, scopeAt?_push_depth, OrderedMap.coherent_withOrder _, rfl⟩

namespace FrameOver

/-- A new variable comes last. -/
theorem define
    (frame : base.FrameOver entries stack)
    (fresh : name ∉ entries.map Prod.fst)
    (value : Value) :
    base.FrameOver (entries ++ [(name, value)]) (stack.define name value) := by
  have rebinds := stack.define_rebinds name value
  rw [Nat.succ.inj frame.depth] at rebinds
  refine ⟨rebinds.depth.trans frame.depth, fun index below => ?_, ?_⟩
  · rw [rebinds.others index (Nat.ne_of_lt below), frame.lower index below]
  · obtain ⟨scope, found, coherent, slots⟩ := frame.here
    refine ⟨_, rebinds.target scope found, coherent.insert name _, ?_⟩
    have absent : name ∉ scope.toList.filterMap Slot.key? := by
      rw [slots, List.filterMap_map]
      simpa [Function.comp_def, Slot.key?] using fresh
    rw [coherent.toList_insert, SlotList.insert_of_absent absent, slots]
    simp

/-- The innermost scope has the names of the variables and their values. -/
theorem exists_scope
    (frame : base.FrameOver entries stack)
    (different : (entries.map Prod.fst).Nodup) :
    ∃ scope, stack.scopeAt? base.depth = some scope ∧ scope.keys = entries.map Prod.fst ∧
      (∀ name value, (name, value) ∈ entries → scope.get? name = some (.plain value)) ∧
      ∀ name, name ∉ entries.map Prod.fst → scope.get? name = none := by
  obtain ⟨scope, found, coherent, slots⟩ := frame.here
  have keys : scope.keys = entries.map Prod.fst := by
    simp [OrderedMap.keys, slots, Function.comp_def]
  refine ⟨scope, found, keys, fun name value member => ?_, fun name absent => ?_⟩
  · rw [coherent.get?_eq, slots]
    exact SlotList.get?_entries different member
  · rw [← keys, ← coherent.contains_iff, ← OrderedMap.isSome_get?] at absent
    exact Option.not_isSome_iff_eq_none.mp absent

/-- A variable of the innermost scope is what its name stands for. -/
theorem get?_eq
    (frame : base.FrameOver entries stack)
    (different : (entries.map Prod.fst).Nodup)
    (member : (name, value) ∈ entries) :
    stack.get? name = some value := by
  obtain ⟨scope, found, -, values, -⟩ := frame.exists_scope different
  have nearest : stack.Nearest base.depth name (.plain value) := by
    refine ⟨⟨scope, found, values name value member⟩, ?_⟩
    intro other higher above there
    have inside := lt_depth_of_scopeAt? there
    rw [frame.depth] at inside
    omega
  rw [get?, nearest.binding?_eq]
  rfl

end FrameOver
end ScopeStack

/-! ## Binding parameters -/

namespace Engine

theorem surplusName_ne_receiverName : surplusName ≠ receiverName := by
  decide

/-- The variables of parameters, and the one that has the arguments past them. -/
def arguments (params : List String) (args : List Value) : List (String × Value) :=
  params.mapIdx (fun index name => (name, args.getD index .void)) ++
    if params.length < args.length then [(surplusName, .ofList (args.drop params.length))] else []

/-- A parameter has the first argument, or void. -/
theorem arguments_cons (name : String) (names : List String) (args : List Value) :
    arguments (name :: names) args = (name, args.headD .void) :: arguments names args.tail := by
  cases args with
  | nil => simp [arguments]
  | cons arg args =>
      simp only [arguments, List.mapIdx_cons, List.cons_append, List.getD_cons_zero,
        List.getD_cons_succ, List.length_cons, Nat.add_lt_add_iff_right, List.drop_succ_cons,
        List.headD_cons, List.tail_cons]
      congr

theorem map_fst_arguments (params : List String) (args : List Value) :
    (arguments params args).map Prod.fst =
      params ++ if params.length < args.length then [surplusName] else [] := by
  induction params generalizing args with
  | nil => cases args <;> simp [arguments]
  | cons name names ih =>
      rw [arguments_cons, List.map_cons, ih, List.cons_append, List.length_tail,
        List.length_cons]
      simp only [Nat.lt_sub_iff_add_lt]

variable [KeyHash]

/-- Parameters are bound one by one, after whatever the frame has. -/
theorem frameOver_bindParams
    {base stack : ScopeStack}
    {entries : List (String × Value)}
    (frame : base.FrameOver entries stack)
    (params : List String)
    (args : List Value)
    (different : ((entries ++ arguments params args).map Prod.fst).Nodup) :
    base.FrameOver (entries ++ arguments params args) (bindParams stack params args) := by
  induction params generalizing stack entries args with
  | nil =>
      cases args with
      | nil => simpa [arguments, bindParams] using frame
      | cons first rest =>
          have fresh : surplusName ∉ entries.map Prod.fst := by
            rw [List.map_append, List.nodup_append] at different
            exact fun member => different.2.2 _ member surplusName (by simp [arguments]) rfl
          simpa [arguments, bindParams] using frame.define fresh (.ofList (first :: rest))
  | cons name names ih =>
      rw [arguments_cons, List.append_cons] at different ⊢
      have fresh : name ∉ entries.map Prod.fst := by
        rw [List.map_append, List.map_append, List.nodup_append, List.nodup_append] at different
        exact fun member => different.1.2.2 name member name (by simp) rfl
      exact ih (frame.define fresh _) args.tail different

end Engine

/-! ## The frame of a call -/

namespace Call

open Engine

variable {call : Call} {params : List String} {bound : List Value} {engine : Engine}

/-- The variables of the frame of a call: its arguments and its receiver. -/
def locals (call : Call) (params : List String) (bound : List Value) : List (String × Value) :=
  arguments params bound ++ call.receiver?.toList.map fun receiver => (receiverName, receiver)

theorem map_fst_locals (call : Call) (params : List String) (bound : List Value) :
    (call.locals params bound).map Prod.fst =
      params ++ (if params.length < bound.length then [surplusName] else []) ++
        if call.receiver?.isSome then [receiverName] else [] := by
  rw [locals, List.map_append, map_fst_arguments]
  cases call.receiver? <;> rfl

theorem nodup_locals
    (call : Call)
    (different : params.Nodup)
    (noSurplus : surplusName ∉ params)
    (noReceiver : receiverName ∉ params)
    (bound : List Value) :
    ((call.locals params bound).map Prod.fst).Nodup := by
  have apart := surplusName_ne_receiverName
  rw [map_fst_locals]
  split <;> split <;> grind

variable [KeyHash]

/-- A body starts in a frame with the variables of its call. -/
theorem exists_userEntry_frame
    (evaluator : engine.hasEvaluator = true)
    (binds : call.signature.bind call.args = .ok bound)
    (different : ((call.locals params bound).map Prod.fst).Nodup) :
    ∃ start, call.userEntry params engine.opened = .ok start ∧
      engine.scopes.FrameOver (call.locals params bound) start.scopes := by
  have able : engine.opened.hasEvaluator = true := evaluator
  unfold locals at different ⊢
  rw [List.map_append] at different
  have frame := frameOver_bindParams engine.scopes.frameOver_push params bound
    (List.Nodup.of_append_left different)
  rw [List.nil_append] at frame
  simp only [userEntry, able, if_true, binds, Except.map]
  cases receiver : call.receiver? with
  | none =>
      rw [Option.toList_none, List.map_nil, List.append_nil]
      exact ⟨_, rfl, frame⟩
  | some value =>
      rw [receiver, List.nodup_append] at different
      have fresh : receiverName ∉ (arguments params bound).map Prod.fst :=
        fun member => different.2.2 receiverName member receiverName (by simp) rfl
      exact ⟨_, rfl, frame.define fresh value⟩

end Call

namespace Engine

section

variable [KeyHash]

/-- The elements of the array of surplus arguments, if a scope has one. -/
def surplusIn (scope : Scope) : List Value :=
  match scope.get? surplusName with
  | some (.plain (.array items)) => items.values
  | _ => []

/-- A body starts with its arguments as variables. -/
structure StartsWith
    (engine : Engine)
    (params : List String)
    (bound : List Value)
    (receiver? : Option Value)
    (start : Engine) : Prop where
  depth : start.depth = engine.depth + 1
  outer : ∀ index < engine.depth, start.scopes.scopeAt? index = engine.scopes.scopeAt? index
  parameter : ∀ index name, params[index]? = some name →
    getVariable name start = (.ok (bound.getD index .void), start)
  receiver : ∀ receiver ∈ receiver?, getVariable receiverName start = (.ok receiver, start)
  frame : ∃ scope, start.scopes.scopeAt? engine.depth = some scope ∧
    scope.keys = params ++ (if params.length < bound.length then [surplusName] else []) ++
      (if receiver?.isSome then [receiverName] else []) ∧
    (params.take bound.length).filterMap start.scopes.get? ++ surplusIn scope = bound

omit [KeyHash] in
/-- A parameter has the argument at its position, or void. -/
theorem mem_arguments
    {params : List String}
    {index : Nat}
    {name : String}
    (there : params[index]? = some name)
    (args : List Value) :
    (name, args.getD index .void) ∈ arguments params args := by
  obtain ⟨inside, rfl⟩ := List.getElem?_eq_some_iff.mp there
  exact List.mem_append_left _ (List.mem_mapIdx.mpr ⟨index, inside, rfl⟩)

omit [KeyHash] in
/-- Reading the parameters that have arguments gives these arguments. -/
theorem filterMap_take_params
    {read : String → Option Value}
    (params : List String)
    (args : List Value)
    (reads : ∀ index name, params[index]? = some name → read name = some (args.getD index .void)) :
    (params.take args.length).filterMap read = args.take params.length := by
  induction params generalizing args with
  | nil => simp
  | cons name names ih =>
      cases args with
      | nil => simp
      | cons arg args =>
          have first : read name = some arg := reads 0 name rfl
          have rest := ih args fun index name there => reads (index + 1) name there
          simp [first, rest]

section Reading

variable {engine : Engine} {name : String}

theorem getVariable_eq {value : Value} (found : engine.scopes.get? name = some value) :
    getVariable name engine = (.ok value, engine) := by
  rw [getVariable, Run.get_bind, found]
  rfl

/-- An unbound variable is an error with a hint. -/
theorem getVariable_missing (missing : engine.scopes.get? name = none) :
    getVariable name engine =
      (.error (.error { cause := .undefinedVariable name, hint := engine.hintFor name }),
        engine) := by
  rw [getVariable, Run.get_bind, missing]
  rfl

end Reading

/-- Every argument of a user-defined call is found in its frame. -/
theorem startsWith_of_frame
    {call : Call}
    {params : List String}
    {bound : List Value}
    {engine start : Engine}
    (frame : engine.scopes.FrameOver (call.locals params bound) start.scopes)
    (different : ((call.locals params bound).map Prod.fst).Nodup)
    (noSurplus : surplusName ∉ params) :
    engine.StartsWith params bound call.receiver? start := by
  have parameter (index : Nat) (name : String) (there : params[index]? = some name) :
      start.scopes.get? name = some (bound.getD index .void) :=
    frame.get?_eq different (List.mem_append_left _ (mem_arguments there bound))
  obtain ⟨scope, found, keys, values, absent⟩ := frame.exists_scope different
  have surplus : surplusIn scope = bound.drop params.length := by
    by_cases more : params.length < bound.length
    · have stored := values surplusName (.ofList (bound.drop params.length))
        (by simp [Call.locals, arguments, more])
      rw [surplusIn, stored, Value.ofList]
      simp only [OrderedMap.values, OrderedMap.toList_ofValues, List.filterMap_map,
        Slot.value?_comp_item, List.filterMap_some]
    · have missing := absent surplusName (by
        rw [Call.map_fst_locals, if_neg more]
        cases call.receiver? <;> simp [noSurplus, surplusName_ne_receiverName])
      rw [surplusIn, missing, List.drop_eq_nil_of_le (Nat.le_of_not_lt more)]
  refine ⟨frame.depth, frame.lower, fun index name there => ?_, fun receiver given => ?_, ?_⟩
  · exact getVariable_eq (parameter index name there)
  · refine getVariable_eq (frame.get?_eq different (List.mem_append_right _ ?_))
    rw [Option.mem_def.mp given]
    exact List.mem_singleton_self _
  · refine ⟨scope, found, by rw [keys, Call.map_fst_locals], ?_⟩
    rw [filterMap_take_params params bound parameter, surplus, List.take_append_drop]

/-- Every argument of a user-defined call is bound: the body starts in a scope
with its parameters, the surplus arguments and the receiver, and no argument is
lost. -/
theorem user_calls_bind_every_argument
    (call : Call)
    (params : List String)
    (body : Program)
    (user : call.signature.implementation = .user params body)
    (different : params.Nodup)
    (noSurplus : surplusName ∉ params)
    (noReceiver : receiverName ∉ params)
    (bound : List Value)
    (binds : call.signature.bind call.args = .ok bound)
    (engine : Engine)
    (room : engine.callDepth < engine.maxCallDepth)
    (evaluator : engine.hasEvaluator = true)
    (frames : Nat) :
    ∃ start left, engine.StartsWith params bound call.receiver? start ∧
      dispatch (frames + 1) call engine =
        ({ outcome := (Program.exec (dispatch frames) body start).1, receiver? := left },
          engine.closed (Program.exec (dispatch frames) body start).2) := by
  have apart := call.nodup_locals different noSurplus noReceiver bound
  obtain ⟨start, entered, frame⟩ := Call.exists_userEntry_frame evaluator binds apart
  have begun : call.entry engine.opened = .ok start := by rw [Call.entry, user]; exact entered
  have runs : call.body (dispatch frames) = Program.exec (dispatch frames) body := by
    rw [Call.body, user]
  obtain ⟨left, ended⟩ := framed_of_ok begun (Program.exec (dispatch frames) body)
  refine ⟨start, left, startsWith_of_frame frame apart noSurplus, ?_⟩
  rw [dispatch_framed room, runs, ended]

end

/-- A method with two parameters, called with three arguments of which the first
is converted. -/
def paddingCall : Call where
  signature := ⟨0, "pad", ⟨[.forced .int, .rest]⟩, 'v', .user ["x", "y"] []⟩
  args := [.bool true, .int 2, .int 3]
  receiver? := some (.record .empty)

/-- An engine that has a variable with the name of a parameter. -/
def paddingEngine : Engine :=
  { (Engine.new {} .bare).define "x" (.int 9) with hasEvaluator := true }

/-- A method with parameters, a surplus and a receiver. -/
theorem paddingCall_binds_every_argument :
    ∃ start left, getVariable "x" start = (.ok (.int 1), start) ∧
      getVariable "y" start = (.ok (.int 2), start) ∧
      getVariable "self" start = (.ok (.record .empty), start) ∧
      (∃ scope, start.scopes.scopeAt? 1 = some scope ∧
        scope.keys = ["x", "y", "varargs", "self"] ∧
        ["x", "y"].filterMap start.scopes.get? ++ surplusIn scope = [.int 1, .int 2, .int 3]) ∧
      dispatch 1 paddingCall paddingEngine =
        ({ outcome := .ok .void, receiver? := left }, paddingEngine.closed start) := by
  obtain ⟨start, left, begins, runs⟩ := user_calls_bind_every_argument paddingCall ["x", "y"] []
    rfl (by decide) (by decide) (by decide) [.int 1, .int 2, .int 3] rfl paddingEngine (by decide)
    rfl 0
  exact ⟨start, left, begins.parameter 0 "x" rfl, begins.parameter 1 "y" rfl,
    begins.receiver _ rfl, begins.frame, runs⟩

end Engine
end ScriptCore
