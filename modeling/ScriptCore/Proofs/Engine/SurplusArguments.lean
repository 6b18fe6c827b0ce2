import ScriptCore.OrderedMap.Spread
import ScriptCore.Proofs.Engine.MethodCalls
import ScriptCore.Proofs.Engine.Parameters
import ScriptCore.Proofs.Scope.Reachable

/-!
# Surplus arguments in nested calls

Only a call with arguments past its parameters binds them, and names are looked
up in the frames of all active calls. A body without surplus arguments therefore
reads those of the nearest caller that has some: the arguments are its own only
if it has some itself or no caller does.

The scopes below the innermost frame keep their answers for a name as long as
nobody writes it and the frame is not closed. This is shown for every run within
rights, and then for every chain of active calls.
-/

namespace ScriptCore

/-! ## Answers below a floor -/

namespace ScopeStack

variable {base stack after : ScopeStack} {name other : String} {value : Value}
  {below : List (Option Binding)} {top : Option Binding}

variable [KeyHash]

/-- The lower scopes answer for a name as listed, and the others not at all. -/
structure AnswersFrom (stack : ScopeStack) (name : String) (below : List (Option Binding)) :
    Prop where
  coherent : stack.Coherent
  silent : ∃ count, stack.answers name = below ++ List.replicate count none

namespace AnswersFrom

theorem self (coherent : stack.Coherent) (name : String) :
    stack.AnswersFrom name (stack.answers name) :=
  ⟨coherent, 0, (List.append_nil _).symm⟩

/-- Answers from below depend on the answers alone. -/
theorem of_same
    (answersFrom : stack.AnswersFrom name below)
    (coherent : after.Coherent)
    (same : after.answers name = stack.answers name) :
    after.AnswersFrom name below :=
  ⟨coherent, same ▸ answersFrom.silent⟩

theorem length_le (answersFrom : stack.AnswersFrom name below) : below.length ≤ stack.depth := by
  obtain ⟨count, answers⟩ := answersFrom.silent
  rw [← length_answers stack name, answers, List.length_append]
  exact Nat.le_add_right _ _

/-- The nearest binding is below the floor. -/
theorem binding?_eq (answersFrom : stack.AnswersFrom name below) :
    stack.binding? name = (below.filterMap id).getLast? := by
  obtain ⟨count, answers⟩ := answersFrom.silent
  rw [binding?_eq_answers, answers, List.filterMap_append, List.filterMap_replicate_of_none rfl,
    List.append_nil]

theorem push (answersFrom : stack.AnswersFrom name below) : stack.push.AnswersFrom name below := by
  obtain ⟨count, answers⟩ := answersFrom.silent
  refine ⟨answersFrom.coherent.push, count + 1, ?_⟩
  rw [answers_push, answers, List.append_assoc, List.replicate_succ']

/-- Scopes are closed down to the floor at most. -/
theorem take
    {depth : Nat}
    (answersFrom : stack.AnswersFrom name below)
    (coherent : after.Coherent)
    (taken : after.answers name = (stack.answers name).take depth)
    (enough : below.length ≤ depth) :
    after.AnswersFrom name below := by
  obtain ⟨count, answers⟩ := answersFrom.silent
  refine ⟨coherent, min (depth - below.length) count, ?_⟩
  rw [taken, answers, List.take_append, List.take_of_length_le enough, List.take_replicate]

theorem pop
    (answersFrom : stack.AnswersFrom name below)
    (popped : stack.pop? = some after)
    (inside : below.length < stack.depth) :
    after.AnswersFrom name below := by
  have shrunk := depth_of_pop? popped
  exact answersFrom.take (Everywhere.pop? answersFrom.coherent popped)
    (answers_of_pop? popped name) (by omega)

theorem truncate
    {depth : Nat}
    (answersFrom : stack.AnswersFrom name below)
    (positive : 0 < depth)
    (enough : below.length ≤ depth) :
    (stack.truncate depth).AnswersFrom name below :=
  answersFrom.take (Everywhere.truncate answersFrom.coherent depth)
    (answers_truncate stack positive name) enough

theorem rebinds
    {index : Nat}
    {binding : Binding}
    (answersFrom : stack.AnswersFrom name below)
    (rebinds : stack.Rebinds index other binding after)
    (different : name ≠ other) :
    after.AnswersFrom name below :=
  answersFrom.of_same (Coherent.rebinds answersFrom.coherent rebinds)
    (rebinds.answers_other answersFrom.coherent different)

/-- Unbinding other names leaves the answers from below. -/
theorem unbindAll
    (names : List String)
    (answersFrom : stack.AnswersFrom name below)
    (different : name ∉ names) :
    (names.foldl unbindGlobal stack).AnswersFrom name below := by
  induction names generalizing stack with
  | nil => exact answersFrom
  | cons other names ih =>
      rw [List.mem_cons, not_or] at different
      refine ih ?_ different.2
      exact answersFrom.of_same (Coherent.unbindGlobal answersFrom.coherent other)
        (answers_unbindGlobal answersFrom.coherent different.1)

end AnswersFrom

/-- A stack with one scope more than another, which answers for a name as
given. -/
structure ToppedBy
    (base : ScopeStack)
    (name : String)
    (top : Option Binding)
    (stack : ScopeStack) : Prop where
  coherent : stack.Coherent
  answers : stack.answers name = base.answers name ++ [top]

theorem toppedBy_push (coherent : base.Coherent) (name : String) :
    base.ToppedBy name none base.push :=
  ⟨Coherent.push coherent, answers_push base name⟩

theorem ToppedBy.answersFrom (topped : base.ToppedBy name top stack) :
    stack.AnswersFrom name (base.answers name ++ [top]) :=
  topped.answers ▸ .self topped.coherent name

/-- A definition in a frame is its own answer for that name. -/
theorem ToppedBy.define
    (topped : base.ToppedBy name top stack)
    (other : String)
    (value : Value) :
    base.ToppedBy name (if name = other then some (.plain value) else top)
      (stack.define other value) := by
  have rebinds := stack.define_rebinds other value
  refine ⟨Coherent.rebinds topped.coherent rebinds, ?_⟩
  split
  · next same =>
    subst same
    have innermost : stack.inner.length = (base.answers name).length := by
      have length := length_answers stack name
      rw [topped.answers, List.length_append] at length
      exact (Nat.succ.inj length).symm
    rw [rebinds.answers_self topped.coherent, topped.answers, innermost]
    simp
  · next different => rw [rebinds.answers_other topped.coherent different, topped.answers]

/-- Parameters are variables of the innermost scope. -/
theorem ToppedBy.bindParams
    (topped : base.ToppedBy name top stack)
    (params : List String)
    (args : List Value) :
    ∃ bound, base.ToppedBy name bound (Engine.bindParams stack params args) := by
  induction params generalizing stack top args with
  | nil =>
      cases args with
      | nil => exact ⟨top, topped⟩
      | cons first rest => exact ⟨_, topped.define _ _⟩
  | cons param params ih =>
      exact ih (topped.define param (args.headD .void)) args.tail

end ScopeStack

/-! ## Runs that spare a name -/

/-- Every right that spares a name, but to close the scopes below a floor, be it
by failing out of a nested script. -/
def Rights.reserving (name : String) (floor : Nat) : Rights where
  enters := true
  leaves engine := decide (floor < engine.depth)
  defines _ other _ := other != name
  assigns _ other _ := other != name
  registers other := other != name
  removes other := other != name
  resets := false

/-- No body writes a name, nor does it close the frame of its own call. -/
abbrev Policy.reserving (name : String) : Policy :=
  Rights.reserving name

namespace Engine

variable {name : String} {below : List (Option Binding)}

section

variable [KeyHash]

/-- The scopes answer for a name as before. -/
def SameAnswers (name : String) (before after : Engine) : Prop :=
  before.scopes.Coherent →
    after.scopes.Coherent ∧ after.scopes.answers name = before.scopes.answers name

/-- The scopes below a floor answer for a name as listed, before and after. -/
def KeepsAnswers (name : String) (below : List (Option Binding)) (before after : Engine) : Prop :=
  before.scopes.AnswersFrom name below → after.scopes.AnswersFrom name below

theorem SameAnswers.keeps
    {before after : Engine}
    (same : SameAnswers name before after) :
    KeepsAnswers name below before after := by
  intro answersFrom
  obtain ⟨coherent, answers⟩ := same answersFrom.coherent
  exact answersFrom.of_same coherent answers

/-- A change that leaves the name alone keeps its answers from below. -/
theorem keepsAnswers_of_change
    {floor : Nat}
    (level : below.length = floor)
    {engine after : Engine}
    (change : ScopeChange (.reserving name floor) engine after.scopes) :
    KeepsAnswers name below engine after := by
  intro answersFrom
  have differs {other : String} (may : (other != name) = true) : name ≠ other :=
    Ne.symm (bne_iff_ne.mp may)
  generalize after.scopes = scopes at change ⊢
  cases change with
  | cells cells => exact answersFrom.of_same answersFrom.coherent rfl
  | push => exact answersFrom.push
  | pop _ may popped =>
      have inside : floor < engine.scopes.depth := of_decide_eq_true may
      exact answersFrom.pop popped (level ▸ inside)
  | define other value may =>
      exact answersFrom.rebinds (engine.scopes.define_rebinds other value) (differs may)
  | assign other value _ may rebinds _ => exact answersFrom.rebinds rebinds (differs may)
  | register other binding _ may rebinds => exact answersFrom.rebinds rebinds (differs may)
  | remove names may =>
      exact answersFrom.unbindAll names fun member => differs (may name member) rfl

/-- Closing scopes down to those of an engine that is above the floor. -/
theorem keepsAnswers_restore
    {engine after : Engine}
    (answersFrom : engine.scopes.AnswersFrom name below)
    (left : after.scopes.AnswersFrom name below) :
    (after.restore engine.depth engine.callDepth).scopes.AnswersFrom name below :=
  left.truncate (Nat.zero_lt_succ _) answersFrom.length_le

/-- A body that spares a name keeps the answers below its floor, provided that
the calls it makes keep all answers. -/
theorem kept_answers
    {dispatch : Dispatcher}
    {floor : Nat}
    (level : below.length = floor)
    (calls : ∀ call, Respects (SameAnswers name) (dispatch call)) :
    Kept dispatch (.reserving name floor) (KeepsAnswers name below) := by
  apply Kept.of_changes
  · rfl
  · exact fun first second answersFrom => second (first answersFrom)
  · exact fun call engine => (calls call engine).keeps
  · exact fun _ change => keepsAnswers_of_change level change
  · exact fun keeps answersFrom => keepsAnswers_restore answersFrom (keeps answersFrom.push)
  · exact fun keeps answersFrom => keepsAnswers_restore answersFrom (keeps answersFrom)

/-- The frame of a call answers for itself, and below it all is as before. -/
theorem invoke_toppedBy
    {dispatch : Dispatcher}
    (calls : ∀ call, Respects (SameAnswers name) (dispatch call))
    (call : Call)
    {engine : Engine}
    (coherent : engine.scopes.Coherent) :
    ∃ top, ((Policy.reserving name).invoke dispatch call engine.opened).2.scopes.AnswersFrom name
      (engine.scopes.answers name ++ [top]) := by
  have opened : engine.scopes.ToppedBy name none engine.opened.scopes :=
    ScopeStack.toppedBy_push coherent name
  have level (top : Option Binding) :
      (engine.scopes.answers name ++ [top]).length = engine.opened.depth := by
    rw [List.length_append, ScopeStack.length_answers]
    rfl
  have kept (top : Option Binding) :
      Kept dispatch (.reserving name engine.opened.depth)
        (KeepsAnswers name (engine.scopes.answers name ++ [top])) :=
    kept_answers (level top) calls
  unfold Policy.invoke
  rw [get_bind_eq]
  cases call.signature.implementation with
  | library function argCount =>
      refine ⟨none, (kept none).invokeNative (fun start => ?_) call _ opened.answersFrom⟩
      exact (kept none).of_edits (Library.exec_stays function start)
  | native argCount body =>
      exact ⟨none, (kept none).invokeNative ((kept none).execSteps .void body) call _
        opened.answersFrom⟩
  | user params body =>
      -- Whatever the frame answers when the body starts, it answers in the end.
      dsimp only
      rcases invokeUser_cases call params _ engine.opened with ⟨outcome, idle⟩ |
        ⟨bound, ⟨-, ran⟩ | ⟨receiver, -, ran⟩⟩
      · rw [idle]
        exact ⟨none, opened.answersFrom⟩
      · obtain ⟨top, topped⟩ := opened.bindParams params bound
        rw [ran]
        exact ⟨top, (kept top).withSlots ((kept top).execSteps .void body) [] _ topped.answersFrom⟩
      · obtain ⟨top, topped⟩ := opened.bindParams params bound
        have received := topped.define receiverName receiver
        rw [ran]
        exact ⟨_, (kept _).withSlots ((kept _).execSteps .void body) [] _ received.answersFrom⟩

/-- Calls that spare a name keep all answers for it, to any depth of nesting. -/
theorem dispatch_sameAnswers (name : String) (frames : Nat) (call : Call) :
    Respects (SameAnswers name) ((Policy.reserving name).dispatch frames call) := by
  refine Policy.dispatch_respects (fun _ coherent => ⟨coherent, rfl⟩) ?_ frames call
  intro dispatch calls call engine coherent
  obtain ⟨top, answersFrom⟩ := invoke_toppedBy calls call coherent
  obtain ⟨count, answers⟩ := answersFrom.silent
  refine ⟨ScopeStack.Everywhere.truncate answersFrom.coherent _, ?_⟩
  have length : engine.depth = (engine.scopes.answers name).length :=
    (ScopeStack.length_answers engine.scopes name).symm
  have positive : 0 < engine.depth := ScopeStack.depth_pos
  refine (ScopeStack.answers_truncate _ positive name).trans ?_
  rw [answers, List.append_assoc, length, List.take_left]

/-! ## Chains of calls -/

/-- What a frame answers for surplus arguments. -/
def surplusBinding? (surplus : List Value) : Option Binding :=
  if surplus = [] then none else some (.plain (.ofList surplus))

/-- A frame without a parameter of that name answers with its surplus
arguments. -/
theorem toppedBy_bindParams
    {base stack : ScopeStack}
    (topped : base.ToppedBy surplusName none stack)
    {params : List String}
    (noSurplus : surplusName ∉ params)
    (args : List Value) :
    base.ToppedBy surplusName (surplusBinding? (args.drop params.length))
      (bindParams stack params args) := by
  induction params generalizing stack args with
  | nil =>
      cases args with
      | nil => exact topped
      | cons first rest => exact topped.define surplusName (.ofList (first :: rest))
  | cons param params ih =>
      rw [List.mem_cons, not_or] at noSurplus
      have next := topped.define param (args.headD .void)
      rw [if_neg noSurplus.1] at next
      have rest := ih next noSurplus.2 args.tail
      rwa [List.drop_tail, ← List.length_cons] at rest

/-- The start of a user-defined body. -/
theorem userEntry_toppedBy
    {call : Call}
    {params : List String}
    {bound : List Value}
    {engine start : Engine}
    (coherent : engine.scopes.Coherent)
    (noSurplus : surplusName ∉ params)
    (binds : call.signature.bind call.args = .ok bound)
    (entered : call.userEntry params engine.opened = .ok start) :
    engine.scopes.ToppedBy surplusName (surplusBinding? (bound.drop params.length))
      start.scopes := by
  have opened : engine.scopes.ToppedBy surplusName none engine.opened.scopes :=
    ScopeStack.toppedBy_push coherent surplusName
  have framed := toppedBy_bindParams opened noSurplus bound
  unfold Call.userEntry at entered
  split at entered
  · rw [binds] at entered
    cases receiver : call.receiver? with
    | none =>
        rw [receiver] at entered
        cases entered
        exact framed
    | some value =>
        rw [receiver] at entered
        cases entered
        have received := framed.define receiverName value
        rwa [if_neg surplusName_ne_receiverName] at received
  · cases entered

/-- The engines that occur while calls are active, with the surplus arguments of
the user-defined ones, innermost first, and the number of scopes at the start of
the innermost body. No parameter and no variable has the name of surplus
arguments, and no body closes the frame of its call: enforcing this makes no
difference to what runs. -/
inductive Nested : List (List Value) → Nat → Engine → Prop where
  | rest {engine : Engine}
      (reachable : engine.scopes.Reachable)
      (free : engine.scopes.contains surplusName = false) :
      Nested [] engine.depth engine
  | user {calls : List (List Value)} {floor : Nat} {engine start : Engine}
      (nested : Nested calls floor engine)
      {call : Call} {params : List String} {body : Program} {bound : List Value}
      (running : call.signature.implementation = .user params body)
      (noSurplus : surplusName ∉ params)
      (binds : call.signature.bind call.args = .ok bound)
      (entered : call.entry engine.opened = .ok start) :
      Nested (bound.drop params.length :: calls) start.depth start
  | native {calls : List (List Value)} {floor : Nat} {engine start : Engine}
      (nested : Nested calls floor engine)
      {call : Call}
      (running : call.signature.origin = .native)
      (entered : call.entry engine.opened = .ok start) :
      Nested calls start.depth start
  | steps {calls : List (List Value)} {floor : Nat} {engine : Engine}
      (nested : Nested calls floor engine)
      (frames : Nat) (program : Program)
      (within : (Rights.reserving surplusName floor).exec
          ((Policy.reserving surplusName).dispatch frames) program engine =
        Program.exec (dispatch frames) program engine) :
      Nested calls floor (Program.exec (dispatch frames) program engine).2
  | called {calls : List (List Value)} {floor : Nat} {engine : Engine}
      (nested : Nested calls floor engine)
      (frames : Nat) (call : Call)
      (within : (Policy.reserving surplusName).dispatch frames call engine =
        dispatch frames call engine) :
      Nested calls floor (dispatch frames call engine).2
  | block {calls : List (List Value)} {floor : Nat} {engine : Engine}
      (nested : Nested calls floor engine) :
      Nested calls floor (engine.mapScopes ScopeStack.push)
  | beside {calls : List (List Value)} {floor : Nat} {engine other : Engine}
      (nested : Nested calls floor engine)
      (same : other.scopes = engine.scopes) :
      Nested calls floor other

/-- The surplus arguments of the nearest call that has some. -/
def nearestSurplus : List (List Value) → List Value
  | [] => []
  | [] :: callers => nearestSurplus callers
  | own :: _ => own

/-- The lower scopes answer with the surplus arguments of the nearest call that
has some. -/
def Answering (calls : List (List Value)) (floor : Nat) (engine : Engine) : Prop :=
  ∃ below, engine.scopes.AnswersFrom surplusName below ∧ below.length = floor ∧
    (below.filterMap id).getLast? = surplusBinding? (nearestSurplus calls)

section Answering

variable {calls : List (List Value)} {floor : Nat} {engine start : Engine}

/-- The surplus that is visible is the nearest one among the active calls. -/
theorem Answering.binding?_eq (answering : Answering calls floor engine) :
    engine.scopes.binding? surplusName = surplusBinding? (nearestSurplus calls) := by
  obtain ⟨below, answersFrom, -, nearest⟩ := answering
  rw [answersFrom.binding?_eq, nearest]

theorem Answering.coherent (answering : Answering calls floor engine) :
    engine.scopes.Coherent := by
  obtain ⟨below, answersFrom, -⟩ := answering
  exact answersFrom.coherent

/-- One frame more, with or without surplus arguments. -/
theorem Answering.enter
    {own : List Value}
    (answering : Answering calls floor engine)
    (topped : engine.scopes.ToppedBy surplusName (surplusBinding? own) start.scopes) :
    Answering (own :: calls) start.depth start := by
  refine ⟨_, .self topped.coherent surplusName, ScopeStack.length_answers .., ?_⟩
  have before := answering.binding?_eq
  rw [ScopeStack.binding?_eq_answers] at before
  rw [topped.answers, List.filterMap_append, List.getLast?_append, before]
  cases own <;> rfl

/-- Along nested calls the visible surplus is the nearest one. -/
theorem Nested.answering (nested : Nested calls floor engine) :
    Answering calls floor engine := by
  induction nested with
  | @rest engine reachable free =>
      refine ⟨_, .self reachable.sound.coherent surplusName, ScopeStack.length_answers .., ?_⟩
      rw [← ScopeStack.binding?_eq_answers]
      exact Option.not_isSome_iff_eq_none.mp (Bool.eq_false_iff.mp free)
  | user _ running noSurplus binds entered answering =>
      rw [Call.entry, running] at entered
      exact answering.enter (userEntry_toppedBy answering.coherent noSurplus binds entered)
  | @native calls _ engine start _ _ running entered answering =>
      rw [Call.entry_native running] at entered
      obtain ⟨slots, begun, -⟩ := Call.exists_nativeEntry entered
      -- The frame of a native is like that of a call without surplus arguments.
      have topped : engine.scopes.ToppedBy surplusName (surplusBinding? []) start.scopes := by
        rw [begun]
        exact ScopeStack.toppedBy_push answering.coherent surplusName
      exact answering.enter topped
  | steps _ frames program within answering =>
      obtain ⟨below, answersFrom, level, nearest⟩ := answering
      have kept := kept_answers level (dispatch_sameAnswers surplusName frames)
      rw [← within]
      exact ⟨below, kept.execSteps .void program _ answersFrom, level, nearest⟩
  | called _ frames call within answering =>
      obtain ⟨below, answersFrom, level, nearest⟩ := answering
      rw [← within]
      exact ⟨below, (dispatch_sameAnswers surplusName frames call _).keeps answersFrom, level,
        nearest⟩
  | block _ answering =>
      obtain ⟨below, answersFrom, level, nearest⟩ := answering
      exact ⟨below, answersFrom.push, level, nearest⟩
  | beside _ same answering =>
      unfold Answering at answering ⊢
      rwa [same]

end Answering

/-! ## Reading surplus arguments -/

/-- What reading surplus arguments gives: an array of them, or a failure if there
are none. -/
def surplusReading (surplus : List Value) (engine : Engine) : Except Failure Value × Engine :=
  if surplus = [] then
    (.error (.error
      { cause := .undefinedVariable surplusName, hint := engine.hintFor surplusName }), engine)
  else (.ok (.ofList surplus), engine)

/-- Reading the surplus gives an array of it, or an error if there is none. -/
theorem getVariable_of_binding?
    {surplus : List Value}
    {engine : Engine}
    (found : engine.scopes.binding? surplusName = surplusBinding? surplus) :
    getVariable surplusName engine = surplusReading surplus engine := by
  unfold surplusBinding? at found
  unfold surplusReading
  split at found
  · next none =>
    rw [if_pos none]
    exact getVariable_missing (by rw [ScopeStack.get?, found]; rfl)
  · next some =>
    rw [if_neg some]
    exact getVariable_eq (by rw [ScopeStack.get?, found]; rfl)

omit [KeyHash] in
/-- There is no surplus to see exactly if no active call has one. -/
theorem nearestSurplus_eq_nil_iff {calls : List (List Value)} :
    nearestSurplus calls = [] ↔ ∀ surplus ∈ calls, surplus = [] := by
  induction calls with
  | nil => simp [nearestSurplus]
  | cons own callers ih =>
      cases own with
      | nil => simpa [nearestSurplus] using ih
      | cons first rest => simp [nearestSurplus]

/-- A body reads the surplus arguments of the nearest active call that has some,
and fails if there is none. They are those of its own call exactly if that has
some or no caller does. -/
theorem surplus_read_from_nearest_call
    (calls : List (List Value))
    (floor : Nat)
    (engine : Engine)
    (nested : Nested calls floor engine) :
    getVariable surplusName engine = surplusReading (nearestSurplus calls) engine ∧
    ∀ own callers, calls = own :: callers →
      (getVariable surplusName engine = surplusReading own engine ↔
        own ≠ [] ∨ ∀ surplus ∈ callers, surplus = []) := by
  have reads := getVariable_of_binding? nested.answering.binding?_eq
  refine ⟨reads, ?_⟩
  rintro own callers rfl
  rw [reads, ← nearestSurplus_eq_nil_iff]
  cases own with
  | cons first rest => simp [nearestSurplus]
  | nil =>
      rw [nearestSurplus]
      by_cases none : nearestSurplus callers = []
      · simp [none]
      · have differs : surplusReading (nearestSurplus callers) engine ≠
            surplusReading [] engine := by
          rw [surplusReading, if_neg none]
          exact fun same => nomatch congrArg Prod.fst same
        simp [none, differs]

end

/-- A function without parameters that reads surplus arguments. -/
def readingSignature : Signature :=
  ⟨0, "inner", ⟨[]⟩, 'v', .user [] [.action (.value (.var surplusName))]⟩

/-- A function for any arguments that calls the other one without any. -/
def passingSignature : Signature :=
  ⟨1, "outer", ⟨[.rest]⟩, 'v', .user [] [.action (.call "inner" [])]⟩

def passingEngine : Engine :=
  { ((Engine.new {} .bare).registerSignature
      readingSignature).registerSignature passingSignature with hasEvaluator := true }

/-- The inner body starts while the outer call has a surplus argument. -/
theorem exists_nested_passing : ∃ engine, Nested [[], [.int 1]] 3 engine := by
  have reachable : passingEngine.scopes.Reachable := .register (.register (.new _) _) _
  have rest : Nested [] 1 passingEngine := .rest reachable (by cbv)
  let outerCall : Call := ⟨passingSignature, [.int 1], none⟩
  let innerCall : Call := ⟨readingSignature, [], none⟩
  have outerBinds : outerCall.signature.bind outerCall.args = .ok [.int 1] := rfl
  have innerBinds : innerCall.signature.bind innerCall.args = .ok [] := rfl
  have outer := rest.user rfl List.not_mem_nil outerBinds rfl
  have inner := outer.user rfl List.not_mem_nil innerBinds rfl
  exact ⟨_, inner⟩

/-- A call without surplus within one that has it. -/
theorem passing_reads_from_outer :
    ∃ engine, Nested [[], [.int 1]] 3 engine ∧
      getVariable surplusName engine = (.ok (.ofList [.int 1]), engine) := by
  obtain ⟨engine, nested⟩ := exists_nested_passing
  exact ⟨engine, nested, (surplus_read_from_nearest_call _ _ _ nested).1⟩

/-- A body without surplus arguments does not fail to read some: it gets those of
its caller. -/
theorem inner_body_reads_surplus_of_its_caller :
    (call "outer" [.int 1] passingEngine).1 = .ok (.ofList [.int 1]) ∧
      ∃ engine, Nested [[], [.int 1]] 3 engine ∧
        getVariable surplusName engine ≠ surplusReading [] engine := by
  refine ⟨rfl, ?_⟩
  obtain ⟨engine, nested⟩ := exists_nested_passing
  refine ⟨engine, nested, ?_⟩
  rw [getVariable_of_binding? nested.answering.binding?_eq]
  exact fun same => nomatch congrArg Prod.fst same

end Engine
end ScriptCore
