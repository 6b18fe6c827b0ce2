import ScriptCore.OrderedMap.Spread
import ScriptCore.Proofs.Engine.MethodCalls
import ScriptCore.Proofs.Record.Merging
import ScriptCore.Proofs.Scope.Reachable

/-!
# Selecting an overload

A call runs the newest signature of an overload set that takes its argument
count; if there is none, the newest signature of all. Selection counts the
receiver of a method as an argument of natives only, and so does binding, so
that a count is rejected only if no signature of the set takes it.
-/

namespace ScriptCore

open Engine

/-! ## Overload sets -/

section

variable [KeyHash]

namespace RecordOf

/-- Every method of a record has a signature. -/
def Callable (record : Record) : Prop :=
  record.methods.All fun function => function.overloads ≠ []

omit [KeyHash] in
theorem overloads_overloaded (signature : Signature) (before : Option Function) :
    (overloaded signature before).overloads =
      (before.elim [] Function.overloads) ++ [signature] := by
  cases before <;> rfl

theorem Callable.addMethod {record : Record} (callable : record.Callable) (signature : Signature) :
    (record.addMethod signature).Callable := by
  unfold Callable
  rw [methods_addMethod]
  apply OrderedMap.All.insert callable
  rw [overloads_overloaded]
  exact List.append_ne_nil_of_right_ne_nil _ (List.cons_ne_nil _ _)

/-- Merging leaves no method without overloads. -/
theorem Callable.merge {left right : Record} (callable : left.Callable)
    (other : right.Callable) : (left.merge right).Callable := by
  unfold Callable RecordOf.merge mergeMethods
  dsimp only
  split
  · exact callable
  · split
    · exact other
    · exact OrderedMap.All.merge (by simpa using ⟨callable, other⟩)

end RecordOf

theorem ClassDecl.callable_ownRecord (decl : ClassDecl) : decl.ownRecord.Callable :=
  List.foldlRecOn (motive := RecordOf.Callable) decl.methods _ OrderedMap.all_empty
    fun _ callable signature _ => callable.addMethod signature

theorem ClassDecl.callable_templateOver (decl : ClassDecl) (ancestors : List ClassDecl) :
    (decl.templateOver ancestors).Callable := by
  induction ancestors generalizing decl with
  | nil => exact decl.callable_ownRecord
  | cons parent ancestors ih =>
      exact (ih parent).merge decl.callable_ownRecord

/-- The methods of every reachable record have overloads. -/
theorem RecordOf.Reachable.callable {record : Record} (reachable : record.Reachable) :
    record.Callable := by
  induction reachable with
  | empty => exact OrderedMap.all_empty
  | ofClass => exact OrderedMap.all_empty
  | editFields _ _ ih => exact ih
  | addMethod _ signature ih => exact ih.addMethod signature
  | merge _ _ leftHypothesis rightHypothesis => exact leftHypothesis.merge rightHypothesis
  | deepCopy _ ih => exact ih
  | template cls => exact cls.decl.callable_templateOver cls.ancestors

namespace Function

variable {function : Function} {signature chosen : Signature} {takes : Signature → Prop}

/-- The overload sets that can be made: by registration, as methods of records,
or as values. -/
inductive Reachable : Function → Prop where
  | registered {stack : ScopeStack} {name : String} {function : Function}
      (reachable : stack.Reachable)
      (found : stack.binding? name = some (.function function)) :
      Reachable function
  | method {record : Record} {name : String} {function : Function}
      (reachable : record.Reachable)
      (found : record.method? name = some function) :
      Reachable function
  | value (first : Signature) (others : List Signature) :
      Reachable (others.foldl push (.ofSignature first))

omit [KeyHash] in
/-- Signatures are pushed in order. -/
theorem overloads_foldl_push (function : Function) (signatures : List Signature) :
    (signatures.foldl push function).overloads = function.overloads ++ signatures := by
  induction signatures generalizing function with
  | nil => simp
  | cons signature signatures ih =>
      rw [List.foldl_cons, ih, push, List.append_assoc, List.singleton_append]

/-- Every reachable function has an overload. -/
theorem Reachable.overloads_ne_nil (reachable : function.Reachable) :
    function.overloads ≠ [] := by
  cases reachable with
  | registered reachable found => exact reachable.sound.valid found
  | method reachable found => exact reachable.callable.get? found
  | value first others =>
      rw [overloads_foldl_push]
      exact List.append_ne_nil_of_left_ne_nil (List.cons_ne_nil _ _) _

/-! ## Selection -/

/-- The newest signature that takes a call, or the newest of all if none
does. -/
inductive Selects (function : Function) (takes : Signature → Prop) : Signature → Prop where
  | taken {older newer : List Signature} {chosen : Signature}
      (order : function.overloads = older ++ chosen :: newer)
      (accepted : takes chosen)
      (passed : ∀ signature ∈ newer, ¬ takes signature) :
      Selects function takes chosen
  | fallback {chosen : Signature}
      (none : ∀ signature ∈ function.overloads, ¬ takes signature)
      (newest : function.overloads.getLast? = some chosen) :
      Selects function takes chosen

omit [KeyHash] in
/-- What is selected takes the call as soon as any signature does. -/
theorem Selects.not_takes_iff (selects : function.Selects takes chosen) :
    ¬ takes chosen ↔ ∀ signature ∈ function.overloads, ¬ takes signature := by
  cases selects with
  | taken order accepted passed =>
      constructor
      · exact fun rejected => absurd accepted rejected
      · exact fun none => none chosen (by rw [order]; simp)
  | fallback none newest =>
      exact ⟨fun _ => none, fun _ => none chosen (List.mem_of_getLast? newest)⟩

omit [KeyHash] in
theorem Selects.newest (selects : function.Selects takes chosen)
    (none : ∀ signature ∈ function.overloads, ¬ takes signature) :
    function.overloads.getLast? = some chosen := by
  cases selects with
  | taken order accepted passed =>
      exact absurd accepted (none chosen (by rw [order]; simp))
  | fallback _ newest => exact newest

open Classical in
omit [KeyHash] in
theorem Selects.getLast?_filter (selects : function.Selects takes chosen) (taken : takes chosen) :
    (function.overloads.filter fun signature => decide (takes signature)).getLast? =
      some chosen := by
  cases selects with
  | @taken older newer _ order accepted passed =>
      have rest : newer.filter (fun signature => decide (takes signature)) = [] :=
        List.filter_eq_nil_iff.mpr fun signature member => by simpa using passed signature member
      rw [order, List.filter_append, List.filter_cons_of_pos (by simpa using accepted), rest,
        List.getLast?_concat]
  | fallback none newest => exact absurd taken (none chosen (List.mem_of_getLast? newest))

omit [KeyHash] in
/-- One signature is selected. -/
theorem Selects.unique
    (selects : function.Selects takes chosen)
    (again : function.Selects takes signature) :
    chosen = signature := by
  by_cases none : ∀ signature ∈ function.overloads, ¬ takes signature
  · exact Option.some.inj ((selects.newest none).symm.trans (again.newest none))
  · have taken := not_not.mp (mt selects.not_takes_iff.mp none)
    have takenAgain := not_not.mp (mt again.not_takes_iff.mp none)
    exact Option.some.inj
      ((selects.getLast?_filter taken).symm.trans (again.getLast?_filter takenAgain))

omit [KeyHash] in
/-- There is always an overload to select. -/
theorem exists_select?
    (nonempty : function.overloads ≠ [])
    {condition : Signature → Bool}
    (decides : ∀ signature, condition signature = true ↔ takes signature) :
    ∃ chosen, function.select? condition = some chosen ∧ function.Selects takes chosen := by
  unfold select? newest?
  cases found : function.overloads.reverse.find? condition with
  | some chosen =>
      obtain ⟨accepted, newer, older, order, passed⟩ := List.find?_eq_some_iff_append.mp found
      have straight : function.overloads = older.reverse ++ chosen :: newer.reverse := by
        rw [← List.reverse_reverse function.overloads, order]
        simp
      refine ⟨chosen, rfl, .taken straight ((decides chosen).mp accepted) ?_⟩
      intro signature member taken
      rw [← decides] at taken
      simpa [taken] using passed signature (List.mem_reverse.mp member)
  | none =>
      have newest := List.getLast?_eq_some_getLast nonempty
      refine ⟨_, newest, .fallback ?_ newest⟩
      intro signature member taken
      exact List.find?_eq_none.mp found signature (List.mem_reverse.mpr member)
        ((decides signature).mpr taken)

end Function

/-! ## Counting arguments -/

namespace Signature

variable {signature : Signature} {args : List Value}

/-- A signature takes a call with the given number of arguments. -/
def Takes (argc : Nat) (signature : Signature) : Prop :=
  signature.arity.accepts argc = true

/-- A signature takes a method call with the given number of arguments. A native
has the receiver as one more. -/
def TakesMethod (argc : Nat) (signature : Signature) : Prop :=
  match signature.origin with
  | .native => signature.Takes (argc + 1)
  | .userDefined => signature.Takes argc

/-- Binding reports a wrong number of arguments. -/
def MismatchesArity (signature : Signature) (args : List Value) : Prop :=
  ∃ error name expected got, signature.bind args = .error error ∧
    error.cause = .arityMismatch name expected got

/-- The report on a wrong number of arguments. -/
def countError (signature : Signature) (args : List Value) : ScriptError :=
  { cause := .arityMismatch signature.name signature.arity args.length }

omit [KeyHash] in
theorem bind_eq_countError (rejected : ¬ signature.Takes args.length) :
    signature.bind args = .error (signature.countError args) :=
  bind_eq_error_iff.mpr (.inl ⟨Bool.eq_false_iff.mpr rejected, rfl⟩)

omit [KeyHash] in
/-- Only a wrong count is reported as one. -/
theorem mismatchesArity_iff : signature.MismatchesArity args ↔ ¬ signature.Takes args.length := by
  constructor
  · rintro ⟨error, name, expected, got, failed, mismatch⟩
    cases rejects_of_bind failed with
    | count rejected => exact Bool.eq_false_iff.mp rejected
    | argument => cases mismatch
  · exact fun rejected => ⟨_, _, _, _, bind_eq_countError rejected, rfl⟩

omit [KeyHash] in
/-- Selection and binding count the receiver alike. -/
theorem takesMethod_iff (signature : Signature) (receiver : Value) (args : List Value) :
    signature.TakesMethod args.length ↔
      signature.Takes (methodArgs signature receiver args).length := by
  unfold TakesMethod methodArgs
  cases signature.origin <;> rfl

omit [KeyHash] in
theorem accepts_receiverSlots (argc : Nat) (signature : Signature) :
    signature.arity.accepts (argc + receiverSlots signature) = true ↔
      signature.TakesMethod argc := by
  unfold receiverSlots TakesMethod
  cases signature.origin <;> rfl

instance (argc : Nat) (signature : Signature) : Decidable (signature.Takes argc) :=
  inferInstanceAs (Decidable (_ = true))

instance (argc : Nat) (signature : Signature) : Decidable (signature.TakesMethod argc) :=
  decidable_of_iff _ (accepts_receiverSlots argc signature)

end Signature

/-! ## Calls -/

namespace Call

variable {call : Call}

/-- The call that an overload set gets, where a signature takes it or not. -/
structure Settled (function : Function) (takes : Signature → Prop) (call : Call) : Prop where
  selects : function.Selects takes call.signature
  mismatch_iff : call.signature.MismatchesArity call.boundArgs ↔
    ∀ signature ∈ function.overloads, ¬ takes signature
  newest : call.signature.MismatchesArity call.boundArgs →
    function.overloads.getLast? = some call.signature
  refused : call.signature.MismatchesArity call.boundArgs →
    ∀ frames engine, engine.callDepth < engine.maxCallDepth →
      (call.signature.origin = .userDefined → engine.hasEvaluator = true) →
      dispatch (frames + 1) call engine =
        ({ outcome := .error (.error (call.signature.countError call.boundArgs))
           receiver? := call.receiver? }, engine)

/-- A call of the selected overload is settled: it takes the arguments, or all
overloads refuse their number. -/
theorem settled_of_selects
    {function : Function}
    {takes : Signature → Prop}
    (selects : function.Selects takes call.signature)
    (counts : takes call.signature ↔ call.signature.Takes call.boundArgs.length) :
    call.Settled function takes := by
  have mismatch : call.signature.MismatchesArity call.boundArgs ↔
      ∀ signature ∈ function.overloads, ¬ takes signature := by
    rw [Signature.mismatchesArity_iff, ← counts]
    exact selects.not_takes_iff
  refine ⟨selects, mismatch, fun wrong => selects.newest (mismatch.mp wrong), ?_⟩
  intro wrong frames engine room evaluator
  have failed := Signature.bind_eq_countError (Signature.mismatchesArity_iff.mp wrong)
  have refused : call.entry engine.opened = .error _ := entry_of_bind_error evaluator failed
  rw [dispatch_framed room, framed_of_error refused]

end Call

/-! ## The order of overloads -/

/-- The signatures registered under a global name. -/
def ScopeStack.registered (stack : ScopeStack) (name : String) : List Signature :=
  match stack.global.get? name with
  | some (.function function) => function.overloads
  | _ => []

/-- A registration adds a signature behind those of its name. -/
theorem ScopeStack.registered_defineFunction
    {stack : ScopeStack}
    (coherent : stack.global.Coherent)
    (signature : Signature) :
    (stack.defineFunction signature).registered signature.name =
      stack.registered signature.name ++ [signature] := by
  unfold registered defineFunction
  dsimp only
  rw [coherent.get?_insert, if_pos rfl]
  cases stack.global.get? signature.name with
  | none => rfl
  | some binding => cases binding <;> rfl

namespace RecordOf

/-- The signatures of a method. -/
def attached (record : Record) (name : String) : List Signature :=
  (record.method? name).elim [] Function.overloads

/-- A new method adds a signature behind those of its name. -/
theorem attached_addMethod
    {record : Record}
    (reachable : record.Reachable)
    (signature : Signature) :
    (record.addMethod signature).attached signature.name =
      record.attached signature.name ++ [signature] := by
  rw [attached, method?, methods_addMethod, reachable.dictionary.grown.coherent.get?_insert,
    if_pos rfl]
  exact overloads_overloaded signature (record.method? signature.name)

/-- The methods of the right record win as whole overload sets. -/
theorem method?_merge
    {left right : Record}
    (reachable : left.Reachable)
    (other : right.Reachable)
    (name : String) :
    (left.merge right).method? name = (right.method? name).or (left.method? name) := by
  have coherent : ∀ map ∈ [left.methods, right.methods], map.Coherent := by
    simpa using ⟨reachable.dictionary.grown.coherent, other.dictionary.grown.coherent⟩
  rw [method?, methods_merge reachable other, (OrderedMap.mergeOf_merge coherent).get?_eq]
  change [right.methods, left.methods].findSome? _ =
    (right.methods.get? name).or (left.methods.get? name)
  cases found : right.methods.get? name with
  | some function => simp [found]
  | none => cases least : left.methods.get? name <;> simp [found, least]

end RecordOf

end

/-! ## The theorem -/

namespace Engine

section

variable [KeyHash]

/-- Every call on an overload set runs its newest signature that takes the
count, and the arity is reported as wrong only if no signature of the set takes
it. Registered and attached signatures are newer than those of the set before,
and a merge keeps one set of the two. -/
theorem calls_run_newest_taking_overload
    (function : Function)
    (reachable : function.Reachable)
    (args : List Value) :
    function.overloads ≠ [] ∧
    (∃ chosen, Call.Settled function (Signature.Takes args.length) ⟨chosen, args, none⟩ ∧
      ∀ dispatch, callFunction dispatch function args = callSignature dispatch chosen args) ∧
    (∀ content name, content.method? name = some function →
      ∃ chosen, Call.Settled function (Signature.TakesMethod args.length)
          ⟨chosen, args, some (.record content)⟩ ∧
        ∀ dispatch, callMethod dispatch (.record content) name args =
          dispatch ⟨chosen, args, some (.record content)⟩) ∧
    (∀ stack : ScopeStack, stack.Reachable → ∀ signature,
      (stack.defineFunction signature).registered signature.name =
        stack.registered signature.name ++ [signature]) ∧
    (∀ record : Record, record.Reachable → ∀ signature,
      (record.addMethod signature).attached signature.name =
        record.attached signature.name ++ [signature]) ∧
    ∀ left right : Record, left.Reachable → right.Reachable → ∀ name,
      (left.merge right).method? name = (right.method? name).or (left.method? name) := by
  have nonempty := reachable.overloads_ne_nil
  refine ⟨nonempty, ?_, ?_, ?_, ?_, ?_⟩
  · obtain ⟨chosen, selected, selects⟩ :=
      Function.exists_select? nonempty fun signature => Iff.rfl
    refine ⟨chosen, Call.settled_of_selects selects Iff.rfl, fun dispatch => ?_⟩
    rw [callFunction, Function.resolve?, selected]
  · intro content name found
    obtain ⟨chosen, selected, selects⟩ :=
      Function.exists_select? nonempty (Signature.accepts_receiverSlots args.length)
    have counts := chosen.takesMethod_iff (.record content) args
    refine ⟨chosen, Call.settled_of_selects selects counts, fun dispatch => ?_⟩
    simp only [callMethod, resolveMethod, found, selectMethod?, selected]
  · exact fun stack reachable => stack.registered_defineFunction reachable.sound.coherent.global
  · exact fun record => RecordOf.attached_addMethod
  · exact fun left right => RecordOf.method?_merge

end

/-- A user-defined method without parameters. -/
def scaleByDefault : Signature :=
  ⟨1, "scale", ⟨[]⟩, 'v', .user [] []⟩

/-- A native for two arguments or more. -/
def scaleByFactor : Signature :=
  ⟨2, "scale", ⟨[.any, .hint .int]⟩, 'v', .native 2 []⟩

/-- A record with both of them, the native being newer. -/
def scalable : Record :=
  (RecordOf.empty.addMethod scaleByDefault).addMethod scaleByFactor

/-- Without arguments the older method runs; with one argument the native runs
as a method, but a call without a receiver is one argument short. -/
theorem scalable_calls :
    let scale : Function := ⟨"scale", [scaleByDefault, scaleByFactor]⟩
    scale.Reachable ∧
      (∀ dispatch, callMethod dispatch (.record scalable) "scale" [] =
        dispatch ⟨scaleByDefault, [], some (.record scalable)⟩) ∧
      (∀ dispatch, callMethod dispatch (.record scalable) "scale" [.int 3] =
        dispatch ⟨scaleByFactor, [.int 3], some (.record scalable)⟩) ∧
      ∀ dispatch, scaleByFactor.MismatchesArity [.int 3] ∧
        callFunction dispatch scale [.int 3] = callSignature dispatch scaleByFactor [.int 3] := by
  intro scale
  have found : scalable.method? "scale" = some scale := by cbv
  have reachable : scale.Reachable :=
    .method ((RecordOf.Reachable.empty.addMethod _).addMethod _) found
  have older : scale.overloads = [] ++ scaleByDefault :: [scaleByFactor] := rfl
  have newer : scale.overloads = [scaleByDefault] ++ scaleByFactor :: [] := rfl
  refine ⟨reachable, fun dispatch => ?_, fun dispatch => ?_, fun dispatch => ?_⟩
  · obtain ⟨chosen, settled, runs⟩ :=
      (calls_run_newest_taking_overload scale reachable []).2.2.1 scalable "scale" found
    cases settled.selects.unique (.taken older (by decide) (by decide))
    exact runs dispatch
  · obtain ⟨chosen, settled, runs⟩ :=
      (calls_run_newest_taking_overload scale reachable [.int 3]).2.2.1 scalable "scale" found
    cases settled.selects.unique (.taken newer (by decide) (by decide))
    exact runs dispatch
  · obtain ⟨chosen, settled, runs⟩ :=
      (calls_run_newest_taking_overload scale reachable [.int 3]).2.1
    cases settled.selects.unique (.fallback (by decide) rfl)
    exact ⟨settled.mismatch_iff.mpr (by decide), runs dispatch⟩

end Engine
end ScriptCore
