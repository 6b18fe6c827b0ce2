import ScriptCore.Proofs.Engine.Edits

/-!
# What an action does to an engine

Library natives and expressions leave the scopes alone, apart from the calls
they make. An action with the rights it needs is a chain of edits within those
rights.

Whatever holds of every edit therefore holds of every expression, every native
and every action, and their code need not be looked at again.
-/

namespace ScriptCore

open Engine

section

variable {dispatch : Dispatcher} {rights : Rights}

/-! ## Higher-order functions -/

variable [KeyHash]

namespace Iteration

/-- Every call of a callable edits the engine within its rights. -/
def Calls
    {α β : Type}
    (dispatch : Dispatcher)
    (rights : Rights)
    (call : α → Run β) : Prop :=
  ∀ value engine, Stays dispatch rights (call value).run engine

/-- A predicate edits the engine as its call does. -/
theorem test_calls
    {call : Value → Run Value}
    (calls : Calls dispatch rights call) :
    Calls dispatch rights (test call) := by
  intro value engine
  apply (calls value engine).andThen
  intro result middle _
  cases result.coerce .bool with
  | ok converted => exact Stays.pure _
  | error cast => exact Stays.fail _

/-- A map edits the engine as its calls do. -/
theorem map_calls
    {call : Value → Run Value}
    (calls : Calls dispatch rights call) :
    Calls dispatch rights (map call) := by
  intro entries
  induction entries with
  | nil => exact fun _ => Stays.pure _
  | cons entry entries ih =>
      intro engine
      apply (calls entry.2 engine).andThen
      intro result middle _
      exact (ih middle).andReturn _

/-- A filter edits the engine as its calls do. -/
theorem filter_calls
    {test : Value → Run Bool}
    (calls : Calls dispatch rights test) :
    Calls dispatch rights (filter test) := by
  intro entries
  induction entries with
  | nil => exact fun _ => Stays.pure _
  | cons entry entries ih =>
      intro engine
      apply (calls entry.2 engine).andThen
      intro keep middle _
      exact (ih middle).andReturn _

/-- Taking elements edits the engine as the calls do. -/
theorem takeWhile_calls
    {test : Value → Run Bool}
    (calls : Calls dispatch rights test) :
    Calls dispatch rights (takeWhile test) := by
  intro entries
  induction entries with
  | nil => exact fun _ => Stays.pure _
  | cons entry entries ih =>
      intro engine
      apply (calls entry.2 engine).andThen
      intro holds middle _
      cases holds with
      | true => exact (ih middle).andReturn _
      | false => exact Stays.pure _

/-- Dropping elements edits the engine as the calls do. -/
theorem dropWhile_calls
    {test : Value → Run Bool}
    (calls : Calls dispatch rights test) :
    Calls dispatch rights (dropWhile test) := by
  intro entries
  induction entries with
  | nil => exact fun _ => Stays.pure _
  | cons entry entries ih =>
      intro engine
      apply (calls entry.2 engine).andThen
      intro holds middle _
      cases holds with
      | true => exact ih middle
      | false => exact Stays.pure _

/-- A fold from the left edits the engine as its calls do. -/
theorem fold_calls
    {call : Value → Value → Run Value}
    (calls : ∀ accumulator, Calls dispatch rights (call accumulator))
    (accumulator : Value) :
    Calls dispatch rights (fold call accumulator) := by
  intro values
  induction values generalizing accumulator with
  | nil => exact fun _ => Stays.pure _
  | cons value values ih =>
      intro engine
      apply (calls accumulator value engine).andThen
      intro next middle _
      exact ih next middle

/-- A fold from the right edits the engine as its calls do. -/
theorem foldr_calls
    {call : Value → Value → Run Value}
    (calls : ∀ accumulator, Calls dispatch rights (call accumulator))
    (accumulator : Value) :
    Calls dispatch rights (foldr call accumulator) := by
  intro values engine
  exact fold_calls calls accumulator values.reverse engine

end Iteration

/-! ## Library natives -/

namespace Library

/-- Reading an argument changes nothing. -/
theorem arg_stays (index : Nat) (engine : Engine) :
    Stays dispatch rights (arg .fallBack index).run engine :=
  Stays.same (by rw [ExceptT.run, arg_fallBack])

theorem takeArg_stays (index : Nat) (engine : Engine) :
    Stays dispatch rights (takeArg .fallBack index).run engine :=
  (arg_stays index engine).andThen fun _ middle _ =>
    Stays.afterEdit (.setSlots middle _) (Stays.pure _)

/-- Reading the content of a value stays within the rights if the fallback
does. -/
theorem content_stays
    {α : Type}
    {view? : Value → Option α}
    {fallback : Run α}
    {engine : Engine}
    (falls : Stays dispatch rights fallback.run engine)
    (value : Value) :
    Stays dispatch rights (content .fallBack view? fallback value).run engine := by
  unfold content
  cases view? value with
  | some content => exact Stays.pure _
  | none => exact falls

theorem arrayArg_stays (function : LibraryFunction) (index : Nat) (engine : Engine) :
    Stays dispatch rights (arrayArg .fallBack function index).run engine :=
  (arg_stays index engine).andThen fun value _ _ => content_stays (Stays.fail _) value

theorem recordArg_stays (function : LibraryFunction) (index : Nat) (engine : Engine) :
    Stays dispatch rights (recordArg .fallBack function index).run engine :=
  (arg_stays index engine).andThen fun value _ _ => content_stays (Stays.fail _) value

theorem bytesArg_stays (index : Nat) (engine : Engine) :
    Stays dispatch rights (bytesArg .fallBack index).run engine :=
  (arg_stays index engine).andThen fun value _ _ => content_stays (Stays.pure _) value

theorem textArg_stays (index : Nat) (engine : Engine) :
    Stays dispatch rights (textArg .fallBack index).run engine :=
  (arg_stays index engine).andThen fun value _ _ => content_stays (Stays.pure _) value

theorem itemsArg_stays (index : Nat) (engine : Engine) :
    Stays dispatch rights (itemsArg .fallBack index).run engine :=
  (arg_stays index engine).andThen fun value _ _ => content_stays (Stays.pure _) value

/-- Making an array from pairs edits nothing. -/
theorem ofPairs_stays
    (position : Nat)
    (items : OrderedMap Value)
    (args : List Value)
    (engine : Engine) :
    Stays dispatch rights (ofPairs .fallBack position items args).run engine := by
  rcases ofPairs_fallBack position items args with ⟨pairs, paired, -⟩ | ⟨place, cast, refused⟩
  · rw [paired]
    exact Stays.pure _
  · rw [refused]
    exact Stays.fail _

/-- Making a keyed array adds at most a report. -/
theorem mkkeyarray_stays (engine : Engine) :
    Stays dispatch rights (mkkeyarray .fallBack).run engine := by
  unfold mkkeyarray
  apply Stays.reading
  dsimp only
  split
  · exact Stays.afterEdit (.report engine _) ((ofPairs_stays _ _ _ _).andReturn _)
  · exact (ofPairs_stays _ _ _ _).andReturn _

/-- Taking an array to change it changes an argument, and then what the change
does. -/
theorem changeArray_stays
    {change : OrderedMap Value → Run Value}
    (changes : ∀ items engine, Stays dispatch rights (change items).run engine)
    (engine : Engine) :
    Stays dispatch rights (changeArray .fallBack change).run engine := by
  refine (takeArg_stays 0 engine).andThen fun target middle _ => ?_
  cases target with
  | array items => exact changes items middle
  | _ => exact Stays.pure _

theorem arrayPush_stays (engine : Engine) :
    Stays dispatch rights (arrayPush .fallBack).run engine :=
  (takeArg_stays 1 engine).andThen fun _ middle _ =>
    changeArray_stays (fun _ _ => Stays.pure _) middle

theorem arrayDel_stays (engine : Engine) :
    Stays dispatch rights (arrayDel .fallBack).run engine := by
  refine (arg_stays 1 engine).andThen fun address middle _ => ?_
  refine changeArray_stays (fun items last => ?_) middle
  cases ArrayLibrary.delete? items (Address.ofValue address) with
  | none => exact Stays.lift (nonfatal_stays _ _ last)
  | some remaining => exact Stays.pure _

theorem arrayCompact_stays (engine : Engine) :
    Stays dispatch rights (arrayCompact .fallBack).run engine :=
  changeArray_stays (fun _ _ => Stays.pure _) engine

theorem callArgs_stays (engine : Engine) :
    Stays dispatch rights (callArgs .fallBack dispatch).run engine := by
  apply (Stays.lift (Stays.edit (.setSlots engine _))).andThen
  intro values middle _
  cases values with
  | nil => exact callValue_stays _ _ middle
  | cons callee args => exact callValue_stays callee args middle

theorem getenv_stays (engine : Engine) : Stays dispatch rights (getenv .fallBack).run engine := by
  refine (bytesArg_stays 0 engine).andThen fun name middle _ => ?_
  split
  · apply Stays.reading
    cases middle.host.environment.get? name <;> exact Stays.pure _
  · exact Stays.pure _

theorem setenv_stays (engine : Engine) : Stays dispatch rights (setenv .fallBack).run engine := by
  refine Stays.privileged (fun off => ?_) fun _ => Stays.pure _
  refine Stays.afterRead (bytesArg_fallBack 0 engine) ?_
  refine Stays.afterRead (bytesArg_fallBack 1 engine) ?_
  split
  · rw [setVariable_fallBack]
    exact Stays.afterEdit (.setEnvironment engine _ off) (Stays.pure _)
  · exact Stays.lift (nonfatal_stays _ _ engine)

theorem unsetenv_stays (engine : Engine) :
    Stays dispatch rights (unsetenv .fallBack).run engine := by
  refine Stays.privileged (fun off => ?_) fun _ => Stays.pure _
  refine Stays.afterRead (bytesArg_fallBack 0 engine) ?_
  split
  · rw [unsetVariable_fallBack]
    exact Stays.afterEdit (.setEnvironment engine _ off) (Stays.pure _)
  · exact Stays.lift (nonfatal_stays _ _ engine)

/-- Running a command notes it at the host or adds a report. -/
theorem system_stays (engine : Engine) : Stays dispatch rights (system .fallBack).run engine := by
  refine Stays.privileged (fun off => ?_) fun _ => Stays.pure _
  refine Stays.afterRead (bytesArg_fallBack 0 engine) ?_
  apply Stays.reading
  dsimp only
  split
  · exact Stays.afterEdit (.noteCommand engine _ off) (Stays.pure _)
  · exact Stays.afterEdit (.noteCommand engine _ off) (Stays.pure _)
  · exact Stays.lift (nonfatal_stays _ _ engine)

/-- A native that transforms an array edits what its calls do. -/
theorem transform_stays
    {apply : (Value → Run Value) → Iteration.Entries → Run Iteration.Entries}
    (applyCalls : ∀ call, Iteration.Calls dispatch rights call →
      Iteration.Calls dispatch rights (apply call))
    (engine : Engine) :
    Stays dispatch rights (transform .fallBack dispatch apply).run engine := by
  refine (itemsArg_stays 1 engine).andThen fun items middle _ => ?_
  refine (arg_stays 0 middle).andThen fun callee last _ => ?_
  refine Stays.andReturn ?_ _
  exact applyCalls _ (fun value engine => callValue_stays callee [value] engine) _ last

/-- A native that folds an array edits what its calls do. -/
theorem reduce_stays
    {apply : (Value → Value → Run Value) → Value → List Value → Run Value}
    (applyCalls : ∀ call, (∀ accumulator, Iteration.Calls dispatch rights (call accumulator)) →
      ∀ initial, Iteration.Calls dispatch rights (apply call initial))
    (engine : Engine) :
    Stays dispatch rights (reduce .fallBack dispatch apply).run engine := by
  refine (itemsArg_stays 2 engine).andThen fun items middle _ => ?_
  refine (takeArg_stays 1 middle).andThen fun initial next _ => ?_
  refine (arg_stays 0 next).andThen fun callee last _ => ?_
  exact applyCalls _ (fun accumulator value engine => callValue_stays callee _ engine) _ _ last

/-- A native of the library changes no scope. -/
theorem exec_stays (function : LibraryFunction) (engine : Engine) :
    Stays dispatch rights (exec dispatch function).run engine := by
  cases function with
  | mkkeyarray => exact mkkeyarray_stays engine
  | arrayPush => exact arrayPush_stays engine
  | arrayDel => exact arrayDel_stays engine
  | arrayCompact => exact arrayCompact_stays engine
  | throw =>
      apply (takeArg_stays 0 engine).andThen
      intro payload middle _
      exact Stays.edit (.throwValue middle payload)
  | call => exact callArgs_stays engine
  | getenv => exact getenv_stays engine
  | setenv => exact setenv_stays engine
  | unsetenv => exact unsetenv_stays engine
  | system => exact system_stays engine
  | map => exact transform_stays (fun _ calls => Iteration.map_calls calls) engine
  | filter =>
      exact transform_stays
        (fun _ calls => Iteration.filter_calls (Iteration.test_calls calls)) engine
  | fold => exact reduce_stays (fun _ calls => Iteration.fold_calls calls) engine
  | foldr => exact reduce_stays (fun _ calls => Iteration.foldr_calls calls) engine
  | takeWhile =>
      exact transform_stays
        (fun _ calls => Iteration.takeWhile_calls (Iteration.test_calls calls)) engine
  | dropWhile =>
      exact transform_stays
        (fun _ calls => Iteration.dropWhile_calls (Iteration.test_calls calls)) engine
  | arrayKeys => exact (arrayArg_stays _ 0 engine).andReturn _
  | arrayValues => exact (arrayArg_stays _ 0 engine).andReturn _
  | arraySize => exact (arrayArg_stays _ 0 engine).andReturn _
  | arrayGet =>
      exact (arrayArg_stays _ 0 engine).andThen fun _ middle _ => (arg_stays 1 middle).andReturn _
  | arrayReverse => exact (arrayArg_stays _ 0 engine).andReturn _
  | arraySearch =>
      exact (arrayArg_stays _ 0 engine).andThen fun _ middle _ => (arg_stays 1 middle).andReturn _
  | structFields => exact (recordArg_stays _ 0 engine).andReturn _
  | recordMerge =>
      apply (recordArg_stays _ 0 engine).andThen
      intro first middle _
      exact (recordArg_stays _ 1 middle).andReturn _
  | arrayMerge => exact Stays.same rfl
  | equal =>
      exact (arg_stays 0 engine).andThen fun _ middle _ => (arg_stays 1 middle).andReturn _
  | order =>
      exact (arg_stays 0 engine).andThen fun _ middle _ => (arg_stays 1 middle).andReturn _
  | typeOf => exact (arg_stays 0 engine).andReturn _
  | isA =>
      apply Stays.reading
      refine (arg_stays 0 engine).andThen fun _ middle _ => ?_
      exact (textArg_stays 1 middle).andReturn _
  | safeMode => exact Stays.same rfl

end Library

/-! ## Expressions -/

mutual

/-- An expression changes no scope. -/
theorem eval_stays (engine : Engine) :
    ∀ expr : Expr, Stays dispatch rights (expr.eval dispatch).run engine
  | .void => Stays.pure _
  | .bool _ => Stays.pure _
  | .int _ => Stays.pure _
  | .float _ => Stays.pure _
  | .str _ => Stays.pure _
  | .array slots => (evalSlots_stays .empty engine slots).andReturn _
  | .record _ fields methods =>
      (evalSlots_stays .empty engine fields).andThen fun _ middle _ =>
        (buildSignatures_stays methods middle).andReturn _
  | .function first others =>
      (buildSignature_stays first engine).andThen fun _ middle _ =>
        (buildSignatures_stays others middle).andReturn _
  | .resource kind handle hasDestructor =>
      Stays.edit (.createResource engine kind handle hasDestructor)
  | .var name => getVariable_stays name engine
  | .call name args =>
      (evalArgs_stays engine args).andThen fun values middle _ =>
        callByName_stays name values middle
  | .slot _ => Stays.same rfl
  | .slots => Stays.same rfl
  | .slotCount => Stays.same rfl
  | .primitive _ args => (evalArgs_stays engine args).andReturn _
  | .fault _ => Stays.throw _

/-- Arguments edit what the calls in them do. -/
theorem evalArgs_stays (engine : Engine) :
    ∀ exprs : List Expr, Stays dispatch rights (evalArgs dispatch exprs).run engine
  | [] => Stays.pure _
  | expr :: exprs =>
      (eval_stays engine expr).andThen fun _ middle _ =>
        (evalArgs_stays middle exprs).andReturn _

/-- The slots of an array edit what the calls in them do. -/
theorem evalSlots_stays (items : OrderedMap Value) (engine : Engine) :
    ∀ slots : List (Slot Expr), Stays dispatch rights (evalSlots dispatch items slots).run engine
  | [] => Stays.pure _
  | .vacant :: slots => evalSlots_stays (appendVacant items) engine slots
  | .item expr :: slots =>
      (eval_stays engine expr).andThen fun value middle _ =>
        evalSlots_stays (items.append value) middle slots
  | .entry key expr :: slots =>
      (eval_stays engine expr).andThen fun value middle _ =>
        evalSlots_stays (items.insert key value) middle slots

end

/-! ## Actions -/

/-- A change to a value edits nothing of the scopes. -/
theorem Change.apply_stays (change : Change) (target operand : Value) (engine : Engine) :
    Stays dispatch rights (change.apply target operand).run engine := by
  cases change with
  | addMethod spec =>
      apply (buildSignature_stays spec engine).andThen
      intro signature middle _
      cases target <;> exact Stays.pure _
  | _ => cases target <;> exact Stays.pure _

namespace Program

/-- The fields of a class edit what the calls in them do. -/
theorem evalFields_stays
    (fields : OrderedMap Value)
    (exprs : List (String × Expr))
    (engine : Engine) :
    Stays dispatch rights (evalFields dispatch fields exprs).run engine := by
  induction exprs generalizing fields engine with
  | nil => exact Stays.pure _
  | cons entry exprs ih =>
      apply (eval_stays engine entry.2).andThen
      intro value middle _
      exact ih _ middle

/-- The declaration of a class edits the classes, and what the calls in its fields
do. -/
theorem declareClass_stays
    (name : String)
    (parent : Option String)
    (fields : List (String × Expr))
    (methods : List SignatureSpec)
    (constructor : Option SignatureSpec)
    (engine : Engine) :
    Stays dispatch rights
      (declareClass dispatch name parent fields methods constructor).run engine := by
  unfold declareClass
  extract_lets declare
  have declared : ∀ (parent? : Option Class) (engine : Engine),
      Stays dispatch rights (declare parent?).run engine := by
    intro parent? engine
    apply (evalFields_stays .empty fields engine).andThen
    intro values middle _
    apply (buildSignatures_stays methods middle).andThen
    intro signatures last _
    cases constructor with
    | none => exact Stays.edit (.registerClass last _)
    | some spec =>
        refine Stays.andThen ((buildSignature_stays spec last).andReturn some) ?_
        intro constructor? built _
        exact Stays.edit (.registerClass built _)
  cases parent with
  | none => exact declared none engine
  | some parentName =>
      apply Stays.reading
      cases engine.class? parentName with
      | none => exact Stays.fail _
      | some cls => exact declared (some cls) engine

end Program

/-! ## Rights of actions -/

omit [KeyHash] in
theorem LibraryFunction.mem_all (function : LibraryFunction) : function ∈ LibraryFunction.all := by
  cases function <;> decide

namespace Rights

/-- Whether the write that follows a computation is allowed in the engine that
the computation leaves. A failed computation is followed by none. -/
def allowsAfter {α : Type} (outcome : Except Failure α × Engine) (write : Engine → α → Bool) :
    Bool :=
  match outcome with
  | (.ok value, engine) => write engine value
  | (.error _, _) => true

/-- Whether the receiver that a method left may be assigned back. A fault of the
host leaves no chance to do so. -/
def allowsReceiver (rights : Rights) (target : String) (engine : Engine) (reply : Reply) : Bool :=
  match reply.outcome with
  | .error (.fault _) => true
  | .error .exhausted => true
  | _ => rights.assigns engine target (reply.receiver?.getD .void)

/-- Whether an action on an engine stays within the rights. -/
def allows (rights : Rights) (dispatch : Dispatcher) (engine : Engine) : Action → Bool
  | .enter => rights.enters
  | .leave => rights.leaves engine
  | .define name expr =>
      allowsAfter (expr.eval dispatch engine) fun after value => rights.defines after name value
  | .assign name expr =>
      allowsAfter (expr.eval dispatch engine) fun after value => rights.assigns after name value
  | .mutate target operand change =>
      let changed : Run (Option (Value × Value)) := do
        let operand ← operand.eval dispatch
        let value ← getVariable target
        change.apply value operand
      allowsAfter (changed engine) fun after result =>
        result.all fun change => rights.assigns after target change.1
  | .method target name args =>
      let replied : Run Reply := do
        let args ← evalArgs dispatch args
        let receiver ← getVariable target
        callMethod dispatch receiver name args
      allowsAfter (replied engine) fun after reply => rights.allowsReceiver target after reply
  | .register spec => rights.registers spec.name
  | .link name _ _ _ => rights.registers name
  | .install => LibraryFunction.all.all fun function => rights.registers function.name
  | .unregister name => rights.removes name
  | .unlink name => rights.removes name
  | .unload name =>
      engine.safeMode.isEnabled ||
        (engine.modules.get? name).all fun names => names.globals.all rights.removes
  | _ => true

end Rights

namespace Program

/-- A call of a method on a variable stays within the rights if the receiver may
be assigned. -/
theorem callMethodOn_stays
    {target : String}
    {name : String}
    {args : List Value}
    {engine : Engine}
    (may : ∀ receiver, getVariable target engine = (.ok receiver, engine) →
      ∀ reply after, callMethod dispatch receiver name args engine = (reply, after) →
        rights.allowsReceiver target after reply) :
    Stays dispatch rights (callMethodOn dispatch target name args).run engine := by
  unfold callMethodOn
  apply (getVariable_stays target engine).andThen
  intro receiver middle found
  have same : middle = engine := by
    have unchanged := getVariable_state target engine
    rw [found] at unchanged
    exact unchanged
  subst same
  -- The receiver is assigned back after a script error too, before the error is
  -- passed on.
  apply (Stays.lift (callMethod_stays receiver name args middle)).andThen
  intro reply last replied
  have allowed := may receiver found reply last (by cases replied; rfl)
  unfold Rights.allowsReceiver at allowed
  cases outcome : reply.outcome with
  | ok value =>
      rw [outcome] at allowed
      exact (assign_stays allowed).andReturn _
  | error failure =>
      rw [outcome] at allowed
      cases failure with
      | error error => exact (assign_stays allowed).andThen fun _ _ _ => Stays.throw _
      | fault message => exact Stays.throw _
      | exhausted => exact Stays.throw _

/-- An action edits the engine within the rights that allow it. -/
theorem execAction_stays
    {action : Action}
    {engine : Engine}
    (allowed : rights.allows dispatch engine action) :
    Stays dispatch rights (execAction dispatch action).run engine := by
  cases action with
  | enter => exact Stays.edit (.enter engine allowed)
  | leave =>
      apply Stays.reading
      cases popped : engine.scopes.pop? with
      | none => exact Stays.pure _
      | some scopes => exact Stays.edit (.leave engine scopes allowed popped)
  | define name expr =>
      apply (eval_stays engine expr).andThen
      intro value middle evaluated
      simp only [Rights.allows, evaluated, Rights.allowsAfter] at allowed
      exact Stays.edit (.define middle name value allowed)
  | assign name expr =>
      apply (eval_stays engine expr).andThen
      intro value middle evaluated
      simp only [Rights.allows, evaluated, Rights.allowsAfter] at allowed
      exact (assign_stays allowed).andReturn _
  | mutate target operand change =>
      apply (eval_stays engine operand).andThen
      intro operandValue afterOperand evaluated
      apply (getVariable_stays target afterOperand).andThen
      intro value afterValue found
      apply (change.apply_stays value operandValue afterValue).andThen
      intro result last changed
      cases result with
      | none => exact Stays.pure _
      | some result =>
          have outcome : (do
              let operand ← operand.eval dispatch
              let value ← getVariable target
              change.apply value operand : Run (Option (Value × Value))) engine =
                (.ok (some result), last) := by
            rw [Run.bind_ok evaluated, Run.bind_ok found, changed]
          simp only [Rights.allows, outcome, Rights.allowsAfter, Option.all_some] at allowed
          exact (assign_stays allowed).andReturn _
  | method target name args =>
      apply (evalArgs_stays engine args).andThen
      intro values middle evaluated
      apply callMethodOn_stays
      intro receiver found reply after replied
      have outcome : (do
          let args ← evalArgs dispatch args
          let receiver ← getVariable target
          callMethod dispatch receiver name args : Run Reply) engine = (.ok reply, after) := by
        rw [Run.bind_ok evaluated, Run.bind_ok found, Run.lift_eq, replied]
      simp only [Rights.allows, outcome, Rights.allowsAfter] at allowed
      exact allowed
  | register spec => exact (register_stays allowed engine).andReturn _
  | unregister name => exact Stays.lift (unbindWhere_stays _ allowed engine)
  | unlink name => exact Stays.lift (unbindWhere_stays _ allowed engine)
  | link name tag expr cellName =>
      apply (eval_stays engine expr).andThen
      intro value middle _
      apply Stays.reading
      refine Stays.afterEdit (.newCell middle cellName value) ?_
      exact Stays.edit (.link _ name tag _ allowed)
  | install =>
      refine Stays.andThen (installLibrary_stays ?_ engine) fun _ _ _ => Stays.pure _
      intro function
      exact List.all_eq_true.mp allowed function (LibraryFunction.mem_all function)
  | unload name =>
      apply Stays.lift
      apply unloadModule_stays
      intro off names loaded
      simpa [Rights.allows, off, loaded] using allowed
  | value expr => exact eval_stays engine expr
  | display expr => exact (eval_stays engine expr).andReturn _
  | json expr => exact (eval_stays engine expr).andReturn _
  | truthy expr => exact (eval_stays engine expr).andReturn _
  | deepCopy expr => exact (eval_stays engine expr).andReturn _
  | compare left right =>
      apply (eval_stays engine left).andThen
      intro leftValue middle _
      exact (eval_stays middle right).andReturn _
  | field expr name => exact (eval_stays engine expr).andReturn _
  | handleText expr =>
      apply (eval_stays engine expr).andThen
      intro value middle _
      apply Stays.reading
      split <;> exact Stays.pure _
  | handleNumber expr =>
      apply (eval_stays engine expr).andThen
      intro value middle _
      apply Stays.reading
      split <;> exact Stays.pure _
  | handleAdd expr amount =>
      apply (eval_stays engine expr).andThen
      intro value middle _
      apply Stays.reading
      split
      · exact Stays.afterEdit (.setHandle middle _ _) (Stays.pure _)
      · exact Stays.pure _
  | cellGet cellName =>
      apply Stays.reading
      split <;> exact Stays.pure _
  | cellSet cellName expr =>
      apply (eval_stays engine expr).andThen
      intro value middle _
      apply Stays.reading
      split
      · exact Stays.afterEdit (.setCell middle _ value) (Stays.pure _)
      · exact Stays.pure _
  | defineClass name parent fields methods constructor =>
      exact declareClass_stays name parent fields methods constructor engine
  | removeClass name => exact Stays.edit (.removeClass engine name)
  | call name args =>
      apply (evalArgs_stays engine args).andThen
      intro values middle _
      exact callByName_stays name values middle
  | callValue callee args =>
      apply (eval_stays engine callee).andThen
      intro calleeValue middle _
      apply (evalArgs_stays middle args).andThen
      intro values last _
      exact callValue_stays calleeValue values last
  | callSignature name index args =>
      apply (evalArgs_stays engine args).andThen
      intro values middle _
      apply Stays.reading
      split
      · exact callSignature_stays _ values middle
      · exact Stays.fail _
  | instantiate className args =>
      apply (evalArgs_stays engine args).andThen
      intro values middle _
      exact instantiate_stays className values middle
  | throw expr =>
      apply (eval_stays engine expr).andThen
      intro payload middle _
      exact Stays.edit (.throwValue middle payload)
  | nonfatal expr default =>
      apply (eval_stays engine expr).andThen
      intro message middle _
      cases default with
      | none => exact Stays.lift (nonfatal_stays _ _ middle)
      | some other =>
          apply (eval_stays middle other).andThen
          intro value last _
          exact Stays.lift (nonfatal_stays _ _ last)
  | takeReports => exact Stays.edit (.takeReports engine)
  | safeModeSet flag =>
      apply Stays.reading
      cases accepted : engine.safeMode.set flag with
      | ok safeMode => exact Stays.edit (.setSafeMode engine flag safeMode accepted)
      | error error => exact Stays.pure _
  | privileged operation => exact Stays.lift (allowPrivileged_stays operation engine)
  | setEvaluator => exact Stays.edit (.setEvaluator engine)
  | setSlot index expr =>
      apply (eval_stays engine expr).andThen
      intro value middle _
      exact Stays.edit (.setSlots middle _)
  | takeSlot index => exact Stays.lift (Stays.edit (.setSlots engine _))
  | setSlotField index name expr =>
      apply (eval_stays engine expr).andThen
      intro value middle _
      apply Stays.reading
      split
      · exact Stays.edit (.setSlots middle _)
      · exact Stays.pure _
  | log expr =>
      apply (eval_stays engine expr).andThen
      intro value middle _
      exact Stays.edit (.log middle _)
  | notCallable typeName => exact Stays.fail _
  | lookup name => exact Stays.same rfl
  | names => exact Stays.same rfl
  | scope index => exact Stays.same rfl
  | globalStats => exact Stays.same rfl
  | classInfo name => exact Stays.same rfl
  | classIsA name target => exact Stays.same rfl
  | functions => exact Stays.same rfl
  | exceptionState => exact Stays.same rfl
  | reports => exact Stays.same rfl
  | safeModeGet => exact Stays.same rfl
  | modules => exact Stays.same rfl
  | hasEvaluator => exact Stays.same rfl
  | debug => exact Stays.same rfl

end Program
end
end ScriptCore
