import ScriptCore.Proofs.Library.Fallbacks
import ScriptCore.Proofs.Value.Signatures

/-!
# What holds of the natives of the library

Natives are put together from few parts: they read and overwrite their
arguments, add reports, change the host, fail, raise exceptions, and make calls
through a dispatcher. A judgement that is closed under these parts holds of
every native, provided that it holds of the calls.

A judgement is about two computations, so that natives over two dispatchers can
be compared. With it go the signatures that the values of the computation may
reach. A contract is a judgement that is about one computation only: what holds
of the engine between its steps, and what holds when it fails.
-/

namespace ScriptCore

open Engine

/-- A relation between computations, with a condition on their result, that is
closed under the ways in which natives are put together. -/
structure Judgement where
  /-- The signatures that values may reach. -/
  allowed : Signature → Prop
  /-- What is known of an engine that is read. -/
  inside : Engine → Prop
  holds : {α : Type} → (α → Prop) → Run α → Run α → Prop
  slots : ∀ {engine : Engine}, inside engine → ∀ value ∈ engine.slots, value.Only allowed
  pure : ∀ {α : Type} {result : α → Prop} {value : α}, result value →
    holds result (Pure.pure value) (Pure.pure value)
  bind : ∀ {α β : Type} {middle : α → Prop} {result : β → Prop} {first second : Run α}
    {next next' : α → Run β}, holds middle first second →
    (∀ value, middle value → holds result (next value) (next' value)) →
    holds result (first >>= next) (second >>= next')
  reading : ∀ {α : Type} {result : α → Prop} {next next' : Engine → Run α},
    (∀ engine, inside engine → holds result (next engine) (next' engine)) →
    holds result (get >>= next) (get >>= next')
  /-- Arguments, reports and the host may change. -/
  edit : ∀ {change : Engine → Engine},
    (∀ engine, inside engine → ∃ slots reports host,
      change engine = { engine with slots, reports, host } ∧
        ∀ value ∈ slots, value.Only allowed) →
    holds (fun _ => True) (modify change : Run PUnit) (modify change)
  fail : ∀ {α : Type} {result : α → Prop} {cause : Cause}, cause.payload? = none →
    holds result (Run.fail cause) (Run.fail cause)
  throwValue : ∀ {α : Type} {result : α → Prop} {payload : Value}, payload.Only allowed →
    holds result (Engine.throwValue payload) (Engine.throwValue payload)

namespace Judgement

variable {judgement : Judgement} {α β : Type} {middle : α → Prop} {result : β → Prop}

/-- A computation whose value is used for a last result. -/
theorem andReturn
    {first second : Run α}
    (begins : judgement.holds middle first second)
    {f : α → β}
    (holds : ∀ value, middle value → result (f value)) :
    judgement.holds result (first >>= fun value => Pure.pure (f value))
      (second >>= fun value => Pure.pure (f value)) :=
  judgement.bind begins fun value inside => judgement.pure (holds value inside)

/-! ## Parts of natives -/

/-- A report is judged well, as it concerns no values. -/
theorem holds_report (message : String) :
    judgement.holds (fun _ => True) (modify (report message) : Run PUnit)
      (modify (report message)) :=
  judgement.edit fun engine inside => ⟨engine.slots, _, engine.host, rfl, judgement.slots inside⟩

/-- A change of the host alone is judged well. -/
theorem holds_host
    {change : Engine → Engine}
    (same : ∀ engine, change engine = { engine with host := (change engine).host }) :
    judgement.holds (fun _ => True) (modify change : Run PUnit) (modify change) :=
  judgement.edit fun engine inside =>
    ⟨engine.slots, engine.reports, _, same engine, judgement.slots inside⟩

theorem holds_nonfatal
    (message : String)
    {default : Value}
    (only : default.Only judgement.allowed) :
    judgement.holds (Value.Only judgement.allowed) (liftM (nonfatal message default))
      (liftM (nonfatal message default)) :=
  judgement.bind (holds_report message) fun _ _ => judgement.pure only

theorem holds_allowPrivileged (operation : String) :
    judgement.holds (fun _ => True) (liftM (allowPrivileged operation))
      (liftM (allowPrivileged operation)) := by
  have parts : (liftM (allowPrivileged operation) : Run Bool) = get >>= fun engine =>
      if engine.safeMode.isEnabled then
        modify (report (operation ++ " is disabled in safe mode")) >>= fun _ => Pure.pure false
      else Pure.pure true := by
    funext engine
    rw [Run.lift_eq, Run.get_bind, allowPrivileged, get_bind_eq]
    split <;> rfl
  rw [parts]
  apply judgement.reading
  intro engine inside
  split
  · exact andReturn (holds_report _) fun _ _ => trivial
  · exact judgement.pure trivial

theorem holds_arg (index : Nat) :
    judgement.holds (Value.Only judgement.allowed) (Library.arg .fallBack index)
      (Library.arg .fallBack index) := by
  apply judgement.reading
  intro engine inside
  split
  · next value there =>
      exact judgement.pure (judgement.slots inside value (List.mem_of_getElem? there))
  · exact judgement.pure Value.only_void

theorem holds_takeArg (index : Nat) :
    judgement.holds (Value.Only judgement.allowed) (Library.takeArg .fallBack index)
      (Library.takeArg .fallBack index) := by
  refine judgement.bind (holds_arg index) fun value only => ?_
  refine andReturn (judgement.edit fun engine inside => ?_) fun _ _ => only
  refine ⟨_, engine.reports, engine.host, rfl, ?_⟩
  intro other member
  rcases List.mem_or_eq_of_mem_set member with earlier | rfl
  · exact judgement.slots inside other earlier
  · exact Value.only_void

/-- The arguments that are taken are allowed ones. -/
theorem holds_takeArgs :
    judgement.holds (fun values => ∀ value ∈ values, value.Only judgement.allowed)
      (liftM takeArgs) (liftM takeArgs) := by
  have parts : (liftM takeArgs : Run (List Value)) = get >>= fun engine =>
      modify (fun engine => { engine with slots := engine.slots.map fun _ => Value.void }) >>=
        fun _ => Pure.pure engine.slots := rfl
  rw [parts]
  apply judgement.reading
  intro engine inside
  refine andReturn (judgement.edit fun other _ => ?_) fun _ _ => judgement.slots inside
  refine ⟨_, other.reports, other.host, rfl, ?_⟩
  intro value member
  obtain ⟨-, -, rfl⟩ := List.mem_map.mp member
  exact Value.only_void

/-! ## Higher-order functions -/

section Iteration

variable {entries : Iteration.Entries}

/-- A predicate is judged as its call. -/
theorem holds_test
    {call call' : Value → Run Value}
    (calls : ∀ value, value.Only judgement.allowed →
      judgement.holds (Value.Only judgement.allowed) (call value) (call' value))
    (value : Value)
    (only : value.Only judgement.allowed) :
    judgement.holds (fun _ => True) (Iteration.test call value) (Iteration.test call' value) := by
  refine judgement.bind (calls value only) fun answer _ => ?_
  cases answer.coerce .bool with
  | ok converted => exact judgement.pure trivial
  | error cast => exact judgement.fail rfl

/-- A map is judged as its calls. -/
theorem holds_map
    {call call' : Value → Run Value}
    (calls : ∀ value, value.Only judgement.allowed →
      judgement.holds (Value.Only judgement.allowed) (call value) (call' value))
    (only : ∀ entry ∈ entries, entry.2.Only judgement.allowed) :
    judgement.holds (fun results => ∀ entry ∈ results, entry.2.Only judgement.allowed)
      (Iteration.map call entries) (Iteration.map call' entries) := by
  induction entries with
  | nil => exact judgement.pure fun _ member => nomatch member
  | cons entry entries ih =>
      rw [List.forall_mem_cons] at only
      refine judgement.bind (calls entry.2 only.1) fun answer holds => ?_
      exact andReturn (ih only.2)
        fun _ rest => List.forall_mem_cons.mpr ⟨holds, rest⟩

theorem holds_fold
    {call call' : Value → Value → Run Value}
    (calls : ∀ accumulator value, accumulator.Only judgement.allowed →
      value.Only judgement.allowed → judgement.holds (Value.Only judgement.allowed)
        (call accumulator value) (call' accumulator value))
    {accumulator : Value}
    {values : List Value}
    (only : accumulator.Only judgement.allowed)
    (onlyValues : ∀ value ∈ values, value.Only judgement.allowed) :
    judgement.holds (Value.Only judgement.allowed) (Iteration.fold call accumulator values)
      (Iteration.fold call' accumulator values) := by
  induction values generalizing accumulator with
  | nil => exact judgement.pure only
  | cons value values ih =>
      rw [List.forall_mem_cons] at onlyValues
      refine judgement.bind (calls accumulator value only onlyValues.1) fun next holds => ?_
      exact ih holds onlyValues.2

variable {test test' : Value → Run Bool}
variable (tests : ∀ value, value.Only judgement.allowed →
  judgement.holds (fun _ => True) (test value) (test' value))
variable (only : ∀ entry ∈ entries, entry.2.Only judgement.allowed)

include tests only

theorem holds_filter :
    judgement.holds (fun kept => ∀ entry ∈ kept, entry.2.Only judgement.allowed)
      (Iteration.filter test entries) (Iteration.filter test' entries) := by
  induction entries with
  | nil => exact judgement.pure fun _ member => nomatch member
  | cons entry entries ih =>
      rw [List.forall_mem_cons] at only
      refine judgement.bind (tests entry.2 only.1) fun keep _ => ?_
      refine andReturn (ih only.2) fun kept rest => ?_
      cases keep with
      | true => exact List.forall_mem_cons.mpr ⟨only.1, rest⟩
      | false => exact rest

theorem holds_takeWhile :
    judgement.holds (fun taken => ∀ entry ∈ taken, entry.2.Only judgement.allowed)
      (Iteration.takeWhile test entries) (Iteration.takeWhile test' entries) := by
  induction entries with
  | nil => exact judgement.pure fun _ member => nomatch member
  | cons entry entries ih =>
      rw [List.forall_mem_cons] at only
      refine judgement.bind (tests entry.2 only.1) fun passes _ => ?_
      cases passes with
      | true =>
          exact andReturn (ih only.2)
            fun _ rest => List.forall_mem_cons.mpr ⟨only.1, rest⟩
      | false => exact judgement.pure fun _ member => nomatch member

theorem holds_dropWhile :
    judgement.holds (fun rest => ∀ entry ∈ rest, entry.2.Only judgement.allowed)
      (Iteration.dropWhile test entries) (Iteration.dropWhile test' entries) := by
  induction entries with
  | nil => exact judgement.pure fun _ member => nomatch member
  | cons entry entries ih =>
      refine judgement.bind (tests entry.2 (only entry List.mem_cons_self)) fun passes _ => ?_
      cases passes with
      | true => exact ih (List.forall_mem_cons.mp only).2
      | false => exact judgement.pure only

end Iteration

/-! ## Natives -/

/-- A content that a value has, or what the program falls back on. -/
theorem holds_content
    {view? : Value → Option β}
    {fallback : Run β}
    {value : Value}
    (found : ∀ content, view? value = some content → result content)
    (falls : judgement.holds result fallback fallback) :
    judgement.holds result (Library.content .fallBack view? fallback value)
      (Library.content .fallBack view? fallback value) := by
  unfold Library.content
  cases viewed : view? value with
  | some content => exact judgement.pure (found content viewed)
  | none => exact falls

theorem only_of_asArray?
    {value : Value}
    (only : value.Only judgement.allowed)
    (items : OrderedMap Value)
    (viewed : value.asArray? = some items) :
    items.All (Value.Only judgement.allowed) := by
  cases value <;> cases viewed
  exact Value.only_array.mp only

/-- The elements of an array argument are allowed ones. -/
theorem holds_arrayArg (function : LibraryFunction) (index : Nat) :
    judgement.holds (OrderedMap.All (Value.Only judgement.allowed))
      (Library.arrayArg .fallBack function index) (Library.arrayArg .fallBack function index) :=
  judgement.bind (holds_arg index) fun _ only =>
    holds_content (only_of_asArray? only) (judgement.fail rfl)

theorem holds_recordArg (function : LibraryFunction) (index : Nat) :
    judgement.holds (fun content => (Value.record content).Only judgement.allowed)
      (Library.recordArg .fallBack function index)
      (Library.recordArg .fallBack function index) := by
  refine judgement.bind (holds_arg index) fun value only => ?_
  refine holds_content (fun content viewed => ?_) (judgement.fail rfl)
  cases value <;> cases viewed
  exact only

theorem holds_bytesArg (index : Nat) :
    judgement.holds (fun _ => True) (Library.bytesArg .fallBack index)
      (Library.bytesArg .fallBack index) :=
  judgement.bind (holds_arg index) fun _ _ =>
    holds_content (fun _ _ => trivial) (judgement.pure trivial)

theorem holds_textArg (index : Nat) :
    judgement.holds (fun _ => True) (Library.textArg .fallBack index)
      (Library.textArg .fallBack index) :=
  judgement.bind (holds_arg index) fun _ _ =>
    holds_content (fun _ _ => trivial) (judgement.pure trivial)

/-- The elements of an argument are allowed ones, also if there are none. -/
theorem holds_itemsArg (index : Nat) :
    judgement.holds (OrderedMap.All (Value.Only judgement.allowed))
      (Library.itemsArg .fallBack index) (Library.itemsArg .fallBack index) :=
  judgement.bind (holds_arg index) fun _ only =>
    holds_content (only_of_asArray? only) (judgement.pure OrderedMap.all_empty)

variable [KeyHash]

theorem holds_ofPairs
    (position : Nat)
    {items : OrderedMap Value}
    {args : List Value}
    (only : items.All (Value.Only judgement.allowed))
    (onlyArgs : ∀ arg ∈ args, arg.Only judgement.allowed) :
    judgement.holds (OrderedMap.All (Value.Only judgement.allowed))
      (Library.ofPairs .fallBack position items args)
      (Library.ofPairs .fallBack position items args) := by
  rcases Library.ofPairs_fallBack position items args with
    ⟨pairs, paired, all⟩ | ⟨place, cast, refused⟩
  · rw [paired]
    exact judgement.pure (all _ only onlyArgs)
  · rw [refused]
    exact judgement.fail rfl

theorem holds_mkkeyarray :
    judgement.holds (Value.Only judgement.allowed) (Library.mkkeyarray .fallBack)
      (Library.mkkeyarray .fallBack) := by
  apply judgement.reading
  intro engine inside
  have made : judgement.holds (Value.Only judgement.allowed)
      (Library.ofPairs .fallBack 0 .empty engine.slots >>= fun items => Pure.pure (.array items))
      (Library.ofPairs .fallBack 0 .empty engine.slots >>= fun items => Pure.pure (.array items)) :=
    andReturn (holds_ofPairs 0 OrderedMap.all_empty (judgement.slots inside))
      fun _ all => Value.only_array.mpr all
  dsimp only
  split
  · exact judgement.bind (holds_report _) fun _ _ => made
  · exact made

omit [KeyHash] in
/-- A change of the first argument is judged as the change. -/
theorem holds_changeArray
    {change : OrderedMap Value → Run Value}
    (changes : ∀ items, items.All (Value.Only judgement.allowed) →
      judgement.holds (Value.Only judgement.allowed) (change items) (change items)) :
    judgement.holds (Value.Only judgement.allowed) (Library.changeArray .fallBack change)
      (Library.changeArray .fallBack change) := by
  refine judgement.bind (holds_takeArg 0) fun target only => ?_
  cases target with
  | array items => exact changes items (Value.only_array.mp only)
  | _ => exact judgement.pure only

omit [KeyHash] in
theorem holds_arrayPush :
    judgement.holds (Value.Only judgement.allowed) (Library.arrayPush .fallBack)
      (Library.arrayPush .fallBack) :=
  judgement.bind (holds_takeArg 1) fun _ only =>
    holds_changeArray fun _ all => judgement.pure (Value.only_array.mpr (all.append only))

theorem holds_arrayDel :
    judgement.holds (Value.Only judgement.allowed) (Library.arrayDel .fallBack)
      (Library.arrayDel .fallBack) := by
  refine judgement.bind (holds_arg 1) fun address _ => ?_
  refine holds_changeArray fun items all => ?_
  cases deleted : ArrayLibrary.delete? items (Address.ofValue address) with
  | none => exact holds_nonfatal _ (Value.only_array.mpr all)
  | some remaining =>
      exact judgement.pure (Value.only_array.mpr (ArrayLibrary.only_delete? all deleted))

theorem holds_arrayCompact :
    judgement.holds (Value.Only judgement.allowed) (Library.arrayCompact .fallBack)
      (Library.arrayCompact .fallBack) :=
  holds_changeArray fun _ all => judgement.pure (Value.only_array.mpr all.compact)

omit [KeyHash] in
theorem holds_getenv :
    judgement.holds (Value.Only judgement.allowed) (Library.getenv .fallBack)
      (Library.getenv .fallBack) := by
  refine judgement.bind (holds_bytesArg 0) fun name _ => ?_
  split
  · apply judgement.reading
    intro engine inside
    split <;> exact judgement.pure (by simp)
  · exact judgement.pure Value.only_void

omit [KeyHash] in
/-- A native that safe mode refuses is judged as what it does when it is allowed. -/
theorem holds_privileged
    {operation : String}
    {onAllowed : Run Value}
    {refused : Value}
    (holds : judgement.holds (Value.Only judgement.allowed) onAllowed onAllowed)
    (only : refused.Only judgement.allowed) :
    judgement.holds (Value.Only judgement.allowed)
      (liftM (allowPrivileged operation) >>= fun allowed =>
        if allowed then onAllowed else Pure.pure refused)
      (liftM (allowPrivileged operation) >>= fun allowed =>
        if allowed then onAllowed else Pure.pure refused) := by
  refine judgement.bind (holds_allowPrivileged operation) fun allowed _ => ?_
  split
  · exact holds
  · exact judgement.pure only

omit [KeyHash] in
theorem holds_setenv :
    judgement.holds (Value.Only judgement.allowed) (Library.setenv .fallBack)
      (Library.setenv .fallBack) := by
  refine holds_privileged ?_ (by simp)
  refine judgement.bind (holds_bytesArg 0) fun name _ => ?_
  refine judgement.bind (holds_bytesArg 1) fun value _ => ?_
  rw [Library.setVariable_fallBack]
  split
  · exact judgement.bind (holds_host fun _ => rfl) fun _ _ => judgement.pure (by simp)
  · exact holds_nonfatal _ (by simp)

omit [KeyHash] in
theorem holds_unsetenv :
    judgement.holds (Value.Only judgement.allowed) (Library.unsetenv .fallBack)
      (Library.unsetenv .fallBack) := by
  refine holds_privileged ?_ (by simp)
  refine judgement.bind (holds_bytesArg 0) fun name _ => ?_
  rw [Library.unsetVariable_fallBack]
  split
  · exact judgement.bind (holds_host fun _ => rfl) fun _ _ => judgement.pure (by simp)
  · exact holds_nonfatal _ (by simp)

omit [KeyHash] in
/-- Running a command is judged well, whatever the shell of the host does. -/
theorem holds_system :
    judgement.holds (Value.Only judgement.allowed) (Library.system .fallBack)
      (Library.system .fallBack) := by
  refine holds_privileged ?_ Value.only_void
  refine judgement.bind (holds_bytesArg 0) fun bytes _ => ?_
  apply judgement.reading
  intro engine inside
  dsimp only
  split
  · exact judgement.bind (holds_host fun _ => rfl) fun _ _ => judgement.pure (by simp)
  · exact judgement.bind (holds_host fun _ => rfl) fun _ _ => judgement.pure (by simp)
  · exact holds_nonfatal _ (by simp)

/-- A judgement holds of the calls that natives make. -/
def Calls (judgement : Judgement) (first second : Dispatcher) : Prop :=
  ∀ callee args, callee.Only judgement.allowed → (∀ arg ∈ args, arg.Only judgement.allowed) →
    judgement.holds (Value.Only judgement.allowed) (callValue first callee args)
      (callValue second callee args)

variable {first second : Dispatcher}
variable (calls : judgement.Calls first second)

include calls

theorem holds_callArgs :
    judgement.holds (Value.Only judgement.allowed) (Library.callArgs .fallBack first)
      (Library.callArgs .fallBack second) := by
  refine judgement.bind holds_takeArgs fun values only => ?_
  cases values with
  | nil => exact calls .void [] Value.only_void only
  | cons callee args =>
      rw [List.forall_mem_cons] at only
      exact calls callee args only.1 only.2

/-- A native that transforms an array is judged as its loop. -/
theorem holds_transform
    (apply : (Value → Run Value) → Iteration.Entries → Run Iteration.Entries)
    (applies : ∀ call call' : Value → Run Value,
      (∀ value, value.Only judgement.allowed →
        judgement.holds (Value.Only judgement.allowed) (call value) (call' value)) →
      ∀ entries : Iteration.Entries, (∀ entry ∈ entries, entry.2.Only judgement.allowed) →
        judgement.holds (fun results => ∀ entry ∈ results, entry.2.Only judgement.allowed)
          (apply call entries) (apply call' entries)) :
    judgement.holds (Value.Only judgement.allowed) (Library.transform .fallBack first apply)
      (Library.transform .fallBack second apply) := by
  refine judgement.bind (holds_itemsArg 1) fun items onlyItems => ?_
  refine judgement.bind (holds_arg 0) fun callee onlyCallee => ?_
  have called (value : Value) (only : value.Only judgement.allowed) :=
    calls callee [value] onlyCallee (by simpa using only)
  refine andReturn (applies _ _ called _ (Iteration.only_entriesOf onlyItems)) ?_
  intro results only
  exact Value.only_array.mpr (Iteration.only_ofEntries only)

/-- A native that folds an array is judged as its loop. -/
theorem holds_reduce
    (apply : (Value → Value → Run Value) → Value → List Value → Run Value)
    (applies : ∀ call call' : Value → Value → Run Value,
      (∀ accumulator value, accumulator.Only judgement.allowed → value.Only judgement.allowed →
        judgement.holds (Value.Only judgement.allowed) (call accumulator value)
          (call' accumulator value)) →
      ∀ initial values, initial.Only judgement.allowed →
        (∀ value ∈ values, value.Only judgement.allowed) →
        judgement.holds (Value.Only judgement.allowed) (apply call initial values)
          (apply call' initial values)) :
    judgement.holds (Value.Only judgement.allowed) (Library.reduce .fallBack first apply)
      (Library.reduce .fallBack second apply) := by
  refine judgement.bind (holds_itemsArg 2) fun items onlyItems => ?_
  refine judgement.bind (holds_takeArg 1) fun initial onlyInitial => ?_
  refine judgement.bind (holds_arg 0) fun callee onlyCallee => ?_
  refine applies _ _ ?_ initial items.values onlyInitial onlyItems
  intro accumulator value onlyAccumulator only
  exact calls callee [accumulator, value] onlyCallee (by simpa using ⟨onlyAccumulator, only⟩)

/-- What holds of the calls of a native holds of the native. -/
theorem holds_exec (function : LibraryFunction) :
    judgement.holds (Value.Only judgement.allowed) (Library.exec first function)
      (Library.exec second function) := by
  cases function with
  | mkkeyarray => exact holds_mkkeyarray
  | arrayKeys =>
      exact andReturn (holds_arrayArg _ 0)
        fun _ _ => Value.only_ofList.mpr ArrayLibrary.only_addresses
  | arrayValues => exact andReturn (holds_arrayArg _ 0) fun _ only => Value.only_ofList.mpr only
  | arraySize => exact andReturn (holds_arrayArg _ 0) fun _ _ => by simp
  | arrayGet =>
      refine judgement.bind (holds_arrayArg _ 0) fun items only => ?_
      exact andReturn (holds_arg 1) fun _ _ => ArrayLibrary.only_get only _
  | arrayPush => exact holds_arrayPush
  | arrayDel => exact holds_arrayDel
  | arrayCompact => exact holds_arrayCompact
  | arrayReverse =>
      exact andReturn (holds_arrayArg _ 0) fun _ only => Value.only_array.mpr only.reverse
  | arrayMerge =>
      apply judgement.reading
      intro engine inside
      exact judgement.pure (Value.only_array.mpr (ArrayLibrary.only_merge (judgement.slots inside)))
  | arraySearch =>
      refine judgement.bind (holds_arrayArg _ 0) fun items _ => ?_
      exact andReturn (holds_arg 1) fun _ _ => ArrayLibrary.only_search _
  | structFields => exact andReturn (holds_recordArg _ 0) fun _ _ => Value.only_ofTexts _
  | recordMerge =>
      refine judgement.bind (holds_recordArg _ 0) fun left onlyLeft => ?_
      exact andReturn (holds_recordArg _ 1) fun _ onlyRight => onlyLeft.merge onlyRight
  | throw => exact judgement.bind (holds_takeArg 0) fun _ only => judgement.throwValue only
  | call => exact holds_callArgs calls
  | equal =>
      refine judgement.bind (holds_arg 0) fun _ _ => ?_
      exact andReturn (holds_arg 1) fun _ _ => by simp
  | order =>
      refine judgement.bind (holds_arg 0) fun _ _ => ?_
      exact andReturn (holds_arg 1) fun _ _ => by simp
  | typeOf => exact andReturn (holds_arg 0) fun _ _ => by simp
  | isA =>
      apply judgement.reading
      intro engine inside
      refine judgement.bind (holds_arg 0) fun _ _ => ?_
      exact andReturn (holds_textArg 1) fun _ _ => by simp
  | safeMode => exact judgement.reading fun _ _ => judgement.pure (by simp)
  | getenv => exact holds_getenv
  | setenv => exact holds_setenv
  | unsetenv => exact holds_unsetenv
  | system => exact holds_system
  | map => exact holds_transform calls _ fun _ _ called _ => holds_map called
  | filter =>
      exact holds_transform calls (fun call => Iteration.filter (Iteration.test call))
        fun _ _ called _ => holds_filter (holds_test called)
  | fold => exact holds_reduce calls _ fun _ _ called _ _ => holds_fold called
  | foldr =>
      refine holds_reduce calls _ fun _ _ called _ _ only onlyValues => ?_
      exact holds_fold called only fun value member => onlyValues value (List.mem_reverse.mp member)
  | takeWhile =>
      exact holds_transform calls (fun call => Iteration.takeWhile (Iteration.test call))
        fun _ _ called _ => holds_takeWhile (holds_test called)
  | dropWhile =>
      exact holds_transform calls (fun call => Iteration.dropWhile (Iteration.test call))
        fun _ _ called _ => holds_dropWhile (holds_test called)

end Judgement

/-! ## Contracts -/

/-- What holds of an engine between the steps of a computation, and of a failure
together with the engine that it leaves. -/
structure Contract where
  /-- The signatures that values may reach. -/
  allowed : Signature → Prop
  during : Engine → Prop
  failed : Failure → Engine → Prop
  slots : ∀ {engine : Engine}, during engine → ∀ value ∈ engine.slots, value.Only allowed
  edit : ∀ {engine : Engine} {slots : List Value} {reports : List String} {host : Host},
    during engine → (∀ value ∈ slots, value.Only allowed) →
    during { engine with slots, reports, host }
  fail : ∀ {engine : Engine} {error : ScriptError}, during engine → error.payload? = none →
    failed (.error error) engine
  raise : ∀ {engine : Engine} (payload : Value), during engine →
    failed (.error (.thrown payload)) { engine with exception := .raised payload }

namespace Contract

variable {contract : Contract} {α β : Type} {middle : α → Prop} {result : β → Prop}

/-- How a computation ends that keeps a contract. -/
def Ended (contract : Contract) (result : α → Prop) : Except Failure α × Engine → Prop
  | (.ok value, after) => result value ∧ contract.during after
  | (.error failure, after) => contract.failed failure after

/-- A computation that keeps a contract. -/
def Keeps (contract : Contract) (result : α → Prop) (body : Run α) : Prop :=
  ∀ engine, contract.during engine → contract.Ended result (body engine)

theorem Keeps.pure {value : β} (holds : result value) :
    contract.Keeps result (Pure.pure value) :=
  fun _ during => ⟨holds, during⟩

/-- A sequence keeps a contract if its parts do. -/
theorem Keeps.bind
    {first : Run α}
    {next : α → Run β}
    (begins : contract.Keeps middle first)
    (goesOn : ∀ value, middle value → contract.Keeps result (next value)) :
    contract.Keeps result (first >>= next) := by
  intro engine during
  have ended := begins engine during
  rcases done : first engine with ⟨outcome, after⟩
  rw [done] at ended
  cases outcome with
  | ok value =>
      rw [Run.bind_ok done]
      exact goesOn value ended.1 after ended.2
  | error failure =>
      rw [Run.bind_error done]
      exact ended

/-- A contract as a judgement that ignores the second computation. -/
def judgement (contract : Contract) : Judgement where
  allowed := contract.allowed
  inside := contract.during
  holds result first _ := contract.Keeps result first
  slots := contract.slots
  pure holds := Keeps.pure holds
  bind begins goesOn := Keeps.bind begins goesOn
  reading goesOn := fun engine during => goesOn engine during engine during
  edit changes := by
    intro engine during
    obtain ⟨slots, reports, host, changed, only⟩ := changes engine during
    refine ⟨trivial, ?_⟩
    rw [changed]
    exact contract.edit during only
  fail plain := fun _ during => contract.fail during plain
  throwValue _ := fun _ during => contract.raise _ during

variable [KeyHash]

/-- A native keeps a contract if its calls do. -/
theorem keeps_exec
    {dispatch : Dispatcher}
    (calls : ∀ callee args, callee.Only contract.allowed →
      (∀ arg ∈ args, arg.Only contract.allowed) →
      contract.Keeps (Value.Only contract.allowed) (callValue dispatch callee args))
    (function : LibraryFunction) :
    contract.Keeps (Value.Only contract.allowed) (Library.exec dispatch function) := by
  have called : contract.judgement.Calls dispatch dispatch := calls
  exact Judgement.holds_exec called function

end Contract
end ScriptCore
