import ScriptCore.Proofs.Engine.Journals

/-!
# Journals of the library

What calls and the natives of the library report, given what a dispatcher
reports of each call. A native reports when it ignores an argument, when it is
refused in safe mode and when the host cannot do what it asks for; a
higher-order native reports what its calls report, one after the other.
-/

namespace ScriptCore
namespace Engine.Journal

/-! ## Calls -/

/-- The call of an overload set. -/
def callFunction (calls : Call → Journal) (function : Function) (args : List Value) : Journal :=
  match function.resolve? args.length with
  | some signature => calls { signature, args, receiver? := none }
  | none => quiet

variable [KeyHash]

/-- The call of a function by name. -/
def callByName (calls : Call → Journal) (name : String) (args : List Value) : Journal :=
  fun engine =>
    match engine.scopes.lookupFunction? name with
    | some function => callFunction calls function args engine
    | none => []

/-- The call of a function value, or of the function that a string names. -/
def callValue (calls : Call → Journal) (callee : Value) (args : List Value) : Journal :=
  match callee with
  | .function function => callFunction calls function args
  | .str bytes => callByName calls (Utf8.text bytes) args
  | _ => quiet

/-- The call of a method. -/
def callMethod (calls : Call → Journal) (receiver : Value) (name : String) (args : List Value) :
    Journal :=
  match resolveMethod receiver name args.length with
  | .ok signature => calls { signature, args, receiver? := some receiver }
  | .error _ => quiet

/-- The making of an instance: the call of its constructor. -/
def instantiate (calls : Call → Journal) (className : String) (args : List Value) : Journal :=
  fun engine =>
    match engine.class? className with
    | none => []
    | some cls =>
        match cls.findConstructor? with
        | none => []
        | some signature =>
            calls { signature, args, receiver? := some (.record cls.template) } engine

section Calls

variable {dispatch : Dispatcher} {calls : Call → Journal}
  (recorded : ∀ call, (calls call).Records (dispatch call))

include recorded

omit [KeyHash] in
theorem records_callFunction (function : Function) (args : List Value) :
    (callFunction calls function args).Records (Engine.callFunction dispatch function args) := by
  unfold callFunction Engine.callFunction
  cases function.resolve? args.length with
  | none => exact quiet_fail _ _
  | some signature => exact recorded _

/-- A call by name reports what the function does, and nothing if it is
undefined. -/
theorem records_callByName (name : String) (args : List Value) :
    (callByName calls name args).Records (Engine.callByName dispatch name args) := by
  intro engine
  unfold callByName Engine.callByName
  rw [Run.get_bind]
  cases engine.scopes.lookupFunction? name with
  | none => exact .nothing rfl
  | some function => exact records_callFunction recorded function args engine

theorem records_callValue (callee : Value) (args : List Value) :
    (callValue calls callee args).Records (Engine.callValue dispatch callee args) := by
  cases callee with
  | function function => exact records_callFunction recorded function args
  | str bytes => exact records_callByName recorded (Utf8.text bytes) args
  | _ => exact quiet_fail _ _

/-- A call of a method reports what the method does. -/
theorem records_callMethod (receiver : Value) (name : String) (args : List Value) :
    (callMethod calls receiver name args).Records
      (Engine.callMethod dispatch receiver name args) := by
  unfold callMethod Engine.callMethod
  cases resolveMethod receiver name args.length with
  | ok signature => exact recorded _
  | error error => exact records_quiet fun _ => rfl

/-- Instantiating a class reports what its constructor does. -/
theorem records_instantiate (className : String) (args : List Value) :
    (instantiate calls className args).Records (Engine.instantiate dispatch className args) := by
  intro engine
  unfold instantiate Engine.instantiate
  rw [Run.get_bind]
  cases engine.class? className with
  | none => exact .nothing rfl
  | some cls =>
      dsimp only
      cases cls.findConstructor? with
      | none => exact .nothing rfl
      | some signature => exact recorded _ engine

end Calls

/-! ## Arguments -/

omit [KeyHash] in
theorem quiet_arg (index : Nat) : quiet.Records (Library.arg .fallBack index) :=
  records_quiet fun engine => by rw [Library.arg_fallBack]

omit [KeyHash] in
theorem quiet_takeArg (index : Nat) : quiet.Records (Library.takeArg .fallBack index) :=
  records_quiet fun engine => by rw [Library.takeArg_fallBack]; rfl

omit [KeyHash] in
theorem quiet_content {α : Type} {view? : Value → Option α} {fallback : Run α} (value : Value)
    (falls : quiet.Records fallback) :
    quiet.Records (Library.content .fallBack view? fallback value) := by
  unfold Library.content
  cases view? value with
  | some content => exact quiet_pure content
  | none => exact falls

omit [KeyHash] in
theorem quiet_arrayArg (function : LibraryFunction) (index : Nat) :
    quiet.Records (Library.arrayArg .fallBack function index) :=
  (quiet_arg index).andQuiet fun value => quiet_content value (quiet_fail _ _)

omit [KeyHash] in
theorem quiet_recordArg (function : LibraryFunction) (index : Nat) :
    quiet.Records (Library.recordArg .fallBack function index) :=
  (quiet_arg index).andQuiet fun value => quiet_content value (quiet_fail _ _)

omit [KeyHash] in
theorem quiet_textArg (index : Nat) : quiet.Records (Library.textArg .fallBack index) :=
  (quiet_arg index).andQuiet fun value => quiet_content value (quiet_pure _)

/-- The bytes of the argument at a position. -/
def bytesAt (engine : Engine) (index : Nat) : Bytes :=
  (engine.slotAt index).asBytes?.getD []

omit [KeyHash] in
theorem bytesArg_eq (index : Nat) (engine : Engine) :
    Library.bytesArg .fallBack index engine = (.ok (bytesAt engine index), engine) :=
  Library.bytesArg_fallBack index engine

/-! ## Arrays -/

/-- A key without a value is ignored with a report. -/
def mkkeyarray : Journal := fun engine =>
  if engine.slots.length % 2 != 0 then
    [.message "mkkeyarray: odd number of arguments, last key ignored"]
  else []

/-- Making an array from pairs reports nothing. -/
theorem quiet_ofPairs (position : Nat) (items : OrderedMap Value) (args : List Value) :
    quiet.Records (Library.ofPairs .fallBack position items args) := by
  rcases Library.ofPairs_fallBack position items args with
    ⟨pairs, paired, -⟩ | ⟨place, cast, refused⟩
  · rw [paired]
    exact quiet_pure pairs
  · rw [refused]
    exact quiet_fail _ _

/-- Making a keyed array reports an odd number of arguments. -/
theorem records_mkkeyarray : mkkeyarray.Records (Library.mkkeyarray .fallBack) := by
  intro engine
  have paired : quiet.Records (Library.ofPairs .fallBack 0 .empty engine.slots >>= fun items =>
      pure (Value.array items)) :=
    (quiet_ofPairs 0 .empty engine.slots).andQuiet fun _ => quiet_pure _
  unfold mkkeyarray Library.mkkeyarray
  rw [Run.get_bind]
  split
  · exact (Plays.report engine _).trans (paired _)
  · exact paired engine

/-- A missing element cannot be deleted. -/
def arrayDel : Journal := fun engine =>
  match engine.slotAt 0 with
  | .array items =>
      match ArrayLibrary.delete? items (Address.ofValue (engine.slotAt 1)) with
      | some _ => []
      | none => [.message "array_del: no such element"]
  | _ => []

/-- A deletion reports a miss. -/
theorem records_arrayDel : arrayDel.Records (Library.arrayDel .fallBack) := by
  intro engine
  unfold arrayDel Library.arrayDel
  rw [Run.bind_ok (Library.arg_fallBack 1 engine), Library.changeArray,
    Run.bind_ok (Library.takeArg_fallBack 0 engine)]
  cases engine.slotAt 0 with
  | array items =>
      dsimp only
      cases ArrayLibrary.delete? items (Address.ofValue (engine.slotAt 1)) with
      | some remaining => exact .nothing rfl
      | none => exact (Plays.report (engine.setSlot 0 .void) _).congr rfl rfl
  | _ => exact .nothing rfl

/-! ## The process -/

omit [KeyHash] in
theorem quiet_getenv : quiet.Records (Library.getenv .fallBack) := by
  intro engine
  unfold Library.getenv
  rw [Run.bind_ok (bytesArg_eq 0 engine)]
  split
  · rw [Run.get_bind]
    cases engine.host.environment.get? (bytesAt engine 0) <;> exact .nothing rfl
  · exact .nothing rfl

/-- A name or a value that the environment cannot hold is reported. -/
def setenv : Journal := fun engine =>
  if Environment.isValidName (bytesAt engine 0) &&
    Environment.isValidValue (bytesAt engine 1) then []
  else [.message (Library.invalidVariable "setenv" (bytesAt engine 0))]

omit [KeyHash] in
/-- Setting a variable reports an invalid name or value, or that it is not
allowed. -/
theorem records_setenv : (privileged "setenv" setenv).Records (Library.setenv .fallBack) := by
  refine records_privileged (fun engine => ?_) (Value.bool false)
  unfold setenv
  rw [Run.bind_ok (bytesArg_eq 0 engine), Run.bind_ok (bytesArg_eq 1 engine),
    Library.setVariable_fallBack]
  split
  · exact .nothing rfl
  · exact .report engine _

/-- A name that the environment cannot hold is reported. -/
def unsetenv : Journal := fun engine =>
  if Environment.isValidName (bytesAt engine 0) then []
  else [.message (Library.invalidVariable "unsetenv" (bytesAt engine 0))]

omit [KeyHash] in
/-- Unsetting a variable reports an invalid name, or that it is not allowed. -/
theorem records_unsetenv :
    (privileged "unsetenv" unsetenv).Records (Library.unsetenv .fallBack) := by
  refine records_privileged (fun engine => ?_) (Value.bool false)
  unfold unsetenv
  rw [Run.bind_ok (bytesArg_eq 0 engine), Library.unsetVariable_fallBack]
  split
  · exact .nothing rfl
  · exact .report engine _

/-- A command that the host cannot start is reported with the reason. -/
def system : Journal := fun engine =>
  match engine.host.shell.run engine.host.environment engine.host.commands
      (Utf8.text (bytesAt engine 0)) with
  | .notStarted reason => [.message ("system: " ++ reason)]
  | _ => []

omit [KeyHash] in
/-- Running a command reports why it could not start, or that it is not
allowed. -/
theorem records_system : (privileged "system" system).Records (Library.system .fallBack) := by
  refine records_privileged (fun engine => ?_) Value.void
  unfold system
  rw [Run.bind_ok (bytesArg_eq 0 engine)]
  dsimp only
  rw [Run.get_bind]
  cases engine.host.shell.run engine.host.environment engine.host.commands
      (Utf8.text (bytesAt engine 0)) with
  | exited code => exact .nothing rfl
  | killed => exact .nothing rfl
  | notStarted reason => exact .report engine _

/-! ## Loops -/

/-- Calls for the elements of an array in order, as long as the results say so. -/
def visiting {β : Type} (visit : Value → Run β) (goesOn : β → Bool) (journal : Value → Journal) :
    Iteration.Entries → Journal
  | [] => quiet
  | entry :: entries =>
      andThen (visit entry.2) (journal entry.2) fun result =>
        if goesOn result then visiting visit goesOn journal entries else quiet

/-- Calls that combine values in order. -/
def folding (call : Value → Value → Run Value) (journal : Value → Value → Journal)
    (accumulator : Value) : List Value → Journal
  | [] => quiet
  | value :: values =>
      andThen (call accumulator value) (journal accumulator value) fun next =>
        folding call journal next values

omit [KeyHash] in
theorem records_test {call : Value → Run Value} {journal : Value → Journal}
    (called : ∀ value, (journal value).Records (call value)) (value : Value) :
    (journal value).Records (Iteration.test call value) := by
  refine (called value).andQuiet fun result => ?_
  cases result.coerce .bool with
  | ok converted => exact quiet_pure _
  | error cast => exact quiet_fail _ _

omit [KeyHash] in
/-- A fold reports what its calls do, one after the other, up to the first that
fails. -/
theorem records_fold {call : Value → Value → Run Value} {journal : Value → Value → Journal}
    (called : ∀ accumulator value, (journal accumulator value).Records (call accumulator value))
    (accumulator : Value) (values : List Value) :
    (folding call journal accumulator values).Records
      (Iteration.fold call accumulator values) := by
  induction values generalizing accumulator with
  | nil => exact quiet_pure accumulator
  | cons value values ih =>
      exact (called accumulator value).andThen fun next => ih next

section Loops

variable {call : Value → Run Value} {journal : Value → Journal}
  (called : ∀ value, (journal value).Records (call value))

include called

omit [KeyHash]

/-- A map reports what its calls do, for every element. -/
theorem records_map (entries : Iteration.Entries) :
    (visiting call (fun _ => true) journal entries).Records (Iteration.map call entries) := by
  induction entries with
  | nil => exact quiet_pure []
  | cons entry entries ih =>
      refine (called entry.2).andThen fun _ => ?_
      exact ih.andQuiet fun _ => quiet_pure _

/-- A filter reports what its calls do, for every element. -/
theorem records_filter (entries : Iteration.Entries) :
    (visiting (Iteration.test call) (fun _ => true) journal entries).Records
      (Iteration.filter (Iteration.test call) entries) := by
  induction entries with
  | nil => exact quiet_pure []
  | cons entry entries ih =>
      refine (records_test called entry.2).andThen fun _ => ?_
      exact ih.andQuiet fun _ => quiet_pure _

/-- Taking elements reports what the calls do up to the first refusal. -/
theorem records_takeWhile (entries : Iteration.Entries) :
    (visiting (Iteration.test call) id journal entries).Records
      (Iteration.takeWhile (Iteration.test call) entries) := by
  induction entries with
  | nil => exact quiet_pure []
  | cons entry entries ih =>
      refine (records_test called entry.2).andThen fun holds => ?_
      cases holds with
      | true => exact ih.andQuiet fun _ => quiet_pure _
      | false => exact quiet_pure _

/-- Dropping elements reports what the calls do up to the first refusal. -/
theorem records_dropWhile (entries : Iteration.Entries) :
    (visiting (Iteration.test call) id journal entries).Records
      (Iteration.dropWhile (Iteration.test call) entries) := by
  induction entries with
  | nil => exact quiet_pure []
  | cons entry entries ih =>
      refine (records_test called entry.2).andThen fun holds => ?_
      cases holds with
      | true => exact ih
      | false => exact quiet_pure _

end Loops

/-! ## All natives -/

/-- A native that visits the array at position one with the callable at position
zero. -/
def transforming {β : Type} (dispatch : Dispatcher) (calls : Call → Journal)
    (visit : (Value → Run Value) → Value → Run β) (goesOn : β → Bool) : Journal := fun engine =>
  visiting (visit fun value => Engine.callValue dispatch (engine.slotAt 0) [value]) goesOn
    (fun value => callValue calls (engine.slotAt 0) [value])
    (Iteration.entriesOf ((engine.slotAt 1).asArray?.getD .empty)) engine

/-- A native that combines values with the callable at position zero, starting
from the value at position one. -/
def reducing (dispatch : Dispatcher) (calls : Call → Journal)
    (order : List Value → List Value) : Journal := fun engine =>
  -- The callable is read after the initial value has been taken.
  let start := engine.setSlot 1 .void
  folding (fun accumulator value =>
      Engine.callValue dispatch (start.slotAt 0) [accumulator, value])
    (fun accumulator value => callValue calls (start.slotAt 0) [accumulator, value])
    (engine.slotAt 1) (order ((engine.slotAt 2).asArray?.getD .empty).values) start

/-- The call of the value at position zero with the other arguments. -/
def callArgs (calls : Call → Journal) : Journal := fun engine =>
  callValue calls (engine.slots.headD .void) engine.slots.tail
    { engine with slots := engine.slots.map fun _ => .void }

/-- What a native of the library reports. -/
def native (dispatch : Dispatcher) (calls : Call → Journal) : LibraryFunction → Journal
  | .mkkeyarray => mkkeyarray
  | .arrayDel => arrayDel
  | .call => callArgs calls
  | .setenv => privileged "setenv" setenv
  | .unsetenv => privileged "unsetenv" unsetenv
  | .system => privileged "system" system
  | .map => transforming dispatch calls id fun _ => true
  | .filter => transforming dispatch calls Iteration.test fun _ => true
  | .takeWhile => transforming dispatch calls Iteration.test id
  | .dropWhile => transforming dispatch calls Iteration.test id
  | .fold => reducing dispatch calls id
  | .foldr => reducing dispatch calls List.reverse
  | _ => quiet

section Natives

variable {dispatch : Dispatcher} {calls : Call → Journal}
  (recorded : ∀ call, (calls call).Records (dispatch call))

include recorded

/-- A native that transforms an array reports what its loop does. -/
theorem records_transform
    {β : Type}
    (visit : (Value → Run Value) → Value → Run β)
    (goesOn : β → Bool)
    (apply : (Value → Run Value) → Iteration.Entries → Run Iteration.Entries)
    (loops : ∀ (call : Value → Run Value) (journal : Value → Journal),
      (∀ value, (journal value).Records (call value)) →
      ∀ entries, (visiting (visit call) goesOn journal entries).Records (apply call entries)) :
    (transforming dispatch calls visit goesOn).Records
      (Library.transform .fallBack dispatch apply) := by
  intro engine
  have whole := loops _ _ (fun value => records_callValue recorded (engine.slotAt 0) [value])
    (Iteration.entriesOf ((engine.slotAt 1).asArray?.getD .empty))
  unfold Library.transform
  rw [Run.bind_ok (Library.itemsArg_fallBack 1 engine), Run.bind_ok (Library.arg_fallBack 0 engine)]
  exact (whole.andQuiet fun results =>
    quiet_pure (Value.array (Iteration.ofEntries results))) engine

/-- A native that folds an array reports what its loop does. -/
theorem records_reduce
    {order : List Value → List Value}
    {apply : (Value → Value → Run Value) → Value → List Value → Run Value}
    (folds : ∀ call initial values,
      apply call initial values = Iteration.fold call initial (order values)) :
    (reducing dispatch calls order).Records (Library.reduce .fallBack dispatch apply) := by
  intro engine
  have whole := records_fold (fun accumulator value =>
    records_callValue recorded ((engine.setSlot 1 .void).slotAt 0) [accumulator, value])
      (engine.slotAt 1) (order ((engine.slotAt 2).asArray?.getD .empty).values)
      (engine.setSlot 1 .void)
  rw [← folds] at whole
  unfold Library.reduce
  rw [Run.bind_ok (Library.itemsArg_fallBack 2 engine),
    Run.bind_ok (Library.takeArg_fallBack 1 engine), Run.bind_ok (Library.arg_fallBack 0 _)]
  exact whole.congr rfl rfl

/-- A call with an array of arguments reports what the function does. -/
theorem records_callArgs : (callArgs calls).Records (Library.callArgs .fallBack dispatch) := by
  intro engine
  have called := records_callValue recorded (engine.slots.headD .void) engine.slots.tail
    { engine with slots := engine.slots.map fun _ => .void }
  unfold callArgs Library.callArgs
  rw [Run.bind_ok (rfl : (liftM takeArgs : Run (List Value)) engine =
    (.ok engine.slots, { engine with slots := engine.slots.map fun _ => .void }))]
  -- Without arguments void is called, which is what the journal says too.
  cases given : engine.slots <;> rw [given] at called <;> exact called.congr rfl rfl

/-- The journal of a native tells what its body reports, for each of them. -/
theorem records_native (function : LibraryFunction) :
    (Journal.native dispatch calls function).Records (Library.exec dispatch function) := by
  cases function with
  | map =>
      exact records_transform recorded id (fun _ => true) Iteration.map
        fun _ _ called => records_map called
  | filter =>
      exact records_transform recorded Iteration.test (fun _ => true)
        (fun call => Iteration.filter (Iteration.test call)) fun _ _ called =>
          records_filter called
  | takeWhile =>
      exact records_transform recorded Iteration.test id
        (fun call => Iteration.takeWhile (Iteration.test call)) fun _ _ called =>
          records_takeWhile called
  | dropWhile =>
      exact records_transform recorded Iteration.test id
        (fun call => Iteration.dropWhile (Iteration.test call)) fun _ _ called =>
          records_dropWhile called
  | fold => exact records_reduce recorded fun _ _ _ => rfl
  | foldr => exact records_reduce recorded fun _ _ _ => rfl
  | mkkeyarray => exact records_mkkeyarray
  | arrayDel => exact records_arrayDel
  | call => exact records_callArgs recorded
  | setenv => exact records_setenv
  | unsetenv => exact records_unsetenv
  | system => exact records_system
  | arrayKeys | arrayValues | arraySize | arrayReverse =>
      exact (quiet_arrayArg _ 0).andQuiet fun _ => quiet_pure _
  | arrayGet | arraySearch =>
      exact (quiet_arrayArg _ 0).andQuiet fun _ => (quiet_arg 1).andQuiet fun _ => quiet_pure _
  | structFields => exact (quiet_recordArg _ 0).andQuiet fun _ => quiet_pure _
  | recordMerge =>
      exact (quiet_recordArg _ 0).andQuiet fun _ =>
        (quiet_recordArg _ 1).andQuiet fun _ => quiet_pure _
  | arrayPush =>
      refine (quiet_takeArg 1).andQuiet fun value => (quiet_takeArg 0).andQuiet fun items => ?_
      cases items <;> exact quiet_pure _
  | arrayCompact =>
      refine (quiet_takeArg 0).andQuiet fun items => ?_
      cases items <;> exact quiet_pure _
  | equal | order =>
      exact (quiet_arg 0).andQuiet fun _ => (quiet_arg 1).andQuiet fun _ => quiet_pure _
  | typeOf => exact (quiet_arg 0).andQuiet fun _ => quiet_pure _
  | isA =>
      intro engine
      exact ((quiet_arg 0).andQuiet fun _ => (quiet_textArg 1).andQuiet fun _ => quiet_pure _)
        engine
  | throw => exact (quiet_takeArg 0).andQuiet fun _ => records_quiet fun _ => rfl
  | getenv => exact quiet_getenv
  | arrayMerge | safeMode => exact records_quiet fun _ => rfl

end Natives

end Engine.Journal
end ScriptCore
