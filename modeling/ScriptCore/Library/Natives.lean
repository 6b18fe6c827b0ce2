import ScriptCore.Engine.Argument
import ScriptCore.Library.Arrays
import ScriptCore.Library.Iteration

/-!
# The standard library

Thirty natives: arrays and records, control, the process environment and
higher-order functions. Each has a name, a declared argument count, a prototype
and a return letter. Forced positions arrive converted.

Natives that change the process are refused in safe mode.
-/

namespace ScriptCore
namespace LibraryFunction

/-- Every native, in order of registration. -/
def all : List LibraryFunction :=
  [mkkeyarray, arrayKeys, arrayValues, arraySize, arrayGet, arrayPush, arrayDel, arrayCompact,
    arrayReverse, arrayMerge, arraySearch, structFields, recordMerge, throw, call, equal, order,
    typeOf, isA, safeMode, getenv, setenv, unsetenv, system, map, filter, fold, foldr, takeWhile,
    dropWhile]

/-- The contract of a native. -/
def signature (function : LibraryFunction) : SignatureSpec :=
  let declare (name : String) (argCount : Nat) (prototype : String) (returns : Char) :=
    SignatureSpec.mk name prototype returns (.library function argCount)
  match function with
  | mkkeyarray => declare "mkkeyarray" 0 "*" 'a'
  | arrayKeys => declare "array_keys" 1 "A" 'a'
  | arrayValues => declare "array_values" 1 "A" 'a'
  | arraySize => declare "array_size" 1 "A" 'i'
  | arrayGet => declare "array_get" 2 "A?" '?'
  | arrayPush => declare "array_push" 2 "A?" 'a'
  | arrayDel => declare "array_del" 2 "A?" 'a'
  | arrayCompact => declare "array_compact" 1 "A" 'a'
  | arrayReverse => declare "array_reverse" 1 "A" 'a'
  | arrayMerge => declare "array_merge" 1 "A*" 'a'
  | arraySearch => declare "array_search" 2 "A?" '?'
  | structFields => declare "struct_fields" 1 "R" 'a'
  | recordMerge => declare "record_merge" 2 "RR" 'r'
  | throw => declare "throw" 1 "?" 'v'
  | call => declare "call" 1 "?*" '?'
  | equal => declare "equal" 2 "??" 'b'
  | order => declare "order" 2 "??" 'b'
  | typeOf => declare "typeof" 1 "?" 's'
  | isA => declare "is_a" 2 "rS" 'b'
  | safeMode => declare "safe_mode" 0 "" 'b'
  | getenv => declare "getenv" 1 "S" 's'
  | setenv => declare "setenv" 2 "SS" 'b'
  | unsetenv => declare "unsetenv" 1 "S" 'b'
  | system => declare "system" 1 "S" 'i'
  | map => declare "map" 2 "?A" 'a'
  | filter => declare "filter" 2 "?A" 'a'
  | fold => declare "fold" 3 "??A" '?'
  | foldr => declare "foldr" 3 "??A" '?'
  | takeWhile => declare "take_while" 2 "?A" 'a'
  | dropWhile => declare "drop_while" 2 "?A" 'a'

/-- The name of a native. -/
def name (function : LibraryFunction) : String :=
  function.signature.name

end LibraryFunction

variable [KeyHash]

namespace Engine

/-- Register every native of the library. -/
def installLibrary : Run Unit :=
  LibraryFunction.all.forM fun function => do
    let _ ← register function.signature

end Engine

/-- What a native does where an argument is missing or has a wrong tag, given
what the program falls back on. -/
abbrev Lapse := (α : Type) → Run α → Run α

namespace Lapse

/-- Go on with what the program falls back on. -/
def fallBack : Lapse :=
  fun _ fallback => fallback

end Lapse

namespace Library

open Engine

section Bodies

variable (lapse : Lapse)

/-! ## Arguments -/

/-- The argument at a position, void past the last one. -/
def arg (index : Nat) : Run Value := do
  match (← get).slots[index]? with
  | some value => return value
  | none => lapse Value (return .void)

/-- Take the argument at a position and leave void there. -/
def takeArg (index : Nat) : Run Value := do
  let value ← arg lapse index
  modify (setSlot index .void)
  return value

/-- The content of a value that should have the tag for it. -/
def content {α : Type} (view? : Value → Option α) (fallback : Run α) (value : Value) : Run α :=
  match view? value with
  | some content => return content
  | none => lapse α fallback

/-- The error of a native that was given a value of another tag. -/
def wrongTag {α : Type} (function : LibraryFunction) (index : Nat) (value : Value) (target : Tag) :
    Run α :=
  Run.fail (.coercion function.name index { source := value.tag, target })

/-- The array at a position, or else an error. -/
def arrayArg (function : LibraryFunction) (index : Nat) : Run (OrderedMap Value) := do
  let value ← arg lapse index
  content lapse Value.asArray? (wrongTag function index value .array) value

/-- The record at a position, or else an error. -/
def recordArg (function : LibraryFunction) (index : Nat) : Run Record := do
  let value ← arg lapse index
  content lapse Value.asRecord? (wrongTag function index value .record) value

/-- The bytes at a position, or else none. -/
def bytesArg (index : Nat) : Run Bytes := do
  content lapse Value.asBytes? (return []) (← arg lapse index)

/-- The text at a position, or else none. -/
def textArg (index : Nat) : Run String := do
  content lapse Value.asText? (return "") (← arg lapse index)

/-- The elements of the array at a position, or else none. -/
def itemsArg (index : Nat) : Run (OrderedMap Value) := do
  content lapse Value.asArray? (return .empty) (← arg lapse index)

/-! ## Arrays and records -/

/-- Pairs of keys and values as a keyed array; a lone last key is ignored. A key
that is no text is an error that names its position. -/
def ofPairs (position : Nat) (items : OrderedMap Value) : List Value → Run (OrderedMap Value)
  | key :: value :: rest =>
      match key.coerce .str with
      | .ok converted => do
          let text ← content lapse Value.asText? (return "") converted
          ofPairs (position + 2) (items.insert text value) rest
      | .error cast => Run.fail (.coercion "mkkeyarray" position cast)
  | _ => return items

def mkkeyarray : Run Value := do
  let args := (← get).slots
  if args.length % 2 != 0 then
    modify (report "mkkeyarray: odd number of arguments, last key ignored")
  return .array (← ofPairs lapse 0 .empty args)

/-- Change the array at position zero, which is taken from there; what is no
array stays as it is. -/
def changeArray (change : OrderedMap Value → Run Value) : Run Value := do
  match ← takeArg lapse 0 with
  | .array items => change items
  | other => lapse Value (return other)

def arrayPush : Run Value := do
  let value ← takeArg lapse 1
  changeArray lapse fun items => return .array (items.append value)

def arrayDel : Run Value := do
  let address := Address.ofValue (← arg lapse 1)
  changeArray lapse fun items =>
    match ArrayLibrary.delete? items address with
    | some remaining => return .array remaining
    | none => nonfatal "array_del: no such element" (.array items)

def arrayCompact : Run Value :=
  changeArray lapse fun items => return .array items.compact

/-! ## Control -/

def callArgs (dispatch : Dispatcher) : Run Value := do
  match ← takeArgs with
  | callee :: args => callValue dispatch callee args
  | [] => lapse Value (callValue dispatch .void [])

/-- Whether the class of a record is the named one or derives from it. -/
def isA (engine : Engine) (value : Value) (target : String) : Bool :=
  match value.asRecord?.bind RecordOf.className with
  | none => false
  | some className =>
      match engine.class? className with
      | some cls => cls.isA target
      | none => className == target

/-! ## The process -/

def getenv : Run Value := do
  let name ← bytesArg lapse 0
  if Environment.isValidName name then
    match (← get).host.environment.get? name with
    | some value => return .str value
    | none => return .void
  else return .void

/-- The report on a variable that the environment cannot hold. -/
def invalidVariable (function : String) (name : Bytes) : String :=
  function ++ ": invalid variable " ++ Text.quoted (Utf8.text name)

/-- Change the environment of the host. -/
def mapEnvironment (f : Environment → Environment) (engine : Engine) : Engine :=
  { engine with host := { engine.host with environment := f engine.host.environment } }

/-- Hand the host a variable. It should not get an empty name, a name with `=` or
NUL, or a value with NUL. -/
def setVariable (name value : Bytes) : Run Unit :=
  let change : Run Unit := modify (mapEnvironment fun environment => environment.set name value)
  if name = [] ∨ 0x3D ∈ name ∨ 0 ∈ name ∨ 0 ∈ value then lapse Unit change else change

/-- Hand the host the name of a variable to remove. -/
def unsetVariable (name : Bytes) : Run Unit :=
  let change : Run Unit := modify (mapEnvironment fun environment => environment.unset name)
  if name = [] ∨ 0x3D ∈ name ∨ 0 ∈ name then lapse Unit change else change

def setenv : Run Value := do
  if ← allowPrivileged "setenv" then
    let name ← bytesArg lapse 0
    let value ← bytesArg lapse 1
    if Environment.isValidName name && Environment.isValidValue value then
      setVariable lapse name value
      return .bool true
    else nonfatal (invalidVariable "setenv" name) (.bool false)
  else return .bool false

def unsetenv : Run Value := do
  if ← allowPrivileged "unsetenv" then
    let name ← bytesArg lapse 0
    if Environment.isValidName name then
      unsetVariable lapse name
      return .bool true
    else nonfatal (invalidVariable "unsetenv" name) (.bool false)
  else return .bool false

/-- Note that the host ran a shell command. -/
def noteCommand (command : String) (engine : Engine) : Engine :=
  { engine with host := { engine.host with commands := command :: engine.host.commands } }

/-- Run a shell command. The result is its exit code, or -1 if it was killed or
could not be started; the latter is reported. -/
def system : Run Value := do
  if ← allowPrivileged "system" then
    let command := Utf8.text (← bytesArg lapse 0)
    let host := (← get).host
    match host.shell.run host.environment host.commands command with
    | .exited code =>
        modify (noteCommand command)
        return .int code.toInt64
    | .killed =>
        modify (noteCommand command)
        return .int (-1)
    | .notStarted reason => nonfatal ("system: " ++ reason) (.int (-1))
  else return .void

/-! ## Higher-order functions -/

/-- Apply a function on entries to the array at position one, with the callable
at position zero. -/
def transform
    (dispatch : Dispatcher)
    (apply : (Value → Run Value) → Iteration.Entries → Run Iteration.Entries) :
    Run Value := do
  let items ← itemsArg lapse 1
  let callee ← arg lapse 0
  let results ← apply (fun value => callValue dispatch callee [value]) (Iteration.entriesOf items)
  return .array (Iteration.ofEntries results)

/-- Combine the elements of the array at position two, starting from the value
at position one, with the callable at position zero. -/
def reduce
    (dispatch : Dispatcher)
    (apply : (Value → Value → Run Value) → Value → List Value → Run Value) :
    Run Value := do
  let items ← itemsArg lapse 2
  let initial ← takeArg lapse 1
  let callee ← arg lapse 0
  apply (fun accumulator value => callValue dispatch callee [accumulator, value]) initial
    items.values

/-! ## All natives -/

/-- Run a native of the library on the bound arguments, with what it does in
place of its fallbacks. -/
def body (dispatch : Dispatcher) (function : LibraryFunction) : Run Value :=
  match function with
  | .mkkeyarray => mkkeyarray lapse
  | .arrayKeys => return .ofList (ArrayLibrary.addresses (← arrayArg lapse function 0))
  | .arrayValues => return .ofList (← arrayArg lapse function 0).values
  | .arraySize => return .ofNat (← arrayArg lapse function 0).liveCount
  | .arrayGet =>
      return ArrayLibrary.get (← arrayArg lapse function 0) (Address.ofValue (← arg lapse 1))
  | .arrayPush => arrayPush lapse
  | .arrayDel => arrayDel lapse
  | .arrayCompact => arrayCompact lapse
  | .arrayReverse => return .array (← arrayArg lapse function 0).reverse
  | .arrayMerge => return .array (ArrayLibrary.merge (← get).slots)
  | .arraySearch => return ArrayLibrary.search (← arrayArg lapse function 0) (← arg lapse 1)
  | .structFields => return .ofTexts (← recordArg lapse function 0).fieldNames
  | .recordMerge =>
      return .record ((← recordArg lapse function 0).merge (← recordArg lapse function 1))
  | .throw => do throwValue (← takeArg lapse 0)
  | .call => callArgs lapse dispatch
  | .equal => return .bool ((← arg lapse 0).equal (← arg lapse 1))
  | .order => return .bool ((← arg lapse 0).ordered (← arg lapse 1))
  | .typeOf => return .ofText (← arg lapse 0).tag.name
  | .isA => return .bool (isA (← get) (← arg lapse 0) (← textArg lapse 1))
  | .safeMode => return .bool (← get).safeMode.isEnabled
  | .getenv => getenv lapse
  | .setenv => setenv lapse
  | .unsetenv => unsetenv lapse
  | .system => system lapse
  | .map => transform lapse dispatch Iteration.map
  | .filter => transform lapse dispatch fun call => Iteration.filter (Iteration.test call)
  | .fold => reduce lapse dispatch Iteration.fold
  | .foldr => reduce lapse dispatch Iteration.foldr
  | .takeWhile => transform lapse dispatch fun call => Iteration.takeWhile (Iteration.test call)
  | .dropWhile => transform lapse dispatch fun call => Iteration.dropWhile (Iteration.test call)

end Bodies

/-- Run a native of the library on the bound arguments. -/
def exec (dispatch : Dispatcher) (function : LibraryFunction) : Run Value :=
  body .fallBack dispatch function

end Library
end ScriptCore
