import ScriptCore.Proofs.Library.Fallbacks
import ScriptCore.Proofs.Signature.Binding

/-!
# Natives without fallbacks

The body of a native reads its arguments by position and relies on the tags of
some of them. What it does where an argument is missing or has another tag is a
parameter of the body, and so is what it does where it would hand the process
environment a name or a value that this cannot hold. The demands of a native are
the positions and tags that its body relies on. Where they are met, the native
is the same for every such parameter: no fallback plays any part in it.
-/

namespace ScriptCore

/-! ## Demands -/

/-- What a native relies on: for each position that its body reads, the tag that
the argument there must have, if any. -/
def LibraryFunction.demands : LibraryFunction → List (Option Tag)
  | .mkkeyarray | .arrayMerge | .safeMode => []
  | .arrayKeys | .arrayValues | .arraySize | .arrayCompact | .arrayReverse => [some .array]
  | .arrayGet | .arrayPush | .arrayDel | .arraySearch => [some .array, none]
  | .structFields => [some .record]
  | .recordMerge => [some .record, some .record]
  | .throw | .call | .typeOf => [none]
  | .equal | .order => [none, none]
  | .isA => [none, some .str]
  | .getenv | .unsetenv | .system => [some .str]
  | .setenv => [some .str, some .str]
  | .map | .filter | .takeWhile | .dropWhile => [none, some .array]
  | .fold | .foldr => [none, none, some .array]

/-- An argument list has an argument at every position that is relied on, of the
tag that is relied on. -/
inductive Meets : List (Option Tag) → List Value → Prop where
  | done (values : List Value) : Meets [] values
  | any {demands : List (Option Tag)} {value : Value} {values : List Value}
      (rest : Meets demands values) : Meets (none :: demands) (value :: values)
  | tagged {demands : List (Option Tag)} {tag : Tag} {value : Value} {values : List Value}
      (same : value.tag = tag) (rest : Meets demands values) :
      Meets (some tag :: demands) (value :: values)

namespace Meets

variable {demands : List (Option Tag)} {slots : List Value}

/-- Arguments meet demands if there are enough of them and each demanded tag is
there. -/
theorem of_getElem?
    (count : demands.length ≤ slots.length)
    (tags : ∀ (position : Nat) (tag : Tag) (value : Value),
      demands[position]? = some (some tag) → slots[position]? = some value → value.tag = tag) :
    Meets demands slots := by
  induction demands generalizing slots with
  | nil => exact .done slots
  | cons demand demands ih =>
      cases slots with
      | nil => cases count
      | cons value slots =>
          have rest : Meets demands slots :=
            ih (Nat.le_of_succ_le_succ count)
              fun position => tags (position + 1)
          cases demand with
          | none => exact .any rest
          | some tag => exact .tagged (tags 0 tag value rfl rfl) rest

theorem length_le (meets : Meets demands slots) : demands.length ≤ slots.length := by
  induction meets with
  | done slots => exact Nat.zero_le _
  | any rest ih => exact Nat.succ_le_succ ih
  | tagged same rest ih => exact Nat.succ_le_succ ih

theorem exists_any (meets : Meets (none :: demands) slots) :
    ∃ value rest, slots = value :: rest ∧ Meets demands rest := by
  cases meets with
  | any rest => exact ⟨_, _, rfl, rest⟩

/-- A demand for a tag is met by a value with a content of that tag. -/
theorem exists_content
    {α : Type}
    {tag : Tag}
    {make : α → Value}
    (made : ∀ value : Value, value.tag = tag → ∃ content, value = make content)
    (meets : Meets (some tag :: demands) slots) :
    ∃ content rest, slots = make content :: rest ∧ Meets demands rest := by
  cases meets with
  | tagged same rest =>
      obtain ⟨content, rfl⟩ := made _ same
      exact ⟨content, _, rfl, rest⟩

theorem exists_array (meets : Meets (some .array :: demands) slots) :
    ∃ items rest, slots = .array items :: rest ∧ Meets demands rest :=
  meets.exists_content fun value same => by cases value <;> cases same; exact ⟨_, rfl⟩

theorem exists_record (meets : Meets (some .record :: demands) slots) :
    ∃ content rest, slots = .record content :: rest ∧ Meets demands rest :=
  meets.exists_content fun value same => by cases value <;> cases same; exact ⟨_, rfl⟩

theorem exists_str (meets : Meets (some .str :: demands) slots) :
    ∃ bytes rest, slots = .str bytes :: rest ∧ Meets demands rest :=
  meets.exists_content fun value same => by cases value <;> cases same; exact ⟨_, rfl⟩

end Meets

/-! ## Natives whose demands are met -/

namespace Library

open Engine

variable (lapse : Lapse)

/-- A converted key has a text. -/
theorem content_of_coerce
    {key converted : Value}
    (coerced : key.coerce .str = .ok converted)
    (fallback : Run String) :
    content lapse Value.asText? fallback converted = pure (converted.asText?.getD "") := by
  have text : converted.tag = .str := Value.tag_of_coerce coerced
  cases converted <;> cases text
  rfl

variable [KeyHash]

/-- Pairs of keys and values give the same array or the same failure. -/
theorem ofPairs_congr (position : Nat) (items : OrderedMap Value) :
    ∀ args, ofPairs lapse position items args = ofPairs .fallBack position items args
  | [] => rfl
  | [_] => rfl
  | key :: value :: rest => by
      rw [ofPairs, ofPairs]
      cases coerced : key.coerce .str with
      | error cast => rfl
      | ok converted =>
          simp only [content_of_coerce _ coerced, pure_bind]
          exact ofPairs_congr (position + 2) _ rest

theorem mkkeyarray_congr : mkkeyarray lapse = mkkeyarray .fallBack := by
  simp only [mkkeyarray, ofPairs_congr lapse]

omit [KeyHash] in
/-- The host takes what the checks of `setenv` let through. -/
theorem setVariable_congr
    {name value : Bytes}
    (valid : (Environment.isValidName name && Environment.isValidValue value) = true) :
    setVariable lapse name value = setVariable .fallBack name value := by
  have taken : ¬ (name = [] ∨ 0x3D ∈ name ∨ 0 ∈ name ∨ 0 ∈ value) := by
    simp_all [Environment.isValidName, Environment.isValidValue]
  rw [setVariable, setVariable, if_neg taken, if_neg taken]

omit [KeyHash] in
/-- The host takes what the check of `unsetenv` lets through. -/
theorem unsetVariable_congr {name : Bytes} (valid : Environment.isValidName name = true) :
    unsetVariable lapse name = unsetVariable .fallBack name := by
  have taken : ¬ (name = [] ∨ 0x3D ∈ name ∨ 0 ∈ name) := by
    simp_all [Environment.isValidName]
  rw [unsetVariable, unsetVariable, if_neg taken, if_neg taken]

omit [KeyHash] in
/-- Two natives that are refused alike in safe mode agree if they agree when
they are granted. -/
theorem privileged_congr
    {first second : Run Value}
    {engine : Engine}
    (same : first engine = second engine)
    (operation : String)
    (refused : Value) :
    ((liftM (allowPrivileged operation) : Run Bool) >>= fun granted =>
        if granted = true then first else pure refused) engine =
      ((liftM (allowPrivileged operation) : Run Bool) >>= fun granted =>
        if granted = true then second else pure refused) engine := by
  rcases allowPrivileged_cases operation engine with refusal | ⟨-, permission⟩
  · have denied : (liftM (allowPrivileged operation) : Run Bool) engine =
        (.ok false, engine.report (operation ++ " is disabled in safe mode")) := by
      rw [Run.lift_eq, refusal]
    rw [Run.bind_ok denied, Run.bind_ok denied]
    rfl
  · have granted : (liftM (allowPrivileged operation) : Run Bool) engine = (.ok true, engine) := by
      rw [Run.lift_eq, permission]
    rw [Run.bind_ok granted, Run.bind_ok granted]
    exact same

section Environment

variable {engine : Engine} {name value : Bytes} {rest : List Value}

omit [KeyHash]

/-- Bytes are read off a string. -/
theorem bytesArg_of_str
    {index : Nat}
    (there : engine.slots[index]? = some (.str name)) :
    bytesArg lapse index engine = (.ok name, engine) := by
  have read : arg lapse index engine = (.ok (.str name), engine) := by
    rw [arg, Run.get_bind, there]
    rfl
  rw [bytesArg, Run.bind_ok read]
  rfl

/-- With two strings setting a variable has no lapse. -/
theorem setenv_congr (slots : engine.slots = .str name :: .str value :: rest) :
    setenv lapse engine = setenv .fallBack engine := by
  have first : engine.slots[0]? = some (.str name) := by rw [slots]; rfl
  have second : engine.slots[1]? = some (.str value) := by rw [slots]; rfl
  refine privileged_congr ?_ "setenv" (.bool false)
  rw [Run.bind_ok (bytesArg_of_str lapse first), Run.bind_ok (bytesArg_of_str .fallBack first),
    Run.bind_ok (bytesArg_of_str lapse second), Run.bind_ok (bytesArg_of_str .fallBack second)]
  split
  · next valid => rw [setVariable_congr lapse valid]
  · rfl

/-- With a string unsetting a variable has no lapse. -/
theorem unsetenv_congr (slots : engine.slots = .str name :: rest) :
    unsetenv lapse engine = unsetenv .fallBack engine := by
  have first : engine.slots[0]? = some (.str name) := by rw [slots]; rfl
  refine privileged_congr ?_ "unsetenv" (.bool false)
  rw [Run.bind_ok (bytesArg_of_str lapse first), Run.bind_ok (bytesArg_of_str .fallBack first)]
  split
  · next valid => rw [unsetVariable_congr lapse valid]
  · rfl

/-- With a string running a command has no lapse. -/
theorem system_congr (slots : engine.slots = .str name :: rest) :
    system lapse engine = system .fallBack engine := by
  have first : engine.slots[0]? = some (.str name) := by rw [slots]; rfl
  refine privileged_congr ?_ "system" .void
  rw [Run.bind_ok (bytesArg_of_str lapse first), Run.bind_ok (bytesArg_of_str .fallBack first)]

end Environment

/-- A native whose demands are met does not depend on what is done in place of its
fallbacks. -/
theorem body_eq_exec
    (dispatch : Dispatcher)
    {function : LibraryFunction}
    {engine : Engine}
    (meets : Meets function.demands engine.slots) :
    body lapse dispatch function engine = exec dispatch function engine := by
  cases engine
  cases function with
  | mkkeyarray => exact congrFun (mkkeyarray_congr lapse) _
  | arrayMerge | safeMode => rfl
  | arrayKeys | arrayValues | arraySize | arrayCompact | arrayReverse =>
      obtain ⟨items, rest, slots, -⟩ := meets.exists_array
      cases slots
      rfl
  | arrayGet | arrayPush | arrayDel | arraySearch =>
      obtain ⟨items, rest, slots, meets⟩ := meets.exists_array
      obtain ⟨value, rest, rfl, -⟩ := meets.exists_any
      cases slots
      rfl
  | structFields =>
      obtain ⟨content, rest, slots, -⟩ := meets.exists_record
      cases slots
      rfl
  | recordMerge =>
      obtain ⟨left, rest, slots, meets⟩ := meets.exists_record
      obtain ⟨right, rest, rfl, -⟩ := meets.exists_record
      cases slots
      rfl
  | throw | call | typeOf =>
      obtain ⟨value, rest, slots, -⟩ := meets.exists_any
      cases slots
      rfl
  | equal | order =>
      obtain ⟨left, rest, slots, meets⟩ := meets.exists_any
      obtain ⟨right, rest, rfl, -⟩ := meets.exists_any
      cases slots
      rfl
  | isA =>
      obtain ⟨value, rest, slots, meets⟩ := meets.exists_any
      obtain ⟨bytes, rest, rfl, -⟩ := meets.exists_str
      cases slots
      rfl
  | getenv =>
      obtain ⟨bytes, rest, slots, -⟩ := meets.exists_str
      cases slots
      rfl
  | unsetenv =>
      obtain ⟨bytes, rest, slots, -⟩ := meets.exists_str
      exact unsetenv_congr lapse slots
  | system =>
      obtain ⟨bytes, rest, slots, -⟩ := meets.exists_str
      exact system_congr lapse slots
  | setenv =>
      obtain ⟨name, rest, slots, meets⟩ := meets.exists_str
      obtain ⟨value, rest, rfl, -⟩ := meets.exists_str
      exact setenv_congr lapse slots
  | map | filter | takeWhile | dropWhile =>
      obtain ⟨callee, rest, slots, meets⟩ := meets.exists_any
      obtain ⟨items, rest, rfl, -⟩ := meets.exists_array
      cases slots
      rfl
  | fold | foldr =>
      obtain ⟨callee, rest, slots, meets⟩ := meets.exists_any
      obtain ⟨initial, rest, rfl, last⟩ := meets.exists_any
      obtain ⟨items, rest, rfl, -⟩ := last.exists_array
      cases slots
      rfl

end Library

end ScriptCore
