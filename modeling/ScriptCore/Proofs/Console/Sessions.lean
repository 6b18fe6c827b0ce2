import ScriptCore.Console.Application
import ScriptCore.Proofs.Engine.Builtins
import ScriptCore.Proofs.Engine.Modules
import ScriptCore.Proofs.Value.Nested

/-!
# Sessions

Between two lines the engine of a session is at rest: there is the global scope
only, no call is active, no report is pending, and an exception is on record only
if the last script ended with it. Natives of the library are all that a session
can reach, so a call binds no name, and a line that binds a variable has no other
effect on the scopes.
-/

namespace ScriptCore

open Engine

/-! ## Literals -/

variable [KeyHash]

namespace Value

variable {allowed : Signature → Prop}

/-- No signature can be reached through a value that was read as JSON. -/
theorem only_ofJson (json : Json) : (ofJson json).Only allowed := by
  induction json using Json.nested with
  | step json ih =>
      cases json with
      | null => exact only_void
      | bool value => exact only_bool value
      | integer n =>
          rw [ofJson, ofJsonInteger]
          cases Numeral.checked n <;> simp
      | float x => exact only_float x
      | string text => exact only_ofText text
      | array items =>
          rw [ofJson_array, only_array, OrderedMap.all_ofValues]
          intro value member
          obtain ⟨item, inside, rfl⟩ := List.mem_map.mp member
          exact ih item inside
      | object members =>
          rw [ofJson_object, only_array]
          refine OrderedMap.ofPairs_induction _ OrderedMap.all_empty fun _ all pair member => ?_
          obtain ⟨entry, inside, rfl⟩ := List.mem_map.mp member
          exact all.insert _ (ih entry.2 (List.mem_map_of_mem inside))

end Value

namespace Literal

/-- A literal through which only natives of the library can be reached. -/
def IsBuiltin : Literal → Prop
  | value content => content.Only Signature.IsBuiltin
  | reference _ => True

theorem isBuiltin_parse (token : String) : (parse token).IsBuiltin := by
  unfold parse
  split
  · trivial
  · split
    · exact Value.only_ofJson _
    · exact Value.only_ofText token

/-- The value of a literal, unless it refers to a name without a binding. -/
def valueIn? (scopes : ScopeStack) : Literal → Option Value
  | value content => some content
  | reference name => scopes.get? name

theorem IsBuiltin.of_valueIn?
    {literal : Literal}
    {scopes : ScopeStack}
    {content : Value}
    (only : literal.IsBuiltin)
    (builtin : scopes.Builtin)
    (found : literal.valueIn? scopes = some content) :
    content.Only Signature.IsBuiltin := by
  cases literal with
  | value content =>
      cases found
      exact only
  | reference name => exact builtin.get? found

end Literal

namespace Line

/-- A line whose literals reach only natives of the library. -/
def IsBuiltin : Line → Prop
  | empty => True
  | command _ => True
  | binding _ literal => literal.IsBuiltin
  | call _ args => ∀ literal ∈ args, literal.IsBuiltin

theorem isBuiltin_of_parseBinding {chars : List Char} {line : Line}
    (parsed : parseBinding chars = .ok line) : line.IsBuiltin := by
  unfold parseBinding at parsed
  dsimp only at parsed
  split at parsed
  · cases parsed
  · split at parsed
    · cases parsed
    · cases parsed
      exact Literal.isBuiltin_parse _

/-- A line is read with literals without functions of their own. -/
theorem isBuiltin_of_parse {text : String} {line : Line} (parsed : parse text = .ok line) :
    line.IsBuiltin := by
  unfold parse at parsed
  dsimp only at parsed
  split at parsed
  · cases parsed
    trivial
  · split at parsed
    · cases parsed
      trivial
    · split at parsed
      · exact isBuiltin_of_parseBinding parsed
      · cases split : Token.split (String.ofList (Text.trim text.toList)) with
        | error error =>
            rw [split] at parsed
            cases parsed
        | ok tokens =>
            rw [split] at parsed
            cases tokens with
            | nil =>
                cases parsed
                exact fun _ member => nomatch member
            | cons name args =>
                cases parsed
                intro literal member
                obtain ⟨token, -, rfl⟩ := List.mem_map.mp member
                exact Literal.isBuiltin_parse token

end Line

/-! ## The global scope alone -/

namespace ScopeStack

/-- The scopes after a global name has been bound. -/
def withBinding (stack : ScopeStack) (name : String) (binding : Binding) : ScopeStack :=
  { stack with global := stack.global.insert name binding }

variable {stack : ScopeStack} (alone : stack.inner = []) (name : String)

include alone

omit [KeyHash] in
theorem truncate_of_alone : stack.truncate 1 = stack := by
  obtain ⟨global, inner, order, cells⟩ := stack
  cases alone
  rfl

theorem binding?_of_alone : stack.binding? name = stack.global.get? name := by
  rw [binding?, alone]
  rfl

theorem bind_of_alone (binding : Binding) :
    stack.bind name binding = stack.withBinding name binding := by
  obtain ⟨global, inner, order, cells⟩ := stack
  cases alone
  rfl

theorem replace_of_alone (binding : Binding) :
    stack.replace name binding = stack.withBinding name binding := by
  obtain ⟨global, inner, order, cells⟩ := stack
  cases alone
  rfl

/-- Where no name is linked, an assignment binds the global name. -/
theorem assign_of_alone
    (unlinked : ∀ tag cell, stack.binding? name ≠ some (.linked tag cell))
    (value : Value) :
    stack.assign name value = .ok (stack.withBinding name (.plain value)) := by
  unfold assign
  by_cases present : stack.contains name = true
  · rw [if_pos present, set?]
    cases bound : stack.binding? name with
    | none =>
        rw [contains, bound] at present
        cases present
    | some binding =>
        cases binding with
        | linked tag cell => exact absurd bound (unlinked tag cell)
        | plain old => exact congrArg Except.ok (replace_of_alone alone name (.plain value))
        | function overloads =>
            exact congrArg Except.ok (replace_of_alone alone name (.plain value))
  · rw [if_neg present, define, bind_of_alone alone]

/-- Binding a global name leaves every other name alone. -/
theorem binding?_withBinding
    (coherent : stack.global.Coherent)
    (other : String)
    (binding : Binding) :
    (stack.withBinding name binding).binding? other =
      if other = name then some binding else stack.binding? other := by
  have still : (stack.withBinding name binding).inner = [] := alone
  rw [binding?_of_alone still, binding?_of_alone alone]
  exact coherent.get?_insert name other binding

end ScopeStack

/-! ## Engines at rest -/

/-- An engine between two lines of a session. -/
structure Engine.AtRest (engine : Engine) : Prop where
  inner : engine.scopes.inner = []
  builtin : engine.scopes.global.All Binding.IsBuiltin
  coherent : engine.scopes.global.Coherent
  callDepth : engine.callDepth = 0
  slots : ∀ value ∈ engine.slots, value.Only Signature.IsBuiltin
  reports : engine.reports = []
  exception : engine.exception = .normal ∨ ∃ payload, engine.exception = .unhandled payload

theorem Engine.AtRest.scopes {engine : Engine} (rest : engine.AtRest) : engine.scopes.Builtin where
  global := rest.builtin
  inner := by
    rw [rest.inner]
    exact fun _ member => nomatch member

theorem Engine.AtRest.depth {engine : Engine} (rest : engine.AtRest) : engine.depth = 1 := by
  rw [Engine.depth, ScopeStack.depth, rest.inner]
  rfl

theorem Engine.AtRest.withBinding
    {engine : Engine}
    (rest : engine.AtRest)
    (name : String)
    (binding : Binding)
    (builtin : binding.IsBuiltin) :
    { engine with scopes := engine.scopes.withBinding name binding }.AtRest :=
  { rest with
    builtin := rest.builtin.insert name builtin
    coherent := rest.coherent.insert name binding }

theorem Engine.AtRest.assign
    {engine : Engine}
    (rest : engine.AtRest)
    (name : String)
    (value : Value) :
    engine.scopes.assign name value = .ok (engine.scopes.withBinding name (.plain value)) := by
  refine ScopeStack.assign_of_alone rest.inner name ?_ value
  intro tag cell linked
  exact rest.scopes.binding? linked

/-! ### New engines -/

omit [KeyHash] in
/-- What is built from a signature of the library is builtin. -/
theorem Signature.isBuiltin_of_build
    {id : Nat}
    {function : LibraryFunction}
    {signature : Signature}
    (built : Signature.build id function.signature = .ok signature) :
    signature.IsBuiltin := by
  obtain ⟨name, text, returns, argCount, spec⟩ : ∃ name text returns argCount,
      function.signature = .mk name text returns (.library function argCount) := by
    cases function <;> exact ⟨_, _, _, _, rfl⟩
  rw [spec] at built
  obtain ⟨prototype, -, rfl⟩ := Signature.build_eq_ok_iff.mp built
  exact ⟨function, argCount, rfl⟩

/-- Registering a function of the library keeps an engine at rest. -/
theorem Engine.AtRest.register
    {engine : Engine}
    (rest : engine.AtRest)
    (function : LibraryFunction) :
    (register function.signature engine).2.AtRest := by
  cases built : Signature.build engine.nextSignature function.signature with
  | error fault =>
      rw [Engine.register, Run.bind_error (buildSignature_refused built)]
      exact rest
  | ok signature =>
      rw [Engine.register, Run.bind_ok (buildSignature_built built)]
      have native := Signature.isBuiltin_of_build built
      obtain ⟨overloads, only, defined⟩ : ∃ overloads : Function,
          overloads.Only Signature.IsBuiltin ∧ engine.scopes.defineFunction signature =
            engine.scopes.withBinding signature.name (.function overloads) := by
        refine ⟨_, ?_, rfl⟩
        split
        · next overloads found => exact Function.Only.push (rest.builtin.get? found) native
        · exact Function.only_ofSignature native
      change AtRest { engine with
        scopes := engine.scopes.defineFunction signature
        loading := engine.loading.map fun names => names.addGlobal signature.name
        nextSignature := engine.nextSignature + 1 }
      rw [defined]
      exact { rest.withBinding signature.name (.function overloads) only with }

/-- Registering natives one after the other, up to the first that is refused. -/
theorem Engine.AtRest.forM_register
    {engine : Engine}
    (rest : engine.AtRest)
    (functions : List LibraryFunction) :
    ((functions.forM fun function => do let _ ← Engine.register function.signature : Run Unit)
      engine).2.AtRest := by
  induction functions generalizing engine with
  | nil => exact rest
  | cons function functions ih =>
      have registered := rest.register function
      rcases done : Engine.register function.signature engine with ⟨outcome, after⟩
      rw [done] at registered
      change (((Engine.register function.signature >>= fun _ => pure ()) >>=
        fun _ => functions.forM _) engine).2.AtRest
      rw [bind_assoc]
      cases outcome with
      | ok signature =>
          rw [Run.bind_ok done, pure_bind]
          exact ih registered
      | error failure =>
          rw [Run.bind_error done]
          exact registered

/-- A new engine is at rest. -/
theorem atRest_new (settings : Settings) (shell : CommandShell) (environment : Environment) :
    (Engine.new settings (.new shell environment)).AtRest where
  inner := rfl
  builtin := OrderedMap.all_withOrder settings.initialOrder
  coherent := OrderedMap.coherent_withOrder settings.initialOrder
  callDepth := rfl
  slots := fun _ member => nomatch member
  reports := rfl
  exception := .inl rfl

theorem atRest_newEngine (settings : Settings) (shell : CommandShell) (environment : Environment) :
    (Application.newEngine settings shell environment).AtRest :=
  (atRest_new settings shell environment).forM_register LibraryFunction.all

/-! ## Scripts of a session -/

namespace Session

section

variable {engine : Engine} {scopes : ScopeStack} {literal : Literal} {value : Value}

/-- The engine after some script of a session: as at rest, but with reports. -/
structure Rested (scopes : ScopeStack) (engine : Engine) : Prop where
  scopes : engine.scopes = scopes
  callDepth : engine.callDepth = 0
  slots : ∀ value ∈ engine.slots, value.Only Signature.IsBuiltin
  exception : engine.exception = .normal ∨ ∃ payload, engine.exception = .unhandled payload

omit [KeyHash] in
/-- An error that ends a line leaves the scopes as they were, no calls and no
exception that is still raised. -/
theorem rested_settle
    {error : ScriptError}
    (alone : scopes.inner = [])
    (stands : engine.Stands scopes 0)
    (recorded : engine.exception = Failure.recorded (.error error)) :
    Rested scopes (settle error engine) := by
  have kept : engine.scopes.truncate 1 = scopes := by
    rw [stands.scopes, ScopeStack.truncate_of_alone alone]
  unfold settle
  cases thrown : error.payload? with
  | none =>
      have normal : Failure.recorded (.error error) = .normal := Failure.recorded_plain thrown
      exact ⟨kept, rfl, stands.slots, .inl (recorded.trans normal)⟩
  | some payload => exact ⟨kept, rfl, stands.slots, .inr ⟨payload, rfl⟩⟩

/-- A script that keeps the scopes while it runs leaves them as they were. -/
theorem rested_run
    {result : Value → Prop}
    {body : Run Value}
    (rest : engine.AtRest)
    (keeps : (standing engine.scopes 0).Keeps result body) :
    Rested engine.scopes (run body engine).2 := by
  have during : (standing engine.scopes 0).during { engine with exception := .normal } :=
    ⟨⟨rfl, rest.callDepth, rest.slots⟩, rfl⟩
  have ended := keeps _ during
  rcases done : body { engine with exception := .normal } with ⟨outcome, after⟩
  rw [done] at ended
  cases outcome with
  | ok value =>
      obtain ⟨-, stands, normal⟩ := ended
      rw [run_pass (by simp) done]
      exact ⟨stands.scopes, stands.callDepth, stands.slots, .inl normal⟩
  | error failure =>
      obtain ⟨stands, recorded⟩ := ended
      cases failure with
      | error error =>
          rw [run_error done]
          exact rested_settle rest.inner stands recorded
      | fault message =>
          rw [run_pass (by simp) done]
          exact ⟨stands.scopes, stands.callDepth, stands.slots, .inl recorded⟩
      | exhausted =>
          rw [run_pass (by simp) done]
          exact ⟨stands.scopes, stands.callDepth, stands.slots, .inl recorded⟩

/-- A literal with a value is resolved to it and nothing changes. -/
theorem resolve_of_some
    (found : literal.valueIn? engine.scopes = some value) :
    resolve literal engine = (.ok value, engine) := by
  cases literal with
  | value content =>
      cases found
      rfl
  | reference name =>
      change getVariable name engine = _
      unfold getVariable
      rw [Run.get_bind]
      change engine.scopes.get? name = some value at found
      rw [found]
      rfl

/-- A literal without a value is an error, which is no exception, and nothing
changes. -/
theorem resolve_of_none
    (missing : literal.valueIn? engine.scopes = none) :
    ∃ error, error.payload? = none ∧ resolve literal engine = (.error (.error error), engine) := by
  cases literal with
  | value content => cases missing
  | reference name =>
      change engine.scopes.get? name = none at missing
      refine ⟨{ cause := .undefinedVariable name, hint := engine.hintFor name }, rfl, ?_⟩
      change getVariable name engine = _
      unfold getVariable
      rw [Run.get_bind, missing]
      rfl

/-- Resolving a literal keeps the scopes and the call depth. -/
theorem keeps_resolve
    {depth : Nat}
    (builtin : scopes.Builtin)
    (only : literal.IsBuiltin) :
    (standing scopes depth).Keeps (Value.Only Signature.IsBuiltin) (resolve literal) := by
  intro engine during
  cases found : literal.valueIn? engine.scopes with
  | none =>
      obtain ⟨error, plain, failed⟩ := resolve_of_none found
      rw [failed]
      exact (standing scopes depth).fail during plain
  | some value =>
      rw [resolve_of_some found]
      rw [during.1.scopes] at found
      exact ⟨only.of_valueIn? builtin found, during⟩

/-- Resolving literals keeps the scopes and the call depth. -/
theorem keeps_resolveAll
    {depth : Nat}
    (builtin : scopes.Builtin)
    {literals : List Literal}
    (only : ∀ literal ∈ literals, literal.IsBuiltin) :
    (standing scopes depth).Keeps (fun values => ∀ value ∈ values, value.Only Signature.IsBuiltin)
      (resolveAll literals) := by
  induction literals with
  | nil => exact Contract.Keeps.pure fun _ member => nomatch member
  | cons literal literals ih =>
      rw [List.forall_mem_cons] at only
      refine (keeps_resolve builtin only.1).bind fun value onlyValue => ?_
      refine (ih only.2).bind fun values onlyValues => ?_
      exact Contract.Keeps.pure (List.forall_mem_cons.mpr ⟨onlyValue, onlyValues⟩)

theorem keeps_callLine
    {depth : Nat}
    (builtin : scopes.Builtin)
    (name : String)
    {args : List Literal}
    (only : ∀ literal ∈ args, literal.IsBuiltin) :
    (standing scopes depth).Keeps (Value.Only Signature.IsBuiltin) (callLine name args) :=
  (keeps_resolveAll builtin only).bind fun _ onlyValues => standing_call builtin name onlyValues

/-! ## Lines -/

/-- A binding of a literal with a value binds the global name and changes nothing
else but the exception state. -/
theorem run_bindLine_of_some
    (rest : engine.AtRest)
    (name : String)
    (found : literal.valueIn? engine.scopes = some value) :
    run (bindLine name literal) engine = (.ok .void,
      { engine with
        exception := .normal
        scopes := engine.scopes.withBinding name (.plain value) }) := by
  have resolved : resolve literal { engine with exception := .normal } =
      (.ok value, { engine with exception := .normal }) := resolve_of_some found
  apply run_pass (by simp)
  unfold bindLine
  rw [Run.bind_ok resolved]
  have assigned : Engine.assign name value { engine with exception := .normal } = (.ok (),
      { engine with
        exception := .normal
        scopes := engine.scopes.withBinding name (.plain value) }) := by
    unfold Engine.assign
    rw [Run.get_bind]
    dsimp only
    rw [rest.assign name value]
    rfl
  rw [Run.bind_ok assigned]
  rfl

/-- A binding of an undefined name ends with a report and leaves the scopes as
they were. -/
theorem run_bindLine_of_none
    (rest : engine.AtRest)
    (name : String)
    (missing : literal.valueIn? engine.scopes = none) :
    Rested engine.scopes (run (bindLine name literal) engine).2 ∧
      ∃ message, (run (bindLine name literal) engine).2.reports = [message] := by
  obtain ⟨error, plain, failed⟩ : ∃ error : ScriptError, error.payload? = none ∧
      resolve literal { engine with exception := .normal } =
        (.error (.error error), { engine with exception := .normal }) := resolve_of_none missing
  have recorded : Failure.recorded (.error error) = .normal := Failure.recorded_plain plain
  unfold bindLine
  rw [run_error (Run.bind_error failed)]
  refine ⟨rested_settle rest.inner ⟨rfl, rest.callDepth, rest.slots⟩ recorded.symm, ?_⟩
  refine ⟨error.message, ?_⟩
  simp only [settle, plain, report, Engine.restore, rest.reports, pushReport_nil]

/-- A line that is not read changes nothing. -/
theorem evalLine_of_error
    {text : String}
    {error : LineError}
    (refused : Line.parse text = .error error)
    (engine : Engine) :
    evalLine text engine = (.error error, engine) := by
  unfold evalLine
  rw [refused]
  rfl

theorem evalLine_of_parse
    {text : String}
    {line : Line}
    (parsed : Line.parse text = .ok line)
    (engine : Engine) :
    evalLine text engine =
      (.ok { value? := (runLine line engine).1, reports := (runLine line engine).2.reports },
        { (runLine line engine).2 with reports := [] }) := by
  unfold evalLine
  rw [parsed]
  rfl

/-- A call leaves the scopes slot for slot as they were. -/
theorem scopes_evalLine_call
    {text name : String}
    {args : List Literal}
    (rest : engine.AtRest)
    (parsed : Line.parse text = .ok (.call name args)) :
    (evalLine text engine).2.scopes = engine.scopes := by
  have builtin := Line.isBuiltin_of_parse parsed
  rw [evalLine_of_parse parsed]
  exact (rested_run rest (keeps_callLine rest.scopes name builtin)).scopes

/-- A binding of a literal without a value binds nothing and reports one
message. -/
theorem evalLine_binding_of_none
    {text name : String}
    (rest : engine.AtRest)
    (parsed : Line.parse text = .ok (.binding name literal))
    (missing : literal.valueIn? engine.scopes = none) :
    (evalLine text engine).2.scopes = engine.scopes ∧
      ∃ message, (evalLine text engine).1 = .ok { value? := none, reports := [message] } := by
  obtain ⟨rested, message, reported⟩ := run_bindLine_of_none rest name missing
  rw [evalLine_of_parse parsed]
  refine ⟨rested.scopes, message, ?_⟩
  change Except.ok (Evaluation.mk none (run (bindLine name literal) engine).2.reports) = _
  rw [reported]

/-- A binding of a literal with a value binds it and shows nothing. -/
theorem evalLine_binding_of_some
    {text name : String}
    (rest : engine.AtRest)
    (parsed : Line.parse text = .ok (.binding name literal))
    (found : literal.valueIn? engine.scopes = some value) :
    evalLine text engine = (.ok { value? := none, reports := [] },
      { engine with
        exception := .normal
        scopes := engine.scopes.withBinding name (.plain value)
        reports := [] }) := by
  rw [evalLine_of_parse parsed]
  change (Except.ok (Evaluation.mk none (run (bindLine name literal) engine).2.reports),
    { (run (bindLine name literal) engine).2 with reports := [] }) = _
  rw [run_bindLine_of_some rest name found, rest.reports]

/-! ## Sessions -/

/-- What a line leaves behind is an engine at rest, once its reports are taken. -/
theorem atRest_of_rested
    {after : Engine}
    (rest : engine.AtRest)
    (rested : Rested engine.scopes after) :
    { after with reports := [] }.AtRest := by
  obtain ⟨scopes, callDepth, slots, exception⟩ := rested
  constructor
  · rw [scopes]
    exact rest.inner
  · rw [scopes]
    exact rest.builtin
  · rw [scopes]
    exact rest.coherent
  · exact callDepth
  · exact slots
  · rfl
  · exact exception

/-- What one line preserves. -/
theorem atRest_evalLine (rest : engine.AtRest) (text : String) :
    (evalLine text engine).2.AtRest := by
  cases parsed : Line.parse text with
  | error error =>
      rw [evalLine_of_error parsed]
      exact rest
  | ok line =>
      have builtin := Line.isBuiltin_of_parse parsed
      cases line with
      | empty =>
          rw [evalLine_of_parse parsed]
          exact { rest with reports := rfl }
      | command text =>
          rw [evalLine_of_parse parsed]
          exact { rest with reports := rfl }
      | binding name literal =>
          cases found : literal.valueIn? engine.scopes with
          | none =>
              rw [evalLine_of_parse parsed]
              exact atRest_of_rested rest (run_bindLine_of_none rest name found).1
          | some value =>
              have only := Literal.IsBuiltin.of_valueIn? builtin rest.scopes found
              rw [evalLine_binding_of_some rest parsed found]
              exact { rest.withBinding name (.plain value) only with
                reports := rfl
                exception := .inl rfl }
      | call name args =>
          rw [evalLine_of_parse parsed]
          exact atRest_of_rested rest (rested_run rest (keeps_callLine rest.scopes name builtin))

/-- The engine of a session after some lines. -/
def afterLines (lines : List String) (engine : Engine) : Engine :=
  lines.foldl (fun engine text => (evalLine text engine).2) engine

/-- What a whole session preserves. -/
theorem atRest_afterLines (rest : engine.AtRest) (lines : List String) :
    (afterLines lines engine).AtRest := by
  induction lines generalizing engine with
  | nil => exact rest
  | cons text lines ih => exact ih (atRest_evalLine rest text)

end

/-- Whatever lines a session has evaluated, after one more line its engine is at
rest. A line that cannot be read changes nothing. A call leaves the scopes slot
for slot as they were, and so does a binding that refers to an undefined name,
which is reported. Any other binding succeeds and binds its own name, and every
other name means what it did before. -/
theorem session_stays_at_rest
    (settings : Settings)
    (shell : CommandShell)
    (environment : Environment)
    (lines : List String)
    (text : String) :
    let before := afterLines lines (Application.newEngine settings shell environment)
    let outcome := (evalLine text before).1
    let left := (evalLine text before).2
    (left.depth = 1 ∧ left.callDepth = 0 ∧ left.reports = [] ∧
      (left.exception = .normal ∨ ∃ payload, left.exception = .unhandled payload)) ∧
    (∀ error, Line.parse text = .error error → outcome = .error error ∧ left = before) ∧
    (∀ name args, Line.parse text = .ok (.call name args) → left.scopes = before.scopes) ∧
    (∀ name literal, Line.parse text = .ok (.binding name literal) →
      literal.valueIn? before.scopes = none →
        left.scopes = before.scopes ∧
          ∃ message, outcome = .ok { value? := none, reports := [message] }) ∧
    ∀ name literal value, Line.parse text = .ok (.binding name literal) →
      literal.valueIn? before.scopes = some value →
        left.scopes = before.scopes.withBinding name (.plain value) ∧
          outcome = .ok { value? := none, reports := [] } ∧
          ∀ other, left.scopes.binding? other =
            if other = name then some (.plain value) else before.scopes.binding? other := by
  intro before outcome left
  have rest : before.AtRest := atRest_afterLines (atRest_newEngine settings shell environment) lines
  have still : left.AtRest := atRest_evalLine rest text
  refine ⟨⟨still.depth, still.callDepth, still.reports, still.exception⟩, ?_, ?_, ?_, ?_⟩
  · intro error parsed
    have refused : evalLine text before = (.error error, before) := evalLine_of_error parsed before
    exact ⟨congrArg Prod.fst refused, congrArg Prod.snd refused⟩
  · intro name args parsed
    exact scopes_evalLine_call rest parsed
  · intro name literal parsed missing
    exact evalLine_binding_of_none rest parsed missing
  · intro name literal value parsed found
    have bound := evalLine_binding_of_some rest parsed found
    have scopes : left.scopes = before.scopes.withBinding name (.plain value) :=
      congrArg (fun evaluated => evaluated.2.scopes) bound
    refine ⟨scopes, congrArg Prod.fst bound, fun other => ?_⟩
    rw [scopes]
    exact ScopeStack.binding?_withBinding rest.inner name rest.coherent other (.plain value)

end Session
end ScriptCore
