import Mathlib
import ScriptCore.OrderedMap.Spread
import ScriptCore.Proofs.Console.Sessions
import ScriptCore.Proofs.Library.Demands
import ScriptCore.Proofs.Scope.Answers

/-!
# Natives that are called by their names

The contract of a native is its declared count with its prototype. Each contract
secures what the body of its native relies on: bound arguments are enough in
number and have the tags that are demanded. A new engine has every native under
its name, so a call by that name either fails before the native runs or runs it
with its demands met.
-/

namespace ScriptCore

/-! ## Contracts -/

/-- The least accepted number of arguments. -/
def Arity.least : Arity → Nat
  | exactly count => count
  | atLeast count => count

theorem Arity.least_le_of_accepts {arity : Arity} {argc : Nat}
    (accepted : arity.accepts argc = true) : arity.least ≤ argc := by
  cases arity with
  | exactly count => exact (beq_iff_eq.mp accepted).ge
  | atLeast count => exact of_decide_eq_true accepted

/-- The contract of a callable secures demands: it takes no fewer arguments than
there are demands or parameters, and it forces every tag that is relied on. -/
def Signature.Secures (signature : Signature) (demands : List (Option Tag)) : Prop :=
  (demands.length ≤ signature.arity.least ∧
    ∀ demand ∈ demands.zipIdx, ∀ tag ∈ demand.1,
      signature.prototype.specAt demand.2 = .forced tag) ∧
    ∀ param ∈ signature.prototype.params.zipIdx,
      param.1 = .rest ∨ param.2 < signature.arity.least

instance (signature : Signature) (demands : List (Option Tag)) :
    Decidable (signature.Secures demands) :=
  inferInstanceAs (Decidable (_ ∧ _))

/-- Every native has a contract that secures what its body relies on. -/
theorem LibraryFunction.exists_contract (function : LibraryFunction) :
    ∃ prototype returns argCount,
      (∀ id, Signature.build id function.signature =
        .ok ⟨id, function.name, prototype, returns, .library function argCount⟩) ∧
      (Signature.mk 0 function.name prototype returns (.library function argCount)).Secures
        function.demands := by
  cases function <;> exact ⟨_, _, _, fun _ => rfl, by decide⟩

namespace Signature

variable {function : LibraryFunction} {id : Nat} {signature : Signature} {args bound : List Value}

/-- What registering a native makes of it. -/
theorem contract_of_build (built : Signature.build id function.signature = .ok signature) :
    signature.Secures function.demands ∧
      ∃ argCount, signature.implementation = .library function argCount := by
  obtain ⟨prototype, returns, argCount, contract, secures⟩ := function.exists_contract
  cases built.symm.trans (contract id)
  exact ⟨secures, argCount, rfl⟩

/-- Where a tag is forced, a bound argument has it. -/
theorem Converts.tag_of_forces
    (converts : signature.Converts args bound)
    {position : Nat}
    {tag : Tag}
    {value : Value}
    (forces : signature.prototype.Forces position tag)
    (found : bound[position]? = some value) :
    value.tag = tag := by
  obtain ⟨inside, -⟩ := List.getElem?_eq_some_iff.mp found
  rw [converts.length_eq] at inside
  obtain ⟨converted, there, -, same⟩ :=
    converts.forced position args[position] tag (List.getElem?_eq_getElem inside) forces
  cases there.symm.trans found
  exact same

/-- Arguments that a contract has bound meet the demands that it secures. -/
theorem Secures.meets
    {demands : List (Option Tag)}
    (secures : signature.Secures demands)
    (binds : signature.bind args = .ok bound) :
    Meets demands bound := by
  obtain ⟨⟨enough, forced⟩, -⟩ := secures
  have converts := converts_of_bind binds
  refine .of_getElem? ?_ ?_
  · rw [converts.length_eq]
    exact enough.trans (Arity.least_le_of_accepts (bind_eq_ok_iff.mp binds).1)
  · intro position tag value demanded found
    have spec := forced (some tag, position) (List.mk_mem_zipIdx_iff_getElem?.mpr demanded) tag rfl
    exact converts.tag_of_forces (Prototype.specAt_eq_forced_iff.mp spec) found

/-- Every forced position is filled, with a value of its tag. -/
theorem Secures.exists_forced
    {demands : List (Option Tag)}
    (secures : signature.Secures demands)
    (binds : signature.bind args = .ok bound)
    {position : Nat}
    {tag : Tag}
    (forces : signature.prototype.Forces position tag) :
    ∃ value, bound[position]? = some value ∧ value.tag = tag := by
  have converts := converts_of_bind binds
  have least := Arity.least_le_of_accepts (bind_eq_ok_iff.mp binds).1
  have inside : position < signature.arity.least := by
    rcases secures.2 (.forced tag, position) (List.mk_mem_zipIdx_iff_getElem?.mpr forces.1) with
      star | inside
    · cases star
    · exact inside
  have there : args[position]? = some args[position] := List.getElem?_eq_getElem (by omega)
  obtain ⟨value, found, -, same⟩ := converts.forced position _ tag there forces
  exact ⟨value, found, same⟩

end Signature

/-! ## Registered natives -/

namespace Engine

section

variable [KeyHash]

/-- A native is registered under its name, and alone there. -/
def Holds (engine : Engine) (function : LibraryFunction) : Prop :=
  ∃ id signature, Signature.build id function.signature = .ok signature ∧
    engine.scopes.binding? function.name = some (.function (.ofSignature signature))

variable {engine : Engine} {function : LibraryFunction}

/-- The first signature under a global name. -/
theorem defineFunction_of_free
    (rest : engine.AtRest)
    (signature : Signature)
    (free : engine.scopes.binding? signature.name = none) :
    engine.scopes.defineFunction signature =
      engine.scopes.withBinding signature.name (.function (.ofSignature signature)) := by
  rw [ScopeStack.binding?_of_alone rest.inner] at free
  unfold ScopeStack.defineFunction ScopeStack.withBinding
  rw [free]

/-- Registering a native under a free name. -/
theorem register_of_free
    (rest : engine.AtRest)
    (free : engine.scopes.binding? function.name = none) :
    ∃ signature after, register function.signature engine = (.ok signature, after) ∧
      after.AtRest ∧ after.maxCallDepth = engine.maxCallDepth ∧ after.Holds function ∧
      ∀ name, name ≠ function.name →
        after.scopes.binding? name = engine.scopes.binding? name := by
  obtain ⟨prototype, returns, argCount, contract, -⟩ := function.exists_contract
  have built := contract engine.nextSignature
  have bindings := ScopeStack.binding?_withBinding rest.inner function.name rest.coherent
  have resting := rest.register function
  rw [register, Run.bind_ok (buildSignature_built built)] at resting ⊢
  have defined := defineFunction_of_free rest
    ⟨engine.nextSignature, function.name, prototype, returns, .library function argCount⟩ free
  refine ⟨_, _, rfl, resting, rfl, ⟨_, _, built, ?_⟩, fun name other => ?_⟩
  · exact (congrArg (ScopeStack.binding? · function.name) defined).trans
      ((bindings _ _).trans (if_pos rfl))
  · exact (congrArg (ScopeStack.binding? · name) defined).trans
      ((bindings name _).trans (if_neg other))

/-- The engine after some natives have been registered. -/
def installed (functions : List LibraryFunction) (engine : Engine) : Engine :=
  ((functions.forM fun function => do
    let _ ← Engine.register function.signature : Run Unit) engine).2

theorem installed_cons
    {signature : Signature}
    {middle : Engine}
    (registered : register function.signature engine = (.ok signature, middle))
    (functions : List LibraryFunction) :
    installed (function :: functions) engine = installed functions middle := by
  change (((register function.signature >>= fun _ => pure ()) >>= fun _ => functions.forM _)
    engine).2 = _
  rw [bind_assoc, Run.bind_ok registered, pure_bind]
  rfl

/-- Natives with distinct free names all stand once they are registered. -/
theorem installed_of_free
    (functions : List LibraryFunction)
    (distinct : (functions.map LibraryFunction.name).Nodup)
    (rest : engine.AtRest)
    (free : ∀ function ∈ functions, engine.scopes.binding? function.name = none) :
    (installed functions engine).maxCallDepth = engine.maxCallDepth ∧
      (∀ name ∉ functions.map LibraryFunction.name,
        (installed functions engine).scopes.binding? name = engine.scopes.binding? name) ∧
      ∀ function ∈ functions, (installed functions engine).Holds function := by
  induction functions generalizing engine with
  | nil => exact ⟨rfl, fun _ _ => rfl, fun _ member => nomatch member⟩
  | cons function functions ih =>
      obtain ⟨apart, distinct⟩ := List.nodup_cons.mp distinct
      obtain ⟨signature, middle, registered, resting, cap, holds, others⟩ :=
        register_of_free rest (free function List.mem_cons_self)
      have stillFree : ∀ other ∈ functions, middle.scopes.binding? other.name = none := by
        intro other member
        rw [others other.name fun same => apart (same ▸ List.mem_map_of_mem member)]
        exact free other (List.mem_cons_of_mem _ member)
      obtain ⟨finalCap, untouched, each⟩ := ih distinct resting stillFree
      rw [installed_cons registered]
      refine ⟨finalCap.trans cap, ?_, List.forall_mem_cons.mpr ⟨?_, each⟩⟩
      · intro name outside
        obtain ⟨other, outside⟩ := not_or.mp (mt List.mem_cons.mpr outside)
        exact (untouched name outside).trans (others name other)
      · obtain ⟨id, signature, built, bound⟩ := holds
        exact ⟨id, signature, built, (untouched function.name apart).trans bound⟩

theorem newEngine_eq (settings : Settings) (shell : CommandShell) (environment : Environment) :
    Application.newEngine settings shell environment =
      installed LibraryFunction.all (Engine.new settings (.new shell environment)) := rfl

/-- A new engine has every native under its name. -/
theorem newEngine_holds (settings : Settings) (shell : CommandShell) (environment : Environment) :
    (Application.newEngine settings shell environment).maxCallDepth = settings.maxCallDepth ∧
      ∀ function, (Application.newEngine settings shell environment).Holds function := by
  have free : ∀ function ∈ LibraryFunction.all,
      (Engine.new settings (.new shell environment)).scopes.binding? function.name = none :=
    fun _ _ => (ScopeStack.binding?_of_alone rfl _).trans (OrderedMap.get?_withOrder _ _)
  have standing := installed_of_free LibraryFunction.all (by decide)
    (atRest_new settings shell environment) free
  rw [newEngine_eq]
  exact ⟨standing.1, fun function => standing.2.2 function function.mem_all⟩

/-! ## Calls by name -/

/-- A call by the name of a native, with a number of arguments, reaches its
contract. -/
def Provides (engine : Engine) (function : LibraryFunction) (argc : Nat) (signature : Signature) :
    Prop :=
  (∃ id, Signature.build id function.signature = .ok signature) ∧
    ∃ overloads, engine.scopes.lookupFunction? function.name = some overloads ∧
      overloads.resolve? argc = some signature

omit [KeyHash] in
theorem resolve?_ofSignature (signature : Signature) (argc : Nat) :
    (Function.ofSignature signature).resolve? argc = some signature := by
  unfold Function.resolve? Function.select? Function.ofSignature
  cases accepted : signature.arity.accepts argc <;> simp [accepted, Function.newest?]

theorem Holds.provides (holds : engine.Holds function) :
    ∃ signature, ∀ argc, engine.Provides function argc signature := by
  obtain ⟨id, signature, built, bound⟩ := holds
  refine ⟨signature, fun argc =>
    ⟨⟨id, built⟩, .ofSignature signature, ?_, resolve?_ofSignature signature argc⟩⟩
  rw [ScopeStack.lookupFunction?, bound]
  rfl

/-- A call by name takes its supply of frames from the engine it starts on. -/
theorem callByName_supplied
    (supply : Engine → Nat)
    (name : String)
    (args : List Value)
    (engine : Engine) :
    callByName (supplied supply) name args engine =
      callByName (dispatch (supply engine)) name args engine := by
  unfold callByName
  rw [Run.get_bind, Run.get_bind]
  cases engine.scopes.lookupFunction? name with
  | none => rfl
  | some overloads =>
      dsimp only
      unfold callFunction
      cases overloads.resolve? args.length <;> rfl

theorem call_eq (name : String) (args : List Value) (engine : Engine) :
    Engine.call name args engine =
      callByName (dispatch (engine.maxCallDepth + spareFrames)) name args engine := by
  rw [Engine.call, dispatcher_eq, callByName_supplied]

/-- There is always a frame for a call by name. -/
theorem exists_call_eq (name : String) (args : List Value) (engine : Engine) :
    ∃ frames, Engine.call name args engine =
      callByName (dispatch (frames + 1)) name args engine :=
  ⟨engine.maxCallDepth + 999999, call_eq name args engine⟩

section Calls

variable {signature : Signature} {args : List Value}

/-- A call by name is the call of the contract that it reaches. -/
theorem Provides.callByName_eq
    (provides : engine.Provides function args.length signature)
    (dispatch : Dispatcher) :
    callByName dispatch function.name args engine =
      ((dispatch ⟨signature, args, none⟩ engine).1.outcome,
        (dispatch ⟨signature, args, none⟩ engine).2) := by
  obtain ⟨-, overloads, found, resolved⟩ := provides
  unfold callByName
  rw [Run.get_bind, found]
  dsimp only
  rw [callFunction, resolved]
  rfl

/-- At the cap a call of a native overflows and changes nothing, before any
binding. -/
theorem Provides.callByName_at_cap
    (provides : engine.Provides function args.length signature)
    (full : engine.maxCallDepth ≤ engine.callDepth)
    (frames : Nat) :
    callByName (dispatch frames) function.name args engine =
      (.error (.error { cause := .stackOverflow engine.maxCallDepth }), engine) := by
  rw [provides.callByName_eq, dispatch_at_cap full]

theorem Provides.call_at_cap
    (provides : engine.Provides function args.length signature)
    (full : engine.maxCallDepth ≤ engine.callDepth) :
    Engine.call function.name args engine =
      (.error (.error { cause := .stackOverflow engine.maxCallDepth }), engine) := by
  rw [call_eq]
  exact provides.callByName_at_cap full _

/-- Below the cap a call whose arguments are refused fails with that error and
changes nothing. -/
theorem Provides.callByName_refused
    (provides : engine.Provides function args.length signature)
    (room : engine.callDepth < engine.maxCallDepth)
    {error : ScriptError}
    (refused : signature.bind args = .error error)
    (frames : Nat) :
    callByName (dispatch (frames + 1)) function.name args engine =
      (.error (.error error), engine) := by
  obtain ⟨id, built⟩ := provides.1
  obtain ⟨-, argCount, native⟩ := Signature.contract_of_build built
  have entry : Call.entry ⟨signature, args, none⟩ engine.opened = .error error := by
    simp only [Call.entry, native, Call.nativeEntry, refused]
    rfl
  rw [provides.callByName_eq, dispatch_framed room, framed_of_error entry]

/-- Below the cap a call whose arguments are bound runs the native on them, in a
frame of its own. -/
theorem Provides.callByName_bound
    (provides : engine.Provides function args.length signature)
    (room : engine.callDepth < engine.maxCallDepth)
    {bound : List Value}
    (binds : signature.bind args = .ok bound)
    (frames : Nat) :
    let ended := Library.exec (dispatch frames) function { engine.opened with slots := bound }
    callByName (dispatch (frames + 1)) function.name args engine =
      (ended.1, engine.closed ended.2) := by
  obtain ⟨id, built⟩ := provides.1
  obtain ⟨-, argCount, native⟩ := Signature.contract_of_build built
  have entry : Call.entry ⟨signature, args, none⟩ engine.opened =
      .ok { engine.opened with slots := bound } := by
    simp only [Call.entry, native, Call.nativeEntry, binds]
    rfl
  obtain ⟨left, ended⟩ := framed_of_ok entry
    (Call.body (dispatch frames) ⟨signature, args, none⟩)
  rw [provides.callByName_eq, dispatch_framed room, ended, Call.body, native]

end Calls

/-- A call of a native by its name fails at the cap on nested calls, or its
contract refuses the arguments, or the native runs with every forced position
filled and every demand met; then neither reads past the arguments nor wrong
tags nor variables that the environment cannot hold play any part in it. -/
theorem native_call_meets_its_demands :
    (∀ settings shell environment function, ∃ signature, ∀ argc,
      (Application.newEngine settings shell environment).Provides function argc signature) ∧
    (∀ name args engine, ∃ frames,
      Engine.call name args engine = callByName (dispatch (frames + 1)) name args engine) ∧
    ∀ (engine : Engine) function args signature,
      engine.Provides function args.length signature → ∀ frames,
      (engine.maxCallDepth ≤ engine.callDepth →
        callByName (dispatch frames) function.name args engine =
          (.error (.error { cause := .stackOverflow engine.maxCallDepth }), engine)) ∧
      (engine.callDepth < engine.maxCallDepth →
        (∃ error, signature.Rejects args error ∧
          callByName (dispatch (frames + 1)) function.name args engine =
            (.error (.error error), engine)) ∨
        ∃ bound, signature.Converts args bound ∧ Meets function.demands bound ∧
          (∀ position tag, signature.prototype.Forces position tag →
            ∃ value, bound[position]? = some value ∧ value.tag = tag) ∧
          ∀ lapse,
            let ended := Library.body lapse (dispatch frames) function
              { engine.opened with slots := bound }
            callByName (dispatch (frames + 1)) function.name args engine =
              (ended.1, engine.closed ended.2)) := by
  refine ⟨fun settings shell environment function =>
      ((newEngine_holds settings shell environment).2 function).provides,
    exists_call_eq, ?_⟩
  intro engine function args signature provides frames
  refine ⟨fun full => provides.callByName_at_cap full frames, fun room => ?_⟩
  cases binds : signature.bind args with
  | error error =>
      exact .inl ⟨error, Signature.rejects_of_bind binds,
        provides.callByName_refused room binds frames⟩
  | ok bound =>
      obtain ⟨id, built⟩ := provides.1
      obtain ⟨secures, -⟩ := Signature.contract_of_build built
      have meets := secures.meets binds
      refine .inr ⟨bound, Signature.converts_of_bind binds, meets,
        fun position tag => secures.exists_forced binds, fun lapse => ?_⟩
      have sameMeets : Meets function.demands { engine.opened with slots := bound }.slots := meets
      rw [Library.body_eq_exec lapse (dispatch frames) sameMeets]
      exact provides.callByName_bound room binds frames

end

/-- A new engine. -/
def freshEngine : Engine :=
  Application.newEngine {} .missing .empty

/-- A new engine that has no room for calls. -/
def cappedEngine : Engine :=
  Application.newEngine { maxCallDepth := 0 } .missing .empty

theorem freshEngine_has_room : freshEngine.callDepth < freshEngine.maxCallDepth := by
  rw [freshEngine, (atRest_newEngine {} .missing .empty).callDepth,
    (newEngine_holds {} .missing .empty).1]
  decide

/-- An array of two elements. -/
def pairOfItems : OrderedMap Value :=
  .ofValues [.int 4, .int 5]

/-- On a new engine, `array_get` without an address is refused for its count, and
`array_size`, whose argument must be an array, answers whatever is done in place of
fallbacks. -/
theorem fresh_engine_calls_array_get_and_array_size :
    freshEngine.callDepth < freshEngine.maxCallDepth ∧
    (∃ signature error, freshEngine.Provides .arrayGet 1 signature ∧
      signature.Rejects [.array .empty] error ∧
      Engine.call "array_get" [.array .empty] freshEngine =
        (.error (.error error), freshEngine)) ∧
    ∃ signature, freshEngine.Provides .arraySize 1 signature ∧
      signature.prototype.Forces 0 .array ∧
      (Engine.call "array_size" [.array pairOfItems] freshEngine).1 = .ok (.int 2) := by
  obtain ⟨provided, supply, calls⟩ := native_call_meets_its_demands
  refine ⟨freshEngine_has_room, ?_, ?_⟩
  · obtain ⟨signature, provides⟩ := provided {} .missing .empty .arrayGet
    obtain ⟨frames, same⟩ := supply "array_get" [.array .empty] freshEngine
    rw [same]
    rcases (calls freshEngine .arrayGet [.array .empty] signature (provides 1) frames).2
        freshEngine_has_room with
      ⟨error, rejects, refused⟩ | ⟨bound, converts, meets, -⟩
    · exact ⟨signature, error, provides 1, rejects, refused⟩
    · have count := meets.length_le
      rw [converts.length_eq] at count
      cases count with
      | step impossible => cases impossible
  · obtain ⟨signature, provides⟩ := provided {} .missing .empty .arraySize
    obtain ⟨frames, same⟩ := supply "array_size" [.array pairOfItems] freshEngine
    obtain ⟨id, built⟩ := (provides 1).1
    cases built
    have forces : Prototype.Forces ⟨[.forced .array]⟩ 0 .array :=
      Prototype.specAt_eq_forced_iff.mp rfl
    refine ⟨_, provides 1, forces, ?_⟩
    rw [same]
    rcases (calls freshEngine .arraySize [.array pairOfItems] _ (provides 1) frames).2
        freshEngine_has_room with
      ⟨error, rejects, -⟩ | ⟨bound, converts, -, -, ran⟩
    · cases rejects with
      | count rejected => cases rejected
      | @argument accepted position arg tag there forced refused =>
          rcases position with - | position
          · cases there
            cases Option.some.inj (forces.1.symm.trans forced.1)
            exact absurd rfl (refused (.array pairOfItems))
          · cases there
    · obtain ⟨value, rfl⟩ := List.length_eq_one_iff.mp converts.length_eq
      obtain ⟨converted, found, coerced, -⟩ :=
        converts.forced 0 (.array pairOfItems) .array rfl forces
      cases found
      cases coerced
      have answer := ran fun _ _ => Run.fail (.thrown .void)
      exact (congrArg Prod.fst answer).trans rfl

/-- With no room for a call, `typeof` is not even bound to its argument. With room,
`is_a` takes a first argument that is no record, and answers that it is no instance. -/
theorem typeof_overflows_and_is_a_takes_any_value :
    (∃ signature, cappedEngine.Provides .typeOf 1 signature ∧
      signature.bind [.int 1] = .ok [.int 1]) ∧
    Engine.call "typeof" [.int 1] cappedEngine =
      (.error (.error { cause := .stackOverflow 0 }), cappedEngine) ∧
    (∃ signature, freshEngine.Provides .isA 2 signature ∧
      signature.bind [.int 1, .int 7] = .ok [.int 1, .ofText "7"]) ∧
    (Engine.call "is_a" [.int 1, .int 7] freshEngine).1 = .ok (.bool false) := by
  obtain ⟨cap, capped⟩ := newEngine_holds { maxCallDepth := 0 } .missing .empty
  obtain ⟨typeOf, provides⟩ := (capped .typeOf).provides
  obtain ⟨isA, provided⟩ := ((newEngine_holds {} .missing .empty).2 .isA).provides
  have full : cappedEngine.maxCallDepth ≤ cappedEngine.callDepth := by
    rw [cappedEngine, cap]
    exact Nat.zero_le _
  have binds : typeOf.bind [.int 1] = .ok [.int 1] := by
    obtain ⟨id, built⟩ := (provides 1).1
    cases built
    rfl
  have converts : isA.bind [.int 1, .int 7] = .ok [.int 1, .ofText "7"] := by
    obtain ⟨id, built⟩ := (provided 2).1
    cases built
    rfl
  refine ⟨⟨typeOf, provides 1, binds⟩, ?_, ⟨isA, provided 2, converts⟩, ?_⟩
  · have overflow := Provides.call_at_cap (provides [Value.int 1].length) full
    rwa [cap] at overflow
  · have called := Provides.callByName_bound (provided [Value.int 1, .int 7].length)
      freshEngine_has_room converts
    obtain ⟨frames, same⟩ := exists_call_eq "is_a" [.int 1, .int 7] freshEngine
    rw [same]
    exact (congrArg Prod.fst (called frames)).trans rfl

end Engine

end ScriptCore
