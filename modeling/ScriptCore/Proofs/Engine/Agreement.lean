import ScriptCore.Proofs.Engine.Handlers
import ScriptCore.Proofs.Engine.Tame

/-!
# Computations that agree

Two computations agree at a depth of calls if, started on the same tame engine
at that depth, they give the same result and leave the same engine, tame again
and at the same depth. Their result satisfies a postcondition, and they never
end for want of frames.

The rules follow the way computations are put together: sequences, edits,
guards and handlers. What they are used for is a pair of computations that
differ in nothing but the dispatcher behind them.
-/

namespace ScriptCore
namespace Engine

variable {α β : Type}

/-- Two computations that do the same on every tame engine at a depth. -/
def Alike (depth cap : Nat) (post : α → Prop) (first second : StateM Engine α) : Prop :=
  ∀ engine, Within depth cap engine →
    second engine = first engine ∧ Within depth cap (first engine).2 ∧ post (first engine).1

/-- An outcome that is not for want of frames, with a value that satisfies a
condition or an exception that is tame. -/
def Proper (post : α → Prop) : Except Failure α → Prop
  | .ok value => post value
  | .error (.error error) => ∀ payload ∈ error.payload?, payload.Tame
  | .error (.fault _) => True
  | .error .exhausted => False

/-- Two computations with proper outcomes that do the same on every tame engine
at a depth. -/
def Agree (depth cap : Nat) (post : α → Prop) (first second : Run α) : Prop :=
  Alike depth cap (Proper post) first.run second.run

section Rules

variable {depth cap : Nat} {middle : α → Prop} {post : β → Prop}

namespace Alike

/-- Computations in sequence are alike if their parts are. -/
theorem bind
    {first first' : StateM Engine α}
    {next next' : α → StateM Engine β}
    (begins : Alike depth cap middle first first')
    (goesOn : ∀ value, middle value → Alike depth cap post (next value) (next' value)) :
    Alike depth cap post (first >>= next) (first' >>= next') := by
  intro engine within
  obtain ⟨same, inside, holds⟩ := begins engine within
  change next' (first' engine).1 (first' engine).2 = next (first engine).1 (first engine).2 ∧ _
  rw [same]
  exact goesOn _ holds _ inside

/-- The same edit twice. -/
theorem edit {f : Engine → Engine} (edits : ∀ engine, Within depth cap engine →
    Within depth cap (f engine)) :
    Alike depth cap (fun _ => True) (modify f : StateM Engine PUnit) (modify f) :=
  fun engine within => ⟨rfl, edits engine within, trivial⟩

/-- The engine is read and left as it is. -/
theorem reading
    {next next' : Engine → StateM Engine β}
    (goesOn : ∀ engine, Within depth cap engine →
      Alike depth cap post (next engine) (next' engine)) :
    Alike depth cap post (get >>= next) (get >>= next') :=
  fun engine within => goesOn engine within engine within

theorem pure {value : β} (holds : post value) :
    Alike depth cap post (pure value : StateM Engine β) (Pure.pure value) :=
  fun _ within => ⟨rfl, within, holds⟩

/-- An edit before a last result. -/
theorem editThenReturn
    {f : Engine → Engine}
    {value : β}
    (edits : ∀ engine, Within depth cap engine → Within depth cap (f engine))
    (holds : post value) :
    Alike depth cap post (modify f >>= fun _ => Pure.pure value)
      (modify f >>= fun _ => Pure.pure value) :=
  (edit edits).bind fun _ _ => pure holds

end Alike

namespace Agree

/-- Computations in sequence agree if their parts do. -/
theorem bind
    {first first' : Run α}
    {next next' : α → Run β}
    (begins : Agree depth cap middle first first')
    (goesOn : ∀ value, middle value → Agree depth cap post (next value) (next' value)) :
    Agree depth cap post (first >>= next) (first' >>= next') := by
  intro engine within
  obtain ⟨same, inside, proper⟩ := begins engine within
  rcases done : first engine with ⟨outcome, after⟩
  change first' engine = first engine at same
  change Within depth cap (first engine).2 at inside
  change Proper middle (first engine).1 at proper
  rw [done] at same inside proper
  cases outcome with
  | ok value =>
      have continued := goesOn value proper after inside
      change (first' >>= next') engine = (first >>= next) engine ∧
        Within depth cap ((first >>= next) engine).2 ∧ Proper post ((first >>= next) engine).1
      rw [Run.bind_ok done, Run.bind_ok same]
      exact continued
  | error failure =>
      change (first' >>= next') engine = (first >>= next) engine ∧
        Within depth cap ((first >>= next) engine).2 ∧ Proper post ((first >>= next) engine).1
      rw [Run.bind_error done, Run.bind_error same]
      refine ⟨rfl, inside, ?_⟩
      cases failure <;> exact proper

theorem pure {value : β} (holds : post value) :
    Agree depth cap post (pure value) (Pure.pure value) :=
  Alike.pure holds

/-- A computation whose value is used for a last result. -/
theorem andReturn
    {first first' : Run α}
    (begins : Agree depth cap middle first first')
    {f : α → β}
    (holds : ∀ value, middle value → post (f value)) :
    Agree depth cap post (first >>= fun value => Pure.pure (f value))
      (first' >>= fun value => Pure.pure (f value)) :=
  begins.bind fun value inside => pure (holds value inside)

theorem throw {failure : Failure} (proper : Proper post (.error failure)) :
    Agree depth cap post (throw failure) (MonadExcept.throw failure) :=
  fun _ within => ⟨rfl, within, proper⟩

/-- An error that is not an exception. -/
theorem failWithHint {cause : Cause} (plain : cause.payload? = none) (hint : String) :
    Agree depth cap post (Run.failWithHint cause hint) (Run.failWithHint cause hint) := by
  apply throw
  intro payload member
  change cause.payload? = some payload at member
  rw [plain] at member
  cases member

/-- An error that is no exception agrees with itself. -/
theorem fail {cause : Cause} (plain : cause.payload? = none) :
    Agree depth cap post (Run.fail cause) (Run.fail cause) :=
  failWithHint plain ""

/-- Computations that cannot fail agree if they are alike. -/
theorem lift {first second : StateM Engine β} (alike : Alike depth cap post first second) :
    Agree depth cap post (liftM first) (liftM second) := by
  intro engine within
  obtain ⟨same, inside, holds⟩ := alike engine within
  refine ⟨?_, inside, holds⟩
  change (Except.ok (second engine).1, (second engine).2) =
    (Except.ok (first engine).1, (first engine).2)
  rw [same]

/-- An edit agrees with itself if it stays within the depth and the cap. -/
theorem edit {f : Engine → Engine} (edits : ∀ engine, Within depth cap engine →
    Within depth cap (f engine)) :
    Agree depth cap (fun _ => True) (modify f : Run PUnit) (modify f) :=
  fun engine within => ⟨rfl, edits engine within, trivial⟩

/-- An edit before a last result. -/
theorem editThenReturn
    {f : Engine → Engine}
    {value : β}
    (edits : ∀ engine, Within depth cap engine → Within depth cap (f engine))
    (holds : post value) :
    Agree depth cap post (modify f >>= fun _ => Pure.pure value)
      (modify f >>= fun _ => Pure.pure value) :=
  (edit edits).andReturn fun _ _ => holds

/-- Computations that read the engine agree if they do on every engine within the
depth and the cap. -/
theorem reading
    {next next' : Engine → Run β}
    (goesOn : ∀ engine, Within depth cap engine →
      Agree depth cap post (next engine) (next' engine)) :
    Agree depth cap post (get >>= next) (get >>= next') :=
  fun engine within => goesOn engine within engine within

/-- The engine is read for a last result. -/
theorem readThenReturn
    {f : Engine → β}
    (holds : ∀ engine, Within depth cap engine → post (f engine)) :
    Agree depth cap post (get >>= fun engine => Pure.pure (f engine))
      (get >>= fun engine => Pure.pure (f engine)) :=
  reading fun engine within => pure (holds engine within)

/-- The engine is replaced. -/
theorem put {after : Engine} (within : Within depth cap after) :
    Agree depth cap (fun _ => True) (set after : Run PUnit) (set after) :=
  fun _ _ => ⟨rfl, within, trivial⟩

end Agree
end Rules

/-! ## Guards and handlers -/

section Handlers

variable {depth cap : Nat}

/-- A guard around computations that are alike keeps them so. -/
theorem Alike.guarded
    {post : α → Prop}
    {first second : StateM Engine α}
    (alike : Alike depth cap post first second) :
    Alike depth cap post (guarded first) (guarded second) := by
  intro engine within
  obtain ⟨same, inside, holds⟩ := alike _ within.push
  refine ⟨?_, within.callDepth ▸ inside.restore engine.depth engine.callDepth, holds⟩
  exact congrArg (fun ended : α × Engine =>
    (ended.1, ended.2.restore engine.depth engine.callDepth)) same

/-- The body of a call runs one level deeper. -/
theorem Alike.framed
    {post : α → Prop}
    {first second : StateM Engine α}
    (alike : Alike (depth + 1) cap post first second) :
    Alike depth cap post
      (Engine.guarded (modify deepen >>= fun _ => first))
      (Engine.guarded (modify deepen >>= fun _ => second)) := by
  intro engine within
  obtain ⟨same, inside, holds⟩ := alike _ within.push.deepen
  refine ⟨?_, within.callDepth ▸ inside.restore engine.depth engine.callDepth, holds⟩
  exact congrArg (fun ended : α × Engine =>
    (ended.1, ended.2.restore engine.depth engine.callDepth)) same

/-- An outcome with a tame value or a tame exception. -/
def Outcome.Tame : Outcome → Prop
  | .completed value => value.Tame
  | .caught payload => payload.Tame

section

variable [KeyHash]

/-- A tame outcome is shown as a tame value. -/
theorem Outcome.Tame.toValue {outcome : Outcome} (tame : outcome.Tame) : outcome.toValue.Tame := by
  cases outcome <;> exact Value.tame_array.mpr (OrderedMap.All.ofPairs
    (by simpa [Outcome.Tame] using tame))

namespace Agree

variable {first second : Run Value}

omit [KeyHash]

theorem inScope (agree : Agree depth cap Value.Tame first second) :
    Agree depth cap Value.Tame (inScope first) (inScope second) :=
  Alike.guarded agree

theorem wrapped (agree : Agree depth cap Value.Tame first second) :
    Agree depth cap Value.Tame (wrapped first) (wrapped second) := by
  refine Alike.bind agree ?_
  intro outcome proper
  rcases outcome with failure | value
  · cases failure with
    | error error =>
        apply Alike.pure
        intro payload member
        unfold ScriptError.intoThrown at member
        split at member
        · exact proper payload member
        · cases member
          simp
    | fault message => exact Alike.pure trivial
    | exhausted => exact proper.elim
  · exact Alike.pure proper

/-- A handler around computations that agree keeps them so. -/
theorem attempt (agree : Agree depth cap Value.Tame first second) :
    Agree depth cap Outcome.Tame (attempt first) (attempt second) := by
  apply Alike.reading
  intro engine within
  have restores : ∀ after, Within depth cap after →
      Within depth cap (after.restore engine.depth engine.callDepth) :=
    fun after inside => within.callDepth ▸ inside.restore engine.depth engine.callDepth
  refine Alike.bind agree ?_
  intro outcome proper
  rcases outcome with failure | value
  · cases failure with
    | error error =>
        refine Alike.bind (Alike.edit restores) fun _ _ => ?_
        cases raised : error.payload? with
        | none => exact Alike.pure proper
        | some payload =>
            have tame : payload.Tame := proper payload raised
            refine Alike.editThenReturn (fun after inside => ?_) tame
            apply inside.withException
            intro other member
            cases member
            exact tame
    | fault message => exact Alike.pure trivial
    | exhausted => exact proper.elim
  · exact Alike.editThenReturn restores proper

/-- A script of its own, started where no call is active. -/
theorem run (agree : Agree 0 cap Value.Tame first second) :
    Agree 0 cap Value.Tame (run first) (run second) := by
  refine Alike.bind (Alike.edit fun engine within => ?_) fun _ _ => ?_
  · apply within.withException
    intro payload member
    cases member
  · refine Alike.bind agree ?_
    intro outcome proper
    rcases outcome with failure | value
    · cases failure with
      | error error =>
          -- Settling puts the depth of calls back to zero, whatever it was; only
          -- at that depth does the engine stay where it started.
          refine Alike.editThenReturn (fun after inside => ?_) proper
          exact inside.settle error proper
      | fault message => exact Alike.pure trivial
      | exhausted => exact proper.elim
    · exact Alike.pure proper

theorem repeated
    (agree : Agree depth cap Value.Tame first second)
    {last : Value}
    (tame : last.Tame)
    (count : Nat) :
    Agree depth cap Value.Tame (Program.repeated first last count)
      (Program.repeated second last count) := by
  induction count generalizing last with
  | zero => exact Agree.pure tame
  | succ count ih =>
      exact agree.bind fun value holds => ih holds

end Agree

/-! ## Operations without calls -/

omit [KeyHash] in
theorem alike_allowPrivileged (operation : String) :
    Alike depth cap (fun _ => True) (allowPrivileged operation) (allowPrivileged operation) := by
  intro engine within
  refine ⟨rfl, ?_, trivial⟩
  rcases allowPrivileged_cases operation engine with refused | ⟨-, granted⟩
  · rw [refused]
    exact within.report _
  · rw [granted]
    exact within

omit [KeyHash] in
theorem alike_nonfatal (message : String) {default : Value} (tame : default.Tame) :
    Alike depth cap Value.Tame (nonfatal message default) (nonfatal message default) :=
  Alike.editThenReturn (fun _ within => within.report message) tame

/-- Modules with routines that agree load alike. -/
theorem Agree.loadModule
    {first second : Run Unit}
    (agree : Agree depth cap (fun _ => True) first second)
    (name : String) :
    Agree depth cap (fun _ => True) (loadModule name first) (loadModule name second) := by
  refine Agree.bind (Agree.lift (alike_allowPrivileged _)) ?_
  intro allowed _
  cases allowed with
  | false => exact Agree.pure trivial
  | true =>
      apply Agree.reading
      intro engine within
      split
      · exact Agree.editThenReturn (fun _ inside => inside.report _) trivial
      · apply Alike.reading
        intro outer _
        refine Alike.bind (Alike.edit fun _ inside => inside.of_same rfl) fun _ _ => ?_
        refine Alike.bind agree ?_
        intro outcome proper
        rcases outcome with failure | value
        · cases failure with
          | error error =>
              -- The names that the routine has noted are removed again.
              refine Alike.editThenReturn (fun after inside => ?_) proper
              have closed : Within depth cap { after with loading := outer.loading } :=
                inside.of_same rfl
              exact closed.removeNames _
          | fault message => exact Alike.pure trivial
          | exhausted => exact proper.elim
        · exact Alike.editThenReturn (fun _ inside => inside.of_same rfl) trivial

/-- Within the depth and the cap a variable has a tame value. -/
theorem agree_getVariable (name : String) :
    Agree depth cap Value.Tame (getVariable name) (getVariable name) := by
  apply Agree.reading
  intro engine within
  cases found : engine.scopes.get? name with
  | some value => exact Agree.pure (within.tame.scopes.get? found)
  | none => exact Agree.failWithHint rfl _

/-- Assigning a tame value stays within the depth and the cap. -/
theorem agree_assign (name : String) {value : Value} (tame : value.Tame) :
    Agree depth cap (fun _ => True) (assign name value) (assign name value) := by
  apply Agree.reading
  intro engine within
  cases assigned : engine.scopes.assign name value with
  | ok scopes => exact Agree.put (within.withScopes (within.tame.scopes.assign tame assigned))
  | error cast => exact Agree.fail rfl

omit [KeyHash] in
/-- A tame specification is built alike into a tame signature. -/
theorem agree_buildSignature {spec : SignatureSpec} (tame : spec.isTame = true) :
    Agree depth cap Signature.Tame (buildSignature spec) (buildSignature spec) := by
  apply Agree.reading
  intro engine within
  cases built : Signature.build engine.nextSignature spec with
  | ok signature =>
      exact Agree.andReturn (Agree.put (within.of_same rfl))
        fun _ _ => Signature.tame_build tame built
  | error fault => exact Agree.fail rfl

omit [KeyHash] in
theorem agree_buildSignatures
    {specs : List SignatureSpec}
    (tame : SignatureSpec.areTame specs = true) :
    Agree depth cap (fun signatures => ∀ signature ∈ signatures, signature.Tame)
      (buildSignatures specs) (buildSignatures specs) := by
  induction specs with
  | nil => exact Agree.pure fun _ member => nomatch member
  | cons spec specs ih =>
      obtain ⟨tameSpec, tameRest⟩ := Bool.and_eq_true_iff.mp tame
      refine (agree_buildSignature tameSpec).bind fun signature holds => ?_
      exact (ih tameRest).andReturn
        fun _ rest => List.forall_mem_cons.mpr ⟨holds, rest⟩

theorem agree_register {spec : SignatureSpec} (tame : spec.isTame = true) :
    Agree depth cap (fun _ => True) (register spec) (register spec) := by
  refine (agree_buildSignature tame).bind fun signature holds => ?_
  exact Agree.editThenReturn (fun _ within => within.registerSignature holds) trivial

/-- Installing the library stays within the depth and the cap. -/
theorem agree_installLibrary :
    Agree depth cap (fun _ => True) installLibrary installLibrary := by
  unfold installLibrary
  generalize LibraryFunction.all = functions
  induction functions with
  | nil => exact Agree.pure trivial
  | cons function functions ih =>
      have registered : Agree depth cap (fun _ => True)
          (register function.signature >>= fun _ => Pure.pure PUnit.unit)
          (register function.signature >>= fun _ => Pure.pure PUnit.unit) :=
        (agree_register function.isTame_signature).andReturn fun _ _ => trivial
      exact registered.bind fun _ _ => ih

theorem alike_unbindWhere (condition : Binding → Bool) (name : String) :
    Alike depth cap (fun _ => True) (unbindWhere condition name) (unbindWhere condition name) := by
  apply Alike.reading
  intro engine within
  cases engine.scopes.global.get? name with
  | none => exact Alike.pure trivial
  | some binding =>
      dsimp only
      split
      · exact Alike.editThenReturn (fun _ inside => inside.unbindGlobal name) trivial
      · exact Alike.pure trivial

theorem alike_unloadModule (name : String) :
    Alike depth cap (fun _ => True) (unloadModule name) (unloadModule name) := by
  refine Alike.bind (alike_allowPrivileged _) ?_
  intro allowed _
  cases allowed with
  | false => exact Alike.pure trivial
  | true =>
      apply Alike.reading
      intro engine within
      cases engine.modules.get? name with
      | none =>
          exact Alike.editThenReturn (fun _ inside => inside.report _) trivial
      | some names =>
          refine Alike.editThenReturn (fun after inside => ?_) trivial
          have erased : Within depth cap
              { after with modules := (after.modules.erase name).compact } := inside.of_same rfl
          exact erased.removeNames names

end

/-- Throwing a tame payload agrees with itself. -/
theorem agree_throwValue {payload : Value} (tame : payload.Tame) {post : α → Prop} :
    Agree depth cap post (throwValue payload) (throwValue payload) := by
  have raised : ∀ other ∈ (ExceptionState.raised payload).payload?, other.Tame := by
    intro other member
    cases member
    exact tame
  refine (Agree.edit fun _ within => within.withException raised).bind fun _ _ => ?_
  exact Agree.throw raised

theorem alike_arg (index : Nat) : Alike depth cap Value.Tame (arg index) (arg index) :=
  Alike.reading fun _ within => Alike.pure (within.slotAt index)

theorem alike_takeArg (index : Nat) :
    Alike depth cap Value.Tame (takeArg index) (takeArg index) :=
  Alike.bind (alike_arg index) fun _ tame =>
    Alike.editThenReturn (fun _ within => within.setSlot index Value.tame_void) tame

theorem alike_newResource (kind : String) (handle : Handle) (hasDestructor : Bool) :
    Alike depth cap Value.Tame (newResource kind handle hasDestructor)
      (newResource kind handle hasDestructor) :=
  fun _ within => ⟨rfl, within.of_same rfl, Value.tame_resource _⟩

end Handlers
end Engine
end ScriptCore
