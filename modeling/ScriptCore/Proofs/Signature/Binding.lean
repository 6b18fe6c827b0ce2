import ScriptCore.Signature.Bind

/-!
# What binding does to an argument list

Binding treats every argument on its own. A position is either forced to a tag
or passes what it is given, and the prototype alone decides which. The first
forced position whose argument cannot be converted names the error, and a list
that has been bound once is bound already.
-/

namespace ScriptCore

/-! ## Positions -/

namespace Prototype

/-- A position with an uppercase letter, and no `*` before it. -/
def Forces (prototype : Prototype) (position : Nat) (tag : Tag) : Prop :=
  prototype.params[position]? = some (.forced tag) ∧
    ∀ earlier < position, prototype.params[earlier]? ≠ some .rest

/-- A position that takes its argument as it is. -/
inductive Passes (prototype : Prototype) (position : Nat) : Prop where
  | any (there : prototype.params[position]? = some .any)
  | hint (tag : Tag) (there : prototype.params[position]? = some (.hint tag))
  | rest (star : Nat) (reached : star ≤ position)
      (there : prototype.params[star]? = some .rest)
  | beyond (past : prototype.params.length ≤ position)

variable {prototype : Prototype} {position : Nat}

/-- The rest begins at the first position that is marked so. -/
theorem restPosition?_eq_some_iff {star : Nat} :
    prototype.restPosition? = some star ↔
      prototype.params[star]? = some .rest ∧
        ∀ earlier < star, prototype.params[earlier]? ≠ some .rest := by
  unfold restPosition?
  rw [List.findIdx?_eq_some_iff_getElem]
  constructor
  · rintro ⟨inside, there, first⟩
    refine ⟨by simpa [List.getElem?_eq_getElem inside] using there, ?_⟩
    intro earlier before
    have insideEarlier : earlier < prototype.params.length := by omega
    simpa [List.getElem?_eq_getElem insideEarlier] using first earlier before
  · rintro ⟨there, first⟩
    obtain ⟨inside, there⟩ := List.getElem?_eq_some_iff.mp there
    refine ⟨inside, by simp [there], ?_⟩
    intro earlier before
    have insideEarlier : earlier < prototype.params.length := by omega
    simpa [List.getElem?_eq_getElem insideEarlier] using first earlier before

/-- There is no rest exactly if no position is marked so. -/
theorem restPosition?_eq_none_iff :
    prototype.restPosition? = none ↔
      ∀ star : Nat, prototype.params[star]? ≠ some .rest := by
  unfold restPosition?
  rw [List.findIdx?_eq_none_iff]
  constructor
  · intro absent star there
    simpa using absent _ (List.mem_of_getElem? there)
  · intro absent param member
    obtain ⟨star, there⟩ := List.mem_iff_getElem?.mp member
    have different : param ≠ .rest := fun same => absent star (same ▸ there)
    simpa using different

/-- Up to the `*` the letters of the prototype decide, from it on nothing is
asked. -/
theorem specAt_cases (prototype : Prototype) (position : Nat) :
    (prototype.specAt position = .rest ∧
        ∃ star ≤ position, prototype.params[star]? = some .rest) ∨
      (prototype.specAt position = prototype.params[position]?.getD .any ∧
        ∀ star ≤ position, prototype.params[star]? ≠ some .rest) := by
  unfold specAt
  cases found : prototype.restPosition? with
  | none =>
      have absent := restPosition?_eq_none_iff.mp found
      exact .inr ⟨List.getD_eq_getElem?_getD, fun star _ => absent star⟩
  | some star =>
      obtain ⟨there, first⟩ := restPosition?_eq_some_iff.mp found
      by_cases reached : star ≤ position
      · exact .inl ⟨if_pos reached, star, reached, there⟩
      · refine .inr ⟨(if_neg reached).trans List.getD_eq_getElem?_getD, ?_⟩
        intro earlier before
        exact first earlier (by omega)

/-- The forced positions are the uppercase letters that no `*` hides. -/
theorem specAt_eq_forced_iff {tag : Tag} :
    prototype.specAt position = .forced tag ↔ prototype.Forces position tag := by
  rcases prototype.specAt_cases position with
    ⟨spec, star, reached, there⟩ | ⟨spec, noStar⟩
  · rw [spec]
    refine ⟨nofun, ?_⟩
    rintro ⟨letter, clear⟩
    rcases Nat.lt_or_eq_of_le reached with before | rfl
    · exact absurd there (clear star before)
    · rw [there] at letter
      cases letter
  · rw [spec]
    constructor
    · intro forced
      refine ⟨?_, fun earlier before => noStar earlier (Nat.le_of_lt before)⟩
      cases letter : prototype.params[position]? with
      | none =>
          rw [letter] at forced
          cases forced
      | some param =>
          rw [letter] at forced
          exact congrArg some forced
    · rintro ⟨letter, -⟩
      rw [letter]
      rfl

/-- A position passes its argument exactly when no tag is forced on it. -/
theorem passes_iff :
    prototype.Passes position ↔ ∀ tag, ¬prototype.Forces position tag := by
  constructor
  · rintro (there | ⟨hinted, there⟩ | ⟨star, reached, there⟩ | past) tag ⟨letter, clear⟩
    · simp [there] at letter
    · simp [there] at letter
    · rcases Nat.lt_or_eq_of_le reached with before | rfl
      · exact clear star before there
      · simp [there] at letter
    · simp [List.getElem?_eq_none past] at letter
  · intro unforced
    -- A `*` hides whatever letter stands at the position, so it is asked for first.
    rcases prototype.specAt_cases position with
      ⟨-, star, reached, there⟩ | ⟨-, noStar⟩
    · exact .rest star reached there
    · match letter : prototype.params[position]? with
      | none => exact .beyond (List.getElem?_eq_none_iff.mp letter)
      | some .any => exact .any letter
      | some .rest => exact absurd letter (noStar position (Nat.le_refl _))
      | some (.hint tag) => exact .hint tag letter
      | some (.forced tag) =>
          refine absurd ⟨letter, ?_⟩ (unforced tag)
          intro earlier before
          exact noStar earlier (Nat.le_of_lt before)

theorem forces_or_passes (prototype : Prototype) (position : Nat) :
    (∃ tag, prototype.Forces position tag) ∨ prototype.Passes position := by
  by_cases forced : ∃ tag, prototype.Forces position tag
  · exact .inl forced
  · exact .inr (passes_iff.mpr (not_exists.mp forced))

end Prototype

/-! ## Conversions -/

namespace Value

variable {value converted : Value} {target : Tag}

theorem tag_of_coerce? (found : value.coerce? target = some converted) :
    converted.tag = target := by
  cases value <;> cases target <;>
    simp [coerce?, coerceVoid, coerceBool, coerceInt, coerceFloat, coerceStr] at found <;>
    grind [tag, ofText]

/-- A converted value has the tag that was asked for. -/
theorem tag_of_coerce (coerced : value.coerce target = .ok converted) :
    converted.tag = target := by
  unfold coerce at coerced
  split at coerced
  · next found =>
    cases coerced
    exact tag_of_coerce? found
  · cases coerced

/-- A refusal names the tag of the value and the tag that was asked for. -/
theorem coerce_eq_error
    {cast : CastError}
    (refused : value.coerce target = .error cast) :
    cast = { source := value.tag, target } := by
  unfold coerce at refused
  split at refused
  · cases refused
  · cases refused
    rfl

theorem coerce_tag_self (value : Value) : value.coerce value.tag = .ok value := by
  rw [coerce, coerce?_tag_self]

/-- What has been converted once needs no conversion. -/
theorem coerce_coerced (coerced : value.coerce target = .ok converted) :
    converted.coerce target = .ok converted := by
  have same := coerce_tag_self converted
  rwa [tag_of_coerce coerced] at same

/-- A record is converted to itself or not at all. -/
theorem coerce_record
    {content : Record}
    (coerced : (record content).coerce target = .ok converted) :
    converted = record content := by
  by_cases wanted : target = .record
  · simp only [coerce, coerce?, wanted, if_true, Except.ok.injEq] at coerced
    exact coerced.symm
  · simp [coerce, coerce?, wanted] at coerced

end Value

/-! ## Single arguments -/

namespace Signature

variable {signature : Signature} {position : Nat} {arg value : Value} {tag : Tag}

theorem bindArg_forced
    (forced : signature.prototype.Forces position tag)
    (coerced : arg.coerce tag = .ok value) :
    signature.bindArg position arg = .ok value := by
  simp only [bindArg, Prototype.specAt_eq_forced_iff.mpr forced, coerced]

theorem bindArg_refused
    {cast : CastError}
    (forced : signature.prototype.Forces position tag)
    (refused : arg.coerce tag = .error cast) :
    signature.bindArg position arg =
      .error { cause := .coercion signature.name position cast } := by
  simp only [bindArg, Prototype.specAt_eq_forced_iff.mpr forced, refused]

theorem bindArg_passes (passes : signature.prototype.Passes position) :
    signature.bindArg position arg = .ok arg := by
  have unforced := Prototype.passes_iff.mp passes
  unfold bindArg
  split
  · next tag spec => exact absurd (Prototype.specAt_eq_forced_iff.mp spec) (unforced tag)
  · rfl

/-- An argument that is bound is converted or passed. -/
theorem bindArg_eq_ok
    (bound : signature.bindArg position arg = .ok value) :
    (∃ tag, signature.prototype.Forces position tag ∧ arg.coerce tag = .ok value) ∨
      signature.prototype.Passes position ∧ value = arg := by
  rcases signature.prototype.forces_or_passes position with ⟨tag, forced⟩ | passes
  · cases coerced : arg.coerce tag with
    | ok converted =>
        rw [bindArg_forced forced coerced] at bound
        cases bound
        exact .inl ⟨tag, forced, coerced⟩
    | error cast =>
        rw [bindArg_refused forced coerced] at bound
        cases bound
  · rw [bindArg_passes passes] at bound
    cases bound
    exact .inr ⟨passes, rfl⟩

/-- An argument that is refused stands at a forced position. -/
theorem bindArg_eq_error
    {error : ScriptError}
    (failed : signature.bindArg position arg = .error error) :
    ∃ tag, signature.prototype.Forces position tag ∧
      arg.coerce tag = .error { source := arg.tag, target := tag } ∧
      error =
        { cause := .coercion signature.name position { source := arg.tag, target := tag } } := by
  rcases signature.prototype.forces_or_passes position with ⟨tag, forced⟩ | passes
  · cases coerced : arg.coerce tag with
    | ok converted =>
        rw [bindArg_forced forced coerced] at failed
        cases failed
    | error cast =>
        rw [bindArg_refused forced coerced] at failed
        cases failed
        cases Value.coerce_eq_error coerced
        exact ⟨tag, forced, coerced, rfl⟩
  · rw [bindArg_passes passes] at failed
    cases failed

/-- A bound argument is bound to itself. -/
theorem bindArg_bound (bound : signature.bindArg position arg = .ok value) :
    signature.bindArg position value = .ok value := by
  rcases bindArg_eq_ok bound with ⟨tag, forced, coerced⟩ | ⟨passes, rfl⟩
  · exact bindArg_forced forced (Value.coerce_coerced coerced)
  · exact bindArg_passes passes

/-! ## Argument lists -/

variable {start : Nat} {args bound : List Value}

theorem bindFrom_cons_eq_ok_iff :
    signature.bindFrom start (arg :: args) = .ok bound ↔
      ∃ value values, signature.bindArg start arg = .ok value ∧
        signature.bindFrom (start + 1) args = .ok values ∧ bound = value :: values := by
  rw [bindFrom]
  cases signature.bindArg start arg with
  | error error => simp [Bind.bind, Except.bind]
  | ok value =>
      cases signature.bindFrom (start + 1) args with
      | error error => simp [Bind.bind, Except.bind]
      | ok values => simp [Bind.bind, Except.bind, pure, Except.pure, eq_comm]

/-- The first argument that cannot be bound decides the error. -/
theorem bindFrom_cons_eq_error_iff {error : ScriptError} :
    signature.bindFrom start (arg :: args) = .error error ↔
      signature.bindArg start arg = .error error ∨
        (∃ value, signature.bindArg start arg = .ok value) ∧
          signature.bindFrom (start + 1) args = .error error := by
  rw [bindFrom]
  cases signature.bindArg start arg with
  | error error => simp [Bind.bind, Except.bind]
  | ok value =>
      cases signature.bindFrom (start + 1) args with
      | error error => simp [Bind.bind, Except.bind]
      | ok values => simp [Bind.bind, Except.bind, pure, Except.pure]

/-- Every argument of a bound list is bound on its own. -/
theorem bindFrom_ok
    (binds : signature.bindFrom start args = .ok bound) :
    bound.length = args.length ∧
      ∀ index arg, args[index]? = some arg →
        ∃ value, bound[index]? = some value ∧
          signature.bindArg (start + index) arg = .ok value := by
  induction args generalizing start bound with
  | nil =>
      cases binds
      simp
  | cons first args ih =>
      obtain ⟨value, values, head, tail, rfl⟩ := bindFrom_cons_eq_ok_iff.mp binds
      obtain ⟨sameLength, each⟩ := ih tail
      refine ⟨congrArg (· + 1) sameLength, ?_⟩
      intro index arg there
      cases index with
      | zero =>
          cases there
          exact ⟨value, rfl, head⟩
      | succ index =>
          rw [show start + (index + 1) = start + 1 + index by omega]
          exact each index arg there

/-- The first argument that is refused names the error. -/
theorem bindFrom_error
    {error : ScriptError}
    (failed : signature.bindFrom start args = .error error) :
    ∃ index arg, args[index]? = some arg ∧
      signature.bindArg (start + index) arg = .error error ∧
      ∀ earlier < index, ∀ other, args[earlier]? = some other →
        ∃ value, signature.bindArg (start + earlier) other = .ok value := by
  -- The head is refused, or it is bound and the error comes from the rest, one position on.
  induction args generalizing start with
  | nil => cases failed
  | cons first args ih =>
      rcases bindFrom_cons_eq_error_iff.mp failed with head | ⟨head, tail⟩
      · exact ⟨0, first, rfl, head, fun earlier impossible => absurd impossible (by omega)⟩
      · obtain ⟨index, arg, there, refused, before⟩ := ih tail
        refine ⟨index + 1, arg, there, ?_, ?_⟩
        · rwa [show start + (index + 1) = start + 1 + index by omega]
        · intro earlier less other found
          cases earlier with
          | zero =>
              cases found
              exact head
          | succ earlier =>
              rw [show start + (earlier + 1) = start + 1 + earlier by omega]
              exact before earlier (by omega) other found

theorem bindFrom_bound
    (binds : signature.bindFrom start args = .ok bound) :
    signature.bindFrom start bound = .ok bound := by
  induction args generalizing start bound with
  | nil =>
      cases binds
      rfl
  | cons first args ih =>
      obtain ⟨value, values, head, tail, rfl⟩ := bindFrom_cons_eq_ok_iff.mp binds
      exact bindFrom_cons_eq_ok_iff.mpr
        ⟨value, values, bindArg_bound head, ih tail, rfl⟩

theorem bind_eq_ok_iff :
    signature.bind args = .ok bound ↔
      signature.arity.accepts args.length = true ∧ signature.bindFrom 0 args = .ok bound := by
  unfold bind
  split
  · next accepted => simp [accepted]
  · next rejected => simp [rejected]

theorem bind_eq_error_iff {error : ScriptError} :
    signature.bind args = .error error ↔
      signature.arity.accepts args.length = false ∧
          error = { cause := .arityMismatch signature.name signature.arity args.length } ∨
        signature.arity.accepts args.length = true ∧
          signature.bindFrom 0 args = .error error := by
  unfold bind
  split
  · next accepted => simp [accepted]
  · next rejected => simp [rejected, eq_comm]

/-- A record in front stays there, whatever the prototype says. -/
theorem bind_record_cons
    {content : Record}
    (binds : signature.bind (.record content :: args) = .ok bound) :
    bound = .record content :: bound.tail := by
  obtain ⟨-, binds⟩ := bind_eq_ok_iff.mp binds
  obtain ⟨value, values, head, -, rfl⟩ := bindFrom_cons_eq_ok_iff.mp binds
  rcases bindArg_eq_ok head with ⟨tag, -, coerced⟩ | ⟨-, rfl⟩
  · rw [Value.coerce_record coerced, List.tail_cons]
  · rfl

/-! ## The laws of binding -/

/-- Every forced argument of a list can be converted. -/
def Convertible (signature : Signature) (args : List Value) : Prop :=
  ∀ position arg tag, args[position]? = some arg →
    signature.prototype.Forces position tag → ∃ value, arg.coerce tag = .ok value

/-- A list that is another one with its forced arguments converted. -/
structure Converts (signature : Signature) (args bound : List Value) : Prop where
  length_eq : bound.length = args.length
  forced : ∀ position arg tag, args[position]? = some arg →
    signature.prototype.Forces position tag →
      ∃ value, bound[position]? = some value ∧ arg.coerce tag = .ok value ∧ value.tag = tag
  passed : ∀ position arg, args[position]? = some arg →
    signature.prototype.Passes position → bound[position]? = some arg

/-- Why an argument list is rejected. -/
inductive Rejects (signature : Signature) (args : List Value) : ScriptError → Prop where
  | count
      (rejected : signature.arity.accepts args.length = false) :
      Rejects signature args
        { cause := .arityMismatch signature.name signature.arity args.length }
  | argument
      (accepted : signature.arity.accepts args.length = true)
      {position : Nat} {arg : Value} {tag : Tag}
      (there : args[position]? = some arg)
      (forced : signature.prototype.Forces position tag)
      (refused : ∀ value, arg.coerce tag ≠ .ok value)
      (first : signature.Convertible (args.take position)) :
      Rejects signature args
        { cause := .coercion signature.name position { source := arg.tag, target := tag } }

/-- Arguments are convertible exactly if each can be bound at its position. -/
theorem convertible_iff :
    signature.Convertible args ↔
      ∀ position arg, args[position]? = some arg →
        ∃ value, signature.bindArg position arg = .ok value := by
  constructor
  · intro convertible position arg there
    rcases signature.prototype.forces_or_passes position with ⟨tag, forced⟩ | passes
    · obtain ⟨value, coerced⟩ := convertible position arg tag there forced
      exact ⟨value, bindArg_forced forced coerced⟩
    · exact ⟨arg, bindArg_passes passes⟩
  · intro each position arg tag there forced
    obtain ⟨value, bound⟩ := each position arg there
    rcases bindArg_eq_ok bound with ⟨other, otherForced, coerced⟩ | ⟨passes, -⟩
    · cases Option.some.inj (forced.1.symm.trans otherForced.1)
      exact ⟨value, coerced⟩
    · exact absurd forced (Prototype.passes_iff.mp passes tag)

/-- Arguments can be bound together exactly if they are convertible. -/
theorem exists_bindFrom_iff :
    (∃ bound, signature.bindFrom 0 args = .ok bound) ↔ signature.Convertible args := by
  rw [convertible_iff]
  constructor
  · rintro ⟨bound, binds⟩ position arg there
    obtain ⟨value, -, converted⟩ := (bindFrom_ok binds).2 position arg there
    exact ⟨value, by rwa [Nat.zero_add] at converted⟩
  · intro each
    cases binds : signature.bindFrom 0 args with
    | ok bound => exact ⟨bound, rfl⟩
    | error error =>
        obtain ⟨index, arg, there, refused, -⟩ := bindFrom_error binds
        obtain ⟨value, converted⟩ := each index arg there
        rw [Nat.zero_add, converted] at refused
        cases refused

/-- The bound arguments are the given ones, converted where the prototype forces a
tag. -/
theorem converts_of_bind (binds : signature.bind args = .ok bound) :
    signature.Converts args bound := by
  obtain ⟨-, binds⟩ := bind_eq_ok_iff.mp binds
  obtain ⟨sameLength, each⟩ := bindFrom_ok binds
  refine ⟨sameLength, ?_, ?_⟩
  · intro position arg tag there forced
    obtain ⟨value, found, converted⟩ := each position arg there
    rw [Nat.zero_add] at converted
    rcases bindArg_eq_ok converted with ⟨other, otherForced, coerced⟩ | ⟨passes, -⟩
    · cases Option.some.inj (forced.1.symm.trans otherForced.1)
      exact ⟨value, found, coerced, Value.tag_of_coerce coerced⟩
    · exact absurd forced (Prototype.passes_iff.mp passes tag)
  · intro position arg there passes
    obtain ⟨value, found, converted⟩ := each position arg there
    rw [Nat.zero_add, bindArg_passes passes] at converted
    cases converted
    exact found

/-- A call that fails to bind is rejected for its number of arguments, or for the
first argument without a cast. -/
theorem rejects_of_bind
    {error : ScriptError}
    (failed : signature.bind args = .error error) :
    signature.Rejects args error := by
  rcases bind_eq_error_iff.mp failed with ⟨rejected, rfl⟩ | ⟨accepted, failed⟩
  · exact .count rejected
  · obtain ⟨index, arg, there, refused, before⟩ := bindFrom_error failed
    rw [Nat.zero_add] at refused
    obtain ⟨tag, forced, uncast, rfl⟩ := bindArg_eq_error refused
    refine .argument accepted there forced (fun value => by simp [uncast]) ?_
    rw [convertible_iff]
    intro earlier other found
    rw [List.getElem?_take] at found
    split at found
    · next less =>
      have converted := before earlier less other found
      rwa [Nat.zero_add] at converted
    · cases found

/-- Binding is elementwise conversion. It succeeds exactly when the count is
accepted and every forced argument can be converted; a success converts the
forced arguments, passes all others and is bound already; a failure names the
count, or the first argument that cannot be converted. -/
theorem bind_converts_elementwise (signature : Signature) (args : List Value) :
    ((∃ bound, signature.bind args = .ok bound) ↔
      signature.arity.accepts args.length = true ∧ signature.Convertible args) ∧
    (∀ bound, signature.bind args = .ok bound →
      signature.Converts args bound ∧ signature.bind bound = .ok bound) ∧
    (∀ error, signature.bind args = .error error → signature.Rejects args error) ∧
    (∀ position tag, signature.prototype.specAt position = .forced tag ↔
      signature.prototype.Forces position tag) ∧
    ∀ position, signature.prototype.Passes position ↔
      ∀ tag, ¬signature.prototype.Forces position tag := by
  refine ⟨?_, ?_, fun error => rejects_of_bind,
    fun position tag => Prototype.specAt_eq_forced_iff, fun position => Prototype.passes_iff⟩
  · simp only [bind_eq_ok_iff, exists_and_left, exists_bindFrom_iff]
  · intro bound binds
    have converts := converts_of_bind binds
    obtain ⟨accepted, binds⟩ := bind_eq_ok_iff.mp binds
    refine ⟨converts, bind_eq_ok_iff.mpr ⟨?_, bindFrom_bound binds⟩⟩
    rwa [converts.length_eq]

example :
    let signature : Signature :=
      { id := 0, name := "pad", prototype := ⟨[.forced .int, .hint .bool, .forced .str]⟩,
        returns := 'v', implementation := .native 3 [] }
    signature.bind [.ofText "7", .void, .int 1] = .ok [.int 7, .void, .ofText "1"] ∧
      signature.bind [.ofText "7", .void, .array .empty] =
        .error { cause := .coercion "pad" 2 { source := .array, target := .str } } :=
  ⟨by cbv, by rfl⟩

end Signature
end ScriptCore
