import ScriptCore.Library.Natives
import ScriptCore.Proofs.Engine.Entries
import ScriptCore.Proofs.OrderedMap.Compaction

/-!
# Visits of higher-order functions

A higher-order function calls its callable once for each live element, in order.
The calls are listed here with the engines they were made on: each call gets the
engine that the one before left, and the visit ends with the elements or with the
first call that fails or whose result ends it. What the function returns depends
on the results of these calls alone.

Mapping and filtering come down to the answers for all elements, and the two
functions that split an array at the first element refused come down to the
number of elements before it.
-/

namespace ScriptCore

open Engine

/-! ## Live slots -/

namespace SlotList

variable {α : Type}

/-- The entries are the occupied slots, in order. -/
theorem map_ofEntry_entriesFrom (position : Nat) (slots : List (Slot α)) :
    (entriesFrom position slots).map (fun entry => Slot.ofEntry entry.2.1 entry.2.2) =
      slots.filter fun slot => !slot.isVacant := by
  induction slots generalizing position with
  | nil => rfl
  | cons slot slots ih =>
      have later := ih (position + 1)
      cases slot with
      | vacant => exact later
      | item value => exact congrArg (.item value :: ·) later
      | entry key value => exact congrArg (.entry key value :: ·) later

/-- The entries hold the values, in order. -/
theorem map_value_entriesFrom (position : Nat) (slots : List (Slot α)) :
    (entriesFrom position slots).map (fun entry => entry.2.2) = slots.filterMap Slot.value? := by
  induction slots generalizing position with
  | nil => rfl
  | cons slot slots ih =>
      cases slot <;> simp [entriesFrom, List.filterMap_cons, ih]

end SlotList

namespace Iteration

/-- The slot of an entry. -/
def toSlot (entry : Option String × Value) : Slot Value :=
  .ofEntry entry.1 entry.2

theorem map_toSlot_entriesOf (items : OrderedMap Value) :
    (entriesOf items).map toSlot = items.liveSlots := by
  rw [entriesOf, List.map_map, OrderedMap.entries_eq_entriesFrom]
  exact SlotList.map_ofEntry_entriesFrom 0 items.toList

theorem map_snd_entriesOf (items : OrderedMap Value) :
    (entriesOf items).map Prod.snd = items.values := by
  rw [entriesOf, List.map_map, OrderedMap.entries_eq_entriesFrom]
  exact SlotList.map_value_entriesFrom 0 items.toList

/-! ## Visits -/

/-- One call of a callable: its arguments, the engine it was made on, how it ended
and the engine it left. -/
structure Visit (α : Type) where
  args : α
  before : Engine
  outcome : Except Failure Value
  after : Engine

/-- Calls of a callable on elements in order, from the first one on, each on the
engine that the call before it left. They end with the elements, or with the first
call that fails or whose result ends the visit. -/
inductive Visits (call : Value → Run Value) (ends : Value → Prop) :
    List Value → Engine → List (Visit Value) → Engine → Prop where
  | nil (engine : Engine) : Visits call ends [] engine [] engine
  | last {element : Value} {engine after : Engine} {outcome : Except Failure Value}
      (unvisited : List Value)
      (made : call element engine = (outcome, after))
      (ended : ∀ result, outcome = .ok result → ends result) :
      Visits call ends (element :: unvisited) engine [⟨element, engine, outcome, after⟩] after
  | next {element result : Value} {engine middle final : Engine} {elements : List Value}
      {visits : List (Visit Value)}
      (made : call element engine = (.ok result, middle))
      (goesOn : ¬ ends result)
      (later : Visits call ends elements middle visits final) :
      Visits call ends (element :: elements) engine
        (⟨element, engine, .ok result, middle⟩ :: visits) final

/-- The last call of a visit fails, or its result is refused. -/
def FailsWith
    {γ : Type}
    (judge : Value → Except Failure γ)
    (visits : List (Visit Value))
    (failure : Failure) : Prop :=
  ∃ visit, visits.getLast? = some visit ∧ visit.outcome.bind judge = .error failure

/-- A later failure is still the first one after a visit that did not fail. -/
theorem FailsWith.cons
    {γ : Type}
    {judge : Value → Except Failure γ}
    {visits : List (Visit Value)}
    {failure : Failure}
    (fails : FailsWith judge visits failure)
    (first : Visit Value) :
    FailsWith judge (first :: visits) failure := by
  obtain ⟨visit, last, refused⟩ := fails
  refine ⟨visit, ?_, refused⟩
  rw [List.getLast?_cons, last, Option.getD_some]

/-! ## Answers for all elements -/

section Answers

variable {γ : Type}

/-- A call whose result is judged. -/
def judged (judge : Value → Except Failure γ) (call : Value → Run Value) (element : Value) :
    Run γ :=
  fun engine => ((call element engine).1.bind judge, (call element engine).2)

theorem judged_ok (call : Value → Run Value) : judged .ok call = call := by
  funext element engine
  rw [judged]
  rcases call element engine with ⟨outcome, after⟩
  cases outcome <;> rfl

/-- A judged call fails or is refused, or its result has an answer. -/
theorem judged_cases
    (judge : Value → Except Failure γ)
    (call : Value → Run Value)
    (element : Value)
    (engine : Engine) :
    (∃ outcome after failure, call element engine = (outcome, after) ∧
        outcome.bind judge = .error failure ∧
        judged judge call element engine = (.error failure, after)) ∨
      ∃ result after answer, call element engine = (.ok result, after) ∧
        judge result = .ok answer ∧ judged judge call element engine = (.ok answer, after) := by
  rcases made : call element engine with ⟨outcome, after⟩
  have ran : judged judge call element engine = (outcome.bind judge, after) := by
    rw [judged, made]
  cases outcome with
  | error failure => exact .inl ⟨_, after, failure, rfl, rfl, ran⟩
  | ok result =>
      change _ = (judge result, after) at ran
      cases judgement : judge result with
      | error failure =>
          rw [judgement] at ran
          exact .inl ⟨_, after, failure, rfl, judgement, ran⟩
      | ok answer =>
          rw [judgement] at ran
          exact .inr ⟨result, after, answer, rfl, judgement, ran⟩

/-- Answers for all elements: every element is visited, unless a call fails or its
result is refused. -/
theorem exists_visits_mapM
    (judge : Value → Except Failure γ)
    (call : Value → Run Value)
    (elements : List Value)
    (engine : Engine) :
    ∃ visits, Visits call (fun result => ∃ failure, judge result = .error failure) elements engine
        visits (elements.mapM (judged judge call) engine).2 ∧
      match (elements.mapM (judged judge call) engine).1 with
      | .error failure => FailsWith judge visits failure
      | .ok answers => visits.map Visit.args = elements ∧
          visits.map (fun visit => visit.outcome.bind judge) = answers.map .ok := by
  induction elements generalizing engine with
  | nil => exact ⟨[], .nil engine, rfl, rfl⟩
  | cons element elements ih =>
      rw [List.mapM_cons]
      rcases judged_cases judge call element engine with
        ⟨outcome, after, failure, made, refused, ran⟩ | ⟨result, after, answer, made, answered, ran⟩
      · -- The visit ends here: the call failed, or its result is refused.
        rw [Run.bind_error ran]
        refine ⟨_, .last elements made ?_, _, rfl, refused⟩
        rintro result rfl
        exact ⟨failure, refused⟩
      · have goesOn : ¬ ∃ failure, judge result = .error failure := by
          rintro ⟨failure, refused⟩
          cases refused.symm.trans answered
        obtain ⟨visits, later, ended⟩ := ih after
        rw [Run.bind_ok ran, Run.bind_pure_eq]
        refine ⟨_, .next made goesOn later, ?_⟩
        cases rest : (elements.mapM (judged judge call) after).1 with
        | error failure =>
            rw [rest] at ended
            exact ended.cons _
        | ok answers =>
            rw [rest] at ended
            refine ⟨congrArg (element :: ·) ended.1, ?_⟩
            rw [List.map_cons, ended.2]
            exact congrArg (· :: _) answered

theorem map_eq (call : Value → Run Value) (entries : Entries) :
    map call entries = (do
      let results ← (entries.map Prod.snd).mapM call
      return (entries.map Prod.fst).zip results) := by
  induction entries with
  | nil => simp [map]
  | cons entry entries ih => simp [map, ih]

theorem filter_eq (test : Value → Run Bool) (entries : Entries) :
    filter test entries = (do
      let answers ← (entries.map Prod.snd).mapM test
      return ((entries.zip answers).filter Prod.snd).map Prod.fst) := by
  induction entries with
  | nil => simp [filter]
  | cons entry entries ih =>
      simp [filter, ih, List.filter_cons, apply_ite (List.map Prod.fst)]

end Answers

/-! ## Answers up to the first refusal -/

section Splitting

/-- The truth value of a predicate's result. -/
def verdict (result : Value) : Except Failure Bool :=
  match result.coerce .bool with
  | .ok converted => .ok converted.isTruthy
  | .error cast => .error (.error { cause := .coercion "predicate result" 0 cast })

/-- A predicate is a call and a verdict on its result. -/
theorem test_eq_judged (call : Value → Run Value) : test call = judged verdict call := by
  funext element engine
  rcases made : call element engine with ⟨outcome, after⟩
  cases outcome with
  | error failure => rw [test, Run.bind_error made, judged, made]; rfl
  | ok result =>
      rw [test, Run.bind_ok made, judged, made, Except.bind, verdict]
      cases result.coerce .bool <;> rfl

/-- The number of elements before the first one that fails a test. -/
def leading (test : Value → Run Bool) : List Value → Run Nat
  | [] => return 0
  | element :: elements => do
      if ← test element then
        let count ← leading test elements
        return count + 1
      else return 0

/-- Taking elements counts the leading ones and takes as many entries. -/
theorem takeWhile_eq (test : Value → Run Bool) (entries : Entries) :
    takeWhile test entries = (do
      let count ← leading test (entries.map Prod.snd)
      return entries.take count) := by
  induction entries with
  | nil => simp [takeWhile, leading]
  | cons entry entries ih =>
      simp only [takeWhile, leading, List.map_cons, ih, bind_assoc]
      refine bind_congr fun accepted => ?_
      cases accepted <;> simp

theorem dropWhile_eq (test : Value → Run Bool) (entries : Entries) :
    dropWhile test entries = (do
      let count ← leading test (entries.map Prod.snd)
      return entries.drop count) := by
  induction entries with
  | nil => simp [dropWhile, leading]
  | cons entry entries ih =>
      simp only [dropWhile, leading, List.map_cons, ih, bind_assoc]
      refine bind_congr fun accepted => ?_
      cases accepted <;> simp

/-- A visit that accepts a number of elements and ends with the elements or with
the first one refused, after which there is no call. -/
structure StopsAfter (count : Nat) (elements : List Value) (visits : List (Visit Value)) :
    Prop where
  count_le : count ≤ elements.length
  args_eq : visits.map Visit.args = elements.take (count + 1)
  answers_eq : visits.map (fun visit => visit.outcome.bind verdict) =
    List.replicate count (.ok true) ++ if count < elements.length then [.ok false] else []

/-- An accepted element in front makes one more that is counted. -/
theorem StopsAfter.cons
    {count : Nat}
    {elements : List Value}
    {visits : List (Visit Value)}
    (stops : StopsAfter count elements visits)
    (first : Visit Value)
    (accepted : first.outcome.bind verdict = .ok true) :
    StopsAfter (count + 1) (first.args :: elements) (first :: visits) where
  count_le := Nat.succ_le_succ stops.count_le
  args_eq := congrArg (first.args :: ·) stops.args_eq
  answers_eq := by
    rw [List.map_cons, accepted, stops.answers_eq, List.replicate_succ, List.length_cons,
      List.cons_append]
    simp only [Nat.succ_lt_succ_iff]

/-- Counting the leading elements visits them in order, up to the first that is
refused or fails. -/
theorem exists_visits_leading
    (call : Value → Run Value)
    (elements : List Value)
    (engine : Engine) :
    ∃ visits, Visits call (fun result => verdict result ≠ .ok true) elements engine visits
        (leading (test call) elements engine).2 ∧
      match (leading (test call) elements engine).1 with
      | .error failure => FailsWith verdict visits failure
      | .ok count => StopsAfter count elements visits := by
  rw [test_eq_judged]
  induction elements generalizing engine with
  | nil => exact ⟨[], .nil engine, Nat.le_refl 0, rfl, rfl⟩
  | cons element elements ih =>
      rw [leading]
      rcases judged_cases verdict call element engine with
        ⟨outcome, after, failure, made, refused, ran⟩ | ⟨result, after, answer, made, answered, ran⟩
      · rw [Run.bind_error ran]
        refine ⟨_, .last elements made ?_, _, rfl, refused⟩
        rintro result rfl accepted
        cases accepted.symm.trans refused
      · rw [Run.bind_ok ran]
        cases answer with
        | false =>
            -- The first element refused is the last one visited.
            refine ⟨_, .last elements made ?_, Nat.zero_le _, rfl, congrArg (· :: []) answered⟩
            rintro _ ⟨⟩ accepted
            cases accepted.symm.trans answered
        | true =>
            obtain ⟨visits, later, ended⟩ := ih after
            rw [if_pos rfl, Run.bind_pure_eq]
            refine ⟨_, .next made (not_not.mpr answered) later, ?_⟩
            cases rest : (leading (judged verdict call) elements after).1 with
            | error failure =>
                rw [rest] at ended
                exact ended.cons _
            | ok count =>
                rw [rest] at ended
                exact ended.cons ⟨element, engine, .ok result, after⟩ answered

/-- A test whose answers do not depend on the engine, among engines that it does not
leave. -/
structure Steady
    (test : Value → Run Bool)
    (steady : Engine → Prop)
    (answer : Value → Except Failure Bool) : Prop where
  answers : ∀ element engine, steady engine → (test element engine).1 = answer element
  stays : ∀ element engine, steady engine → steady (test element engine).2

/-- A steady test accepts as many elements on one engine as on another. -/
theorem Steady.leading_eq
    {test : Value → Run Bool}
    {steady : Engine → Prop}
    {answer : Value → Except Failure Bool}
    (independent : Steady test steady answer)
    (elements : List Value)
    {first second : Engine}
    (steadyFirst : steady first)
    (steadySecond : steady second) :
    (leading test elements first).1 = (leading test elements second).1 := by
  induction elements generalizing first second with
  | nil => rfl
  | cons element elements ih =>
      have later := ih (independent.stays element first steadyFirst)
        (independent.stays element second steadySecond)
      have answerFirst := independent.answers element first steadyFirst
      have answerSecond := independent.answers element second steadySecond
      rcases madeFirst : test element first with ⟨outcomeFirst, afterFirst⟩
      rcases madeSecond : test element second with ⟨outcomeSecond, afterSecond⟩
      rw [madeFirst] at answerFirst later
      rw [madeSecond] at answerSecond later
      rw [leading]
      cases answered : answer element with
      | error failure =>
          rw [answered] at answerFirst answerSecond
          subst answerFirst answerSecond
          rw [Run.bind_error madeFirst, Run.bind_error madeSecond]
      | ok accepted =>
          rw [answered] at answerFirst answerSecond
          subst answerFirst answerSecond
          rw [Run.bind_ok madeFirst, Run.bind_ok madeSecond]
          cases accepted with
          | false => rfl
          | true =>
              simp only [if_true, Run.bind_pure_eq, later]

end Splitting

end Iteration
end ScriptCore
