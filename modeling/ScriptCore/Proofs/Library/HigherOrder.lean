import ScriptCore.OrderedMap.Spread
import ScriptCore.Proofs.Library.Visits
import ScriptCore.Proofs.OrderedMap.Dictionaries

/-!
# Functions on arrays and callables

The results of the calls for the live elements of an array are collected into a
new one. Since no key occurs twice in the array, nothing is overwritten on the way:
the slots of the result are given by the live slots and the answers alone, keys
included, and none of them is vacant.

If the answers of a predicate do not depend on the engine, the two functions that
split an array at the first element refused split it at the same place.
-/

namespace ScriptCore

open Engine

namespace Iteration

/-! ## Containers of results -/

section Results

variable {γ : Type} {judge : Value → Except Failure γ} {call : Value → Run Value}
variable {items : OrderedMap Value} {entries : Entries} {apply : Entries → Run Entries}

variable [KeyHash]

/-- Entries are added as slots, one after the other. -/
theorem toList_foldl_insertEntry (coherent : items.Coherent) (entries : Entries) :
    (entries.foldl (fun items entry => items.insertEntry entry.1 entry.2) items).toList =
      (entries.map toSlot).foldl SlotList.add items.toList := by
  induction entries generalizing items with
  | nil => rfl
  | cons entry entries ih =>
      rw [List.foldl_cons, ih (coherent.insertEntry entry.1 entry.2),
        coherent.toList_insertEntry]
      rfl

/-- Entries with different keys are collected slot by slot. -/
theorem toList_ofEntries
    (different : (Slot.keysOf (entries.map toSlot)).Nodup) :
    (ofEntries entries).toList = entries.map toSlot := by
  refine (toList_foldl_insertEntry OrderedMap.coherent_empty entries).trans ?_
  apply SlotList.foldl_add_of_nodup different
  intro slot member
  obtain ⟨⟨key?, value⟩, -, rfl⟩ := List.mem_map.mp member
  cases key? <;> rfl

theorem coherent_ofEntries (entries : Entries) : (ofEntries entries).Coherent :=
  List.foldlRecOn entries _ OrderedMap.coherent_empty fun _ coherent entry _ =>
    coherent.insertEntry entry.1 entry.2

/-- Entries whose keys come from a container, each at most once, are collected slot
by slot. -/
theorem collected_ofEntries
    (coherent : items.Coherent)
    (fewer : (Slot.keysOf (entries.map toSlot)).Sublist items.keys) :
    (ofEntries entries).toList = entries.map toSlot ∧ (ofEntries entries).vacant = 0 := by
  have collected := toList_ofEntries (coherent.keys_nodup.sublist fewer)
  refine ⟨collected, ?_⟩
  rw [(coherent_ofEntries entries).vacant_eq, collected, Slot.vacantCount, List.countP_eq_zero]
  intro slot member
  obtain ⟨⟨key?, value⟩, -, rfl⟩ := List.mem_map.mp member
  cases key? <;> exact Bool.false_ne_true

omit [KeyHash] in
theorem keysOf_entriesOf (items : OrderedMap Value) :
    Slot.keysOf ((entriesOf items).map toSlot) = items.keys := by
  rw [map_toSlot_entriesOf, OrderedMap.keysOf_liveSlots]

/-- An array made from some entries of another has exactly their slots and none
vacant. -/
theorem collected_of_sublist
    (coherent : items.Coherent)
    {slots : List (Slot Value)}
    (shown : entries.map toSlot = slots)
    (fewer : slots.Sublist items.liveSlots) :
    (ofEntries entries).toList = slots ∧ (ofEntries entries).vacant = 0 := by
  have keys := fewer.filterMap Slot.key?
  rw [← map_toSlot_entriesOf, ← shown] at keys
  rw [← shown]
  apply collected_ofEntries coherent
  rw [← keysOf_entriesOf]
  exact keys

theorem collected_take (coherent : items.Coherent) (count : Nat) :
    (ofEntries ((entriesOf items).take count)).toList = items.liveSlots.take count ∧
      (ofEntries ((entriesOf items).take count)).vacant = 0 :=
  collected_of_sublist coherent (by rw [List.map_take, map_toSlot_entriesOf])
    (List.take_sublist count items.liveSlots)

theorem collected_drop (coherent : items.Coherent) (count : Nat) :
    (ofEntries ((entriesOf items).drop count)).toList = items.liveSlots.drop count ∧
      (ofEntries ((entriesOf items).drop count)).vacant = 0 :=
  collected_of_sublist coherent (by rw [List.map_drop, map_toSlot_entriesOf])
    (List.drop_sublist count items.liveSlots)

omit [KeyHash] in
/-- Results take the places of the values they come from. -/
theorem map_toSlot_zip (entries : Entries) (results : List Value) :
    ((entries.map Prod.fst).zip results).map toSlot =
      List.zipWith Slot.write (entries.map toSlot) results := by
  induction entries generalizing results with
  | nil => rfl
  | cons entry entries ih =>
      obtain ⟨key?, value⟩ := entry
      cases results with
      | nil => rfl
      | cons result results =>
          cases key? <;> simp [toSlot, Slot.ofEntry, Slot.write, ih]

omit [KeyHash] in
/-- Results come under keys of the array only. -/
theorem keysOf_write_sublist (slots : List (Slot Value)) (results : List Value) :
    (Slot.keysOf (List.zipWith Slot.write slots results)).Sublist (Slot.keysOf slots) := by
  induction slots generalizing results with
  | nil => exact .slnil
  | cons slot slots ih =>
      cases results with
      | nil => exact List.nil_sublist _
      | cons result results =>
          have later := ih results
          unfold Slot.keysOf at later ⊢
          rw [List.zipWith_cons_cons, List.filterMap_cons, List.filterMap_cons, Slot.key?_write]
          split
          · exact later
          · exact later.cons_cons _

/-- A container made of the answers to one call per live element: the first failure
or refused result is the outcome, and otherwise the live slots and the answers for
them make up the slots. -/
def Answered
    (judge : Value → Except Failure γ)
    (select : List (Slot Value) → List γ → List (Slot Value))
    (call : Value → Run Value)
    (items : OrderedMap Value)
    (engine : Engine)
    (ended : Except Failure (OrderedMap Value) × Engine) : Prop :=
  ∃ visits,
    Visits call (fun result => ∃ failure, judge result = .error failure) items.values engine
      visits ended.2 ∧
    match ended.1 with
    | .error failure => FailsWith judge visits failure
    | .ok made => ∃ answers, visits.map Visit.args = items.values ∧
        visits.map (fun visit => visit.outcome.bind judge) = answers.map .ok ∧
        made.toList = select items.liveSlots answers ∧ made.vacant = 0

/-- A part of a container, given by the number of live elements before the first one
refused; this is the last one for which there is a call. -/
def Parted
    (part : Nat → List (Slot Value) → List (Slot Value))
    (call : Value → Run Value)
    (items : OrderedMap Value)
    (engine : Engine)
    (ended : Except Failure (OrderedMap Value) × Engine) : Prop :=
  ∃ visits,
    Visits call (fun result => verdict result ≠ .ok true) items.values engine visits ended.2 ∧
    match ended.1 with
    | .error failure => FailsWith verdict visits failure
    | .ok made => ∃ count, StopsAfter count items.values visits ∧
        made.toList = part count items.liveSlots ∧ made.vacant = 0

/-- Keep the slots with a positive answer. -/
def accepted (slots : List (Slot Value)) (answers : List Bool) : List (Slot Value) :=
  ((slots.zip answers).filter Prod.snd).map Prod.fst

omit [KeyHash] in
/-- What a filter accepts is among the slots, in order. -/
theorem accepted_sublist (slots : List (Slot Value)) (answers : List Bool) :
    (accepted slots answers).Sublist slots := by
  induction slots generalizing answers with
  | nil => exact .slnil
  | cons slot slots ih =>
      cases answers with
      | nil => exact List.nil_sublist _
      | cons answer answers =>
          have later := ih answers
          cases answer with
          | false => exact later.cons slot
          | true => exact later.cons_cons slot

/-- The outcome of a function on entries as a container, and the engine it left. -/
def collect
    (apply : Entries → Run Entries)
    (items : OrderedMap Value)
    (engine : Engine) :
    Except Failure (OrderedMap Value) × Engine :=
  ((apply (entriesOf items) engine).1.map ofEntries, (apply (entriesOf items) engine).2)

/-- Answers for all elements, collected. -/
theorem answered_of_mapM
    {choose : Entries → List γ → Entries}
    {select : List (Slot Value) → List γ → List (Slot Value)}
    (applied : ∀ entries, apply entries = (do
      let answers ← (entries.map Prod.snd).mapM (judged judge call)
      return choose entries answers))
    (collected : ∀ answers,
      (ofEntries (choose (entriesOf items) answers)).toList = select items.liveSlots answers ∧
        (ofEntries (choose (entriesOf items) answers)).vacant = 0)
    (engine : Engine) :
    Answered judge select call items engine (collect apply items engine) := by
  obtain ⟨visits, made, ended⟩ := exists_visits_mapM judge call items.values engine
  rw [collect, applied, Run.bind_pure_eq, map_snd_entriesOf]
  refine ⟨visits, made, ?_⟩
  dsimp only
  cases outcome : (items.values.mapM (judged judge call) engine).1 with
  | error failure =>
      rw [outcome] at ended
      exact ended
  | ok answers =>
      rw [outcome] at ended
      exact ⟨answers, ended.1, ended.2, collected answers⟩

/-- A function on entries that keeps a part, given by the number of elements
accepted at first. -/
theorem collect_part
    {part : Nat → Entries → Entries}
    (applied : ∀ entries, apply entries = (do
      let count ← leading (test call) (entries.map Prod.snd)
      return part count entries))
    (items : OrderedMap Value)
    (engine : Engine) :
    collect apply items engine =
      ((leading (test call) items.values engine).1.map fun count =>
          ofEntries (part count (entriesOf items)),
        (leading (test call) items.values engine).2) := by
  rw [collect, applied, Run.bind_pure_eq, map_snd_entriesOf]
  cases (leading (test call) items.values engine).1 <;> rfl

/-- A loop that stops at the first refusal parts the live slots there. -/
theorem parted_of_leading
    {part : Nat → Entries → Entries}
    {slotPart : Nat → List (Slot Value) → List (Slot Value)}
    (applied : ∀ entries, apply entries = (do
      let count ← leading (test call) (entries.map Prod.snd)
      return part count entries))
    (collected : ∀ count,
      (ofEntries (part count (entriesOf items))).toList = slotPart count items.liveSlots ∧
        (ofEntries (part count (entriesOf items))).vacant = 0)
    (engine : Engine) :
    Parted slotPart call items engine (collect apply items engine) := by
  obtain ⟨visits, made, ended⟩ := exists_visits_leading call items.values engine
  rw [collect_part applied]
  refine ⟨visits, made, ?_⟩
  dsimp only
  cases outcome : (leading (test call) items.values engine).1 with
  | error failure =>
      rw [outcome] at ended
      exact ended
  | ok count =>
      rw [outcome] at ended
      exact ⟨count, ended, collected count⟩

theorem map_answered (coherent : items.Coherent) (call : Value → Run Value) (engine : Engine) :
    Answered .ok (List.zipWith Slot.write) call items engine (collect (map call) items engine) := by
  have applied := map_eq call
  nth_rewrite 2 [← judged_ok call] at applied
  refine answered_of_mapM applied (fun answers => ?_) engine
  -- Results keep the keys of their elements, so that no key occurs twice.
  rw [← map_toSlot_entriesOf, ← map_toSlot_zip]
  apply collected_ofEntries coherent
  rw [map_toSlot_zip, ← keysOf_entriesOf]
  exact keysOf_write_sublist _ answers

/-- As many slots as live elements. -/
theorem Answered.size_eq
    (coherent : items.Coherent)
    {engine : Engine}
    {ended : Except Failure (OrderedMap Value) × Engine}
    (answered : Answered .ok (List.zipWith Slot.write) call items engine ended)
    {mapped : OrderedMap Value}
    (succeeded : ended.1 = .ok mapped) :
    mapped.size = items.liveCount := by
  obtain ⟨visits, -, made⟩ := answered
  rw [succeeded] at made
  obtain ⟨answers, args, outcomes, slots, -⟩ := made
  have asMany : answers.length = items.values.length := by
    have args := congrArg List.length args
    have outcomes := congrArg List.length outcomes
    simp only [List.length_map] at args outcomes
    rw [← outcomes, args]
  rw [OrderedMap.size_eq_length, slots, List.length_zipWith, asMany, ← map_snd_entriesOf,
    ← coherent.length_liveSlots, ← map_toSlot_entriesOf, List.length_map, List.length_map,
    Nat.min_self]

theorem filter_answered (coherent : items.Coherent) (call : Value → Run Value) (engine : Engine) :
    Answered verdict accepted call items engine (collect (filter (test call)) items engine) := by
  rw [test_eq_judged]
  refine answered_of_mapM (filter_eq (judged verdict call)) (fun answers => ?_) engine
  refine collected_of_sublist coherent ?_ (accepted_sublist items.liveSlots answers)
  rw [← map_toSlot_entriesOf, accepted]
  simp only [List.zip_map_left, List.filter_map, List.map_map]
  rfl

theorem takeWhile_parted (coherent : items.Coherent) (call : Value → Run Value) (engine : Engine) :
    Parted List.take call items engine (collect (takeWhile (test call)) items engine) :=
  parted_of_leading (takeWhile_eq (test call)) (collected_take coherent) engine

theorem dropWhile_parted (coherent : items.Coherent) (call : Value → Run Value) (engine : Engine) :
    Parted List.drop call items engine (collect (dropWhile (test call)) items engine) :=
  parted_of_leading (dropWhile_eq (test call)) (collected_drop coherent) engine

/-- Two outcomes that are the same failure, or containers whose slots together are the
live slots of another container. -/
def MakeUp (items : OrderedMap Value) :
    Except Failure (OrderedMap Value) → Except Failure (OrderedMap Value) → Prop
  | .ok first, .ok second => first.toList ++ second.toList = items.liveSlots
  | .error first, .error second => first = second
  | _, _ => False

/-- For a predicate that answers steadily, what is taken and what is dropped make
up the array. -/
theorem Steady.makeUp
    {steady : Engine → Prop}
    {answer : Value → Except Failure Bool}
    (independent : Steady (test call) steady answer)
    (coherent : items.Coherent)
    {first second : Engine}
    (steadyFirst : steady first)
    (steadySecond : steady second) :
    MakeUp items (collect (takeWhile (test call)) items first).1
      (collect (dropWhile (test call)) items second).1 := by
  have same := independent.leading_eq items.values steadyFirst steadySecond
  rw [collect_part (takeWhile_eq (test call)), collect_part (dropWhile_eq (test call)), same]
  cases (leading (test call) items.values second).1 with
  | error failure => rfl
  | ok count =>
      change (ofEntries _).toList ++ (ofEntries _).toList = _
      rw [(collected_take coherent count).1, (collected_drop coherent count).1,
        List.take_append_drop]

end Results

end Iteration

/-! ## Natives -/

namespace Library

open Iteration

variable {dispatch : Dispatcher}

section

variable [KeyHash]

/-- Call a callable on one element. -/
def calling (dispatch : Dispatcher) (callee element : Value) : Run Value :=
  callValue dispatch callee [element]

/-- The engine on which a function on a callable and an array starts. -/
def given (callee : Value) (items : OrderedMap Value) (surplus : List Value) (engine : Engine) :
    Engine :=
  { engine with slots := callee :: .array items :: surplus }

/-- A native ends with a container as its result, or with a failure, and the outcome
and the engine it leaves are as described. -/
def Delivers
    (dispatch : Dispatcher)
    (function : LibraryFunction)
    (start : Engine)
    (described : Except Failure (OrderedMap Value) × Engine → Prop) : Prop :=
  ∃ ended, exec dispatch function start = (ended.1.map .array, ended.2) ∧ described ended

/-- A native that transforms an array delivers what its loop gives. -/
theorem delivers_of_transform
    {function : LibraryFunction}
    (apply : (Value → Run Value) → Entries → Run Entries)
    {callee : Value}
    {items : OrderedMap Value}
    {surplus : List Value}
    {engine : Engine}
    {described : Except Failure (OrderedMap Value) × Engine → Prop}
    (runs : exec dispatch function = transform .fallBack dispatch apply)
    (holds : described (collect (apply (calling dispatch callee)) items
      (given callee items surplus engine))) :
    Delivers dispatch function (given callee items surplus engine) described := by
  refine ⟨_, ?_, holds⟩
  rw [runs]
  change (apply (calling dispatch callee) (entriesOf items) >>= fun results =>
    pure (Value.array (ofEntries results))) (given callee items surplus engine) = _
  rw [Run.bind_pure_eq, collect]
  dsimp only
  cases (apply (calling dispatch callee) (entriesOf items)
    (given callee items surplus engine)).1 <;> rfl

/-- Mapping an array calls the callable once for each live element, in order, on the
engine that the call before left; the first failure is the outcome, and otherwise
the live slots with the results in place of their values are the result. Filtering
keeps the live slots whose answer is true. The two functions that split an array
end with the first element refused and make no call after it; if the answers do not
depend on the engine, the two parts are the live slots. -/
theorem higher_order_functions_visit_live_elements
    (dispatch : Dispatcher)
    (callee : Value)
    (history : History Value)
    (surplus : List Value) :
    let items := history.build
    let call := calling dispatch callee
    let start := given callee items surplus
    (∀ engine,
      Delivers dispatch .map (start engine) (fun ended =>
        Answered .ok (List.zipWith Slot.write) call items (start engine) ended ∧
          ∀ mapped, ended.1 = .ok mapped → mapped.size = items.liveCount) ∧
      Delivers dispatch .filter (start engine)
        (Answered verdict accepted call items (start engine)) ∧
      Delivers dispatch .takeWhile (start engine)
        (Parted List.take call items (start engine)) ∧
      Delivers dispatch .dropWhile (start engine)
        (Parted List.drop call items (start engine))) ∧
    ∀ steady answer, Steady (test call) steady answer →
      ∀ first second, steady (start first) → steady (start second) →
        Delivers dispatch .takeWhile (start first) fun taken =>
          Delivers dispatch .dropWhile (start second) fun dropped =>
            MakeUp items taken.1 dropped.1 := by
  intro items call start
  have coherent : items.Coherent := history.coherent_build
  refine ⟨fun engine => ⟨?_, ?_, ?_, ?_⟩, fun steady answer independent first second => ?_⟩
  · have answered := map_answered coherent call (start engine)
    exact delivers_of_transform Iteration.map rfl
      ⟨answered, fun mapped => answered.size_eq coherent⟩
  · exact delivers_of_transform (fun call => filter (test call)) rfl
      (filter_answered coherent call (start engine))
  · exact delivers_of_transform (fun call => takeWhile (test call)) rfl
      (takeWhile_parted coherent call (start engine))
  · exact delivers_of_transform (fun call => dropWhile (test call)) rfl
      (dropWhile_parted coherent call (start engine))
  · intro steadyFirst steadySecond
    exact delivers_of_transform (fun call => takeWhile (test call)) rfl
      (delivers_of_transform (fun call => dropWhile (test call)) rfl
        (independent.makeUp coherent steadyFirst steadySecond))

end

/-- A native that returns its argument. -/
def sampleIdentity : Signature :=
  ⟨0, "id", ⟨[.any]⟩, '?', .native 1 [.action (.value (.slot 0))]⟩

/-- With room for a call, the sample gives its argument back and changes
nothing. -/
theorem calling_sampleIdentity
    {engine : Engine}
    (room : engine.callDepth < engine.maxCallDepth)
    (frames : Nat)
    (element : Value) :
    calling (Engine.dispatch (frames + 1)) (.function (.ofSignature sampleIdentity)) element
      engine = (.ok element, engine) := by
  let call : Call := ⟨sampleIdentity, [element], none⟩
  have entered : call.entry engine.opened = .ok { engine.opened with slots := [element] } := rfl
  obtain ⟨left, ended⟩ := framed_of_ok entered (call.body (Engine.dispatch frames))
  have ran : Engine.dispatch (frames + 1) call engine =
      ({ outcome := .ok element, receiver? := left }, engine) := by
    have body : call.body (Engine.dispatch frames) { engine.opened with slots := [element] } =
        (.ok element, { engine.opened with slots := [element] }) := rfl
    rw [dispatch_framed room, ended, body]
    exact congrArg (Prod.mk _) (restore_opened engine)
  change ((Engine.dispatch (frames + 1) call engine).1.outcome,
    (Engine.dispatch (frames + 1) call engine).2) = _
  rw [ran]

theorem steady_sampleIdentity (frames : Nat) :
    Steady (test (calling (Engine.dispatch (frames + 1)) (.function (.ofSignature sampleIdentity))))
      (fun engine => engine.callDepth < engine.maxCallDepth) verdict := by
  rw [test_eq_judged]
  constructor
  · intro element engine room
    rw [judged, calling_sampleIdentity room]
    rfl
  · intro element engine room
    rw [judged, calling_sampleIdentity room]
    exact room

/-- Keyed and unkeyed elements with a vacant slot between them; the third element
is not true. -/
def sampleElements : History Value :=
  (((((History.empty.insert "a" (.int 5)).append .void).append (.bool true)).insert "b"
    (.int 0)).append (.ofText "x")).deleteAt 1

/-- Elements taken and dropped by a steady predicate, with keys and a vacant slot
among them. -/
theorem sampleElements_split :
    let call := calling (Engine.dispatch 1) (.function (.ofSignature sampleIdentity))
    let start := given (.function (.ofSignature sampleIdentity)) sampleElements.build []
      (Engine.new {} .bare)
    sampleElements.build.liveSlots =
        [.entry "a" (.int 5), .item (.bool true), .entry "b" (.int 0), .item (.ofText "x")] ∧
      Steady (test call) (fun engine => engine.callDepth < engine.maxCallDepth) verdict ∧
      start.callDepth < start.maxCallDepth ∧
      Delivers (Engine.dispatch 1) .takeWhile start fun taken =>
        Delivers (Engine.dispatch 1) .dropWhile start fun dropped =>
          MakeUp sampleElements.build taken.1 dropped.1 :=
  ⟨rfl, steady_sampleIdentity 0, by decide,
    (higher_order_functions_visit_live_elements (Engine.dispatch 1)
      (.function (.ofSignature sampleIdentity)) sampleElements []).2 _ _
      (steady_sampleIdentity 0) _ _ (by decide) (by decide)⟩

end Library
end ScriptCore
