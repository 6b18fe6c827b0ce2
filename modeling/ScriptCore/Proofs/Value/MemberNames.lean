import ScriptCore.OrderedMap.Spread
import ScriptCore.Proofs.Value.Nested

/-!
# Names of unkeyed slots in JSON

An array with a key becomes a JSON object, so its unkeyed slots need names too.
A slot is named by its position, with `#` in front until the name is free. The
search ends, since only finitely many names are taken.

A name made from one position is never made from another, because the digits of
the position end it. So only the keys of the array can be in the way, whether
they stand before the slot or after it, and no member is written over.
-/

namespace ScriptCore
namespace Value

/-! ## Names with hashes -/

theorem toList_hashed (count : Nat) (name : String) :
    (hashed count name).toList = List.replicate count '#' ++ name.toList := by
  simp [hashed]

theorem hashed_zero (name : String) : hashed 0 name = name := by
  rw [← String.toList_inj, toList_hashed]
  rfl

theorem hashed_succ (count : Nat) (name : String) :
    hashed (count + 1) name = hashed count ("#" ++ name) := by
  rw [← String.toList_inj, toList_hashed, toList_hashed, String.toList_append,
    List.replicate_succ', List.append_assoc]
  rfl

/-- A decimal number has no hash in it. -/
theorem hash_not_mem_toDigits (n : Nat) : '#' ∉ Nat.toDigits 10 n := by
  intro member
  have digit := Nat.isDigit_of_mem_toDigits (by decide) (by decide) member
  revert digit
  decide

/-- A name made from a position tells the number of hashes and the position. -/
theorem hashed_position_inj
    {count other index position : Nat}
    (same : hashed count (toString index) = hashed other (toString position)) :
    count = other ∧ index = position := by
  have chars : List.replicate count '#' ++ Nat.toDigits 10 index =
      List.replicate other '#' ++ Nat.toDigits 10 position := by
    simpa [toList_hashed] using congrArg String.toList same
  have counts : count = other := by
    have total := congrArg (List.count '#') chars
    simpa [List.count_eq_zero_of_not_mem (hash_not_mem_toDigits _)] using total
  subst counts
  have digits := List.append_cancel_left chars
  rw [← Nat.toList_repr, ← Nat.toList_repr, String.toList_inj, Nat.repr_inj] at digits
  exact ⟨rfl, digits⟩

/-! ## The search for a free name -/

/-- The loop that looks for a free name: while the name is taken, put a `#` in
front of it. -/
inductive Renamed (isTaken : String → Bool) : String → String → Prop
  | done {name : String} (free : isTaken name = false) : Renamed isTaken name name
  | again {name result : String}
      (taken : isTaken name = true)
      (more : Renamed isTaken ("#" ++ name) result) :
      Renamed isTaken name result

/-- The loop ends with the first free name. -/
theorem renamed_hashed
    {isTaken : String → Bool}
    {count : Nat}
    {name : String}
    (free : isTaken (hashed count name) = false)
    (taken : ∀ fewer < count, isTaken (hashed fewer name) = true) :
    Renamed isTaken name (hashed count name) := by
  induction count generalizing name with
  | zero =>
      rw [hashed_zero] at free ⊢
      exact .done free
  | succ count ih =>
      have first := taken 0 (Nat.succ_pos count)
      rw [hashed_zero] at first
      rw [hashed_succ] at free ⊢
      refine .again first (ih free fun fewer bound => ?_)
      rw [← hashed_succ]
      exact taken (fewer + 1) (Nat.succ_lt_succ bound)

/-- The name is the given one with as few hashes in front as make it differ from
the names that are taken. -/
def IsLeastFree (taken : List String) (base name : String) : Prop :=
  ∃ count, name = hashed count base ∧ name ∉ taken ∧
    ∀ fewer < count, hashed fewer base ∈ taken

/-- Among more candidates than there are names, one is free. -/
theorem exists_free_candidate
    (taken : List String)
    {candidates : Nat}
    (enough : taken.length < candidates)
    (name : String) :
    ∃ count < candidates, hashed count name ∉ taken := by
  by_contra none
  push Not at none
  have different : ((List.range candidates).map fun count => hashed count name).Nodup := by
    refine List.nodup_range.map fun count other same => ?_
    have lengths := congrArg (fun text => text.toList.length) same
    simpa [toList_hashed] using lengths
  have inside : (List.range candidates).map (fun count => hashed count name) ⊆ taken := by
    intro hashedName member
    obtain ⟨count, bound, rfl⟩ := List.mem_map.mp member
    exact none count (List.mem_range.mp bound)
  have bound := (different.subperm inside).length_le
  rw [List.length_map, List.length_range] at bound
  omega

/-- The search for a free name finds the one with the fewest hashes, given more
candidates than taken names. -/
theorem isLeastFree_freeName
    {isTaken : String → Bool}
    {taken : List String}
    (known : ∀ name, isTaken name = true ↔ name ∈ taken)
    {candidates : Nat}
    (enough : taken.length < candidates)
    (name : String) :
    IsLeastFree taken name (freeName isTaken candidates name) := by
  unfold freeName
  split
  · next count found =>
    obtain ⟨free, -, before⟩ := List.find?_range_eq_some.mp found
    refine ⟨count, rfl, ?_, ?_⟩
    · simpa [← known] using free
    · intro fewer bound
      simpa [← known] using before fewer bound
  · next exhausted =>
    obtain ⟨count, bound, free⟩ := exists_free_candidate taken enough name
    have refuted := List.find?_range_eq_none.mp exhausted count bound
    simp only [Bool.not_not] at refuted
    exact absurd ((known _).mp refuted) free

theorem isTaken_iff (keys : List String) (members : List (String × Json)) (name : String) :
    (keys.contains name || Json.hasMember members name) = true ↔
      name ∈ keys ++ members.map Prod.fst := by
  simp [Json.hasMember]

/-- The name of an unkeyed element has the fewest hashes that make it free. -/
theorem isLeastFree_positionName
    (keys : List String)
    (members : List (String × Json))
    (index : Nat) :
    IsLeastFree (keys ++ members.map Prod.fst) (toString index)
      (positionName keys members index) :=
  isLeastFree_freeName (isTaken_iff keys members) (by simp) _

/-! ## Members -/

/-- The member that stands for an entry of an array with the given keys. -/
def MemberOf
    (keys : List String)
    (entry : Nat × Option String × Value)
    (member : String × Json) : Prop :=
  member.2 = entry.2.2.toJson ∧
    match entry.2.1 with
    | some key => member.1 = key
    | none => IsLeastFree keys (toString entry.1) member.1

/-- The members made before a position, and the slots from there on, of an array
with the given keys. -/
structure Midway
    (keys : List String)
    (index : Nat)
    (members : List (String × Json))
    (slots : List (Slot Value)) : Prop where
  known : Slot.keysOf slots ⊆ keys
  different : (members.map Prod.fst ++ Slot.keysOf slots).Nodup
  /-- A member has a key of the array or a name made from an earlier position. -/
  named : ∀ name ∈ members.map Prod.fst,
    name ∈ keys ∨ ∃ earlier < index, ∃ count, name = hashed count (toString earlier)

namespace Midway

variable {keys : List String} {index : Nat} {members : List (String × Json)}
  {slots : List (Slot Value)}

/-- The names made from earlier positions are not in the way. -/
theorem isLeastFree
    (midway : Midway keys index members slots) :
    IsLeastFree keys (toString index) (positionName keys members index) := by
  obtain ⟨count, made, free, taken⟩ := isLeastFree_positionName keys members index
  rw [List.mem_append, not_or] at free
  refine ⟨count, made, free.1, fun fewer bound => ?_⟩
  rcases List.mem_append.mp (taken fewer bound) with isKey | isMember
  · exact isKey
  · rcases midway.named _ isMember with isKey | ⟨earlier, before, hashes, same⟩
    · exact isKey
    · have position := (hashed_position_inj same).2
      omega

/-- Passing over a slot leads to the state midway at the next position. -/
theorem tail
    {slot : Slot Value}
    (midway : Midway keys index members (slot :: slots)) :
    Midway keys (index + 1) members slots := by
  have fewer : (Slot.keysOf slots).Sublist (Slot.keysOf (slot :: slots)) :=
    (List.sublist_cons_self slot slots).filterMap Slot.key?
  refine ⟨List.Subset.trans fewer.subset midway.known,
    midway.different.sublist (fewer.append_left _), ?_⟩
  intro name member
  rcases midway.named name member with isKey | ⟨earlier, before, made⟩
  · exact .inl isKey
  · exact .inr ⟨earlier, Nat.lt_succ_of_lt before, made⟩

/-- A member is added under a name that neither a member nor a later slot has. -/
theorem push
    {slot : Slot Value}
    {name : String}
    (midway : Midway keys index members (slot :: slots))
    (absent : name ∉ members.map Prod.fst ++ Slot.keysOf slots)
    (origin : name ∈ keys ∨ ∃ count, name = hashed count (toString index))
    (json : Json) :
    Midway keys (index + 1) (members ++ [(name, json)]) slots := by
  obtain ⟨known, different, named⟩ := midway.tail
  refine ⟨known, ?_, ?_⟩
  · rw [List.map_append, List.map_singleton, List.append_assoc, List.singleton_append,
      List.nodup_middle, List.nodup_cons]
    exact ⟨absent, different⟩
  · intro other member
    rw [List.map_append, List.mem_append, List.map_singleton, List.mem_singleton] at member
    rcases member with before | rfl
    · exact named other before
    · exact origin.imp_right fun made => ⟨index, Nat.lt_succ_self index, made⟩

/-- From any position on, every occupied slot adds its member at the end. -/
theorem exists_members (midway : Midway keys index members slots) :
    ∃ more, jsonMembers keys index members slots = members ++ more ∧
      ((members ++ more).map Prod.fst).Nodup ∧
      List.Forall₂ (MemberOf keys) (SlotList.entriesFrom index slots) more := by
  induction slots generalizing index members with
  | nil =>
      refine ⟨[], (List.append_nil members).symm, ?_, .nil⟩
      simpa [Slot.keysOf] using midway.different
  | cons slot slots ih =>
      cases slot with
      | vacant => exact ih midway.tail
      | item value =>
          have least := midway.isLeastFree
          obtain ⟨-, -, free, -⟩ := isLeastFree_positionName keys members index
          rw [List.mem_append, not_or] at free
          have absent : positionName keys members index ∉
              members.map Prod.fst ++ Slot.keysOf slots := by
            rw [List.mem_append, not_or]
            exact ⟨free.2, fun later => free.1 (midway.tail.known later)⟩
          have made : ∃ count, positionName keys members index = hashed count (toString index) :=
            least.imp fun _ named => named.1
          obtain ⟨more, members_eq, different, matched⟩ :=
            ih (midway.push absent (.inr made) value.toJson)
          refine ⟨(positionName keys members index, value.toJson) :: more, ?_, ?_,
            .cons ⟨rfl, least⟩ matched⟩
          · rw [jsonMembers, Json.insertMember_of_absent free.2, members_eq, List.append_assoc]
            rfl
          · simpa using different
      | entry key value =>
          have present : key ∈ keys := midway.known (by simp [Slot.keysOf])
          have absent : key ∉ members.map Prod.fst ++ Slot.keysOf slots := by
            have different := midway.different
            rw [Slot.keysOf, List.filterMap_cons_some (Slot.key?_entry key value),
              List.nodup_middle, List.nodup_cons] at different
            exact different.1
          have new : key ∉ members.map Prod.fst := fun member =>
            absent (List.mem_append_left _ member)
          obtain ⟨more, members_eq, different, matched⟩ :=
            ih (midway.push absent (.inl present) value.toJson)
          refine ⟨(key, value.toJson) :: more, ?_, ?_, .cons ⟨rfl, rfl⟩ matched⟩
          · rw [jsonMembers, Json.insertMember_of_absent new, members_eq, List.append_assoc]
            rfl
          · simpa using different

end Midway

end Value

/-! ## Coherent containers -/

variable {α : Type}

/-- There is an entry for every occupied slot. -/
theorem SlotList.length_entriesFrom (position : Nat) (slots : List (Slot α)) :
    (entriesFrom position slots).length = slots.countP fun slot => !slot.isVacant := by
  induction slots generalizing position with
  | nil => rfl
  | cons slot slots ih =>
      cases slot <;> simp [entriesFrom, ih]

namespace OrderedMap

variable [KeyHash] {map : OrderedMap α}

theorem Coherent.length_entries (coherent : map.Coherent) :
    map.entries.length = map.liveCount := by
  rw [coherent.liveCount_eq, entries_eq_entriesFrom, SlotList.length_entriesFrom]

end OrderedMap

namespace Value

/-- The JSON form of a container with a key has a member for every occupied
slot, in order and under different names. A keyed slot has its own key; an
unkeyed one has its position, with the least number of hashes in front that is
no key of the container. The loop that looks for such a name always ends,
whatever members have been made. -/
theorem toJson_keeps_every_element
    [KeyHash]
    {items : OrderedMap Value}
    (coherent : items.Coherent)
    (keyed : items.keys ≠ []) :
    ∃ members, (array items).toJson = .object members ∧
      members.length = items.liveCount ∧
      (members.map Prod.fst).Nodup ∧
      List.Forall₂ (MemberOf items.keys) items.entries members ∧
      ∀ (made : List (String × Json)) (index : Nat),
        Renamed (fun name => items.contains name || Json.hasMember made name) (toString index)
          (positionName items.keys made index) := by
  have start : Midway items.keys 0 [] items.toList :=
    ⟨List.Subset.refl _, coherent.keys_nodup, by simp⟩
  obtain ⟨members, members_eq, different, matched⟩ := start.exists_members
  rw [List.nil_append] at members_eq different
  rw [← OrderedMap.entries_eq_entriesFrom] at matched
  refine ⟨members, ?_, ?_, different, matched, ?_⟩
  · rw [toJson_array, if_neg (by simpa using keyed), members_eq]
  · rw [← matched.length_eq, coherent.length_entries]
  · intro made index
    obtain ⟨count, name, free, taken⟩ := isLeastFree_positionName items.keys made index
    have isTaken (name : String) : (items.contains name || Json.hasMember made name) = true ↔
        name ∈ items.keys ++ made.map Prod.fst := by
      rw [← isTaken_iff, Bool.or_eq_true, Bool.or_eq_true, coherent.contains_iff]
      simp
    rw [name] at free ⊢
    exact renamed_hashed (by simpa only [← isTaken, Bool.not_eq_true] using free)
      fun fewer bound => (isTaken _).mpr (taken fewer bound)

/-- Keys that look like positions, before and after the slots in question, and a
vacant slot. -/
def clashingSample : OrderedMap Value :=
  ((((((OrderedMap.ofPairs [("2", void), ("#2", void)]).append (int 0)).append (int 1)).append
    (int 4)).insert "4" (bool false)).insert "##4" (ofText "#")).deleteAt 3

/-- Unkeyed elements between keys that look like their positions, with and without
hashes. -/
theorem clashingSample_keeps_every_element :
    (clashingSample.Coherent ∧ clashingSample.keys ≠ []) ∧
      (∃ members, (array clashingSample).toJson = .object members ∧
        members.length = clashingSample.liveCount ∧
        (members.map Prod.fst).Nodup ∧
        List.Forall₂ (MemberOf clashingSample.keys) clashingSample.entries members ∧
        ∀ (made : List (String × Json)) (index : Nat),
          Renamed (fun name => clashingSample.contains name || Json.hasMember made name)
            (toString index) (positionName clashingSample.keys made index)) ∧
      (array clashingSample).jsonText =
        "\x7b\"2\":null,\"#2\":null,\"##2\":0,\"#4\":4,\"4\":false,\"##4\":\"#\"\x7d" := by
  have coherent : clashingSample.Coherent :=
    ((((((OrderedMap.coherent_ofPairs _).append _).append _).append _).insert _ _).insert _
      _).deleteAt 3
  have keyed : clashingSample.keys ≠ [] := by decide +kernel
  exact ⟨⟨coherent, keyed⟩, toJson_keeps_every_element coherent keyed, by decide +kernel⟩

end Value
end ScriptCore
