import ScriptCore.Proofs.Suggest.EditDistance

/-!
# The nearest candidate

A suggestion is the first of the candidates at the least distance from a name,
unless even that distance is beyond the threshold. Candidates beyond the
threshold are left out before the search, so the search among the rest has to
be compared with the least element of all candidates.
-/

namespace ScriptCore
namespace Suggest

variable {name found : String} {candidates : List String} {limit : Nat}

/-! ## The search -/

/-- A candidate with its distance from a name. -/
def measured (name candidate : String) : Nat × String :=
  (distance name candidate, candidate)

/-- The best of the candidates within a limit, with its distance. -/
def search (name : String) (candidates : List String) (limit : Nat) : Option (Nat × String) :=
  ((candidates.map (measured name)).filter fun candidate => candidate.1 ≤ limit).foldl nearer none

theorem similar?_eq_search (name : String) (candidates : List String) (limit : Nat) :
    similar? name candidates limit = (search name candidates limit).map Prod.snd := rfl

/-- One more candidate enters the search only within the limit. -/
theorem search_concat (name : String) (candidates : List String) (candidate : String)
    (limit : Nat) :
    search name (candidates ++ [candidate]) limit =
      if distance name candidate ≤ limit then
        nearer (search name candidates limit) (measured name candidate)
      else search name candidates limit := by
  by_cases within : distance name candidate ≤ limit <;> simp [search, measured, within]

/-- The search finds the first of the nearest of all candidates, if that one
is within the limit. -/
theorem search_eq_argmin (name : String) (candidates : List String) (limit : Nat) :
    search name candidates limit =
      ((candidates.argmin (distance name)).filter fun found =>
        distance name found ≤ limit).map (measured name) := by
  induction candidates using List.reverseRecOn with
  | nil => rfl
  | append_singleton candidates candidate ih =>
      rw [search_concat, ih, List.argmin_concat]
      by_cases within : distance name candidate ≤ limit
      · rw [if_pos within]
        cases candidates.argmin (distance name) with
        | none => simp [nearer, within]
        | some best =>
            -- A best one beyond the limit gives way to any candidate within it.
            by_cases bestWithin : distance name best ≤ limit
            · by_cases less : distance name candidate < distance name best <;>
                simp [nearer, measured, Option.filter, within, bestWithin, less]
            · have less : distance name candidate < distance name best := by omega
              simp [nearer, Option.filter, within, bestWithin, less]
      · rw [if_neg within]
        cases candidates.argmin (distance name) with
        | none => simp [Option.filter, within]
        | some best =>
            by_cases less : distance name candidate < distance name best
            · have bestBeyond : ¬ distance name best ≤ limit := by omega
              simp [Option.filter, within, bestBeyond, less]
            · simp [less]

/-- The suggestion is the first candidate of least distance, if it is within the
limit. -/
theorem similar?_eq_argmin (name : String) (candidates : List String) (limit : Nat) :
    similar? name candidates limit =
      (candidates.argmin (distance name)).filter fun found => distance name found ≤ limit := by
  rw [similar?_eq_search, search_eq_argmin, Option.map_map]
  exact Option.map_id'

/-! ## What is suggested -/

theorem similar?_eq_some_iff :
    similar? name candidates limit = some found ↔
      distance name found ≤ limit ∧ found ∈ candidates ∧
      (∀ candidate ∈ candidates, distance name found ≤ distance name candidate) ∧
      ∀ candidate ∈ candidates, distance name candidate ≤ distance name found →
        candidates.idxOf found ≤ candidates.idxOf candidate := by
  rw [similar?_eq_argmin, Option.filter_eq_some_iff, List.argmin_eq_some_iff, decide_eq_true_eq,
    and_comm]

/-- Nothing is suggested exactly if all candidates are past the limit. -/
theorem similar?_eq_none_iff :
    similar? name candidates limit = none ↔
      ∀ candidate ∈ candidates, limit < distance name candidate := by
  rw [similar?_eq_argmin, Option.filter_eq_none_iff]
  constructor
  · intro beyond candidate member
    obtain ⟨nearest, best⟩ := Option.ne_none_iff_exists'.mp
      (mt (List.argmin_eq_none (f := distance name)).mp (List.ne_nil_of_mem member))
    have nearestBeyond : ¬ distance name nearest ≤ limit := by simpa using beyond nearest best
    have atMost := List.le_of_mem_argmin member best
    omega
  · intro beyond nearest best
    simpa using beyond nearest (List.argmin_mem best)

/-- A hint is given exactly if there is a suggestion. -/
theorem hint_ne_empty_iff {suggestion : Option String} :
    hint suggestion ≠ "" ↔ ∃ known, suggestion = some known := by
  cases suggestion with
  | none =>
      refine ⟨fun given => absurd rfl given, ?_⟩
      rintro ⟨known, same⟩
      cases same
  | some known =>
      refine ⟨fun _ => ⟨known, rfl⟩, fun _ empty => ?_⟩
      have closing : "`?" = "" := (String.append_eq_empty_iff.mp empty).2
      exact absurd closing (by decide)

/-- The distance is the least number of edits between two texts, and a
suggestion is the earliest candidate at the least distance, given that it is
within the limit. -/
theorem distance_and_similar_are_least :
    (∀ source target, IsLeast {count | Script count source.toList target.toList}
      (distance source target)) ∧
    (∀ source target, distance source target = 0 ↔ source = target) ∧
    (∀ source target, distance source target = distance target source) ∧
    (∀ source middle target,
      distance source target ≤ distance source middle + distance middle target) ∧
    (∀ name candidates limit found, similar? name candidates limit = some found ↔
      distance name found ≤ limit ∧ found ∈ candidates ∧
      (∀ candidate ∈ candidates, distance name found ≤ distance name candidate) ∧
      ∀ candidate ∈ candidates, distance name candidate ≤ distance name found →
        candidates.idxOf found ≤ candidates.idxOf candidate) ∧
    ∀ name candidates limit, similar? name candidates limit = none ↔
      ∀ candidate ∈ candidates, limit < distance name candidate :=
  ⟨fun source target => isLeast_distanceOf source.toList target.toList,
    fun _ _ => distance_eq_zero_iff, distance_comm, distance_triangle,
    fun _ _ _ _ => similar?_eq_some_iff, fun _ _ _ => similar?_eq_none_iff⟩

/-- Three edits lead from one word to another and two do not. Of two
candidates at distance one the earlier is suggested, and none is suggested
with a limit of zero. -/
theorem kitten_is_three_edits_from_sitting :
    Script 3 "kitten".toList "sitting".toList ∧ ¬ Script 2 "kitten".toList "sitting".toList ∧
    similar? "cot" ["coat", "dog", "cat", "cut"] 2 = some "coat" ∧
    (∀ candidate ∈ ["coat", "dog", "cat", "cut"],
      distance "cot" "coat" ≤ distance "cot" candidate) ∧
    ∀ candidate ∈ ["coat", "dog", "cat", "cut"], 0 < distance "cot" candidate := by
  obtain ⟨least, -, -, -, suggested, nothing⟩ := distance_and_similar_are_least
  have three : distance "kitten" "sitting" = 3 := by decide +kernel
  have found : similar? "cot" ["coat", "dog", "cat", "cut"] 2 = some "coat" := by decide +kernel
  refine ⟨three ▸ (least _ _).1, fun script => ?_, found, ((suggested _ _ _ _).mp found).2.2.1,
    (nothing _ _ 0).mp (by decide +kernel)⟩
  have atLeast := (least "kitten" "sitting").2 script
  omega

end Suggest
end ScriptCore
