import ScriptCore.OrderedMap.Spread
import ScriptCore.Proofs.Engine.Parameters
import ScriptCore.Proofs.OrderedMap.Dictionaries
import ScriptCore.Proofs.Scope.Reachable
import ScriptCore.Proofs.Suggest.Nearest

/-!
# Visible names

The visible names of a stack are the names that can be looked up, each listed once.
A name that several scopes bind counts for the innermost of them. The names of inner
scopes come before those of outer ones, and the names of one scope are in the order
of its slots.

A name that is not bound is taken for a misspelling of a visible one. So the hint
that a failed look-up gives names one that would have succeeded, with the fewest
edits, and of several such names the first in this order.
-/

namespace ScriptCore

theorem eraseDups_of_nodup {names : List String} (different : names.Nodup) :
    names.eraseDups = names := by
  induction names with
  | nil => rfl
  | cons name names ih =>
      rw [List.nodup_cons] at different
      have others : names.filter (fun other => !other == name) = names := by
        refine List.filter_eq_self.mpr fun other member => ?_
        simpa using ne_of_mem_of_not_mem member different.1
      rw [List.eraseDups_cons, others, ih different.2]

namespace ScopeStack

variable {stack : ScopeStack} {name known : String}

/-! ## Places of names -/

/-- A name stands in a slot of a scope, and no scope above has the name. -/
structure StandsAt (stack : ScopeStack) (name : String) (index position : Nat) : Prop where
  here : ∃ scope, stack.scopeAt? index = some scope ∧ scope.keyAt? position = some name
  above : ∀ other scope, index < other → stack.scopeAt? other = some scope → name ∉ scope.keys

/-- The innermost scope of the one name is above that of the other, or it is the same
scope and the slot of the one name is before that of the other. -/
def Precedes (stack : ScopeStack) (first second : String) : Prop :=
  ∃ firstIndex firstPosition secondIndex secondPosition,
    stack.StandsAt first firstIndex firstPosition ∧
    stack.StandsAt second secondIndex secondPosition ∧
    (secondIndex < firstIndex ∨ secondIndex = firstIndex ∧ firstPosition < secondPosition)

section

variable [KeyHash]

namespace Coherent

/-- A name stands in one place. -/
theorem standsAt_unique
    (coherent : stack.Coherent)
    {index position other place : Nat}
    (stands : stack.StandsAt name index position)
    (same : stack.StandsAt name other place) :
    index = other ∧ position = place := by
  obtain ⟨scope, found, there⟩ := stands.here
  obtain ⟨otherScope, otherFound, otherThere⟩ := same.here
  rcases Nat.lt_trichotomy index other with before | rfl | after
  · exact absurd (OrderedMap.mem_keys_iff_keyAt?.mpr ⟨place, otherThere⟩)
      (stands.above other otherScope before otherFound)
  · rw [found, Option.some.injEq] at otherFound
    subst otherFound
    obtain ⟨slot, atPosition, keyed⟩ := OrderedMap.keyAt?_eq_some_iff.mp there
    obtain ⟨otherSlot, atPlace, otherKeyed⟩ := OrderedMap.keyAt?_eq_some_iff.mp otherThere
    exact ⟨rfl, Slot.position_unique (coherent index scope found).keys_nodup atPosition atPlace
      keyed otherKeyed⟩
  · exact absurd (OrderedMap.mem_keys_iff_keyAt?.mpr ⟨position, there⟩)
      (same.above index scope after found)

/-- Of two names at most one precedes the other. -/
theorem precedes_asymm
    (coherent : stack.Coherent)
    {first second : String}
    (precedes : stack.Precedes first second) :
    ¬ stack.Precedes second first := by
  obtain ⟨_, _, _, _, firstStands, secondStands, before⟩ := precedes
  rintro ⟨_, _, _, _, secondAgain, firstAgain, after⟩
  obtain ⟨rfl, rfl⟩ := coherent.standsAt_unique firstStands firstAgain
  obtain ⟨rfl, rfl⟩ := coherent.standsAt_unique secondStands secondAgain
  omega

end Coherent

omit [KeyHash] in
/-- A name stands where the innermost scope with it has it. -/
theorem standsAt_of_split
    {above below : List Scope}
    {scope : Scope}
    {position : Nat}
    (split : stack.scopes = above ++ scope :: below)
    (found : scope.keyAt? position = some name)
    (hidden : name ∉ above.flatMap OrderedMap.keys) :
    stack.StandsAt name below.length position := by
  obtain ⟨here, inAbove⟩ := scopeAt?_of_scopes split
  refine ⟨⟨scope, here, found⟩, ?_⟩
  intro other higher later there member
  exact hidden (List.mem_flatMap.mpr ⟨higher, inAbove other higher later there, member⟩)

/-! ## Names scope by scope -/

/-- The names of some scopes that were not seen in others, without repetition. -/
def newNames (seen : List String) (scopes : List Scope) : List String :=
  ((scopes.flatMap OrderedMap.keys).removeAll seen).eraseDups

omit [KeyHash] in
theorem visibleNames_eq_newNames (stack : ScopeStack) :
    stack.visibleNames = newNames [] stack.scopes := by
  simp [visibleNames, newNames, List.removeAll]

/-- The new names of the first scope come first, and are seen after that. -/
theorem newNames_cons
    {scope : Scope}
    (coherent : scope.Coherent)
    (seen : List String)
    (scopes : List Scope) :
    newNames seen (scope :: scopes) =
      scope.keys.removeAll seen ++ newNames (seen ++ scope.keys) scopes := by
  have first : (scope.keys.removeAll seen).eraseDups = scope.keys.removeAll seen :=
    eraseDups_of_nodup (coherent.keys_nodup.filter _)
  have later (names : List String) :
      (names.removeAll seen).removeAll (scope.keys.removeAll seen) =
        names.removeAll (seen ++ scope.keys) := by
    unfold List.removeAll
    rw [List.filter_filter]
    refine List.filter_congr fun name _ => ?_
    by_cases known : name ∈ seen <;> simp [known]
  have together (names : List String) :
      (scope.keys ++ names).removeAll seen = scope.keys.removeAll seen ++ names.removeAll seen :=
    List.filter_append ..
  rw [newNames, newNames, List.flatMap_cons, together, List.eraseDups_append, first, later]

omit [KeyHash] in
theorem mem_removeAll {names seen : List String} :
    name ∈ names.removeAll seen ↔ name ∈ names ∧ name ∉ seen := by
  simp [List.removeAll]

/-- A new name stands in one of the scopes. -/
theorem exists_standsAt
    {above scopes : List Scope}
    (coherent : ∀ scope ∈ scopes, scope.Coherent)
    (split : stack.scopes = above ++ scopes)
    (member : name ∈ newNames (above.flatMap OrderedMap.keys) scopes) :
    ∃ index < scopes.length, ∃ position, stack.StandsAt name index position := by
  induction scopes generalizing above with
  | nil => simp [newNames, List.removeAll] at member
  | cons scope scopes ih =>
      rw [List.forall_mem_cons] at coherent
      rw [newNames_cons coherent.1, List.mem_append, mem_removeAll] at member
      rcases member with ⟨here, hidden⟩ | later
      · obtain ⟨position, found⟩ := OrderedMap.mem_keys_iff_keyAt?.mp here
        exact ⟨scopes.length, Nat.lt_succ_self _, position, standsAt_of_split split found hidden⟩
      · have deeper : stack.scopes = (above ++ [scope]) ++ scopes := by rw [split]; simp
        obtain ⟨index, inside, stands⟩ :=
          ih coherent.2 deeper (by simpa using later)
        exact ⟨index, Nat.lt_succ_of_lt inside, stands⟩

/-- New names are listed in the order of their places. -/
theorem pairwise_newNames
    {above scopes : List Scope}
    (coherent : ∀ scope ∈ scopes, scope.Coherent)
    (split : stack.scopes = above ++ scopes) :
    (newNames (above.flatMap OrderedMap.keys) scopes).Pairwise stack.Precedes := by
  -- The scopes passed so far stay in the statement: they hide what stands below them.
  induction scopes generalizing above with
  | nil => simp [newNames, List.removeAll]
  | cons scope scopes ih =>
      rw [List.forall_mem_cons] at coherent
      have deeper : stack.scopes = (above ++ [scope]) ++ scopes := by rw [split]; simp
      have seen : (above ++ [scope]).flatMap OrderedMap.keys =
          above.flatMap OrderedMap.keys ++ scope.keys := by simp
      rw [newNames_cons coherent.1, ← seen, List.pairwise_append]
      refine ⟨?_, ih coherent.2 deeper, ?_⟩
      · refine List.Pairwise.imp_of_mem ?_ (scope.pairwise_keys.filter _)
        rintro first second firstNew secondNew ⟨position, later, firstAt, secondAt, before⟩
        exact ⟨_, position, _, later,
          standsAt_of_split split firstAt (mem_removeAll.mp firstNew).2,
          standsAt_of_split split secondAt (mem_removeAll.mp secondNew).2, .inr ⟨rfl, before⟩⟩
      · intro first firstNew second secondNew
        rw [mem_removeAll] at firstNew
        obtain ⟨position, firstAt⟩ := OrderedMap.mem_keys_iff_keyAt?.mp firstNew.1
        obtain ⟨index, below, later, secondStands⟩ :=
          exists_standsAt coherent.2 deeper secondNew
        exact ⟨_, position, index, later, standsAt_of_split split firstAt firstNew.2,
          secondStands, .inl below⟩

/-! ## Visible names -/

omit [KeyHash] in
theorem Everywhere.of_mem
    {property : Scope → Prop}
    (everywhere : stack.Everywhere property)
    {scope : Scope}
    (member : scope ∈ stack.scopes) :
    property scope := by
  obtain ⟨index, found⟩ := List.getElem?_of_mem (List.mem_reverse.mpr member)
  exact everywhere index scope found

/-- No visible name is listed twice. -/
theorem nodup_visibleNames (stack : ScopeStack) : stack.visibleNames.Nodup := by
  -- Merged scopes have the same keys.
  rw [visibleNames, ← OrderedMap.keys_merge]
  exact (OrderedMap.coherent_merge stack.scopes).keys_nodup

/-- The visible names are those that can be looked up. -/
theorem Coherent.mem_visibleNames_iff (coherent : stack.Coherent) (name : String) :
    name ∈ stack.visibleNames ↔ ∃ value, stack.get? name = some value := by
  rw [← Option.isSome_iff_exists, get?, Option.isSome_map, binding?_eq_findSome?,
    List.findSome?_isSome_iff, visibleNames, List.mem_eraseDups, List.mem_flatMap]
  refine exists_congr fun scope => and_congr_right fun member => ?_
  rw [OrderedMap.isSome_get?, (Everywhere.of_mem coherent member).contains_iff]

/-- Visible names are listed from the innermost scope outwards and by position
within a scope. -/
theorem Coherent.pairwise_visibleNames (coherent : stack.Coherent) :
    stack.visibleNames.Pairwise stack.Precedes := by
  rw [visibleNames_eq_newNames]
  exact pairwise_newNames (fun _ => Everywhere.of_mem coherent) (List.nil_append _).symm

/-! ## Hints -/

/-- The first of the names that can be looked up with the fewest edits, at most two. -/
structure Suggests (stack : ScopeStack) (name known : String) : Prop where
  resolves : ∃ value, stack.get? known = some value
  close : Suggest.distance name known ≤ 2
  nearest : ∀ other value, stack.get? other = some value →
    Suggest.distance name known ≤ Suggest.distance name other
  first : ∀ other value, stack.get? other = some value →
    Suggest.distance name other = Suggest.distance name known → other ≠ known →
      stack.Precedes known other

/-- A name that is found similar is one to suggest: near enough and the first of
the nearest. -/
theorem Coherent.suggests
    (coherent : stack.Coherent)
    (found : Suggest.similar? name stack.visibleNames 2 = some known) :
    stack.Suggests name known := by
  obtain ⟨close, member, nearest, first⟩ := Suggest.similar?_eq_some_iff.mp found
  have listed (other : String) (value : Value) (there : stack.get? other = some value) :
      other ∈ stack.visibleNames := (coherent.mem_visibleNames_iff other).mpr ⟨value, there⟩
  refine ⟨(coherent.mem_visibleNames_iff known).mp member, close, ?_, ?_⟩
  · exact fun other value there => nearest other (listed other value there)
  · intro other value there tie different
    have otherListed := listed other value there
    have before : stack.visibleNames.idxOf known < stack.visibleNames.idxOf other := by
      refine Nat.lt_of_le_of_ne (first other otherListed (Nat.le_of_eq tie)) fun same => ?_
      exact different ((List.idxOf_inj member).mp same).symm
    have ordered := List.pairwise_iff_getElem.mp coherent.pairwise_visibleNames _ _
      (List.idxOf_lt_length_iff.mpr member) (List.idxOf_lt_length_iff.mpr otherListed) before
    rwa [List.getElem_idxOf, List.getElem_idxOf] at ordered

/-- There is a suggestion exactly if two edits lead to a visible name. -/
theorem Coherent.exists_similar?_iff (coherent : stack.Coherent) (name : String) :
    (∃ known, Suggest.similar? name stack.visibleNames 2 = some known) ↔
      ∃ known value, stack.get? known = some value ∧
        ∃ count ≤ 2, Suggest.Script count name.toList known.toList := by
  rw [← Option.ne_none_iff_exists', Ne, Suggest.similar?_eq_none_iff]
  simp only [not_forall, Nat.not_lt, coherent.mem_visibleNames_iff, Suggest.distance_le_iff]
  constructor
  · rintro ⟨known, ⟨value, there⟩, close⟩
    exact ⟨known, value, there, close⟩
  · rintro ⟨known, value, there, close⟩
    exact ⟨known, ⟨value, there⟩, close⟩

/-- The visible names of a stack are exactly those that can be looked up, each once,
by their innermost scope and then by slot. A look-up that fails has a hint exactly if
a visible name is within two edits, and then the hint has the first of the nearest. -/
theorem visible_names_are_those_that_resolve (stack : ScopeStack) (reachable : stack.Reachable) :
    stack.visibleNames.Nodup ∧
    (∀ name, name ∈ stack.visibleNames ↔ ∃ value, stack.get? name = some value) ∧
    stack.visibleNames.Pairwise stack.Precedes ∧
    (∀ first second, stack.Precedes first second → ¬ stack.Precedes second first) ∧
    ∀ (engine : Engine) (name : String), stack.get? name = none →
      ∃ hint, Engine.getVariable name { engine with scopes := stack } =
          (.error (.error { cause := .undefinedVariable name, hint }),
            { engine with scopes := stack }) ∧
        (hint ≠ "" ↔ ∃ known value, stack.get? known = some value ∧
          ∃ count ≤ 2, Suggest.Script count name.toList known.toList) ∧
        (hint ≠ "" → ∃ known, hint = "\n  hint: did you mean `" ++ known ++ "`?" ∧
          stack.Suggests name known) := by
  have coherent := reachable.sound.coherent
  refine ⟨stack.nodup_visibleNames, coherent.mem_visibleNames_iff,
    coherent.pairwise_visibleNames, fun _ _ => coherent.precedes_asymm, ?_⟩
  intro engine name missing
  have hinted : Suggest.hintFor name stack.visibleNames ≠ "" ↔
      ∃ known, Suggest.similar? name stack.visibleNames 2 = some known :=
    Suggest.hint_ne_empty_iff
  refine ⟨_, Engine.getVariable_missing missing, hinted.trans (coherent.exists_similar?_iff name),
    fun given => ?_⟩
  obtain ⟨known, found⟩ := hinted.mp given
  exact ⟨known, congrArg Suggest.hint found, coherent.suggests found⟩

end

/-- Two similar names, one of them bound again further in, and a name that is gone. -/
def similarNames : ScopeStack :=
  ((((withOrder 1).define "gone" .void).define "count" (.int 1)).define "court" (.int 2)
    |>.unbindGlobal "gone").push.define "court" (.int 3)

theorem reachable_similarNames : similarNames.Reachable :=
  .define (.push (.unbind (.define (.define (.define (.new 1) _ _) _ _) _ _) _)) _ _

/-- Both names are one edit away. The one that is bound further in is suggested,
though the other has the earlier slot in the outer scope. -/
theorem similarNames_suggest_the_inner_one :
    similarNames.get? "cout" = none ∧ similarNames.visibleNames = ["court", "count"] ∧
      ∀ engine : Engine,
        Engine.getVariable "cout" { engine with scopes := similarNames } =
          (.error (.error ⟨.undefinedVariable "cout", "\n  hint: did you mean `court`?"⟩),
            { engine with scopes := similarNames }) := by
  have visible : similarNames.visibleNames = ["court", "count"] := by decide +kernel
  have missing : similarNames.get? "cout" = none := by cbv
  refine ⟨missing, visible, fun engine => ?_⟩
  obtain ⟨-, resolves, ordered, asymm, hints⟩ :=
    visible_names_are_those_that_resolve similarNames reachable_similarNames
  rw [visible] at resolves ordered
  obtain ⟨hint, fails, given, named⟩ := hints engine "cout" missing
  obtain ⟨value, court⟩ := (resolves "court").mp (by simp)
  have close : Suggest.distance "cout" "court" ≤ 2 := by decide
  obtain ⟨known, rfl, suggests⟩ :=
    named (given.mpr ⟨"court", value, court, Suggest.distance_le_iff.mp close⟩)
  have inner : similarNames.Precedes "court" "count" :=
    List.rel_of_pairwise_cons ordered (List.mem_singleton.mpr rfl)
  have candidates := (resolves known).mpr suggests.resolves
  simp only [List.mem_cons, List.not_mem_nil, or_false] at candidates
  rcases candidates with rfl | rfl
  · exact fails
  · have tie : Suggest.distance "cout" "court" = Suggest.distance "cout" "count" := by decide
    exact absurd (suggests.first "court" value court tie (by decide)) (asymm _ _ inner)

end ScopeStack
end ScriptCore
