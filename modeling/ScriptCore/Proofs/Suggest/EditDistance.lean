import Mathlib
import ScriptCore.Suggest.Distance

/-!
# The distance table and edit scripts

An edit inserts, deletes or substitutes one character of a text. The distance of
two texts is the length of the shortest script of edits from one to the other,
and every property of a metric follows from what can be done with scripts.

Between the two stands the recurrence of the distance on the first characters.
The table keeps one row of it at a time, for the prefixes of the target, which is
why its texts are read from their ends. Each row is written over an older one; the
entries of the older row that are still there are never read.
-/

namespace ScriptCore
namespace Suggest

/-! ## Scripts -/

/-- One edit of a text. -/
inductive Edit : List Char → List Char → Prop where
  | insert (before : List Char) (char : Char) (after : List Char) :
      Edit (before ++ after) (before ++ char :: after)
  | delete (before : List Char) (char : Char) (after : List Char) :
      Edit (before ++ char :: after) (before ++ after)
  | substitute (before : List Char) (char other : Char) (after : List Char) :
      Edit (before ++ char :: after) (before ++ other :: after)

/-- A script of so many edits leads from one text to another. -/
inductive Script : Nat → List Char → List Char → Prop where
  | done (text : List Char) : Script 0 text text
  | step {count : Nat} {source middle target : List Char} (edit : Edit source middle)
      (rest : Script count middle target) : Script (count + 1) source target

variable {count other : Nat} {source middle target : List Char}

namespace Edit

/-- An edit can be undone by an edit. -/
theorem symm (edit : Edit source target) : Edit target source := by
  cases edit with
  | insert before char after => exact .delete before char after
  | delete before char after => exact .insert before char after
  | substitute before char other after => exact .substitute before other char after

theorem cons (edit : Edit source target) (char : Char) :
    Edit (char :: source) (char :: target) := by
  cases edit with
  | insert before inserted after => exact .insert (char :: before) inserted after
  | delete before deleted after => exact .delete (char :: before) deleted after
  | substitute before old new after => exact .substitute (char :: before) old new after

/-- An edit of a text is one of its reversal. -/
theorem reverse (edit : Edit source target) : Edit source.reverse target.reverse := by
  cases edit with
  | insert before char after => simpa using Edit.insert after.reverse char before.reverse
  | delete before char after => simpa using Edit.delete after.reverse char before.reverse
  | substitute before char other after =>
      simpa using Edit.substitute after.reverse char other before.reverse

end Edit

namespace Script

/-- Without edits a text stays the same. -/
theorem eq_of_zero (script : Script 0 source target) : source = target := by
  cases script
  rfl

/-- Two scripts make one, and the numbers of edits add up. -/
theorem append (first : Script count source middle) (second : Script other middle target) :
    Script (count + other) source target := by
  induction first with
  | done text => rwa [Nat.zero_add]
  | @step count source next middle edit rest ih =>
      rw [Nat.add_right_comm]
      exact .step edit (ih second)

/-- A script can be undone by one of the same length. -/
theorem symm (script : Script count source target) : Script count target source := by
  induction script with
  | done text => exact .done text
  | step edit rest ih =>
      exact ih.append (.step edit.symm (.done _))

theorem cons (script : Script count source target) (char : Char) :
    Script count (char :: source) (char :: target) := by
  induction script with
  | done text => exact .done (char :: text)
  | step edit rest ih => exact .step (edit.cons char) ih

theorem min (first : Script count source target) (second : Script other source target) :
    Script (Min.min count other) source target := by
  rcases min_choice count other with least | least <;> rwa [least]

/-- A script for two texts is one for their reversals. -/
theorem reverse (script : Script count source target) :
    Script count source.reverse target.reverse := by
  induction script with
  | done text => exact .done text.reverse
  | step edit rest ih => exact .step edit.reverse ih

end Script

/-! ## The recurrence -/

/-- The cost of a character in the place of another. -/
def cost (char target : Char) : Nat :=
  if char = target then 0 else 1

/-- The distance by its recurrence on the first characters. -/
def recurrence : List Char → List Char → Nat
  | [], targets => targets.length
  | chars, [] => chars.length
  | char :: chars, target :: targets =>
      min (recurrence chars targets + cost char target)
        (min (recurrence chars (target :: targets) + 1) (recurrence (char :: chars) targets + 1))

section Recurrence

variable {char : Char} {chars targets : List Char}

@[simp] theorem recurrence_nil_left (targets : List Char) :
    recurrence [] targets = targets.length := by
  rw [recurrence]

@[simp] theorem recurrence_nil_right (chars : List Char) : recurrence chars [] = chars.length := by
  cases chars <;> simp [recurrence]

theorem recurrence_cons (char target : Char) (chars targets : List Char) :
    recurrence (char :: chars) (target :: targets) =
      min (recurrence chars targets + cost char target)
        (min (recurrence chars (target :: targets) + 1)
          (recurrence (char :: chars) targets + 1)) := by
  rw [recurrence]

theorem script_insertions (targets : List Char) : Script targets.length [] targets := by
  induction targets with
  | nil => exact .done []
  | cons target targets ih =>
      exact .step (.insert [] target []) (ih.cons target)

theorem script_substitution (script : Script count chars targets) (char target : Char) :
    Script (count + cost char target) (char :: chars) (target :: targets) := by
  unfold cost
  split
  · next same => exact same ▸ script.cons char
  · exact .step (.substitute [] char target chars) (script.cons target)

/-- The recurrence counts the edits of some script. -/
theorem script_recurrence (chars targets : List Char) :
    Script (recurrence chars targets) chars targets := by
  induction chars, targets using recurrence.induct with
  | case1 targets => simpa using script_insertions targets
  | case2 chars _ => simpa using (script_insertions chars).symm
  | case3 char chars target targets substituted deleted inserted =>
      rw [recurrence_cons]
      refine (script_substitution substituted char target).min (.min ?_ ?_)
      · exact .step (.delete [] char chars) deleted
      · exact .step (.insert [] target (char :: chars)) (inserted.cons target)

/-- The recurrence grows by at most one from a list to another. -/
def Close (chars others : List Char) : Prop :=
  ∀ targets, recurrence chars targets ≤ recurrence others targets + 1

theorem Close.cons {others : List Char} (close : Close chars others) (char : Char) :
    Close (char :: chars) (char :: others) := by
  intro targets
  induction targets with
  | nil => simpa using close []
  | cons target targets ih =>
      have shorter := close targets
      have whole := close (target :: targets)
      rw [recurrence_cons, recurrence_cons]
      omega

theorem close_delete (char : Char) (chars : List Char) : Close (char :: chars) chars := by
  intro targets
  cases targets with
  | nil => simp
  | cons target targets =>
      rw [recurrence_cons]
      omega

/-- One more character of the target costs at most one edit. -/
theorem recurrence_cons_right_le (chars : List Char) (target : Char) (targets : List Char) :
    recurrence chars (target :: targets) ≤ recurrence chars targets + 1 := by
  cases chars with
  | nil => simp
  | cons char chars =>
      rw [recurrence_cons]
      omega

/-- Before an insertion the recurrence is at most one larger than after it. -/
theorem close_insert (char : Char) (chars : List Char) : Close chars (char :: chars) := by
  intro targets
  induction targets with
  | nil => simp; omega
  | cons target targets ih =>
      have longer := recurrence_cons_right_le chars target targets
      rw [recurrence_cons]
      omega

/-- Before a substitution the recurrence is at most one larger than after it. -/
theorem close_substitute (char other : Char) (chars : List Char) :
    Close (char :: chars) (other :: chars) := by
  intro targets
  induction targets with
  | nil => simp
  | cons target targets ih =>
      have changed : cost char target ≤ 1 := by
        unfold cost
        split <;> omega
      rw [recurrence_cons, recurrence_cons]
      omega

/-- Before an edit the recurrence is at most one larger than after it, whatever
the target. -/
theorem Edit.close (edit : Edit source target) : Close source target := by
  cases edit with
  | insert before char after =>
      induction before with
      | nil => exact close_insert char after
      | cons first before ih => exact ih.cons first
  | delete before char after =>
      induction before with
      | nil => exact close_delete char after
      | cons first before ih => exact ih.cons first
  | substitute before char other after =>
      induction before with
      | nil => exact close_substitute char other after
      | cons first before ih => exact ih.cons first

/-- A text is at distance zero from itself. -/
theorem recurrence_self (chars : List Char) : recurrence chars chars = 0 := by
  induction chars with
  | nil => exact recurrence_nil_left []
  | cons char chars ih => simp [recurrence_cons, ih, cost]

/-- No script is shorter. -/
theorem Script.recurrence_le (script : Script count source target) :
    recurrence source target ≤ count := by
  induction script with
  | done text => rw [recurrence_self]
  | @step count source middle target edit rest ih =>
      have close := edit.close target
      omega

end Recurrence

/-! ## The table -/

/-- A row is written up to a column: there it has the distances of the source to
the prefixes of the target. Nothing is known of the entries past the column. The
characters of the source are given from the last one on. -/
structure WrittenTo (last : Nat) (source target : List Char) (row : Array Nat) : Prop where
  size_eq : row.size = target.length + 1
  getD_eq : ∀ column ≤ last, row.getD column 0 = recurrence source (target.take column).reverse

section Table

variable {char : Char} {previous current : Array Nat}

/-- The prefixes of the target one after the other, from the last character on. -/
theorem reverse_take_succ {column : Nat} {char : Char} (there : target[column]? = some char) :
    (target.take (column + 1)).reverse = char :: (target.take column).reverse := by
  rw [List.take_add_one, there, Option.toList_some, List.reverse_append]
  rfl

/-- The first entry counts deletions. -/
theorem writtenTo_zero (char : Char) (source : List Char)
    (size : current.size = target.length + 1) :
    WrittenTo 0 (char :: source) target
      (current.setIfInBounds 0 (source.length + 1)) where
  size_eq := by rw [Array.size_setIfInBounds, size]
  getD_eq column first := by
    cases Nat.le_zero.mp first
    have inside : 0 < current.size := by omega
    simp [Array.getD_eq_getD_getElem?, inside]

/-- An entry is computed from a whole row above it and from the entry before it;
what stands in its place, or past it, is not read. -/
theorem WrittenTo.writeEntry
    (above : WrittenTo target.length source target previous)
    {column : Nat}
    (written : WrittenTo column (char :: source) target current)
    {wanted : Char}
    (there : target[column]? = some wanted) :
    WrittenTo (column + 1) (char :: source) target
      (writeEntry char wanted previous column current) where
  size_eq := by rw [Suggest.writeEntry, Array.size_setIfInBounds, written.size_eq]
  getD_eq place before := by
    obtain ⟨inside, -⟩ := List.getElem?_eq_some_iff.mp there
    have room : column + 1 < current.size := by
      rw [written.size_eq]
      omega
    rw [Suggest.writeEntry, Array.getD_eq_getD_getElem?]
    rcases Nat.lt_or_eq_of_le before with earlier | rfl
    · rw [Array.getElem?_setIfInBounds_ne (Nat.ne_of_gt earlier), ← Array.getD_eq_getD_getElem?]
      exact written.getD_eq place (Nat.le_of_lt_succ earlier)
    · rw [Array.getElem?_setIfInBounds_self_of_lt room, Option.getD_some,
        above.getD_eq column (Nat.le_of_lt inside), above.getD_eq (column + 1) inside,
        written.getD_eq column (Nat.le_refl _), reverse_take_succ there, recurrence_cons,
        min_assoc]
      rfl

/-- Writing the entries for the rest of the target completes a row. -/
theorem WrittenTo.writeEntries
    (above : WrittenTo target.length source target previous)
    {column : Nat}
    (written : WrittenTo column (char :: source) target current)
    {rest : List Char}
    (remaining : target.drop column = rest) :
    WrittenTo (column + rest.length) (char :: source) target
      (writeEntries char previous column rest current) := by
  induction rest generalizing column current with
  | nil => exact written
  | cons wanted rest ih =>
      have there : target[column]? = some wanted := by
        rw [← List.head?_drop, remaining]
        rfl
      have further : target.drop (column + 1) = rest := by
        rw [← List.tail_drop, remaining]
        rfl
      have whole := ih (above.writeEntry written there) further
      rwa [Nat.add_right_comm] at whole

/-- The rows before a character of the source: the one above is whole, and of the
scratch space only the size is known. -/
structure Rows.Before (source target : List Char) (rows : Rows) : Prop where
  above : WrittenTo target.length source target rows.previous
  size_current : rows.current.size = target.length + 1

/-- One row turns the rows for the characters so far into those for one more. -/
theorem Rows.Before.nextRow
    {rows : Rows}
    (before : rows.Before source target)
    (char : Char) :
    (nextRow target source.length char rows).Before (char :: source) target where
  above := by
    have started := writtenTo_zero char source before.size_current
    have whole := before.above.writeEntries started (List.drop_zero ..)
    rwa [Nat.zero_add] at whole
  size_current := before.above.size_eq

/-- All rows together turn those for the characters so far into those for the
whole text. -/
theorem Rows.Before.nextRows
    {rows : Rows}
    (before : rows.Before source target)
    (chars : List Char) :
    (nextRows target source.length chars rows).Before (chars.reverse ++ source) target := by
  induction chars generalizing source rows with
  | nil => exact before
  | cons char chars ih =>
      rw [List.reverse_cons, List.append_assoc, List.singleton_append]
      exact ih (before.nextRow char)

/-- At first the row above counts insertions. -/
theorem before_initialRows (target : List Char) : (initialRows target).Before [] target where
  above :=
    { size_eq := Array.size_range
      getD_eq := by
        intro column inside
        rw [recurrence_nil_left, List.length_reverse, List.length_take, min_eq_left inside]
        simp [initialRows, Array.getD_eq_getD_getElem?, Nat.lt_succ_of_le inside] }
  size_current := Array.size_replicate

end Table

/-- The last entry of the last row is the distance of the texts read from their
ends. -/
theorem distanceOf_eq (source target : List Char) :
    distanceOf source target = recurrence source.reverse target.reverse := by
  unfold distanceOf
  split
  · next empty =>
    rcases Bool.or_eq_true_iff.mp empty with none | none <;>
      cases List.isEmpty_iff.mp none <;> simp
  · have last := ((before_initialRows target).nextRows source).above.getD_eq target.length
      (Nat.le_refl _)
    rwa [List.take_length, List.append_nil] at last

/-! ## Distances -/

/-- The table finds the length of the shortest script. -/
theorem isLeast_distanceOf (source target : List Char) :
    IsLeast {count | Script count source target} (distanceOf source target) := by
  rw [distanceOf_eq]
  constructor
  · simpa using (script_recurrence source.reverse target.reverse).reverse
  · intro count script
    exact script.reverse.recurrence_le

theorem distance_le_iff {source target : String} {limit : Nat} :
    distance source target ≤ limit ↔ ∃ count ≤ limit, Script count source.toList target.toList := by
  have least := isLeast_distanceOf source.toList target.toList
  constructor
  · exact fun within => ⟨_, within, least.1⟩
  · rintro ⟨count, within, script⟩
    exact Nat.le_trans (least.2 script) within

/-- Only equal texts are at distance zero. -/
theorem distance_eq_zero_iff {source target : String} :
    distance source target = 0 ↔ source = target := by
  have least := isLeast_distanceOf source.toList target.toList
  constructor
  · intro zero
    have script : Script 0 source.toList target.toList := zero ▸ least.1
    exact String.toList_inj.mp script.eq_of_zero
  · rintro rfl
    exact Nat.le_zero.mp (least.2 (.done _))

theorem distance_le_symm (source target : String) :
    distance target source ≤ distance source target :=
  (isLeast_distanceOf target.toList source.toList).2
    (isLeast_distanceOf source.toList target.toList).1.symm

theorem distance_comm (source target : String) :
    distance source target = distance target source :=
  le_antisymm (distance_le_symm target source) (distance_le_symm source target)

theorem distance_triangle (source middle target : String) :
    distance source target ≤ distance source middle + distance middle target :=
  (isLeast_distanceOf source.toList target.toList).2
    ((isLeast_distanceOf source.toList middle.toList).1.append
      (isLeast_distanceOf middle.toList target.toList).1)

end Suggest
end ScriptCore
