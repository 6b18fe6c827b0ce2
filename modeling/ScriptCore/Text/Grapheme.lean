import ScriptCore.Text.BreakClass

/-!
# Graphemes

A user-perceived character is a grapheme: a base with its marks, a Hangul
syllable, a pair of regional indicators, a conjunct, or pictographs between
joiners. Boundaries are found from left to right; whether one stands before a
character depends on that character and on a summary of the text before it.

Dividing a text loses nothing: the graphemes put together are the text.
-/

namespace ScriptCore
namespace Text

/-- How far the text before a boundary goes in a form of two parts: it has not
begun, its first part stands at the end of the text, or it has been joined to
what follows. -/
inductive Reach where
  | absent
  | begun
  | joined
deriving DecidableEq

/-- What the text before a boundary says about it. -/
structure Seam where
  /-- The class of the last character. -/
  last : BreakClass
  /-- Whether the last characters are an odd number of regional indicators. -/
  isOddRegional : Bool
  /-- A pictograph with its extenders, and then a joiner. -/
  pictograph : Reach
  /-- A consonant with its extenders, one of which is a linker once joined. -/
  conjunct : Reach

namespace Seam

/-- The state of a pictograph sequence after one more character. -/
def nextPictograph (reach : Reach) : BreakClass → Reach
  | .pictograph => .begun
  | .extend => if reach = .begun then .begun else .absent
  | .joiner => if reach = .begun then .joined else .absent
  | _ => .absent

/-- The state of a conjunct after one more character. -/
def nextConjunct (reach : Reach) (char : Char) : BreakClass → Reach
  | .consonant => .begun
  | .joiner => reach
  | .extend =>
      if reach = .absent || char.toNat = 0x200C then .absent
      else if isLinker char then .joined
      else reach
  | _ => .absent

/-- The summary after one more character. -/
def next (seam : Seam) (char : Char) : Seam :=
  let breakClass := BreakClass.ofChar char
  { last := breakClass
    isOddRegional := breakClass = .regional && !seam.isOddRegional
    pictograph := nextPictograph seam.pictograph breakClass
    conjunct := nextConjunct seam.conjunct char breakClass }

/-- The summary of no text. -/
def start : Seam :=
  { last := .control, isOddRegional := false, pictograph := .absent, conjunct := .absent }

/-- Whether two parts of a Hangul syllable belong together. -/
def joinsHangul : BreakClass → BreakClass → Bool
  | .leadingJamo, .leadingJamo => true
  | .leadingJamo, .vowelJamo => true
  | .leadingJamo, .openSyllable => true
  | .leadingJamo, .closedSyllable => true
  | .openSyllable, .vowelJamo => true
  | .openSyllable, .trailingJamo => true
  | .vowelJamo, .vowelJamo => true
  | .vowelJamo, .trailingJamo => true
  | .closedSyllable, .trailingJamo => true
  | .trailingJamo, .trailingJamo => true
  | _, _ => false

/-- Whether a character of the given class goes on with the grapheme before
it. -/
def joins (seam : Seam) (following : BreakClass) : Bool :=
  if seam.last = .carriageReturn && following = .lineFeed then true
  else if seam.last.isControl || following.isControl then false
  else
    joinsHangul seam.last following ||
      following = .extend || following = .joiner || following = .spacingMark ||
      seam.last = .prepend ||
      (following = .consonant && seam.conjunct = .joined) ||
      (following = .pictograph && seam.pictograph = .joined) ||
      (following = .regional && seam.isOddRegional)

end Seam

/-- The rest of the grapheme that has begun, and the graphemes after it. -/
def continueGraphemes (seam : Seam) : List Char → List Char × List (List Char)
  | [] => ([], [])
  | char :: chars =>
      let (rest, others) := continueGraphemes (seam.next char) chars
      if seam.joins (BreakClass.ofChar char) then (char :: rest, others)
      else ([], (char :: rest) :: others)

/-- The graphemes of a text. -/
def graphemes (chars : List Char) : List (List Char) :=
  (continueGraphemes .start chars).2

/-- The rest of a cluster and the clusters after it put together are the text. -/
theorem continueGraphemes_flatten (seam : Seam) (chars : List Char) :
    (continueGraphemes seam chars).1 ++ (continueGraphemes seam chars).2.flatten = chars := by
  induction chars generalizing seam with
  | nil => rfl
  | cons char chars ih =>
      have tail := ih (seam.next char)
      simp only [continueGraphemes]
      split
      · simp [tail]
      · simp [tail]

/-- Nothing joins the start of a text. -/
theorem start_joins (following : BreakClass) : Seam.start.joins following = false := by
  cases following <;> rfl

theorem continueGraphemes_start_fst (chars : List Char) :
    (continueGraphemes .start chars).1 = [] := by
  cases chars with
  | nil => rfl
  | cons char chars => simp [continueGraphemes, start_joins]

/-- The graphemes of a text put together are the text. -/
theorem flatten_graphemes (chars : List Char) : (graphemes chars).flatten = chars := by
  have all := continueGraphemes_flatten .start chars
  rwa [continueGraphemes_start_fst, List.nil_append] at all

end Text
end ScriptCore
