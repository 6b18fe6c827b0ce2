import ScriptCore.Proofs.Number.FloatGrammar

/-!
# Float numerals

A string converts to a float by the longest prefix, after blanks, that is a float
numeral. The prefix is found in one pass without backing up: each part takes as many
bytes as it can, and a part that turns out to be incomplete is left out. What follows
a part cannot start with a byte of that part, so no other choice reaches further.
-/

namespace ScriptCore
namespace Numeral

/-! ## Parts of a text -/

/-- What follows the sign of a text. -/
def afterSign (text : Bytes) : Bytes :=
  text.drop (signPart text).length

/-- The digits before the point. -/
def wholePart (text : Bytes) : Bytes :=
  digitRun (afterSign text)

/-- What follows the digits before the point. -/
def afterWhole (text : Bytes) : Bytes :=
  (afterSign text).drop (wholePart text).length

/-- The point and the digits after it, as far as they belong to the numeral. -/
def pointPart (text : Bytes) : Bytes :=
  fractionPart (wholePart text).isEmpty (afterWhole text)

/-- What follows the digits after the point. -/
def afterPoint (text : Bytes) : Bytes :=
  (afterWhole text).drop (pointPart text).length

theorem floatPrefix?_eq (text : Bytes) :
    floatPrefix? text =
      if (wholePart text).isEmpty && (pointPart text).isEmpty then none
      else some (signPart text ++ wholePart text ++ pointPart text ++
        exponentPart (afterPoint text)) :=
  rfl

/-- The sign is at the start of the text. -/
theorem signPart_starts (text : Bytes) : signPart text <+: text := by
  cases text with
  | nil => exact List.prefix_rfl
  | cons byte rest =>
      rw [signPart]
      split
      · exact ⟨rest, rfl⟩
      · exact List.nil_prefix

/-- A point counts only with digits on one side of it. -/
theorem fractionPart_cons_point (wholeEmpty : Bool) (rest : Bytes) :
    fractionPart wholeEmpty (0x2E :: rest) =
      if wholeEmpty && (digitRun rest).isEmpty then [] else 0x2E :: digitRun rest := rfl

/-- Without a point there is no fraction. -/
theorem fractionPart_of_ne {byte : UInt8} (other : byte ≠ 0x2E) (wholeEmpty : Bool) (rest : Bytes) :
    fractionPart wholeEmpty (byte :: rest) = [] := by
  rw [fractionPart]
  rintro _ ⟨⟩
  exact other rfl

/-- The point and the digits after it are written at the start of the text. -/
theorem fractionPart_cases (wholeEmpty : Bool) (text : Bytes) :
    fractionPart wholeEmpty text = [] ∨
      ∃ rest, text = 0x2E :: rest ∧ fractionPart wholeEmpty text = 0x2E :: digitRun rest ∧
        (wholeEmpty = true → digitRun rest ≠ []) := by
  cases text with
  | nil => exact .inl rfl
  | cons byte rest =>
      by_cases point : byte = 0x2E
      · subst point
        rw [fractionPart_cons_point]
        split
        · exact .inl rfl
        · next inhabited =>
          refine .inr ⟨rest, rfl, rfl, fun empty none => inhabited ?_⟩
          simp [empty, none]
      · exact .inl (fractionPart_of_ne point wholeEmpty rest)

theorem digitRun_starts (text : Bytes) : digitRun text <+: text :=
  List.takeWhile_prefix isDigit

theorem fractionPart_starts (wholeEmpty : Bool) (text : Bytes) :
    fractionPart wholeEmpty text <+: text := by
  rcases fractionPart_cases wholeEmpty text with empty | ⟨rest, rfl, taken, -⟩
  · rw [empty]
    exact List.nil_prefix
  · rw [taken]
    exact (List.prefix_cons_inj _).mpr (digitRun_starts rest)

/-- The sign part is the text of a sign or of none. -/
theorem exists_signPart (text : Bytes) : ∃ sign : Sign, signPart text = sign.bytes := by
  cases text with
  | nil => exact ⟨.absent, rfl⟩
  | cons byte rest =>
      rw [signPart]
      split
      · next sign =>
        simp only [isSign, Bool.or_eq_true, beq_iff_eq] at sign
        rcases sign with rfl | rfl
        · exact ⟨.plus, rfl⟩
        · exact ⟨.minus, rfl⟩
      · exact ⟨.absent, rfl⟩

/-- The sign of a text is read up to what is unsigned. -/
theorem signPart_append (sign : Sign) {rest : Bytes} (unsigned : Unsigned rest) :
    signPart (sign.bytes ++ rest) = sign.bytes := by
  cases sign with
  | absent =>
      cases rest with
      | nil => rfl
      | cons byte rest => simp [Sign.bytes, signPart, unsigned byte rfl]
  | plus => rfl
  | minus => rfl

/-- An exponent takes the digits that follow it. -/
theorem exponentPart_append (exponent : Exponent) (rest : Bytes) :
    exponentPart (exponent.bytes ++ rest) = exponent.bytes ++ digitRun rest := by
  obtain ⟨mark, sign, digits, isMark, digit, inhabited⟩ := exponent
  have marked : (mark == 0x65 || mark == 0x45) = true := by simpa using isMark
  have signed := signPart_append sign (unsigned_of_digits digit inhabited rest)
  simp only [Exponent.bytes, List.cons_append, List.append_assoc, exponentPart, marked, if_true,
    signed, List.drop_left, digitRun_append digit]
  rw [if_neg (by simp [inhabited])]

/-- An exponent that is taken is written at the start of the text. -/
theorem exponentPart_cases (text : Bytes) :
    exponentPart text = [] ∨
      ∃ (exponent : Exponent) (rest : Bytes), exponentPart text = exponent.bytes ∧
        text = exponent.bytes ++ rest := by
  cases text with
  | nil => exact .inl rfl
  | cons mark rest =>
      obtain ⟨sign, signed⟩ := exists_signPart rest
      obtain ⟨last, split, -⟩ := exists_after_digitRun (rest.drop sign.bytes.length)
      have whole : sign.bytes ++ rest.drop sign.bytes.length = rest := by
        rw [← signed]
        exact List.prefix_iff_eq_append.mp (signPart_starts rest)
      simp only [exponentPart, signed]
      split_ifs with marked empty
      · exact .inl rfl
      · rw [List.isEmpty_iff] at empty
        refine .inr ⟨⟨mark, sign, _, by simpa using marked, fun _ => isDigit_of_mem_digitRun,
          empty⟩, last, rfl, ?_⟩
        rw [Exponent.bytes, List.cons_append, List.append_assoc, ← split, whole]
      · exact .inl rfl

/-! ## The longest numeral -/

theorem isMark_apart {mark : UInt8} (isMark : mark = 0x65 ∨ mark = 0x45) :
    isDigit mark = false ∧ mark ≠ 0x2E := by
  rcases isMark with rfl | rfl <;> decide

/-- An exponent ends a run of digits. -/
theorem endsRun_exponent (exponent : Exponent) (rest : Bytes) :
    EndsRun (exponent.bytes ++ rest) := by
  rintro byte ⟨⟩
  exact (isMark_apart exponent.isMark).1

/-- A point ends a run of digits. -/
theorem endsRun_point (rest : Bytes) : EndsRun (0x2E :: rest) := by
  rintro byte ⟨⟩
  rfl

/-- Point, places and exponent are taken at least as far as they are written. -/
theorem length_fraction_exponent
    {wholeEmpty : Bool}
    {places? : Option Bytes}
    (digit : ∀ places ∈ places?, ∀ byte ∈ places, isDigit byte = true)
    (inhabited : wholeEmpty = true → ∀ places ∈ places?, places ≠ [])
    (exponent? : Option Exponent)
    (rest : Bytes) :
    let tail := fractionBytes places? ++ (exponentBytes exponent? ++ rest)
    let taken := fractionPart wholeEmpty tail
    (fractionBytes places? ++ exponentBytes exponent?).length ≤
      (taken ++ exponentPart (tail.drop taken.length)).length := by
  intro tail taken
  cases places? with
  | none =>
      cases exponent? with
      | none => exact Nat.zero_le _
      | some exponent =>
          have nothing : taken = [] :=
            fractionPart_of_ne (isMark_apart exponent.isMark).2 wholeEmpty _
          have reached : exponentPart tail = exponent.bytes ++ digitRun rest :=
            exponentPart_append exponent rest
          rw [nothing, List.length_nil, List.drop_zero, reached]
          simp [fractionBytes, exponentBytes]
  | some places =>
      have run := digitRun_append (digit places rfl) (exponentBytes exponent? ++ rest)
      have pointed : taken = 0x2E :: (places ++ digitRun (exponentBytes exponent? ++ rest)) := by
        change fractionPart wholeEmpty (0x2E :: (places ++ (exponentBytes exponent? ++ rest))) = _
        rw [fractionPart_cons_point, run, if_neg]
        rw [Bool.and_eq_true, List.isEmpty_iff, List.append_eq_nil_iff]
        exact fun both => inhabited both.1 places rfl both.2.1
      cases exponent? with
      | none =>
          rw [pointed]
          simp [fractionBytes, exponentBytes]
      | some exponent =>
          have stops : digitRun (exponentBytes (some exponent) ++ rest) = [] :=
            digitRun_of_endsRun (endsRun_exponent exponent rest)
          rw [stops, List.append_nil] at pointed
          have split : tail = (0x2E :: places) ++ (exponent.bytes ++ rest) := rfl
          have left : tail.drop taken.length = exponent.bytes ++ rest := by
            rw [pointed, split, List.drop_left]
          rw [left, exponentPart_append, pointed]
          simp [fractionBytes, exponentBytes]

namespace FloatNumeral

/-- What is written after the digits before the point. -/
def tail (numeral : FloatNumeral) : Bytes :=
  fractionBytes numeral.places? ++ exponentBytes numeral.exponent?

theorem bytes_append (numeral : FloatNumeral) (rest : Bytes) :
    numeral.bytes ++ rest = numeral.sign.bytes ++ (numeral.whole ++ (numeral.tail ++ rest)) := by
  simp only [bytes, tail, List.append_assoc]

theorem exists_places {numeral : FloatNumeral} (empty : numeral.whole = []) :
    ∃ places, numeral.places? = some places ∧ places ≠ [] :=
  numeral.inhabited.resolve_left (not_not_intro empty)

/-- After the sign of a numeral there is no other. -/
theorem unsigned (numeral : FloatNumeral) (rest : Bytes) :
    Unsigned (numeral.whole ++ (numeral.tail ++ rest)) := by
  by_cases empty : numeral.whole = []
  · obtain ⟨places, pointed, -⟩ := exists_places empty
    rw [empty, tail, pointed]
    rintro byte ⟨⟩
    rfl
  · exact unsigned_of_digits numeral.wholeDigit empty _

/-- The tail of a numeral ends the run of its whole part. -/
theorem endsRun_tail {numeral : FloatNumeral} (inhabited : numeral.tail ≠ []) (rest : Bytes) :
    EndsRun (numeral.tail ++ rest) := by
  unfold tail at inhabited ⊢
  rw [List.append_assoc]
  cases points : numeral.places? with
  | some places => exact endsRun_point _
  | none =>
      cases exponents : numeral.exponent? with
      | some exponent => exact endsRun_exponent exponent rest
      | none => exact absurd (by rw [points, exponents]; rfl) inhabited

/-- Point, places and exponent of a numeral are taken at least as far as they are
written. Without digits before the point, the point is taken. -/
theorem tail_reached (numeral : FloatNumeral) (rest : Bytes) :
    let taken := fractionPart numeral.whole.isEmpty (numeral.tail ++ rest)
    numeral.tail.length ≤
        (taken ++ exponentPart ((numeral.tail ++ rest).drop taken.length)).length ∧
      (numeral.whole = [] → taken ≠ []) := by
  have needed : numeral.whole.isEmpty = true → ∀ places ∈ numeral.places?, places ≠ [] := by
    intro empty places member
    obtain ⟨same, pointed, inhabited⟩ := exists_places (List.isEmpty_iff.mp empty)
    rw [pointed] at member
    exact Option.mem_some.mp member ▸ inhabited
  rw [tail, List.append_assoc]
  refine ⟨length_fraction_exponent numeral.placeDigit needed numeral.exponent? rest, ?_⟩
  intro empty
  obtain ⟨places, pointed, inhabited⟩ := exists_places empty
  have digit := numeral.placeDigit places pointed
  rw [pointed, empty]
  change fractionPart true (0x2E :: (places ++ _)) ≠ []
  rw [fractionPart_cons_point, digitRun_append digit, if_neg (by simp [inhabited])]
  exact List.cons_ne_nil _ _

end FloatNumeral

/-- Where a numeral is written, a numeral at least as long is taken. -/
theorem floatPrefix?_of_starts (numeral : FloatNumeral) (rest : Bytes) :
    ∃ taken, floatPrefix? (numeral.bytes ++ rest) = some taken ∧
      numeral.bytes.length ≤ taken.length := by
  have written := numeral.bytes_append rest
  have length := congrArg List.length (numeral.bytes_append [])
  generalize numeral.bytes ++ rest = text at written
  have signed : signPart text = numeral.sign.bytes := by
    rw [written, signPart_append _ (numeral.unsigned rest)]
  have body : afterSign text = numeral.whole ++ (numeral.tail ++ rest) := by
    rw [afterSign, signed, written, List.drop_left]
  have run : wholePart text = numeral.whole ++ digitRun (numeral.tail ++ rest) := by
    rw [wholePart, body, digitRun_append numeral.wholeDigit]
  simp only [List.append_nil, List.length_append] at length
  rw [floatPrefix?_eq]
  by_cases plain : numeral.tail = []
  · -- Digits alone: whatever else is taken comes on top of them.
    have inhabited : numeral.whole ≠ [] := by
      intro empty
      obtain ⟨places, pointed, -⟩ := FloatNumeral.exists_places empty
      rw [FloatNumeral.tail, pointed] at plain
      cases plain
    rw [if_neg (by simp [run, inhabited])]
    refine ⟨_, rfl, ?_⟩
    simp only [length, plain, signed, run, List.length_append, List.length_nil]
    omega
  · rw [digitRun_of_endsRun (FloatNumeral.endsRun_tail plain rest), List.append_nil] at run
    have left : afterWhole text = numeral.tail ++ rest := by
      rw [afterWhole, body, run, List.drop_left]
    have taken : pointPart text = fractionPart numeral.whole.isEmpty (numeral.tail ++ rest) := by
      rw [pointPart, run, left]
    obtain ⟨reached, pointed⟩ := numeral.tail_reached rest
    rw [← taken] at reached pointed
    rw [← left] at reached
    have inhabited : ¬ ((wholePart text).isEmpty && (pointPart text).isEmpty) = true := by
      rw [Bool.and_eq_true, List.isEmpty_iff, List.isEmpty_iff, run]
      exact fun both => pointed both.1 both.2
    rw [if_neg inhabited]
    refine ⟨_, rfl, ?_⟩
    simp only [length, signed, run, List.length_append] at reached ⊢
    have same : afterPoint text = (afterWhole text).drop (pointPart text).length := rfl
    rw [same]
    omega

theorem append_afterSign (text : Bytes) : signPart text ++ afterSign text = text :=
  List.prefix_iff_eq_append.mp (signPart_starts text)

theorem append_afterWhole (text : Bytes) : wholePart text ++ afterWhole text = afterSign text :=
  List.prefix_iff_eq_append.mp (digitRun_starts (afterSign text))

theorem append_afterPoint (text : Bytes) : pointPart text ++ afterPoint text = afterWhole text :=
  List.prefix_iff_eq_append.mp (fractionPart_starts _ (afterWhole text))

/-- What is taken is a numeral at the start of the text. -/
theorem exists_numeral_of_floatPrefix? {text taken : Bytes}
    (found : floatPrefix? text = some taken) :
    ∃ (numeral : FloatNumeral) (rest : Bytes), taken = numeral.bytes ∧ text = taken ++ rest := by
  rw [floatPrefix?_eq, Option.ite_none_left_eq_some, Option.some.injEq] at found
  obtain ⟨inhabited, rfl⟩ := found
  rw [Bool.and_eq_true, List.isEmpty_iff, List.isEmpty_iff] at inhabited
  obtain ⟨sign, signed⟩ := exists_signPart text
  obtain ⟨exponent?, rest, exponents, last⟩ : ∃ exponent? rest,
      exponentPart (afterPoint text) = exponentBytes exponent? ∧
        afterPoint text = exponentPart (afterPoint text) ++ rest := by
    rcases exponentPart_cases (afterPoint text) with empty | ⟨exponent, rest, taken, whole⟩
    · exact ⟨none, _, empty, by rw [empty, List.nil_append]⟩
    · exact ⟨some exponent, rest, taken, by rw [taken, ← whole]⟩
  have wholeDigit : ∀ byte ∈ wholePart text, isDigit byte = true := fun _ =>
    isDigit_of_mem_digitRun
  obtain ⟨places?, points, placeDigit, some_digit⟩ : ∃ places?,
      pointPart text = fractionBytes places? ∧
        (∀ places ∈ places?, ∀ byte ∈ places, isDigit byte = true) ∧
        (wholePart text ≠ [] ∨ ∃ places, places? = some places ∧ places ≠ []) := by
    rcases fractionPart_cases (wholePart text).isEmpty (afterWhole text) with
      empty | ⟨more, -, taken, needed⟩
    · exact ⟨none, empty, by simp, .inl fun none => inhabited ⟨none, empty⟩⟩
    · refine ⟨some (digitRun more), taken, ?_, ?_⟩
      · rintro places ⟨⟩ byte
        exact isDigit_of_mem_digitRun
      · by_cases empty : wholePart text = []
        · exact .inr ⟨_, rfl, needed (List.isEmpty_iff.mpr empty)⟩
        · exact .inl empty
  refine ⟨⟨sign, wholePart text, places?, exponent?, wholeDigit, placeDigit, some_digit⟩, rest,
    ?_, ?_⟩
  · rw [FloatNumeral.bytes, ← signed, ← points, ← exponents]
    simp only [List.append_assoc]
  · simp only [List.append_assoc]
    rw [← last, append_afterPoint, append_afterWhole, append_afterSign]

/-- A prefix in the grammar that no other prefix in the grammar exceeds. -/
def LongestNumeral (taken text : Bytes) : Prop :=
  taken <+: text ∧ taken ∈ floatGrammar.matches' ∧
    ∀ other, other <+: text → other ∈ floatGrammar.matches' → other.length ≤ taken.length

/-- There is no prefix exactly if no start of the text is in the grammar. -/
theorem floatPrefix?_eq_none_iff {text : Bytes} :
    floatPrefix? text = none ↔ ∀ taken, taken <+: text → taken ∉ floatGrammar.matches' := by
  constructor
  · rintro unread taken ⟨rest, rfl⟩ inGrammar
    obtain ⟨numeral, rfl⟩ := mem_floatGrammar.mp inGrammar
    obtain ⟨longer, found, -⟩ := floatPrefix?_of_starts numeral rest
    cases unread.symm.trans found
  · intro noNumeral
    cases found : floatPrefix? text with
    | none => rfl
    | some taken =>
        obtain ⟨numeral, rest, same, split⟩ := exists_numeral_of_floatPrefix? found
        exact absurd (mem_floatGrammar.mpr ⟨numeral, same⟩) (noNumeral taken ⟨rest, split.symm⟩)

/-- The prefix is the longest start of the text that is in the grammar. -/
theorem floatPrefix?_eq_some_iff {text taken : Bytes} :
    floatPrefix? text = some taken ↔ LongestNumeral taken text := by
  have longest {taken : Bytes} (found : floatPrefix? text = some taken) :
      LongestNumeral taken text := by
    obtain ⟨numeral, rest, same, split⟩ := exists_numeral_of_floatPrefix? found
    refine ⟨⟨rest, split.symm⟩, mem_floatGrammar.mpr ⟨numeral, same⟩, ?_⟩
    rintro other ⟨more, written⟩ inGrammar
    obtain ⟨another, rfl⟩ := mem_floatGrammar.mp inGrammar
    obtain ⟨longer, foundLonger, reached⟩ := floatPrefix?_of_starts another more
    rw [written, found] at foundLonger
    cases foundLonger
    exact reached
  refine ⟨longest, fun ⟨front, inGrammar, reaches⟩ => ?_⟩
  cases found : floatPrefix? text with
  | none => exact absurd inGrammar (floatPrefix?_eq_none_iff.mp found taken front)
  | some other =>
      obtain ⟨otherFront, otherGrammar, otherReaches⟩ := longest found
      have sameLength : other.length = taken.length :=
        Nat.le_antisymm (reaches other otherFront otherGrammar) (otherReaches taken front inGrammar)
      rw [(List.prefix_of_prefix_length_le otherFront front sameLength.le).eq_of_length sameLength]

/-! ## Scanning by offsets -/

/-- The bytes from an offset on. An offset past the end is refused. -/
def sliceFrom? (text : Bytes) (start : Nat) : Option Bytes :=
  if start ≤ text.length then some (text.drop start) else none

/-- The bytes up to an offset. An offset past the end is refused. -/
def sliceTo? (text : Bytes) (stop : Nat) : Option Bytes :=
  if stop ≤ text.length then some (text.take stop) else none

/-- Where the exponent at an offset ends, or the offset itself where there is none. -/
def exponentEnd (text : Bytes) (mark : Nat) : Nat :=
  if text[mark]?.any fun byte => byte == 0x65 || byte == 0x45 then
    let first := if text[mark + 1]?.any isSign then mark + 2 else mark + 1
    let count := (digitRun (text.drop first)).length
    if count = 0 then mark else first + count
  else mark

/-- The numeral at the start of a text, found by offsets into the text. There is no
result if a slice of the text is taken past its end. -/
def scanByOffsets (text : Bytes) : Option (Option Bytes) := do
  let start := if text.head?.any isSign then 1 else 0
  let whole := (digitRun (← sliceFrom? text start)).length
  let point := start + whole
  let pointed := text[point]? == some 0x2E
  let places := (digitRun (← if pointed then sliceFrom? text (point + 1) else some [])).length
  if whole = 0 ∧ places = 0 then return none
  else
    let mark := if pointed then point + 1 + places else point
    return some (← sliceTo? text (exponentEnd text mark))

theorem sliceFrom?_append (front rest : Bytes) :
    sliceFrom? (front ++ rest) front.length = some rest := by
  rw [sliceFrom?, if_pos (by simp), List.drop_left]

theorem sliceTo?_append (front rest : Bytes) :
    sliceTo? (front ++ rest) front.length = some front := by
  rw [sliceTo?, if_pos (by simp), List.take_left]

theorem getElem?_length (front rest : Bytes) : (front ++ rest)[front.length]? = rest.head? := by
  rw [List.getElem?_append_right (Nat.le_refl _), Nat.sub_self, List.head?_eq_getElem?]

/-- The sign part has one byte or none. -/
theorem length_signPart (text : Bytes) :
    (signPart text).length = if text.head?.any isSign then 1 else 0 := by
  cases text with
  | nil => rfl
  | cons byte rest =>
      rw [signPart, List.head?_cons, Option.any_some]
      split <;> rfl

/-- The offset at the end of the exponent is where the exponent part ends. -/
theorem exponentEnd_append (front rest : Bytes) :
    exponentEnd (front ++ rest) front.length = (front ++ exponentPart rest).length := by
  rw [exponentEnd, getElem?_length, List.length_append]
  cases rest with
  | nil => rfl
  | cons mark rest =>
      have split : front ++ mark :: rest = (front ++ [mark]) ++ rest := by simp
      have next : (front ++ mark :: rest)[front.length + 1]? = rest.head? := by
        rw [split, ← getElem?_length (front ++ [mark]) rest, List.length_append]
        rfl
      have first : (if (front ++ mark :: rest)[front.length + 1]?.any isSign then front.length + 2
          else front.length + 1) = (front ++ [mark] ++ signPart rest).length := by
        rw [next, List.length_append, length_signPart, List.length_append, List.length_singleton]
        split <;> rfl
      have digits : digitRun ((front ++ mark :: rest).drop
          (front ++ [mark] ++ signPart rest).length) =
          digitRun (rest.drop (signPart rest).length) := by
        rw [split, List.length_append, ← List.drop_drop, List.drop_left]
      rw [List.head?_cons, Option.any_some, exponentPart]
      split
      · simp only [first, digits, List.length_eq_zero_iff, List.isEmpty_iff]
        split
        · rfl
        · simp only [List.length_append, List.length_cons, List.length_nil]
          omega
      · rfl

theorem exponentPart_starts (text : Bytes) : exponentPart text <+: text := by
  rcases exponentPart_cases text with empty | ⟨exponent, rest, taken, split⟩
  · rw [empty]
    exact List.nil_prefix
  · rw [taken]
    exact ⟨rest, split.symm⟩

/-- The slice up to the end of the exponent is in range. -/
theorem sliceTo?_exponentEnd (front rest : Bytes) :
    sliceTo? (front ++ rest) (exponentEnd (front ++ rest) front.length) =
      some (front ++ exponentPart rest) := by
  obtain ⟨last, split⟩ := exponentPart_starts rest
  have text : front ++ rest = front ++ exponentPart rest ++ last := by
    rw [List.append_assoc, split]
  rw [exponentEnd_append]
  nth_rewrite 1 [text]
  exact sliceTo?_append _ last

/-- No slice is taken past the end, and the scan by offsets finds the same numeral. -/
theorem scanByOffsets_eq (text : Bytes) : scanByOffsets text = some (floatPrefix? text) := by
  let front := signPart text ++ wholePart text
  have split : front ++ afterWhole text = text := by
    rw [List.append_assoc, append_afterWhole, append_afterSign]
  have body : sliceFrom? text (signPart text).length = some (afterSign text) := by
    have slice := sliceFrom?_append (signPart text) (afterSign text)
    rwa [append_afterSign] at slice
  have head : text[front.length]? = (afterWhole text).head? := by
    have byte := getElem?_length front (afterWhole text)
    rwa [split] at byte
  have last : sliceTo? text (exponentEnd text (front ++ pointPart text).length) =
      some (front ++ pointPart text ++ exponentPart (afterPoint text)) := by
    have slice := sliceTo?_exponentEnd (front ++ pointPart text) (afterPoint text)
    rwa [List.append_assoc, append_afterPoint, split] at slice
  have length : (signPart text).length + (wholePart text).length = front.length :=
    List.length_append.symm
  have whole : (digitRun (afterSign text)).length = (wholePart text).length := rfl
  rw [floatPrefix?_eq, scanByOffsets]
  simp only [← length_signPart, body, Option.bind_eq_bind, Option.bind_some, whole, length, head]
  by_cases pointed : (afterWhole text).head? = some 0x2E
  · obtain ⟨rest, tail⟩ : ∃ rest, afterWhole text = 0x2E :: rest := by
      cases written : afterWhole text with
      | nil => simp [written] at pointed
      | cons byte rest =>
          rw [written, List.head?_cons, Option.some.injEq] at pointed
          exact ⟨rest, by rw [pointed]⟩
    have places : sliceFrom? text (front.length + 1) = some rest := by
      have slice := sliceFrom?_append (front ++ [0x2E]) rest
      rwa [List.append_assoc, List.singleton_append, ← tail, split, List.length_append] at slice
    have taken : pointPart text = if (wholePart text).isEmpty && (digitRun rest).isEmpty then []
        else 0x2E :: digitRun rest := by
      rw [pointPart, tail, fractionPart_cons_point]
    simp only [pointed, beq_self_eq_true, if_true, places, Option.bind_some,
      List.length_eq_zero_iff]
    by_cases empty : wholePart text = [] ∧ digitRun rest = []
    · rw [if_pos empty, taken]
      simp [empty]
    · have kept : ¬ ((wholePart text).isEmpty && (digitRun rest).isEmpty) = true := by
        rwa [Bool.and_eq_true, List.isEmpty_iff, List.isEmpty_iff]
      rw [if_neg kept] at taken
      have mark : front.length + 1 + (digitRun rest).length = (front ++ pointPart text).length := by
        simp only [taken, List.length_append, List.length_cons]
        omega
      rw [if_neg empty, mark, last, if_neg (by simp [taken])]
      rfl
  · have nothing : pointPart text = [] := by
      rcases fractionPart_cases (wholePart text).isEmpty (afterWhole text) with
        empty | ⟨rest, tail, -⟩
      · exact empty
      · exact absurd (by rw [tail]; rfl) pointed
    have notPointed : ((afterWhole text).head? == some 0x2E) = false := by simpa using pointed
    rw [nothing, List.append_nil] at last
    simp only [notPointed, Bool.false_eq_true, if_false, Option.bind_some, last, nothing]
    by_cases empty : wholePart text = []
    · simp [empty, digitRun]
    · simp [empty, front]

/-! ## Reading a numeral -/

/-- Bytes below 128 are valid text. -/
theorem isValid_of_ascii {bytes : Bytes} (ascii : ∀ byte ∈ bytes, byte.toNat < 128) :
    Utf8.isValid bytes = true := by
  induction bytes with
  | nil => simp [Utf8.isValid]
  | cons byte bytes ih =>
      rw [List.forall_mem_cons] at ascii
      rw [Utf8.isValid, Utf8.decode_one ascii.1, List.all_cons]
      exact ih ascii.2

theorem toNat_lt_of_isDigit {byte : UInt8} (digit : isDigit byte = true) : byte.toNat < 128 := by
  simp only [isDigit, UInt8.le_iff_toNat_le, Bool.and_eq_true, decide_eq_true_eq] at digit
  have below : byte.toNat ≤ 57 := digit.2
  omega

/-- The text of an exponent is read as a number. -/
theorem Exponent.exists_readExponent? (exponent : Exponent) :
    ∃ n, readExponent? exponent.bytes = some n := by
  obtain ⟨mark, sign, digits, isMark, digit, inhabited⟩ := exponent
  have unsigned := unsigned_of_digits digit inhabited []
  rw [List.append_nil] at unsigned
  have wellFormed :
      ((mark == 0x65 || mark == 0x45) && !digits.isEmpty && digits.all isDigit) = true := by
    simp only [Bool.and_eq_true, Bool.or_eq_true, beq_iff_eq, Bool.not_eq_true',
      List.isEmpty_eq_false_iff, List.all_eq_true]
    exact ⟨⟨isMark, inhabited⟩, digit⟩
  rw [Exponent.bytes, readExponent?, splitSign_append sign unsigned]
  exact ⟨_, if_pos wellFormed⟩

theorem exists_readExponent? (exponent? : Option Exponent) :
    ∃ n, readExponent? (exponentBytes exponent?) = some n := by
  cases exponent? with
  | none => exact ⟨0, rfl⟩
  | some exponent => exact exponent.exists_readExponent?

theorem endsRun_exponentBytes (exponent? : Option Exponent) :
    EndsRun (exponentBytes exponent?) := by
  cases exponent? with
  | none => exact endsRun_nil
  | some exponent =>
      rintro byte ⟨⟩
      exact (isMark_apart exponent.isMark).1

/-- The places after the point are read up to the exponent. -/
theorem splitPlaces_append
    {places? : Option Bytes}
    (digit : ∀ places ∈ places?, ∀ byte ∈ places, isDigit byte = true)
    (exponent? : Option Exponent) :
    splitPlaces (fractionBytes places? ++ exponentBytes exponent?) =
      (places?.getD [], exponentBytes exponent?) := by
  cases places? with
  | some places =>
      have run : digitRun (places ++ exponentBytes exponent?) = places := by
        rw [digitRun_append (digit places rfl),
          digitRun_of_endsRun (endsRun_exponentBytes exponent?), List.append_nil]
      change (digitRun (places ++ _), (places ++ _).drop (digitRun (places ++ _)).length) = _
      rw [run, List.drop_left]
      rfl
  | none =>
      cases exponent? with
      | none => rfl
      | some exponent =>
          rcases exponent.isMark with mark | mark <;>
            rw [fractionBytes, exponentBytes, Exponent.bytes, mark] <;> rfl

namespace FloatNumeral

/-- A numeral has bytes below 128 only. -/
theorem ascii (numeral : FloatNumeral) : ∀ byte ∈ numeral.bytes, byte.toNat < 128 := by
  have signed (sign : Sign) : ∀ byte ∈ sign.bytes, byte.toNat < 128 := by
    cases sign <;> simp [Sign.bytes]
  have fraction : ∀ byte ∈ fractionBytes numeral.places?, byte.toNat < 128 := by
    cases points : numeral.places? with
    | none => simp [fractionBytes]
    | some places =>
        rw [fractionBytes, List.forall_mem_cons]
        exact ⟨by decide, fun byte member =>
          toNat_lt_of_isDigit (numeral.placeDigit places points byte member)⟩
  have exponent : ∀ byte ∈ exponentBytes numeral.exponent?, byte.toNat < 128 := by
    cases numeral.exponent? with
    | none => simp [exponentBytes]
    | some exponent =>
        rw [exponentBytes, Exponent.bytes, List.forall_mem_cons, List.forall_mem_append]
        refine ⟨?_, signed exponent.sign, fun byte member =>
          toNat_lt_of_isDigit (exponent.digit byte member)⟩
        rcases exponent.isMark with mark | mark <;> rw [mark] <;> decide
  simp only [bytes, List.forall_mem_append]
  have whole : ∀ byte ∈ numeral.whole, byte.toNat < 128 :=
    fun byte member => toNat_lt_of_isDigit (numeral.wholeDigit byte member)
  exact ⟨signed numeral.sign, whole, fraction, exponent⟩

/-- A complete float numeral is read as a float. -/
theorem exists_readFloat? (numeral : FloatNumeral) : ∃ x, readFloat? numeral.bytes = some x := by
  have ends : EndsRun numeral.tail := by
    by_cases empty : numeral.tail = []
    · exact empty ▸ endsRun_nil
    · simpa using endsRun_tail empty []
  have run : digitRun (numeral.whole ++ numeral.tail) = numeral.whole := by
    rw [digitRun_append numeral.wholeDigit, digitRun_of_endsRun ends, List.append_nil]
  have unsigned : Unsigned (numeral.whole ++ numeral.tail) := by
    simpa using numeral.unsigned []
  have needed : ¬ (numeral.whole.isEmpty && (numeral.places?.getD []).isEmpty) = true := by
    rw [Bool.and_eq_true, List.isEmpty_iff, List.isEmpty_iff]
    rintro ⟨empty, none⟩
    obtain ⟨places, points, inhabited⟩ := exists_places empty
    rw [points] at none
    exact inhabited none
  obtain ⟨n, exponents⟩ := exists_readExponent? numeral.exponent?
  have split := splitSign_append numeral.sign unsigned
  have places : splitPlaces numeral.tail = _ := splitPlaces_append numeral.placeDigit _
  have written : numeral.bytes = numeral.sign.bytes ++ (numeral.whole ++ numeral.tail) := rfl
  rw [readFloat?, written, split]
  simp only [run, List.drop_left, places]
  rw [if_neg needed, exponents]
  exact ⟨_, rfl⟩

end FloatNumeral

/-- A string converts to a float by the longest prefix, after blanks, that is in the
grammar of float numerals, and does not convert if there is no such prefix. A scan by
offsets takes no slice past the end and finds the same prefix. What is found is a
text that can be read, so a prefix in the grammar always gives a float. -/
theorem leadingFloat_reads_longest_numeral (bytes : Bytes) :
    let text := skipBlanks bytes
    (∃ blanks, bytes = blanks ++ text ∧ (∀ byte ∈ blanks, Text.isNumeralBlank byte = true) ∧
      ∀ byte, text.head? = some byte → Text.isNumeralBlank byte = false) ∧
    (∀ taken, floatPrefix? text = some taken ↔ LongestNumeral taken text) ∧
    scanByOffsets text = some (floatPrefix? text) ∧
    (∀ taken, floatPrefix? text = some taken → Utf8.isValid taken = true ∧
      ∃ x, readFloat? taken = some x ∧ leadingFloat? bytes = some x) ∧
    (leadingFloat? bytes = none ↔
      ∀ taken, taken <+: text → taken ∉ floatGrammar.matches') := by
  intro text
  have read : ∀ taken, floatPrefix? text = some taken → Utf8.isValid taken = true ∧
      ∃ x, readFloat? taken = some x ∧ leadingFloat? bytes = some x := by
    intro taken found
    obtain ⟨numeral, -, rfl, -⟩ := exists_numeral_of_floatPrefix? found
    obtain ⟨x, converted⟩ := numeral.exists_readFloat?
    refine ⟨isValid_of_ascii numeral.ascii, x, converted, ?_⟩
    rw [leadingFloat?, found, Option.bind_some, converted]
  refine ⟨exists_blanks bytes, fun taken => floatPrefix?_eq_some_iff, scanByOffsets_eq text, read,
    ?_⟩
  rw [← floatPrefix?_eq_none_iff]
  cases found : floatPrefix? text with
  | none =>
      refine iff_of_true ?_ rfl
      rw [leadingFloat?, found, Option.bind_none]
  | some taken =>
      obtain ⟨-, x, -, converted⟩ := read taken found
      exact iff_of_false (by simp [converted]) (by simp)

/-- A numeral after a blank, with a mark and a sign but no digits of an exponent behind
it, and bytes that are no text. -/
def unfinishedSample : Bytes :=
  [0x20, 0x2D, 0x31, 0x2E, 0x35, 0x65, 0x2B, 0xFF]

/-- An exponent mark without digits is left out of the numeral. -/
theorem unfinishedSample_reads_longest_numeral :
    let taken : Bytes := [0x2D, 0x31, 0x2E, 0x35]
    floatPrefix? (skipBlanks unfinishedSample) = some taken ∧
      LongestNumeral taken (skipBlanks unfinishedSample) ∧
      Utf8.isValid taken = true ∧
      ∃ x, readFloat? taken = some x ∧ leadingFloat? unfinishedSample = some x := by
  have found : floatPrefix? (skipBlanks unfinishedSample) = some [0x2D, 0x31, 0x2E, 0x35] := by
    decide
  obtain ⟨-, longest, -, read, -⟩ := leadingFloat_reads_longest_numeral unfinishedSample
  exact ⟨found, (longest _).mp found, read _ found⟩

end Numeral
end ScriptCore
