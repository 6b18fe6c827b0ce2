import Mathlib
import ScriptCore.Proofs.Signature.Binding

/-!
# The grammar of prototypes

A prototype is a line of characters, each of which is `?` or the letter of a tag
in either case; its last character may also be `*`. Reading a prototype accepts
these lines and no others, and its text is the line that was read. The first
character at which a line leaves the grammar names the fault.
-/

namespace ScriptCore

/-! ## Letters -/

namespace Tag

/-- The letters of every tag, lowercase and uppercase. -/
def letters : List (Char × Char × Tag) :=
  [('v', 'V', .void), ('b', 'B', .bool), ('i', 'I', .int), ('f', 'F', .float), ('s', 'S', .str),
    ('a', 'A', .array), ('r', 'R', .record), ('c', 'C', .function), ('h', 'H', .resource)]

variable {code lower upper : Char} {tag : Tag}

theorem mem_letters_iff :
    (lower, upper, tag) ∈ letters ↔ lower = tag.code ∧ upper = tag.code.toUpper := by
  cases tag <;> simp [letters, Tag.code]

theorem isLower_code (tag : Tag) : tag.code.isLower = true := by
  cases tag <;> rfl

theorem isUpper_of_letters (letter : (lower, upper, tag) ∈ letters) :
    lower.isUpper = false ∧ upper.isUpper = true := by
  obtain ⟨rfl, rfl⟩ := mem_letters_iff.mp letter
  cases tag <;> exact ⟨rfl, rfl⟩

/-- A code stands for a tag in either case. -/
theorem ofCode?_eq_some_iff : ofCode? code = some tag ↔ code.toLower = tag.code := by
  constructor
  · intro found
    have same := List.find?_some found
    exact (beq_iff_eq.mp same).symm
  · intro same
    rw [ofCode?, same]
    cases tag <;> rfl

/-- A tag is read from its two letters only. -/
theorem ofCode?_eq_some_iff_letters :
    ofCode? code = some tag ↔
      ∃ lower upper, (lower, upper, tag) ∈ letters ∧ (code = lower ∨ code = upper) := by
  have notUpper : ¬tag.code.isUpper = true := Char.not_isUpper_of_isLower tag.isLower_code
  simp only [ofCode?_eq_some_iff, mem_letters_iff, exists_eq_left, and_assoc,
    exists_and_left]
  constructor
  · intro same
    rw [← same]
    by_cases isUpper : code.isUpper = true
    · right
      rw [Char.toUpper_toLower_eq_toUpper,
        Char.toUpper_eq_of_not_isLower (Char.not_isLower_of_isUpper isUpper)]
    · left
      rw [Char.toLower_eq_of_not_isUpper isUpper]
  · rintro (rfl | rfl)
    · exact Char.toLower_eq_of_not_isUpper notUpper
    · rw [Char.toLower_toUpper_eq_toLower, Char.toLower_eq_of_not_isUpper notUpper]

end Tag

/-! ## Positions -/

namespace Prototype

/-- What a character of a prototype stands for. -/
inductive Stands : Char → ParamSpec → Prop where
  | any : Stands '?' .any
  | rest : Stands '*' .rest
  | hint {lower upper : Char} {tag : Tag} (letter : (lower, upper, tag) ∈ Tag.letters) :
      Stands lower (.hint tag)
  | forced {lower upper : Char} {tag : Tag} (letter : (lower, upper, tag) ∈ Tag.letters) :
      Stands upper (.forced tag)

/-- The characters that may stand anywhere in a prototype: `?` and the letters. -/
def IsPlain (code : Char) : Prop :=
  code = '?' ∨ ∃ lower upper tag, (lower, upper, tag) ∈ Tag.letters ∧ (code = lower ∨ code = upper)

/-- The lines that are prototypes. -/
def Grammatical (codes : List Char) : Prop :=
  ∀ index code, codes[index]? = some code →
    IsPlain code ∨ code = '*' ∧ index + 1 = codes.length

/-- Why a character does not belong where it stands, in front of the given rest. -/
inductive Offends (code : Char) (after : List Char) : PrototypeFault → Prop where
  | restNotLast (star : code = '*') (more : after ≠ []) : Offends code after .restNotLast
  | unknownCode (noStar : code ≠ '*') (unknown : ¬IsPlain code) :
      Offends code after (.unknownCode code)

/-- The fault of a line is that of its first character that does not belong where
it stands. -/
def FaultyAt (codes : List Char) (fault : PrototypeFault) : Prop :=
  ∃ before code after, codes = before ++ code :: after ∧ (∀ earlier ∈ before, IsPlain earlier) ∧
    Offends code after fault

variable {code : Char} {codes : List Char} {isLast : Bool} {param : ParamSpec}
  {params : List ParamSpec} {fault : PrototypeFault} {prototype : Prototype} {source : String}

theorem isPlain_iff_ofCode? (noQuery : code ≠ '?') :
    IsPlain code ↔ ∃ tag, Tag.ofCode? code = some tag := by
  simp only [IsPlain, noQuery, false_or, Tag.ofCode?_eq_some_iff_letters]
  constructor
  · rintro ⟨lower, upper, tag, letter⟩
    exact ⟨tag, lower, upper, letter⟩
  · rintro ⟨tag, lower, upper, letter⟩
    exact ⟨lower, upper, tag, letter⟩

theorem not_isPlain_star : ¬IsPlain '*' := by
  have unknown : Tag.ofCode? '*' = none := by decide
  simp [isPlain_iff_ofCode?, unknown]

/-- Only the star stands for the rest. -/
theorem Stands.isPlain (stands : Stands code param) (notRest : param ≠ .rest) : IsPlain code := by
  cases stands with
  | any => exact .inl rfl
  | rest => exact absurd rfl notRest
  | hint letter => exact .inr ⟨_, _, _, letter, .inl rfl⟩
  | forced letter => exact .inr ⟨_, _, _, letter, .inr rfl⟩

/-- The text of a position is the character that it was read from. -/
theorem Stands.code_eq (stands : Stands code param) : param.code = code := by
  cases stands with
  | any => rfl
  | rest => rfl
  | hint letter => exact (Tag.mem_letters_iff.mp letter).1.symm
  | forced letter => exact (Tag.mem_letters_iff.mp letter).2.symm

theorem Stands.eq_rest_iff (stands : Stands code param) : param = .rest ↔ code = '*' := by
  constructor
  · rintro rfl
    exact stands.code_eq.symm
  · rintro rfl
    by_contra notRest
    exact not_isPlain_star (stands.isPlain notRest)

/-! ## Reading -/

/-- Every code of the grammar stands for something. -/
theorem exists_stands (belongs : IsPlain code ∨ code = '*') : ∃ param, Stands code param := by
  rcases belongs with (rfl | ⟨lower, upper, tag, letter, rfl | rfl⟩) | rfl
  · exact ⟨_, .any⟩
  · exact ⟨_, .hint letter⟩
  · exact ⟨_, .forced letter⟩
  · exact ⟨_, .rest⟩

/-- A letter in upper case forces its tag, and one in lower case is a hint. -/
theorem parseParam_of_tag {tag : Tag} (found : Tag.ofCode? code = some tag) :
    parseParam code isLast = .ok (if code.isUpper then .forced tag else .hint tag) := by
  have noQuery : code ≠ '?' := by
    rintro rfl
    cases found
  have noStar : code ≠ '*' := by
    rintro rfl
    cases found
  simp only [parseParam, noQuery, noStar, if_false, found]

/-- A code of the grammar is read as what it stands for. -/
theorem parseParam_of_stands
    (stands : Stands code param)
    (last : code = '*' → isLast = true) :
    parseParam code isLast = .ok param := by
  cases stands with
  | any => rfl
  | rest =>
      rw [last rfl]
      rfl
  | hint letter =>
      rw [parseParam_of_tag (Tag.ofCode?_eq_some_iff_letters.mpr ⟨_, _, letter, .inl rfl⟩),
        (Tag.isUpper_of_letters letter).1]
      rfl
  | forced letter =>
      rw [parseParam_of_tag (Tag.ofCode?_eq_some_iff_letters.mpr ⟨_, _, letter, .inr rfl⟩),
        (Tag.isUpper_of_letters letter).2]
      rfl

/-- An offending code is refused with its own fault. -/
theorem parseParam_of_offends
    {after : List Char}
    (offends : Offends code after fault) :
    parseParam code after.isEmpty = .error fault := by
  cases offends with
  | restNotLast star more => simp [parseParam, star, more]
  | unknownCode noStar unknown =>
      have noQuery : code ≠ '?' := fun query => unknown (.inl query)
      have missing : Tag.ofCode? code = none := by
        rw [isPlain_iff_ofCode? noQuery] at unknown
        simpa [Option.eq_none_iff_forall_ne_some] using unknown
      simp [parseParam, noQuery, noStar, missing]

/-- A line is grammatical if its first code belongs there and the rest is
grammatical. -/
theorem grammatical_cons :
    Grammatical (code :: codes) ↔
      (IsPlain code ∨ code = '*' ∧ codes = []) ∧ Grammatical codes := by
  constructor
  · intro grammatical
    refine ⟨?_, fun index other there => ?_⟩
    · simpa using grammatical 0 code rfl
    · simpa using grammatical (index + 1) other (by simpa using there)
  · rintro ⟨first, others⟩ index other there
    cases index with
    | zero =>
        cases there
        simpa using first
    | succ index => simpa using others index other (by simpa using there)

/-- Reading a line of the grammar gives what its characters stand for. -/
theorem parseParams_of_grammatical (grammatical : Grammatical codes) :
    ∃ params, parseParams codes = .ok params ∧ List.Forall₂ Stands codes params := by
  induction codes with
  | nil => exact ⟨[], rfl, .nil⟩
  | cons code codes ih =>
      obtain ⟨belongs, others⟩ := grammatical_cons.mp grammatical
      obtain ⟨params, read, rest⟩ := ih others
      obtain ⟨param, stands⟩ := exists_stands (belongs.imp_right And.left)
      have last : code = '*' → codes.isEmpty = true := by
        rintro rfl
        simp [(belongs.resolve_left not_isPlain_star).2]
      refine ⟨param :: params, ?_, .cons stands rest⟩
      rw [parseParams, parseParam_of_stands stands last, read]
      rfl

/-- Reading any other line stops at its first fault. -/
theorem parseParams_of_faultyAt (faulty : FaultyAt codes fault) :
    parseParams codes = .error fault := by
  obtain ⟨before, code, after, rfl, plain, offends⟩ := faulty
  induction before with
  | nil =>
      rw [List.nil_append, parseParams, parseParam_of_offends offends]
      rfl
  | cons earlier before ih =>
      rw [List.forall_mem_cons] at plain
      obtain ⟨param, stands⟩ := exists_stands (.inl plain.1)
      have noStar : earlier ≠ '*' := by
        rintro rfl
        exact not_isPlain_star plain.1
      rw [List.cons_append, parseParams, parseParam_of_stands stands (absurd · noStar),
        ih plain.2]
      rfl

/-- A code either belongs before what follows it or offends. -/
theorem belongs_or_offends (code : Char) (after : List Char) :
    (IsPlain code ∨ code = '*' ∧ after = []) ∨ ∃ fault, Offends code after fault := by
  by_cases plain : IsPlain code
  · exact .inl (.inl plain)
  by_cases star : code = '*'
  · by_cases last : after = []
    · exact .inl (.inr ⟨star, last⟩)
    · exact .inr ⟨_, .restNotLast star last⟩
  · exact .inr ⟨_, .unknownCode star plain⟩

/-- A line is grammatical or has a first fault. -/
theorem grammatical_or_faultyAt (codes : List Char) :
    Grammatical codes ∨ ∃ fault, FaultyAt codes fault := by
  induction codes with
  | nil => exact .inl (by simp [Grammatical])
  | cons code codes ih =>
      rcases belongs_or_offends code codes with belongs | ⟨fault, offends⟩
      · rcases ih with
          grammatical | ⟨fault, before, other, after, rfl, plain, offends⟩
        · exact .inl (grammatical_cons.mpr ⟨belongs, grammatical⟩)
        · have first : IsPlain code := belongs.resolve_right (by simp)
          exact .inr ⟨fault, code :: before, other, after, rfl,
            List.forall_mem_cons.mpr ⟨first, plain⟩, offends⟩
      · exact .inr ⟨fault, [], code, codes, rfl, by simp, offends⟩

theorem parse_eq_ok_iff :
    parse source = .ok prototype ↔ parseParams source.toList = .ok prototype.params := by
  unfold parse
  cases parseParams source.toList with
  | error fault => simp [Except.map]
  | ok params =>
      obtain ⟨expected⟩ := prototype
      simp [Except.map]

theorem parse_eq_error_iff :
    parse source = .error fault ↔ parseParams source.toList = .error fault := by
  unfold parse
  cases parseParams source.toList <;> simp [Except.map]

theorem grammatical_of_parse (parsed : parse source = .ok prototype) :
    Grammatical source.toList ∧ List.Forall₂ Stands source.toList prototype.params := by
  rw [parse_eq_ok_iff] at parsed
  rcases grammatical_or_faultyAt source.toList with grammatical | ⟨fault, faulty⟩
  · obtain ⟨params, read, stands⟩ := parseParams_of_grammatical grammatical
    cases parsed.symm.trans read
    exact ⟨grammatical, stands⟩
  · cases parsed.symm.trans (parseParams_of_faultyAt faulty)

/-- A text is refused exactly for its first fault. -/
theorem parse_eq_error_iff_faultyAt :
    parse source = .error fault ↔ FaultyAt source.toList fault := by
  rw [parse_eq_error_iff]
  refine ⟨fun failed => ?_, parseParams_of_faultyAt⟩
  rcases grammatical_or_faultyAt source.toList with grammatical | ⟨other, faulty⟩
  · obtain ⟨params, read, -⟩ := parseParams_of_grammatical grammatical
    cases failed.symm.trans read
  · cases failed.symm.trans (parseParams_of_faultyAt faulty)
    exact faulty

/-! ## Looking positions up -/

theorem map_code_of_stands (stands : List.Forall₂ Stands codes params) :
    params.map ParamSpec.code = codes := by
  induction stands with
  | nil => rfl
  | cons first others ih => rw [List.map_cons, first.code_eq, ih]

/-- The rest is at the positions of stars. -/
theorem getElem?_eq_rest_iff (stands : List.Forall₂ Stands codes params) (index : Nat) :
    params[index]? = some .rest ↔ codes[index]? = some '*' := by
  induction stands generalizing index with
  | nil => simp
  | cons first others ih =>
      cases index with
      | zero => simpa using first.eq_rest_iff
      | succ index => simpa using ih index

/-- A `*` can only be the last character. -/
theorem Grammatical.getElem?_eq_star_iff (grammatical : Grammatical codes) (index : Nat) :
    codes[index]? = some '*' ↔ index = codes.length - 1 ∧ codes.getLast? = some '*' := by
  rw [List.getLast?_eq_getElem?]
  constructor
  · intro there
    have last := ((grammatical index '*' there).resolve_left not_isPlain_star).2
    obtain rfl : index = codes.length - 1 := by omega
    exact ⟨rfl, there⟩
  · rintro ⟨rfl, there⟩
    exact there

/-- The rest begins at the last position, and only if a star is there. -/
theorem restPosition?_eq_some_iff_star
    (grammatical : Grammatical codes)
    (stands : List.Forall₂ Stands codes prototype.params)
    {star : Nat} :
    prototype.restPosition? = some star ↔ star = codes.length - 1 ∧ codes.getLast? = some '*' := by
  rw [restPosition?_eq_some_iff, getElem?_eq_rest_iff stands, grammatical.getElem?_eq_star_iff,
    and_iff_left_iff_imp]
  rintro ⟨rfl, -⟩ earlier before there
  rw [getElem?_eq_rest_iff stands, grammatical.getElem?_eq_star_iff] at there
  omega

theorem restPosition?_eq_none_iff_star
    (grammatical : Grammatical codes)
    (stands : List.Forall₂ Stands codes prototype.params) :
    prototype.restPosition? = none ↔ codes.getLast? ≠ some '*' := by
  rw [Option.eq_none_iff_forall_ne_some]
  simp [restPosition?_eq_some_iff_star grammatical stands]

/-- From its `*` on a prototype takes everything. -/
theorem specAt_of_star
    (stands : List.Forall₂ Stands codes prototype.params)
    {star position : Nat}
    (there : codes[star]? = some '*')
    (reached : star ≤ position) :
    prototype.specAt position = .rest := by
  rw [← getElem?_eq_rest_iff stands] at there
  rcases prototype.specAt_cases position with ⟨spec, -⟩ | ⟨-, noStar⟩
  · exact spec
  · exact absurd there (noStar star reached)

/-- Without a `*` in front, a position is looked up among the positions read. -/
theorem specAt_of_no_star
    (stands : List.Forall₂ Stands codes prototype.params)
    {position : Nat}
    (noStar : ∀ star ≤ position, codes[star]? ≠ some '*') :
    prototype.specAt position = prototype.params[position]?.getD .any := by
  rcases prototype.specAt_cases position with ⟨-, star, reached, there⟩ | ⟨spec, -⟩
  · rw [getElem?_eq_rest_iff stands] at there
    exact absurd there (noStar star reached)
  · exact spec

/-- A position of the prototype is looked up as it was read. -/
theorem specAt_of_getElem?
    (grammatical : Grammatical codes)
    (stands : List.Forall₂ Stands codes prototype.params)
    {position : Nat}
    (there : prototype.params[position]? = some param) :
    prototype.specAt position = param := by
  by_cases star : codes[position]? = some '*'
  · rw [specAt_of_star stands star le_rfl]
    rw [← getElem?_eq_rest_iff stands, there] at star
    exact (Option.some.inj star).symm
  · have inside : position < codes.length := by
      rw [stands.length_eq]
      exact (List.getElem?_eq_some_iff.mp there).1
    rw [specAt_of_no_star stands, there, Option.getD_some]
    intro other reached found
    obtain ⟨rfl, -⟩ := (grammatical.getElem?_eq_star_iff other).mp found
    obtain rfl : codes.length - 1 = position := by omega
    exact star found

/-- A line is read exactly if it is in the grammar. What was read has the line as
its text and is read again from it; a `*` is found at its end, and every position
is looked up as the line says. Any other line has the fault of its first
character that does not belong where it stands. -/
theorem parse_accepts_exactly_the_grammar (source : String) :
    ((∃ prototype, parse source = .ok prototype) ↔ Grammatical source.toList) ∧
    (∀ prototype, parse source = .ok prototype →
      prototype.toText = source ∧
      parse prototype.toText = .ok prototype ∧
      List.Forall₂ Stands source.toList prototype.params ∧
      (prototype.restPosition? = some (source.toList.length - 1) ↔
        source.toList.getLast? = some '*') ∧
      (prototype.restPosition? = none ↔ source.toList.getLast? ≠ some '*') ∧
      ∀ position,
        (∀ star ≤ position, source.toList[star]? = some '*' →
          prototype.specAt position = .rest) ∧
        ('*' ∉ source.toList → source.toList.length ≤ position →
          prototype.specAt position = .any) ∧
        ∀ param, prototype.params[position]? = some param →
          prototype.specAt position = param) ∧
    ∀ fault, parse source = .error fault ↔ FaultyAt source.toList fault := by
  refine ⟨⟨?_, ?_⟩, ?_, fun fault => parse_eq_error_iff_faultyAt⟩
  · rintro ⟨prototype, parsed⟩
    exact (grammatical_of_parse parsed).1
  · intro grammatical
    obtain ⟨params, read, -⟩ := parseParams_of_grammatical grammatical
    exact ⟨⟨params⟩, parse_eq_ok_iff.mpr read⟩
  · intro prototype parsed
    obtain ⟨grammatical, stands⟩ := grammatical_of_parse parsed
    have text : prototype.toText = source := by
      rw [toText, map_code_of_stands stands, String.ofList_toList]
    refine ⟨text, text ▸ parsed, stands, ?_, restPosition?_eq_none_iff_star grammatical stands, ?_⟩
    · rw [restPosition?_eq_some_iff_star grammatical stands]
      exact and_iff_right rfl
    · intro position
      refine ⟨fun star reached there => specAt_of_star stands there reached, ?_,
        fun param there => specAt_of_getElem? grammatical stands there⟩
      intro noStar beyond
      rw [specAt_of_no_star stands fun star _ there => noStar (List.mem_of_getElem? there),
        List.getElem?_eq_none (stands.length_eq ▸ beyond), Option.getD_none]

/-- A forced position, a hint, a free position and a rest are read; of two faults
the first one counts. -/
theorem samples_are_parsed :
    (∃ prototype, parse "Is?*" = .ok prototype ∧ prototype.toText = "Is?*" ∧
      prototype.restPosition? = some 3 ∧ prototype.specAt 1 = .hint .str ∧
      prototype.specAt 7 = .rest) ∧
    parse "bx*A" = .error (.unknownCode 'x') ∧ FaultyAt "bx*A".toList (.unknownCode 'x') := by
  have parsed : parse "Is?*" = .ok ⟨[.forced .int, .hint .str, .any, .rest]⟩ := by rfl
  have failed : parse "bx*A" = .error (.unknownCode 'x') := by rfl
  obtain ⟨text, -, -, star, -, looksUp⟩ := (parse_accepts_exactly_the_grammar "Is?*").2.1 _ parsed
  refine ⟨⟨_, parsed, text, star.mpr (by decide), (looksUp 1).2.2 _ rfl, ?_⟩, failed,
    ((parse_accepts_exactly_the_grammar "bx*A").2.2 _).mp failed⟩
  exact (looksUp 7).1 3 (by decide) (by decide)

end Prototype
end ScriptCore
