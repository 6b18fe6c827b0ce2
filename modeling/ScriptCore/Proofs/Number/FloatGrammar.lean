import Mathlib.Computability.RegularExpressions
import ScriptCore.Proofs.Number.IntegerNumerals

/-!
# The grammar of float numerals

The grammar is a regular expression over bytes. Its words are the numerals with a
sign, digits before and after a point, and an exponent. Each part may be missing, but
there is a digit before the point or after it.
-/

namespace ScriptCore
namespace Numeral

open RegularExpression

/-! ## The grammar -/

/-- One byte of a list. -/
def oneOf (bytes : Bytes) : RegularExpression UInt8 :=
  (bytes.map char).sum

/-- At most one occurrence. -/
def optional (expression : RegularExpression UInt8) : RegularExpression UInt8 :=
  1 + expression

/-- At least one occurrence. -/
def many (expression : RegularExpression UInt8) : RegularExpression UInt8 :=
  expression * expression.star

/-- An ASCII digit. -/
def digitByte : RegularExpression UInt8 :=
  oneOf [0x30, 0x31, 0x32, 0x33, 0x34, 0x35, 0x36, 0x37, 0x38, 0x39]

/-- A plus or minus sign. -/
def signByte : RegularExpression UInt8 :=
  oneOf [0x2B, 0x2D]

/-- Digits with or without a point, on at least one side of it. -/
def mantissa : RegularExpression UInt8 :=
  many digitByte * optional (char 0x2E * digitByte.star) + char 0x2E * many digitByte

/-- A mark, `e` or `E`, and an integer. -/
def exponent : RegularExpression UInt8 :=
  oneOf [0x65, 0x45] * optional signByte * many digitByte

/-- The grammar of float numerals. -/
def floatGrammar : RegularExpression UInt8 :=
  optional signByte * mantissa * optional exponent

theorem mem_oneOf {bytes word : Bytes} :
    word ∈ (oneOf bytes).matches' ↔ ∃ byte ∈ bytes, word = [byte] := by
  induction bytes with
  | nil => simp [oneOf]
  | cons byte bytes ih =>
      rw [oneOf, List.map_cons, List.sum_cons, matches'_add, Language.mem_add]
      change _ ∨ word ∈ (oneOf bytes).matches' ↔ _
      rw [ih, List.exists_mem_cons_iff]
      rfl

theorem mem_optional {expression : RegularExpression UInt8} {word : Bytes} :
    word ∈ (optional expression).matches' ↔ word = [] ∨ word ∈ expression.matches' := by
  rw [optional, matches'_add, matches'_epsilon, Language.mem_add, Language.mem_one]

/-- An optional sign is the text of a sign or of none. -/
theorem mem_signByte {word : Bytes} :
    word ∈ (optional signByte).matches' ↔ ∃ sign : Sign, word = sign.bytes := by
  rw [mem_optional, signByte, mem_oneOf]
  constructor
  · rintro (rfl | ⟨byte, member, rfl⟩)
    · exact ⟨.absent, rfl⟩
    · simp only [List.mem_cons, List.not_mem_nil, or_false] at member
      rcases member with rfl | rfl
      · exact ⟨.plus, rfl⟩
      · exact ⟨.minus, rfl⟩
  · rintro ⟨sign, rfl⟩
    cases sign with
    | absent => exact .inl rfl
    | plus => exact .inr ⟨0x2B, by simp, rfl⟩
    | minus => exact .inr ⟨0x2D, by simp, rfl⟩

theorem mem_digitByte {word : Bytes} :
    word ∈ digitByte.matches' ↔ ∃ byte, isDigit byte = true ∧ word = [byte] := by
  rw [digitByte, mem_oneOf]
  have listed (byte : UInt8) : isDigit byte = true ↔
      byte ∈ [0x30, 0x31, 0x32, 0x33, 0x34, 0x35, 0x36, 0x37, 0x38, 0x39] := by
    simp [isDigit, UInt8.le_iff_toNat_le, ← UInt8.toNat_inj]
    omega
  simp only [listed]

/-- Any number of digits is a word of digits. -/
theorem mem_star_digitByte {word : Bytes} :
    word ∈ digitByte.star.matches' ↔ ∀ byte ∈ word, isDigit byte = true := by
  rw [matches'_star, Language.mem_kstar]
  constructor
  · rintro ⟨words, rfl, single⟩ byte member
    obtain ⟨piece, inside, there⟩ := List.mem_flatten.mp member
    obtain ⟨digit, isDigit, rfl⟩ := mem_digitByte.mp (single piece inside)
    rwa [List.mem_singleton.mp there]
  · intro digits
    refine ⟨word.map fun byte => [byte], (List.flatMap_singleton' word).symm, ?_⟩
    intro piece member
    obtain ⟨byte, inside, rfl⟩ := List.mem_map.mp member
    exact mem_digitByte.mpr ⟨byte, digits byte inside, rfl⟩

/-- One or more digits are a word of digits that is not empty. -/
theorem mem_many_digitByte {word : Bytes} :
    word ∈ (many digitByte).matches' ↔ word ≠ [] ∧ ∀ byte ∈ word, isDigit byte = true := by
  rw [many, matches'_mul, Language.mem_mul]
  constructor
  · rintro ⟨first, single, more, digits, rfl⟩
    obtain ⟨byte, digit, rfl⟩ := mem_digitByte.mp single
    refine ⟨by simp, ?_⟩
    rw [List.singleton_append, List.forall_mem_cons]
    exact ⟨digit, mem_star_digitByte.mp digits⟩
  · rintro ⟨inhabited, digits⟩
    obtain ⟨first, more, rfl⟩ := List.exists_cons_of_ne_nil inhabited
    rw [List.forall_mem_cons] at digits
    exact ⟨[first], mem_digitByte.mpr ⟨first, digits.1, rfl⟩, more,
      mem_star_digitByte.mpr digits.2, rfl⟩

/-! ## Numerals and their parts -/

/-- The exponent of a float numeral. -/
structure Exponent where
  mark : UInt8
  sign : Sign
  digits : Bytes
  isMark : mark = 0x65 ∨ mark = 0x45
  digit : ∀ byte ∈ digits, isDigit byte = true
  inhabited : digits ≠ []

/-- A float numeral as it is written. There is a digit on at least one side of the
point. -/
structure FloatNumeral where
  sign : Sign
  whole : Bytes
  places? : Option Bytes
  exponent? : Option Exponent
  wholeDigit : ∀ byte ∈ whole, isDigit byte = true
  placeDigit : ∀ places ∈ places?, ∀ byte ∈ places, isDigit byte = true
  inhabited : whole ≠ [] ∨ ∃ places, places? = some places ∧ places ≠ []

/-- The bytes of an exponent. -/
def Exponent.bytes (exponent : Exponent) : Bytes :=
  exponent.mark :: (exponent.sign.bytes ++ exponent.digits)

/-- The bytes of an optional exponent. -/
def exponentBytes : Option Exponent → Bytes
  | none => []
  | some exponent => exponent.bytes

/-- The bytes of an optional point and the digits after it. -/
def fractionBytes : Option Bytes → Bytes
  | none => []
  | some places => 0x2E :: places

namespace FloatNumeral

/-- The bytes of a float numeral. -/
def bytes (numeral : FloatNumeral) : Bytes :=
  numeral.sign.bytes ++
    (numeral.whole ++ (fractionBytes numeral.places? ++ exponentBytes numeral.exponent?))

end FloatNumeral

/-- An optional exponent is the text of one, or empty. -/
theorem mem_exponent {word : Bytes} :
    word ∈ (optional exponent).matches' ↔ ∃ exponent?, word = exponentBytes exponent? := by
  rw [mem_optional, exponent, matches'_mul, matches'_mul, Language.mem_mul]
  constructor
  · rintro (rfl | ⟨front, inFront, digits, inDigits, rfl⟩)
    · exact ⟨none, rfl⟩
    · obtain ⟨mark, inMarks, signs, inSigns, rfl⟩ := Language.mem_mul.mp inFront
      obtain ⟨byte, listed, rfl⟩ := mem_oneOf.mp inMarks
      obtain ⟨sign, rfl⟩ := mem_signByte.mp inSigns
      obtain ⟨inhabited, digit⟩ := mem_many_digitByte.mp inDigits
      refine ⟨some ⟨byte, sign, digits, by simpa using listed, digit, inhabited⟩, ?_⟩
      rw [List.append_assoc]
      rfl
  · rintro ⟨exponent?, rfl⟩
    cases exponent? with
    | none => exact .inl rfl
    | some exponent =>
        refine .inr ⟨exponent.mark :: exponent.sign.bytes, ?_, exponent.digits,
          mem_many_digitByte.mpr ⟨exponent.inhabited, exponent.digit⟩, rfl⟩
        exact Language.mem_mul.mpr ⟨[exponent.mark],
          mem_oneOf.mpr ⟨_, by simpa using exponent.isMark, rfl⟩, exponent.sign.bytes,
          mem_signByte.mpr ⟨_, rfl⟩, rfl⟩

/-- A mantissa has digits before the point or after it. -/
theorem mem_mantissa {word : Bytes} :
    word ∈ mantissa.matches' ↔
      ∃ whole places?, word = whole ++ fractionBytes places? ∧
        (∀ byte ∈ whole, isDigit byte = true) ∧
        (∀ places ∈ places?, ∀ byte ∈ places, isDigit byte = true) ∧
        (whole ≠ [] ∨ ∃ places, places? = some places ∧ places ≠ []) := by
  rw [mantissa, matches'_add, matches'_mul, matches'_mul, Language.mem_add, Language.mem_mul,
    Language.mem_mul]
  constructor
  · rintro (⟨whole, inWhole, fraction, inFraction, rfl⟩ | ⟨point, inPoint, places, inPlaces, rfl⟩)
    · obtain ⟨inhabited, digit⟩ := mem_many_digitByte.mp inWhole
      rcases mem_optional.mp inFraction with rfl | pointed
      · exact ⟨whole, none, rfl, digit, by simp, .inl inhabited⟩
      · obtain ⟨point, rfl, places, inPlaces, rfl⟩ := Language.mem_mul.mp pointed
        refine ⟨whole, some places, rfl, digit, ?_, .inl inhabited⟩
        simpa using mem_star_digitByte.mp inPlaces
    · obtain ⟨inhabited, digit⟩ := mem_many_digitByte.mp inPlaces
      obtain rfl : point = [0x2E] := inPoint
      exact ⟨[], some places, rfl, by simp, by simpa using digit, .inr ⟨places, rfl, inhabited⟩⟩
  · rintro ⟨whole, places?, rfl, wholeDigit, placeDigit, inhabited⟩
    by_cases empty : whole = []
    · subst empty
      obtain ⟨places, rfl, some_digit⟩ := inhabited.resolve_left (by simp)
      exact .inr ⟨[0x2E], rfl, places,
        mem_many_digitByte.mpr ⟨some_digit, placeDigit places rfl⟩, rfl⟩
    · refine .inl ⟨whole, mem_many_digitByte.mpr ⟨empty, wholeDigit⟩, _, ?_, rfl⟩
      rw [mem_optional]
      cases places? with
      | none => exact .inl rfl
      | some places =>
          exact .inr (Language.mem_mul.mpr ⟨[0x2E], rfl, places,
            mem_star_digitByte.mpr (placeDigit places rfl), rfl⟩)

/-- The grammar gives the bytes of float numerals. -/
theorem mem_floatGrammar {word : Bytes} :
    word ∈ floatGrammar.matches' ↔ ∃ numeral : FloatNumeral, word = numeral.bytes := by
  rw [floatGrammar, matches'_mul, matches'_mul, Language.mem_mul]
  constructor
  · rintro ⟨front, inFront, last, inLast, rfl⟩
    obtain ⟨signs, inSigns, middle, inMiddle, rfl⟩ := Language.mem_mul.mp inFront
    obtain ⟨sign, rfl⟩ := mem_signByte.mp inSigns
    obtain ⟨whole, places?, rfl, wholeDigit, placeDigit, inhabited⟩ := mem_mantissa.mp inMiddle
    obtain ⟨exponent?, rfl⟩ := mem_exponent.mp inLast
    refine ⟨⟨sign, whole, places?, exponent?, wholeDigit, placeDigit, inhabited⟩, ?_⟩
    simp only [FloatNumeral.bytes, List.append_assoc]
  · rintro ⟨numeral, rfl⟩
    refine ⟨_, Language.mem_mul.mpr ⟨_, mem_signByte.mpr ⟨numeral.sign, rfl⟩, _,
      mem_mantissa.mpr ⟨numeral.whole, numeral.places?, rfl, numeral.wholeDigit,
        numeral.placeDigit, numeral.inhabited⟩, rfl⟩, _,
      mem_exponent.mpr ⟨numeral.exponent?, rfl⟩, ?_⟩
    simp only [FloatNumeral.bytes, List.append_assoc]

end Numeral
end ScriptCore
