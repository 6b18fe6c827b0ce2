import ScriptCore.Proofs.Json.Reading
import ScriptCore.Proofs.Text.Utf8
import ScriptCore.Value.Coerce

/-!
# Integer numerals

A string converts to an integer by the numeral at its start: blanks, an optional
sign and a run of digits that is as long as possible. The run is read digit by
digit, with a check of the 64-bit range after every step. Its first digits alone
are never larger in magnitude than the whole run, so a check fails exactly when
the number itself is out of range, however long the run is.
-/

namespace ScriptCore
namespace Numeral

/-! ## Runs of digits -/

/-- Bytes that do not start with a digit. -/
def EndsRun (rest : Bytes) : Prop :=
  ∀ byte, rest.head? = some byte → isDigit byte = false

theorem endsRun_nil : EndsRun [] := by
  intro byte first
  cases first

theorem digitRun_of_endsRun {rest : Bytes} (ends : EndsRun rest) : digitRun rest = [] := by
  cases rest with
  | nil => rfl
  | cons byte rest => simp [digitRun, ends byte rfl]

theorem digitRun_append {digits : Bytes} (run : ∀ byte ∈ digits, isDigit byte = true)
    (rest : Bytes) : digitRun (digits ++ rest) = digits ++ digitRun rest :=
  List.takeWhile_append_of_pos run

theorem isDigit_of_mem_digitRun {bytes : Bytes} {byte : UInt8} (member : byte ∈ digitRun bytes) :
    isDigit byte = true :=
  List.mem_takeWhile_imp member

/-- What follows the digits at the start of some bytes. -/
theorem exists_after_digitRun (bytes : Bytes) :
    ∃ rest, bytes = digitRun bytes ++ rest ∧ EndsRun rest := by
  refine ⟨bytes.dropWhile isDigit, List.takeWhile_append_dropWhile.symm, fun byte first => ?_⟩
  have stopped := List.head?_dropWhile_not isDigit bytes
  rwa [first] at stopped

/-! ## Blanks and signs -/

theorem not_blank_of_isDigit {byte : UInt8} (digit : isDigit byte = true) :
    Text.isNumeralBlank byte = false := by
  by_contra blank
  simp only [Text.isNumeralBlank, Bool.not_eq_false, Bool.or_eq_true, beq_iff_eq] at blank
  rcases blank with (((rfl | rfl) | rfl) | rfl) | rfl <;> revert digit <;> decide

theorem not_isSign_of_isDigit {byte : UInt8} (digit : isDigit byte = true) :
    isSign byte = false := by
  by_contra sign
  simp only [isSign, Bool.not_eq_false, Bool.or_eq_true, beq_iff_eq] at sign
  rcases sign with rfl | rfl <;> revert digit <;> decide

/-- Blanks in front are skipped. -/
theorem skipBlanks_append {blanks : Bytes}
    (blank : ∀ byte ∈ blanks, Text.isNumeralBlank byte = true)
    (rest : Bytes) : skipBlanks (blanks ++ rest) = skipBlanks rest :=
  List.dropWhile_append_of_pos blank

theorem skipBlanks_cons {byte : UInt8} (apart : Text.isNumeralBlank byte = false) (rest : Bytes) :
    skipBlanks (byte :: rest) = byte :: rest :=
  List.dropWhile_cons_of_neg (by simp [apart])

/-- The blanks before a numeral. -/
theorem exists_blanks (bytes : Bytes) :
    ∃ blanks, bytes = blanks ++ skipBlanks bytes ∧
      (∀ byte ∈ blanks, Text.isNumeralBlank byte = true) ∧
      ∀ byte, (skipBlanks bytes).head? = some byte → Text.isNumeralBlank byte = false := by
  refine ⟨bytes.takeWhile Text.isNumeralBlank, List.takeWhile_append_dropWhile.symm,
    fun _ => List.mem_takeWhile_imp, fun byte first => ?_⟩
  have stopped := List.head?_dropWhile_not Text.isNumeralBlank bytes
  rw [skipBlanks] at first
  rwa [first] at stopped

/-- A sign as it is written. -/
inductive Sign where
  | absent
  | plus
  | minus
deriving DecidableEq

namespace Sign

/-- The bytes of a sign. -/
def bytes : Sign → Bytes
  | absent => []
  | plus => [0x2B]
  | minus => [0x2D]

def isNegative : Sign → Bool
  | minus => true
  | _ => false

end Sign

/-- A natural number with a sign in front of it. -/
def signed (negative : Bool) (n : Nat) : Int :=
  if negative then -n else n

/-- Bytes that do not start with a sign. -/
def Unsigned (rest : Bytes) : Prop :=
  ∀ byte, rest.head? = some byte → isSign byte = false

theorem unsigned_of_digits {digits : Bytes} (digit : ∀ byte ∈ digits, isDigit byte = true)
    (inhabited : digits ≠ []) (rest : Bytes) : Unsigned (digits ++ rest) := by
  obtain ⟨first, more, rfl⟩ := List.exists_cons_of_ne_nil inhabited
  rintro byte ⟨⟩
  exact not_isSign_of_isDigit (digit first List.mem_cons_self)

/-- The sign is read off the front. -/
theorem splitSign_append (sign : Sign) {rest : Bytes} (unsigned : Unsigned rest) :
    splitSign (sign.bytes ++ rest) = (sign.isNegative, rest) := by
  cases sign with
  | absent =>
      cases rest with
      | nil => rfl
      | cons byte rest =>
          have apart := unsigned byte rfl
          rw [isSign, Bool.or_eq_false_iff] at apart
          simp [Sign.bytes, Sign.isNegative, splitSign, apart.1, apart.2]
  | plus => rfl
  | minus => rfl

/-- What was taken for the sign and what was left. -/
theorem exists_sign (bytes : Bytes) :
    ∃ sign : Sign, bytes = sign.bytes ++ (splitSign bytes).2 ∧
      (splitSign bytes).1 = sign.isNegative := by
  cases bytes with
  | nil => exact ⟨.absent, rfl, rfl⟩
  | cons byte rest =>
      rw [splitSign]
      split_ifs with minus plus
      · exact ⟨.minus, by simp [Sign.bytes, beq_iff_eq.mp minus], rfl⟩
      · exact ⟨.plus, by simp [Sign.bytes, beq_iff_eq.mp plus], rfl⟩
      · exact ⟨.absent, rfl, rfl⟩

/-! ## The number of a run -/

/-- The number that digits stand for in base ten, the first digit being the most
significant. -/
def decimal (digits : Bytes) : Nat :=
  Nat.ofDigits 10 (digits.reverse.map digitValue)

theorem decimal_concat (digits : Bytes) (digit : UInt8) :
    decimal (digits ++ [digit]) = digitValue digit + 10 * decimal digits := by
  rw [decimal, List.reverse_append, List.reverse_singleton, List.singleton_append, List.map_cons,
    Nat.ofDigits_cons]
  rfl

/-- Integers of 64 bits. -/
def InRange (n : Int) : Prop :=
  -2 ^ 63 ≤ n ∧ n ≤ 2 ^ 63 - 1

instance (n : Int) : Decidable (InRange n) :=
  inferInstanceAs (Decidable (_ ∧ _))

theorem checked_eq (n : Int) : checked n = if InRange n then some n else none := by
  have least : Int64.minValue.toInt = -2 ^ 63 := by decide
  have greatest : Int64.maxValue.toInt = 2 ^ 63 - 1 := by decide
  simp only [checked, InRange, least, greatest, Bool.and_eq_true, decide_eq_true_eq]
  congr

theorem checked_bind {α : Type} (n : Int) (f : Int → Option α) :
    (checked n).bind f = (checked n).bind fun _ => f n := by
  rw [checked_eq]
  split <;> rfl

/-- A number in range leaves those between it and zero in range, so checking one of
them first makes no difference. -/
theorem checked_bind_checked (negative : Bool) {smaller larger : Nat} (le : smaller ≤ larger) :
    ((checked (signed negative smaller)).bind fun _ => checked (signed negative larger)) =
      checked (signed negative larger) := by
  have shrinks : InRange (signed negative larger) → InRange (signed negative smaller) := by
    cases negative <;> simp only [InRange, signed, Bool.false_eq_true, if_false, if_true] <;> omega
  rw [checked_eq, checked_eq]
  by_cases inside : InRange (signed negative larger)
  · rw [if_pos (shrinks inside), Option.bind_some]
  · rw [if_neg inside, Option.bind_fun_none]

/-- One more digit of a signed number: the checks of the number, of its shift and of
the sum are the check of the sum. -/
theorem checkedStep_signed (negative : Bool) (n : Nat) (digit : UInt8) :
    (checked (signed negative n)).bind (fun read => checkedStep negative read digit) =
      checked (signed negative (digitValue digit + 10 * n)) := by
  have shifted : signed negative n * 10 = signed negative (10 * n) := by
    cases negative <;> simp only [signed, Bool.false_eq_true, if_false, if_true] <;> omega
  have added : (if negative then signed negative (10 * n) - digitValue digit
      else signed negative (10 * n) + digitValue digit) =
        signed negative (digitValue digit + 10 * n) := by
    cases negative <;> simp only [signed, Bool.false_eq_true, if_false, if_true] <;> omega
  have step : checkedStep negative (signed negative n) digit =
      checked (signed negative (digitValue digit + 10 * n)) := by
    change (checked (signed negative n * 10)).bind _ = _
    rw [checked_bind, shifted, added, checked_bind_checked negative (by omega)]
  rw [checked_bind, step, checked_bind_checked negative (by omega)]

/-- Reading a run digit by digit is checking the number it stands for. -/
theorem foldlM_checkedStep (negative : Bool) (digits : Bytes) :
    digits.foldlM (checkedStep negative) 0 = checked (signed negative (decimal digits)) := by
  induction digits using List.reverseRecOn with
  | nil => cases negative <;> rfl
  | append_singleton digits digit ih =>
      rw [List.foldlM_append, ih, decimal_concat, ← checkedStep_signed]
      simp

/-! ## Numerals -/

/-- An integer numeral as it is written: blanks, a sign and at least one digit. -/
structure IntegerNumeral where
  blanks : Bytes
  sign : Sign
  digits : Bytes
  blank : ∀ byte ∈ blanks, Text.isNumeralBlank byte = true
  digit : ∀ byte ∈ digits, isDigit byte = true
  inhabited : digits ≠ []

namespace IntegerNumeral

/-- The bytes of a numeral. -/
def bytes (numeral : IntegerNumeral) : Bytes :=
  numeral.blanks ++ numeral.sign.bytes ++ numeral.digits

/-- The number that a numeral stands for. -/
def value (numeral : IntegerNumeral) : Int :=
  signed numeral.sign.isNegative (decimal numeral.digits)

/-- Some bytes start with a numeral, whose run of digits is as long as possible. -/
def Starts (numeral : IntegerNumeral) (bytes : Bytes) : Prop :=
  ∃ rest, bytes = numeral.bytes ++ rest ∧ EndsRun rest

end IntegerNumeral

/-- A numeral at the start is read as its number, provided that it is in range. -/
theorem leadingInt?_of_starts {numeral : IntegerNumeral} {bytes : Bytes}
    (starts : numeral.Starts bytes) :
    leadingInt? bytes = (checked numeral.value).map Int64.ofInt := by
  obtain ⟨rest, rfl, ends⟩ := starts
  obtain ⟨blanks, sign, digits, blank, digit, inhabited⟩ := numeral
  have text : skipBlanks (blanks ++ sign.bytes ++ digits ++ rest) =
      sign.bytes ++ (digits ++ rest) := by
    rw [List.append_assoc, List.append_assoc, skipBlanks_append blank]
    cases sign with
    | absent =>
        obtain ⟨first, more, rfl⟩ := List.exists_cons_of_ne_nil inhabited
        exact skipBlanks_cons (not_blank_of_isDigit (digit first List.mem_cons_self)) _
    | plus => rfl
    | minus => rfl
  have split := splitSign_append sign (unsigned_of_digits digit inhabited rest)
  have run : digitRun (digits ++ rest) = digits := by
    rw [digitRun_append digit, digitRun_of_endsRun ends, List.append_nil]
  have some_digit : digits.isEmpty = false := by simpa using inhabited
  simp only [leadingInt?, IntegerNumeral.bytes, text, split, run, some_digit, Bool.false_eq_true,
    if_false, foldlM_checkedStep]
  rfl

/-- Where an integer is read, there is a numeral. -/
theorem exists_numeral {bytes : Bytes} {n : Int64} (read : leadingInt? bytes = some n) :
    ∃ numeral : IntegerNumeral, numeral.Starts bytes := by
  obtain ⟨blanks, blanksFirst, blank, -⟩ := exists_blanks bytes
  obtain ⟨sign, signNext, -⟩ := exists_sign (skipBlanks bytes)
  obtain ⟨rest, digitsLast, ends⟩ := exists_after_digitRun (splitSign (skipBlanks bytes)).2
  have inhabited : digitRun (splitSign (skipBlanks bytes)).2 ≠ [] := by
    intro none
    simp [leadingInt?, none] at read
  refine ⟨⟨blanks, sign, _, blank, fun _ => isDigit_of_mem_digitRun, inhabited⟩, rest, ?_, ends⟩
  rw [IntegerNumeral.bytes, List.append_assoc, ← digitsLast, List.append_assoc, ← signNext,
    ← blanksFirst]

/-- A numeral at the start is read as its value exactly if the value has 64
bits. -/
theorem map_toInt_leadingInt? {numeral : IntegerNumeral} {bytes : Bytes}
    (starts : numeral.Starts bytes) :
    (leadingInt? bytes).map Int64.toInt =
      if InRange numeral.value then some numeral.value else none := by
  rw [leadingInt?_of_starts starts, checked_eq]
  split
  · next inside =>
    have below : numeral.value < 2 ^ 63 := by
      have atMost := inside.2
      omega
    rw [Option.map_some, Option.map_some, Int64.toInt_ofInt_of_le inside.1 below]
  · rfl

/-! ## Decimal texts of integers -/

/-- A digit is encoded as one byte of the same value. -/
theorem utf8EncodeChar_of_isDigit {char : Char} (digit : char.isDigit = true) :
    ∃ byte, String.utf8EncodeChar char = [byte] ∧ isDigit byte = true ∧
      digitValue byte = char.toNat - '0'.toNat := by
  have range : 48 ≤ char.toNat ∧ char.toNat ≤ 57 := by
    simpa [Char.isDigit, UInt32.le_iff_toNat_le] using digit
  have small := Utf8.toNat_ofNat_byte (show char.toNat < 256 by omega)
  have ascii : (UInt8.ofNat char.toNat).toNat < 128 := by omega
  have encoded := Utf8.utf8EncodeChar_one ascii
  rw [small, Char.ofNat_toNat] at encoded
  refine ⟨_, encoded, ?_, ?_⟩
  · simp only [isDigit, UInt8.le_iff_toNat_le, small, Bool.and_eq_true, decide_eq_true_eq]
    exact range
  · rw [digitValue, small]
    rfl

/-- Digit characters become digit bytes of the same number. -/
theorem decimal_utf8 (chars : List Char) (digits : ∀ char ∈ chars, char.isDigit = true) :
    (∀ byte ∈ chars.flatMap String.utf8EncodeChar, isDigit byte = true) ∧
      decimal (chars.flatMap String.utf8EncodeChar) = Nat.ofDigitChars 10 chars 0 := by
  induction chars using List.reverseRecOn with
  | nil => exact ⟨by simp, rfl⟩
  | append_singleton chars char ih =>
      rw [List.forall_mem_append, List.forall_mem_singleton] at digits
      obtain ⟨byte, encoded, digit, value⟩ := utf8EncodeChar_of_isDigit digits.2
      obtain ⟨before, number⟩ := ih digits.1
      rw [List.flatMap_append, List.flatMap_singleton, encoded, List.forall_mem_append,
        List.forall_mem_singleton, decimal_concat, number, value, Nat.ofDigitChars,
        Nat.ofDigitChars, List.foldl_append, Nat.add_comm]
      exact ⟨⟨before, digit⟩, rfl⟩

/-- The decimal text of a natural number with a sign in front of it. -/
theorem exists_numeral_toDigits (sign : Sign) (n : Nat) :
    ∃ numeral : IntegerNumeral, numeral.value = signed sign.isNegative n ∧
      numeral.bytes = sign.bytes ++ (Nat.toDigits 10 n).flatMap String.utf8EncodeChar := by
  have digits : ∀ char ∈ Nat.toDigits 10 n, char.isDigit = true := fun char =>
    Nat.isDigit_of_mem_toDigits (by decide) (by decide)
  obtain ⟨run, number⟩ := decimal_utf8 _ digits
  obtain ⟨first, more, characters, firstDigit⟩ := Json.exists_toDigits_cons n
  have inhabited : (Nat.toDigits 10 n).flatMap String.utf8EncodeChar ≠ [] := by
    obtain ⟨byte, encoded, -⟩ := utf8EncodeChar_of_isDigit firstDigit
    simp [characters, encoded]
  refine ⟨⟨[], sign, _, by simp, run, inhabited⟩, ?_, rfl⟩
  rw [IntegerNumeral.value, number, Nat.ofDigitChars_ten_toDigits]

/-- The text of an integer is a numeral of its value. -/
theorem exists_numeral_intText (n : Int64) :
    ∃ numeral : IntegerNumeral, numeral.value = n.toInt ∧
      numeral.bytes = Utf8.encode (Value.intText n) := by
  have text : (Value.intText n).toList = (Json.integer n.toInt).chars := rfl
  rw [Utf8.encode, text, Json.chars_integer]
  by_cases natural : 0 ≤ n.toInt
  · obtain ⟨numeral, value, bytes⟩ := exists_numeral_toDigits .absent n.toInt.toNat
    refine ⟨numeral, ?_, by rw [bytes, if_pos natural]; rfl⟩
    rw [value]
    exact Int.toNat_of_nonneg natural
  · obtain ⟨numeral, value, bytes⟩ := exists_numeral_toDigits .minus (-n.toInt).toNat
    refine ⟨numeral, ?_, by rw [bytes, if_neg natural]; rfl⟩
    rw [value]
    change -((-n.toInt).toNat : Int) = n.toInt
    omega

/-- The decimal text of an integer converts back to it. -/
theorem coerce_intText (n : Int64) :
    (Value.ofText (Value.intText n)).coerce .int = .ok (.int n) := by
  obtain ⟨numeral, value, bytes⟩ := exists_numeral_intText n
  have starts : numeral.Starts (Utf8.encode (Value.intText n)) :=
    ⟨[], by rw [bytes, List.append_nil], endsRun_nil⟩
  have inside : InRange n.toInt := by
    have above := n.le_toInt
    have below := n.toInt_lt
    exact ⟨above, by omega⟩
  have read : leadingInt? (Utf8.encode (Value.intText n)) = some n := by
    rw [leadingInt?_of_starts starts, value, checked_eq, if_pos inside, Option.map_some,
      Int64.ofInt_toInt]
  have converted : (Value.ofText (Value.intText n)).coerce? .int = some (.int n) :=
    congrArg (Option.map Value.int) read
  rw [Value.coerce, converted]

/-- An integer is read exactly where a numeral in the 64-bit range is written: after
blanks and an optional sign, the longest run of digits, which must not be empty.
Nothing is read otherwise, and what follows the run does not matter. Reading digit by
digit fails only if the number of the whole run is out of range. So an integer
survives conversion to a string and back. -/
theorem integer_numerals_are_read_exactly :
    (∀ (bytes : Bytes) (n : Int),
      (leadingInt? bytes).map Int64.toInt = some n ↔
        (∃ numeral : IntegerNumeral, numeral.Starts bytes ∧ numeral.value = n) ∧ InRange n) ∧
    (∀ bytes : Bytes,
      leadingInt? bytes = none ↔
        ∀ numeral : IntegerNumeral, numeral.Starts bytes → ¬ InRange numeral.value) ∧
    (∀ (numeral : IntegerNumeral) (rest : Bytes), EndsRun rest →
      leadingInt? (numeral.bytes ++ rest) = leadingInt? numeral.bytes) ∧
    (∀ (negative : Bool) (digits : Bytes),
      digits.foldlM (checkedStep negative) 0 =
        if InRange (signed negative (decimal digits)) then some (signed negative (decimal digits))
        else none) ∧
    ∀ n : Int64, ∃ text, (Value.int n).coerce .str = .ok text ∧
      text.coerce .int = .ok (.int n) := by
  refine ⟨fun bytes n => ⟨fun read => ?_, ?_⟩, fun bytes => ⟨fun unread numeral starts => ?_, ?_⟩,
    fun numeral rest ends => ?_, fun negative digits => ?_, fun n => ⟨_, rfl, coerce_intText n⟩⟩
  · obtain ⟨word, found, -⟩ := Option.map_eq_some_iff.mp read
    obtain ⟨numeral, starts⟩ := exists_numeral found
    rw [map_toInt_leadingInt? starts, Option.ite_none_right_eq_some,
      Option.some.injEq] at read
    obtain ⟨inside, rfl⟩ := read
    exact ⟨⟨numeral, starts, rfl⟩, inside⟩
  · rintro ⟨⟨numeral, starts, rfl⟩, inside⟩
    rw [map_toInt_leadingInt? starts, if_pos inside]
  · intro inside
    have read := map_toInt_leadingInt? starts
    rw [unread, if_pos inside] at read
    cases read
  · intro outside
    cases found : leadingInt? bytes with
    | none => rfl
    | some word =>
        obtain ⟨numeral, starts⟩ := exists_numeral found
        have read := map_toInt_leadingInt? starts
        rw [found, if_neg (outside numeral starts)] at read
        cases read
  · rw [leadingInt?_of_starts ⟨rest, rfl, ends⟩,
      leadingInt?_of_starts ⟨[], (List.append_nil _).symm, endsRun_nil⟩]
  · rw [foldlM_checkedStep, checked_eq]

/-- The least integer, after blanks and with zeros in front. -/
def leastSample : IntegerNumeral where
  blanks := [0x20, 0x0C]
  sign := .minus
  digits := [0, 0, 9, 2, 2, 3, 3, 7, 2, 0, 3, 6, 8, 5, 4, 7, 7, 5, 8, 0, 8].map (0x30 + ·)
  blank := by decide +kernel
  digit := by decide +kernel
  inhabited := by simp

/-- The number after the greatest integer. -/
def excessiveSample : IntegerNumeral where
  blanks := []
  sign := .plus
  digits := [9, 2, 2, 3, 3, 7, 2, 0, 3, 6, 8, 5, 4, 7, 7, 5, 8, 0, 8].map (0x30 + ·)
  blank := by decide +kernel
  digit := by decide +kernel
  inhabited := by simp

/-- The least integer, with a fraction behind it, and the first one past the
range. -/
theorem samples_are_read_exactly :
    EndsRun [0x2E, 0x35] ∧ leastSample.value = -2 ^ 63 ∧ excessiveSample.value = 2 ^ 63 ∧
      leadingInt? (leastSample.bytes ++ [0x2E, 0x35]) = leadingInt? leastSample.bytes ∧
      (leadingInt? leastSample.bytes).map Int64.toInt = some (-2 ^ 63) ∧
      ¬ InRange excessiveSample.value := by
  have ends : EndsRun [0x2E, 0x35] := by
    rintro byte ⟨⟩
    rfl
  have least : leastSample.value = -2 ^ 63 := by decide +kernel
  have starts (numeral : IntegerNumeral) : numeral.Starts numeral.bytes :=
    ⟨[], (List.append_nil _).symm, endsRun_nil⟩
  have unread : leadingInt? excessiveSample.bytes = none := by decide +kernel
  obtain ⟨some_iff, none_iff, surplus, -⟩ := integer_numerals_are_read_exactly
  exact ⟨ends, least, by decide +kernel, surplus leastSample _ ends,
    (some_iff _ _).mpr ⟨⟨leastSample, starts leastSample, least⟩, by decide⟩,
    (none_iff _).mp unread excessiveSample (starts excessiveSample)⟩

end Numeral
end ScriptCore
