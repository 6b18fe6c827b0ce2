import Mathlib
import ScriptCore.Text.Utf8

/-!
# Encoding and reading text

Reading the bytes of a text gives the text back, and well-formed bytes are the
bytes of the text read from them. Both directions rest on the same facts about a
single character: its bytes have one of four forms, and each form determines the
character and is determined by it.
-/

namespace ScriptCore
namespace Utf8

/-! ## Ranges of bytes -/

/-- Continuation bytes are a range. -/
theorem isContinuation_iff (byte : UInt8) :
    isContinuation byte = true ↔ 128 ≤ byte.toNat ∧ byte.toNat ≤ 191 := by
  simp [isContinuation, UInt8.le_iff_toNat_le]

/-- The second of three bytes is a continuation, without overlong forms and
surrogates. -/
theorem isSecondOfThree_iff (first second : UInt8) :
    isSecondOfThree first second = true ↔
      128 ≤ second.toNat ∧ second.toNat ≤ 191 ∧
        (first.toNat = 224 → 160 ≤ second.toNat) ∧ (first.toNat = 237 → second.toNat ≤ 159) := by
  simp only [isSecondOfThree, isContinuation, beq_iff_eq, ← UInt8.toNat_inj]
  split_ifs with low high <;>
    simp only [UInt8.reduceToNat, UInt8.le_iff_toNat_le, Bool.and_eq_true, decide_eq_true_eq]
      at * <;>
    omega

/-- The second of four bytes is a continuation, without overlong forms and code
points past the last. -/
theorem isSecondOfFour_iff (first second : UInt8) :
    isSecondOfFour first second = true ↔
      128 ≤ second.toNat ∧ second.toNat ≤ 191 ∧
        (first.toNat = 240 → 144 ≤ second.toNat) ∧ (first.toNat = 244 → second.toNat ≤ 143) := by
  simp only [isSecondOfFour, isContinuation, beq_iff_eq, ← UInt8.toNat_inj]
  split_ifs with low high <;>
    simp only [UInt8.reduceToNat, UInt8.le_iff_toNat_le, Bool.and_eq_true, decide_eq_true_eq]
      at * <;>
    omega

/-! ## Reading a sequence -/

/-- A byte below 128 is a character. -/
theorem decode_one
    {first : UInt8}
    (ascii : first.toNat < 128)
    (rest : Bytes) :
    decode (first :: rest) = some (Char.ofNat first.toNat) :: decode rest := by
  have below : first < 128 := UInt8.lt_iff_toNat_lt.mpr ascii
  rw [decode.eq_def]
  simp only [below, if_true]

/-- Two bytes of the right ranges are a character. -/
theorem decode_two
    {first second : UInt8}
    (lead : 194 ≤ first.toNat ∧ first.toNat ≤ 223)
    (follows : isContinuation second = true)
    (rest : Bytes) :
    decode (first :: second :: rest) = some (charOfTwo first second) :: decode rest := by
  rw [decode.eq_def]
  simp [UInt8.lt_iff_toNat_lt, UInt8.le_iff_toNat_le, lead, follows,
    show ¬ first.toNat < 128 by omega]

/-- Three bytes of the right ranges are a character. -/
theorem decode_three
    {first second third : UInt8}
    (lead : 224 ≤ first.toNat ∧ first.toNat ≤ 239)
    (follows : isSecondOfThree first second = true)
    (ends : isContinuation third = true)
    (rest : Bytes) :
    decode (first :: second :: third :: rest) =
      some (charOfThree first second third) :: decode rest := by
  rw [decode.eq_def]
  simp [UInt8.lt_iff_toNat_lt, UInt8.le_iff_toNat_le, lead, follows, ends,
    show ¬ first.toNat < 128 by omega, show ¬ first.toNat ≤ 223 by omega]

/-- Four bytes of the right ranges are a character. -/
theorem decode_four
    {first second third fourth : UInt8}
    (lead : 240 ≤ first.toNat ∧ first.toNat ≤ 244)
    (follows : isSecondOfFour first second = true)
    (continues : isContinuation third = true)
    (ends : isContinuation fourth = true)
    (rest : Bytes) :
    decode (first :: second :: third :: fourth :: rest) =
      some (charOfFour first second third fourth) :: decode rest := by
  rw [decode.eq_def]
  simp [UInt8.lt_iff_toNat_lt, UInt8.le_iff_toNat_le, lead, follows, continues, ends,
    show ¬ first.toNat < 128 by omega, show ¬ first.toNat ≤ 223 by omega,
    show ¬ first.toNat ≤ 239 by omega]

/-! ## Reading what was written -/

theorem toNat_ofNat_byte {n : Nat} (small : n < 256) : (UInt8.ofNat n).toNat = n := by
  simp [UInt8.toNat_ofNat', Nat.mod_eq_of_lt small]

/-- The bytes of a character are read as that character. -/
theorem decode_utf8EncodeChar (char : Char) (rest : Bytes) :
    decode (String.utf8EncodeChar char ++ rest) = some char :: decode rest := by
  have valid : char.toNat < 55296 ∨ 57343 < char.toNat ∧ char.toNat < 1114112 := char.valid
  have same {n : Nat} (equal : n = char.toNat) : Char.ofNat n = char := by
    rw [equal, Char.ofNat_toNat]
  have tail (n : Nat) : (UInt8.ofNat (n % 64 + 128)).toNat = n % 64 + 128 :=
    toNat_ofNat_byte (by omega)
  have continues (n : Nat) : isContinuation (UInt8.ofNat (n % 64 + 128)) = true := by
    rw [isContinuation_iff, tail]
    omega
  have code : char.val.toNat = char.toNat := rfl
  unfold String.utf8EncodeChar
  simp only [code]
  split_ifs with one two three
  · have first : (UInt8.ofNat char.toNat).toNat = char.toNat := toNat_ofNat_byte (by omega)
    change decode (UInt8.ofNat char.toNat :: rest) = _
    rw [decode_one (by omega), first, same rfl]
  · have first := toNat_ofNat_byte (show char.toNat / 64 % 32 + 192 < 256 by omega)
    change decode (UInt8.ofNat (char.toNat / 64 % 32 + 192) ::
      UInt8.ofNat (char.toNat % 64 + 128) :: rest) = _
    rw [decode_two (by omega) (continues _), charOfTwo, payload, first, tail, same (by omega)]
  · have first := toNat_ofNat_byte (show char.toNat / 4096 % 16 + 224 < 256 by omega)
    change decode (UInt8.ofNat (char.toNat / 4096 % 16 + 224) ::
      UInt8.ofNat (char.toNat / 64 % 64 + 128) :: UInt8.ofNat (char.toNat % 64 + 128) :: rest) = _
    have second : isSecondOfThree (UInt8.ofNat (char.toNat / 4096 % 16 + 224))
        (UInt8.ofNat (char.toNat / 64 % 64 + 128)) = true := by
      rw [isSecondOfThree_iff, first, tail]
      omega
    rw [decode_three (by omega) second (continues _), charOfThree, payload, payload, first, tail,
      tail, same (by omega)]
  · have first := toNat_ofNat_byte (show char.toNat / 262144 % 8 + 240 < 256 by omega)
    change decode (UInt8.ofNat (char.toNat / 262144 % 8 + 240) ::
      UInt8.ofNat (char.toNat / 4096 % 64 + 128) :: UInt8.ofNat (char.toNat / 64 % 64 + 128) ::
        UInt8.ofNat (char.toNat % 64 + 128) :: rest) = _
    have second : isSecondOfFour (UInt8.ofNat (char.toNat / 262144 % 8 + 240))
        (UInt8.ofNat (char.toNat / 4096 % 64 + 128)) = true := by
      rw [isSecondOfFour_iff, first, tail]
      omega
    rw [decode_four (by omega) second (continues _) (continues _), charOfFour, payload, payload,
      payload, first, tail, tail, tail, same (by omega)]

/-- Encoded characters are decoded one by one. -/
theorem decode_flatMap_utf8EncodeChar (chars : List Char) :
    decode (chars.flatMap String.utf8EncodeChar) = chars.map some := by
  induction chars with
  | nil => exact decode_nil
  | cons char chars ih =>
      rw [List.flatMap_cons, decode_utf8EncodeChar, ih, List.map_cons]

/-- Reading the bytes of a text gives the text. -/
@[simp] theorem text_encode (source : String) : text (encode source) = source := by
  rw [text, encode, decode_flatMap_utf8EncodeChar, List.map_map]
  simp [Function.comp_def]

/-! ## Writing what was read -/

theorem ofNat_toNat_byte (byte : UInt8) {n : Nat} (equal : n = byte.toNat) :
    UInt8.ofNat n = byte := by
  rw [equal, UInt8.ofNat_toNat]

/-- A number that is a code point is that of its character. -/
theorem toNat_ofNat_char
    {n : Nat}
    (valid : n < 55296 ∨ 57343 < n ∧ n < 1114112) :
    (Char.ofNat n).val.toNat = n := by
  change (Char.ofNat n).toNat = n
  rw [Char.toNat_ofNat, if_pos valid]

theorem utf8EncodeChar_one {first : UInt8} (ascii : first.toNat < 128) :
    String.utf8EncodeChar (Char.ofNat first.toNat) = [first] := by
  have code := toNat_ofNat_char (show first.toNat < 55296 ∨ _ by omega)
  simp only [String.utf8EncodeChar, code]
  rw [if_pos (by omega), UInt8.ofNat_toNat]

/-- The character of two bytes is encoded as these bytes. -/
theorem utf8EncodeChar_charOfTwo
    {first second : UInt8}
    (lead : 194 ≤ first.toNat ∧ first.toNat ≤ 223)
    (follows : isContinuation second = true) :
    String.utf8EncodeChar (charOfTwo first second) = [first, second] := by
  rw [isContinuation_iff] at follows
  unfold charOfTwo payload
  generalize equal : first.toNat % 32 * 64 + second.toNat % 64 = n
  have code := toNat_ofNat_char (n := n) (by omega)
  simp only [String.utf8EncodeChar, code]
  rw [if_neg (by omega), if_pos (by omega), ofNat_toNat_byte first (by omega),
    ofNat_toNat_byte second (by omega)]

/-- The character of three bytes is encoded as these bytes. -/
theorem utf8EncodeChar_charOfThree
    {first second third : UInt8}
    (lead : 224 ≤ first.toNat ∧ first.toNat ≤ 239)
    (follows : isSecondOfThree first second = true)
    (ends : isContinuation third = true) :
    String.utf8EncodeChar (charOfThree first second third) = [first, second, third] := by
  rw [isSecondOfThree_iff] at follows
  rw [isContinuation_iff] at ends
  unfold charOfThree payload
  generalize equal : first.toNat % 16 * 4096 + second.toNat % 64 * 64 + third.toNat % 64 = n
  have code := toNat_ofNat_char (n := n) (by omega)
  simp only [String.utf8EncodeChar, code]
  rw [if_neg (by omega), if_neg (by omega), if_pos (by omega),
    ofNat_toNat_byte first (by omega), ofNat_toNat_byte second (by omega),
    ofNat_toNat_byte third (by omega)]

/-- The character of four bytes is encoded as these bytes. -/
theorem utf8EncodeChar_charOfFour
    {first second third fourth : UInt8}
    (lead : 240 ≤ first.toNat ∧ first.toNat ≤ 244)
    (follows : isSecondOfFour first second = true)
    (continues : isContinuation third = true)
    (ends : isContinuation fourth = true) :
    String.utf8EncodeChar (charOfFour first second third fourth) =
      [first, second, third, fourth] := by
  rw [isSecondOfFour_iff] at follows
  rw [isContinuation_iff] at continues ends
  unfold charOfFour payload
  generalize equal : first.toNat % 8 * 262144 + second.toNat % 64 * 4096 +
    third.toNat % 64 * 64 + fourth.toNat % 64 = n
  have code := toNat_ofNat_char (n := n) (by omega)
  simp only [String.utf8EncodeChar, code]
  rw [if_neg (by omega), if_neg (by omega), if_neg (by omega),
    ofNat_toNat_byte first (by omega), ofNat_toNat_byte second (by omega),
    ofNat_toNat_byte third (by omega), ofNat_toNat_byte fourth (by omega)]

/-- A character that is read first is written first. -/
theorem starts_with_of_decode
    {bytes : Bytes}
    {char : Char}
    (starts : (decode bytes).head? = some (some char)) :
    ∃ rest, bytes = String.utf8EncodeChar char ++ rest := by
  rw [decode.eq_def] at starts
  -- The branches that find an ill-formed part start with nothing.
  repeat' split at starts
  all_goals simp only [List.head?_nil, List.head?_cons, Option.some.injEq, reduceCtorEq] at starts
  · next first rest ascii =>
    exact ⟨rest, by rw [← starts, utf8EncodeChar_one (UInt8.lt_iff_toNat_lt.mp ascii)]; rfl⟩
  · next first _ lead _ second rest follows =>
    have range : 194 ≤ first.toNat ∧ first.toNat ≤ 223 := by
      simpa [UInt8.le_iff_toNat_le] using lead
    exact ⟨rest, by rw [← starts, utf8EncodeChar_charOfTwo range follows]; rfl⟩
  · next first _ _ lead _ second third rest follows ends =>
    have range : 224 ≤ first.toNat ∧ first.toNat ≤ 239 := by
      simpa [UInt8.le_iff_toNat_le] using lead
    exact ⟨rest, by rw [← starts, utf8EncodeChar_charOfThree range follows ends]; rfl⟩
  · next first _ _ _ lead _ second third fourth rest follows continues ends =>
    have range : 240 ≤ first.toNat ∧ first.toNat ≤ 244 := by
      simpa [UInt8.le_iff_toNat_le] using lead
    exact ⟨rest, by rw [← starts, utf8EncodeChar_charOfFour range follows continues ends]; rfl⟩

theorem decode_ne_nil (first : UInt8) (rest : Bytes) : decode (first :: rest) ≠ [] := by
  rw [decode.eq_def]
  repeat' split
  all_goals simp_all

theorem encode_text_append (char : Char) (rest : Bytes) :
    encode (text (String.utf8EncodeChar char ++ rest)) =
      String.utf8EncodeChar char ++ encode (text rest) := by
  simp [encode, text, decode_utf8EncodeChar]

/-- Well-formed bytes are the bytes of the text read from them. -/
theorem encode_text {bytes : Bytes} (valid : isValid bytes = true) :
    encode (text bytes) = bytes := by
  -- By the number of bytes: the first character takes at least one of them.
  induction size : bytes.length using Nat.strong_induction_on generalizing bytes with
  | _ length ih =>
      cases bytes with
      | nil => simp [text]
      | cons first others =>
          obtain ⟨unit, units, read⟩ := List.exists_cons_of_ne_nil (decode_ne_nil first others)
          obtain ⟨char, rfl⟩ : ∃ char, unit = some char := by
            rw [isValid, read, List.all_cons, Bool.and_eq_true] at valid
            exact Option.isSome_iff_exists.mp valid.1
          obtain ⟨rest, written⟩ := starts_with_of_decode (by rw [read]; rfl)
          rw [written] at size valid ⊢
          rw [isValid, decode_utf8EncodeChar, List.all_cons, Bool.and_eq_true] at valid
          have shorter : rest.length < length := by
            have positive := char.utf8Size_pos
            rw [List.length_append, String.length_utf8EncodeChar] at size
            omega
          rw [encode_text_append, ih rest.length shorter valid.2 rfl]

end Utf8
end ScriptCore
