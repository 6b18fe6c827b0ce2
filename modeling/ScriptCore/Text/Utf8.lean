/-!
# UTF-8 byte strings

A script string is a sequence of bytes that need not be well formed. This
module encodes text as bytes and reads bytes back as text. An ill-formed part
is read as one replacement character for each maximal prefix of a well-formed
sequence, so reading never fails.

Both directions work on lists; nothing here is tuned for long strings.
-/

namespace ScriptCore

/-- The content of a script string. -/
abbrev Bytes := List UInt8

namespace Utf8

/-- The character that stands for an ill-formed sequence. -/
def replacement : Char := '�'

/-- The bytes of a text. -/
def encode (text : String) : Bytes :=
  text.toList.flatMap String.utf8EncodeChar

/-- A byte that continues a sequence. -/
def isContinuation (byte : UInt8) : Bool :=
  0x80 ≤ byte && byte ≤ 0xBF

/-- Bytes that may follow the first byte of a three-byte sequence. -/
def isSecondOfThree (first second : UInt8) : Bool :=
  if first == 0xE0 then 0xA0 ≤ second && second ≤ 0xBF
  else if first == 0xED then 0x80 ≤ second && second ≤ 0x9F
  else isContinuation second

/-- Bytes that may follow the first byte of a four-byte sequence. -/
def isSecondOfFour (first second : UInt8) : Bool :=
  if first == 0xF0 then 0x90 ≤ second && second ≤ 0xBF
  else if first == 0xF4 then 0x80 ≤ second && second ≤ 0x8F
  else isContinuation second

/-- The six payload bits of a continuation byte. -/
def payload (byte : UInt8) : Nat :=
  byte.toNat % 64

/-- The character of a two-byte sequence. -/
def charOfTwo (first second : UInt8) : Char :=
  Char.ofNat (first.toNat % 32 * 64 + payload second)

/-- The character of a three-byte sequence. -/
def charOfThree (first second third : UInt8) : Char :=
  Char.ofNat (first.toNat % 16 * 4096 + payload second * 64 + payload third)

/-- The character of a four-byte sequence. -/
def charOfFour (first second third fourth : UInt8) : Char :=
  Char.ofNat
    (first.toNat % 8 * 262144 + payload second * 4096 + payload third * 64 + payload fourth)

/-- Read bytes as characters, with `none` for every ill-formed part. -/
def decode : Bytes → List (Option Char)
  | [] => []
  | first :: rest =>
      if first < 0x80 then
        some (Char.ofNat first.toNat) :: decode rest
      else if 0xC2 ≤ first && first ≤ 0xDF then
        match rest with
        | second :: rest₁ =>
            if isContinuation second then some (charOfTwo first second) :: decode rest₁
            else none :: decode (second :: rest₁)
        | [] => [none]
      else if 0xE0 ≤ first && first ≤ 0xEF then
        match rest with
        | second :: third :: rest₂ =>
            if isSecondOfThree first second then
              if isContinuation third then some (charOfThree first second third) :: decode rest₂
              else none :: decode (third :: rest₂)
            else none :: decode (second :: third :: rest₂)
        | [second] => if isSecondOfThree first second then [none] else none :: decode [second]
        | [] => [none]
      else if 0xF0 ≤ first && first ≤ 0xF4 then
        match rest with
        | second :: third :: fourth :: rest₃ =>
            if isSecondOfFour first second then
              if isContinuation third then
                if isContinuation fourth then
                  some (charOfFour first second third fourth) :: decode rest₃
                else none :: decode (fourth :: rest₃)
              else none :: decode (third :: fourth :: rest₃)
            else none :: decode (second :: third :: fourth :: rest₃)
        | [second, third] =>
            if isSecondOfFour first second then
              if isContinuation third then [none] else none :: decode [third]
            else none :: decode [second, third]
        | [second] => if isSecondOfFour first second then [none] else none :: decode [second]
        | [] => [none]
      else
        none :: decode rest
termination_by structural bytes => bytes

/-- Whether the bytes are a well-formed text. -/
def isValid (bytes : Bytes) : Bool :=
  (decode bytes).all Option.isSome

/-- The text of the bytes, with a replacement character for every ill-formed
part. -/
def text (bytes : Bytes) : String :=
  String.ofList ((decode bytes).map fun unit => unit.getD replacement)

@[simp] theorem decode_nil : decode [] = [] := by
  rw [decode]

@[simp] theorem encode_empty : encode "" = [] := by
  simp [encode]

end Utf8
end ScriptCore
