import ScriptCore.Number.Binary64
import ScriptCore.Text.Blank
import ScriptCore.Text.Utf8

/-!
# Leading numerals

A string converts to a number by the numeral at its start, after blanks; the
rest of the string is ignored. An integer numeral out of the 64-bit range is no
numeral at all. A float numeral is the longest prefix of the form

`[+-] digits [. [digits]] [e [+-] digits]`, or with the integer digits left out
and at least one digit after the point.
-/

namespace ScriptCore
namespace Numeral

/-- An ASCII digit. -/
def isDigit (byte : UInt8) : Bool :=
  0x30 ≤ byte && byte ≤ 0x39

/-- The value of an ASCII digit. -/
def digitValue (byte : UInt8) : Nat :=
  byte.toNat - 0x30

/-- A plus or minus sign. -/
def isSign (byte : UInt8) : Bool :=
  byte == 0x2B || byte == 0x2D

/-- Drop the blanks before a numeral. -/
def skipBlanks (bytes : Bytes) : Bytes :=
  bytes.dropWhile Text.isNumeralBlank

/-- The digits at the start. -/
def digitRun (bytes : Bytes) : Bytes :=
  bytes.takeWhile isDigit

/-- The natural number of a digit run. -/
def valueOfDigits (digits : Bytes) : Nat :=
  digits.foldl (fun value digit => value * 10 + digitValue digit) 0

/-- An optional sign at the start, and what follows it. -/
def splitSign : Bytes → Bool × Bytes
  | [] => (false, [])
  | byte :: rest =>
      if byte == 0x2D then (true, rest)
      else if byte == 0x2B then (false, rest)
      else (false, byte :: rest)

/-! ## Integers -/

/-- A number, provided that it fits in 64 bits. -/
def checked (n : Int) : Option Int :=
  if Int64.minValue.toInt ≤ n && n ≤ Int64.maxValue.toInt then some n else none

/-- Read one more digit of a signed numeral, checking the range after the
shift and again after the digit is added on the side of the sign. -/
def checkedStep (negative : Bool) (n : Int) (digit : UInt8) : Option Int := do
  let shifted ← checked (n * 10)
  checked (if negative then shifted - digitValue digit else shifted + digitValue digit)

/-- The integer numeral at the start of a string. -/
def leadingInt? (bytes : Bytes) : Option Int64 :=
  let (negative, body) := splitSign (skipBlanks bytes)
  let digits := digitRun body
  if digits.isEmpty then none
  else (digits.foldlM (checkedStep negative) 0).map Int64.ofInt

/-! ## Floats -/

/-- The sign of a numeral as it is written. -/
def signPart : Bytes → Bytes
  | [] => []
  | byte :: _ => if isSign byte then [byte] else []

/-- The point and the digits after it, unless there is no digit on either
side. -/
def fractionPart (wholeEmpty : Bool) : Bytes → Bytes
  | 0x2E :: rest =>
      let digits := digitRun rest
      if wholeEmpty && digits.isEmpty then [] else 0x2E :: digits
  | _ => []

/-- The exponent, if at least one digit follows its mark. -/
def exponentPart : Bytes → Bytes
  | [] => []
  | mark :: rest =>
      if mark == 0x65 || mark == 0x45 then
        let sign := signPart rest
        let digits := digitRun (rest.drop sign.length)
        if digits.isEmpty then [] else mark :: sign ++ digits
      else []

/-- The longest float numeral at the start of a string without blanks before
it. -/
def floatPrefix? (bytes : Bytes) : Option Bytes :=
  let sign := signPart bytes
  let afterSign := bytes.drop sign.length
  let whole := digitRun afterSign
  let afterWhole := afterSign.drop whole.length
  let fraction := fractionPart whole.isEmpty afterWhole
  if whole.isEmpty && fraction.isEmpty then none
  else some (sign ++ whole ++ fraction ++ exponentPart (afterWhole.drop fraction.length))

/-- The digits after a point, if there is one, and what follows them. -/
def splitPlaces : Bytes → Bytes × Bytes
  | 0x2E :: rest => (digitRun rest, rest.drop (digitRun rest).length)
  | bytes => ([], bytes)

/-- Read a complete exponent; none stands for zero. -/
def readExponent? : Bytes → Option Int
  | [] => some 0
  | mark :: rest =>
      let (negative, digits) := splitSign rest
      if (mark == 0x65 || mark == 0x45) && !digits.isEmpty && digits.all isDigit then
        let exponent : Int := valueOfDigits digits
        some (if negative then -exponent else exponent)
      else none

/-- Read a complete float numeral. -/
def readFloat? (bytes : Bytes) : Option Binary64 :=
  let (negative, body) := splitSign bytes
  let whole := digitRun body
  let (places, afterPlaces) := splitPlaces (body.drop whole.length)
  if whole.isEmpty && places.isEmpty then none
  else (readExponent? afterPlaces).map fun exponent =>
    Binary64.ofDecimal negative (valueOfDigits (whole ++ places)) (exponent - places.length)

/-- The float numeral at the start of a string. -/
def leadingFloat? (bytes : Bytes) : Option Binary64 :=
  (floatPrefix? (skipBlanks bytes)).bind readFloat?

end Numeral
end ScriptCore
