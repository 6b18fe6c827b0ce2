import ScriptCore.Json.Basic

/-!
# JSON numbers

A number without fraction and exponent is an integer as far as 64 bits reach;
beyond that, and for the integer `-0`, it is a float. A float is read from a
significand of at most 64 bits, which is rounded and then multiplied or divided
by a rounded power of ten. Integer digits that no longer fit only raise the
exponent, and fraction digits that no longer fit are dropped. A number too
large for a float is refused.
-/

namespace ScriptCore
namespace Json

/-- Largest significand that is kept. -/
def maxSignificand : Nat := Nat.pow 2 64 - 1

/-- Largest exponent that is counted. -/
def maxExponent : Nat := Nat.pow 2 31 - 1

/-- The value of a digit character. -/
def digitValue (digit : Char) : Nat :=
  digit.toNat - '0'.toNat

/-- Read digits into a significand while it fits; the rest of the digits is
returned unread. -/
def accumulate (limit : Nat) : Nat → List Char → Nat × List Char
  | total, [] => (total, [])
  | total, digit :: digits =>
      let next := total * 10 + digitValue digit
      if limit < next then (total, digit :: digits) else accumulate limit next digits

/-- A rounded power of ten. -/
def powerOfTen (exponent : Nat) : Binary64 :=
  Binary64.ofDecimal false 1 exponent

/-- Largest exponent of a finite power of ten. -/
def largestPower : Nat := 308

/-- Scale a rounded significand by a power of ten, in rounded steps. Every
number vanishes within a few divisions by the largest power. -/
def scaleByTen : Nat → Binary64 → Int → Option Binary64
  | 0, x, _ => some x
  | fuel + 1, x, exponent =>
      if exponent.natAbs ≤ largestPower then
        if 0 ≤ exponent then
          let product := x.mul (powerOfTen exponent.natAbs)
          if product.isFinite then some product else none
        else some (x.div (powerOfTen exponent.natAbs))
      else if x.isZero then some x
      else if 0 ≤ exponent then none
      else scaleByTen fuel (x.div (powerOfTen largestPower)) (exponent + largestPower)

/-- A float from its parts. -/
def ofParts (negative : Bool) (significand : Nat) (exponent : Int) : Option Json :=
  (scaleByTen 4 (Binary64.ofInt significand) exponent).map fun x =>
    float (Binary64.ofMagnitude negative x.magnitude)

/-- An integer without fraction and exponent. -/
def ofWhole (negative : Bool) (significand : Nat) : Json :=
  if !negative then integer significand
  else if significand = 0 || Nat.pow 2 63 < significand then
    float (Binary64.ofMagnitude true (Binary64.ofInt significand).magnitude)
  else integer (-(significand : Int))

/-- Digits at the start, and what follows them. -/
def splitDigits (chars : List Char) : List Char × List Char :=
  (chars.takeWhile Char.isDigit, chars.dropWhile Char.isDigit)

/-- Read the exponent after its mark and form the number. -/
def readExponent (negative : Bool) (significand : Nat) (scale : Int) (chars : List Char) :
    Option (Json × List Char) :=
  let (negativeExponent, body) :=
    match chars with
    | '+' :: rest => (false, rest)
    | '-' :: rest => (true, rest)
    | _ => (false, chars)
  let (digits, rest) := splitDigits body
  if digits.isEmpty then none
  else
    match accumulate maxExponent 0 digits with
    | (magnitude, []) =>
        let exponent : Int := if negativeExponent then -(magnitude : Int) else magnitude
        (ofParts negative significand (scale + exponent)).map fun number => (number, rest)
    | (_, _ :: _) =>
        if significand ≠ 0 && !negativeExponent then none
        else some (float (Binary64.ofMagnitude negative 0), rest)

/-- Form a number from its significand, going on with an exponent if there is
one. -/
def finishFloat (negative : Bool) (significand : Nat) (scale : Int) (chars : List Char) :
    Option (Json × List Char) :=
  match chars with
  | 'e' :: rest => readExponent negative significand scale rest
  | 'E' :: rest => readExponent negative significand scale rest
  | _ => (ofParts negative significand scale).map fun number => (number, chars)

/-- Read a number after its sign. -/
def readNumber (negative : Bool) (chars : List Char) : Option (Json × List Char) :=
  let (whole, rest) := splitDigits chars
  if whole.isEmpty || (whole.head? == some '0' && decide (1 < whole.length)) then none
  else
    let (significand, unread) := accumulate maxSignificand 0 whole
    match rest with
    | '.' :: afterPoint =>
        let (places, rest) := splitDigits afterPoint
        if places.isEmpty then none
        else
          let (significand, dropped) := accumulate maxSignificand significand places
          let scale : Int := (unread.length : Int) - (places.length - dropped.length : Nat)
          finishFloat negative significand scale rest
    | 'e' :: _ => finishFloat negative significand unread.length rest
    | 'E' :: _ => finishFloat negative significand unread.length rest
    | _ =>
        if unread.isEmpty then some (ofWhole negative significand, rest)
        else finishFloat negative significand unread.length rest

end Json
end ScriptCore
