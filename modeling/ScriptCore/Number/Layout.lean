import ScriptCore.Number.Shortest

/-!
# Layout of decimal text

A finite float is written from its shortest decimal, plainly while the exponent
is moderate and with an exponent otherwise. The two formats of this library
differ in where plain writing ends, in the sign of the exponent and in which of
two equally near decimals they choose.
-/

namespace ScriptCore

/-- The choices of a format for finite floats. -/
structure FloatLayout where
  /-- Least exponent of the leading digit that is written plainly. -/
  plainFrom : Int
  /-- Exponent of the leading digit from which an exponent is written. -/
  plainBelow : Int
  /-- Whether a positive exponent carries a sign. -/
  signedExponent : Bool
  /-- Which of two equally near decimals is written. -/
  tie : Tie

namespace FloatLayout

/-- Displayed values: plain from 0.0001 up to 10^16. -/
def display : FloatLayout :=
  { plainFrom := -4, plainBelow := 16, signedExponent := false, tie := .up }

/-- JSON text: plain from 0.00001 up to 10^16, and a sign on every exponent. -/
def json : FloatLayout :=
  { plainFrom := -5, plainBelow := 16, signedExponent := true, tie := .toEven }

/-- Decimal digits of a natural number. -/
def digitsOf (n : Nat) : List Char :=
  Nat.toDigits 10 n

/-- Text of an exponent. -/
def exponentText (layout : FloatLayout) (exponent : Int) : List Char :=
  let sign :=
    if exponent < 0 then ['-']
    else if layout.signedExponent then ['+'] else []
  'e' :: sign ++ digitsOf exponent.natAbs

/-- Leading digit, then the others after a point, then the exponent. -/
def exponentForm (layout : FloatLayout) (digits : List Char) (leading : Int) : List Char :=
  match digits with
  | [] => []
  | [first] => first :: layout.exponentText leading
  | first :: others => first :: '.' :: others ++ layout.exponentText leading

/-- Digits with a point, and at least one digit on each side of it. -/
def plainForm (digits : List Char) (exponent : Int) : List Char :=
  if 0 ≤ exponent then
    digits ++ List.replicate exponent.toNat '0' ++ ['.', '0']
  else
    let places := (-exponent).toNat
    if places < digits.length then
      digits.take (digits.length - places) ++ '.' :: digits.drop (digits.length - places)
    else
      '0' :: '.' :: List.replicate (places - digits.length) '0' ++ digits

/-- Text of a positive decimal. -/
def decimal (layout : FloatLayout) (value : Decimal) : List Char :=
  let digits := digitsOf value.digits
  let leading := value.exponent + (digits.length : Int) - 1
  if layout.plainFrom ≤ leading && leading < layout.plainBelow then plainForm digits value.exponent
  else layout.exponentForm digits leading

/-- Text of a finite float. -/
def finite (layout : FloatLayout) (x : Binary64) : String :=
  let unsigned :=
    if x.isZero then ['0', '.', '0'] else layout.decimal (x.shortest layout.tie)
  String.ofList (if x.isNegative then '-' :: unsigned else unsigned)

end FloatLayout

namespace Binary64

/-- The displayed text of a float. -/
def toText (x : Binary64) : String :=
  if x.isNaN then "NaN"
  else if x.isFinite then FloatLayout.display.finite x
  else if x.isNegative then "-inf" else "inf"

end Binary64
end ScriptCore
