/-!
# Binary floating-point numbers

A float is its 64 bits: a sign, eleven exponent bits and 52 fraction bits. All
operations are exact integer arithmetic on these fields, so every statement
about them is a statement about integers. Rounding is to the nearest
representable number, and halfway cases go to the even significand.

There is no general arithmetic here; scripts only compare, convert and write
floats. A product and a quotient exist for scaling decimal significands.
-/

namespace ScriptCore

/-- A float, given by its bits. Two floats are identified only if their bits
agree; numeric comparison is `Binary64.compare`. -/
structure Binary64 where
  bits : UInt64
deriving DecidableEq

namespace Binary64

/-- Bits of the magnitude of infinity. -/
def infinityMagnitude : Nat := 0x7FF0000000000000

/-- The bits without the sign. -/
def magnitude (x : Binary64) : Nat :=
  x.bits.toNat % Nat.pow 2 63

/-- Whether the sign bit is set. -/
def isNegative (x : Binary64) : Bool :=
  decide (Nat.pow 2 63 ≤ x.bits.toNat)

/-- Attach a sign to a magnitude. -/
def ofMagnitude (negative : Bool) (magnitude : Nat) : Binary64 :=
  ⟨UInt64.ofNat (if negative then Nat.pow 2 63 + magnitude else magnitude)⟩

/-- Positive zero. -/
def zero : Binary64 := ⟨0⟩

/-- The quiet NaN used when a value only has to be some NaN. -/
def nan : Binary64 := ofMagnitude false 0x7FF8000000000000

def isNaN (x : Binary64) : Bool :=
  decide (infinityMagnitude < x.magnitude)

def isFinite (x : Binary64) : Bool :=
  decide (x.magnitude < infinityMagnitude)

/-- Both zeros. -/
def isZero (x : Binary64) : Bool :=
  x.magnitude == 0

/-! ## Order -/

/-- Position on the number line among the numbers that are not NaN; both zeros
have position zero. -/
def position (x : Binary64) : Int :=
  if x.isNegative then -(x.magnitude : Int) else x.magnitude

/-- Numeric comparison; a NaN is comparable with nothing. -/
def compare (x y : Binary64) : Option Ordering :=
  if x.isNaN || y.isNaN then none
  else some (Ord.compare x.position y.position)

/-- Numeric equality. -/
def equal (x y : Binary64) : Bool :=
  x.compare y == some .eq

/-! ## The exact value of a finite number -/

/-- The exponent field. -/
def exponentField (x : Binary64) : Nat :=
  x.magnitude / Nat.pow 2 52

/-- The integer `m` of the value `m * 2 ^ q`. -/
def significand (x : Binary64) : Nat :=
  if x.exponentField = 0 then x.magnitude else Nat.pow 2 52 + x.magnitude % Nat.pow 2 52

/-- The exponent `q` of the value `m * 2 ^ q`, increased by 1074 so that it is
a natural number. -/
def scale (x : Binary64) : Nat :=
  x.exponentField - 1

/-- Numerator of the absolute value. -/
def numerator (x : Binary64) : Nat :=
  x.significand * Nat.pow 2 (x.scale - 1074)

/-- Denominator of the absolute value. -/
def denominator (x : Binary64) : Nat :=
  Nat.pow 2 (1074 - x.scale)

/-! ## Rounding -/

/-- The integer nearest to a quotient, halves to the even one. -/
def roundQuotient (numerator denominator : Nat) : Nat :=
  let quotient := numerator / denominator
  let twice := 2 * (numerator % denominator)
  if denominator < twice || (denominator == twice && quotient % 2 == 1) then quotient + 1
  else quotient

/-- The scale, in the convention of `Binary64.scale`, at which a positive ratio
has a significand of 53 bits, or the least scale if it is too small for that. -/
def ratioScale (numerator denominator : Nat) : Nat :=
  let estimate : Int := (Nat.log2 numerator : Int) - Nat.log2 denominator - 52
  let reaches :=
    if 0 ≤ estimate + 52 then
      decide (denominator * Nat.pow 2 (estimate + 52).toNat ≤ numerator)
    else
      decide (denominator ≤ numerator * Nat.pow 2 (-(estimate + 52)).toNat)
  ((if reaches then estimate else estimate - 1) + 1074).toNat

/-- Magnitude of the float nearest to a ratio; too large a ratio gives
infinity. The carry out of a significand of 53 ones lands on the next scale by
the layout of the bits. -/
def magnitudeOfRatio (numerator denominator : Nat) : Nat :=
  if numerator = 0 then 0
  else
    let scale := ratioScale numerator denominator
    let rounded :=
      roundQuotient (numerator * Nat.pow 2 (1074 - scale)) (denominator * Nat.pow 2 (scale - 1074))
    min (scale * Nat.pow 2 52 + rounded) infinityMagnitude

/-- The float nearest to a signed ratio. -/
def ofRatio (negative : Bool) (numerator denominator : Nat) : Binary64 :=
  ofMagnitude negative (magnitudeOfRatio numerator denominator)

/-- The float nearest to an integer. -/
def ofInt (n : Int) : Binary64 :=
  ofRatio (decide (n < 0)) n.natAbs 1

/-- Decimal exponents outside this range round to zero or infinity whatever the
significand of the given number of digits. -/
def decimalLimit : Nat := 400

/-- The float nearest to `significand * 10 ^ exponent`. An exponent far out of
range is settled without forming the power. -/
def ofDecimal (negative : Bool) (significand : Nat) (exponent : Int) : Binary64 :=
  let digits : Int := (Nat.toDigits 10 significand).length
  if significand = 0 || exponent + digits < -(decimalLimit : Int) then ofMagnitude negative 0
  else if (decimalLimit : Int) < exponent + digits then ofMagnitude negative infinityMagnitude
  else if 0 ≤ exponent then ofRatio negative (significand * Nat.pow 10 exponent.toNat) 1
  else ofRatio negative significand (Nat.pow 10 (-exponent).toNat)

/-- Rounded product of finite numbers. -/
def mul (x y : Binary64) : Binary64 :=
  ofRatio (x.isNegative != y.isNegative)
    (x.numerator * y.numerator) (x.denominator * y.denominator)

/-- Rounded quotient of finite numbers with a divisor that is not zero. -/
def div (x y : Binary64) : Binary64 :=
  ofRatio (x.isNegative != y.isNegative)
    (x.numerator * y.denominator) (x.denominator * y.numerator)

/-! ## Integers -/

/-- The integer part of a finite number, clamped to 64 bits. -/
def truncate (x : Binary64) : Int64 :=
  let whole : Int := (x.numerator / x.denominator : Nat)
  let signed := if x.isNegative then -whole else whole
  Int64.ofInt (max Int64.minValue.toInt (min signed Int64.maxValue.toInt))

end Binary64
end ScriptCore
