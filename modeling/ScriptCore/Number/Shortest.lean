import ScriptCore.Number.Binary64

/-!
# Shortest decimals

The decimal text of a float is the shortest one that reads back as the same
float. The reals that round to a float form an interval; its ends belong to it
when the significand is even. The coarsest grid of multiples of a power of ten
with a point in that interval gives the digits, and of its points in the
interval the nearest to the float is taken. Which way an exact tie goes is left
to the format that writes the number.
-/

namespace ScriptCore

/-- Which of two equally near decimals is written. -/
inductive Tie where
  | up
  | toEven
deriving DecidableEq

/-- A positive decimal `digits * 10 ^ exponent`. -/
structure Decimal where
  digits : Nat
  exponent : Int
deriving DecidableEq

namespace Binary64

/-- The reals that round to a float, as three numerators over one denominator:
the lower end, the float itself and the upper end. -/
structure RoundingInterval where
  lower : Nat
  center : Nat
  upper : Nat
  denominator : Nat
  closed : Bool

/-- The rounding interval of a positive finite float. The gap below a power of
two is half as wide as the gap above it, so quarters of the last place are the
common unit. -/
def roundingInterval (x : Binary64) : RoundingInterval :=
  let unit := Nat.pow 2 (x.scale - 1074)
  let below := if x.significand = Nat.pow 2 52 && decide (1 < x.exponentField) then 1 else 2
  { lower := (4 * x.significand - below) * unit
    center := 4 * x.significand * unit
    upper := (4 * x.significand + 2) * unit
    denominator := 4 * Nat.pow 2 (1074 - x.scale)
    closed := x.significand % 2 == 0 }

namespace RoundingInterval

/-- Whether `point * num / den` lies in the interval. -/
def contains (interval : RoundingInterval) (point num den : Nat) : Bool :=
  let place := point * num * interval.denominator
  let lower := interval.lower * den
  let upper := interval.upper * den
  if interval.closed then decide (lower ≤ place) && decide (place ≤ upper)
  else decide (lower < place) && decide (place < upper)

/-- The point of the grid of multiples of `num / den` that is in the interval
and nearest to its center. -/
def nearestOnGrid (tie : Tie) (interval : RoundingInterval) (num den : Nat) : Option Nat :=
  let cell := num * interval.denominator
  let below := interval.center * den / cell
  let rest := 2 * (interval.center * den % cell)
  let belowIn := interval.contains below num den
  let aboveIn := interval.contains (below + 1) num den
  if belowIn && aboveIn then
    if rest < cell then some below
    else if cell < rest then some (below + 1)
    else match tie with
      | .up => some (below + 1)
      | .toEven => some (if below % 2 = 0 then below else below + 1)
  else if belowIn then some below
  else if aboveIn then some (below + 1)
  else none

/-- The point on the grid of multiples of a power of ten. -/
def nearestAt (tie : Tie) (interval : RoundingInterval) (exponent : Int) : Option Nat :=
  if 0 ≤ exponent then interval.nearestOnGrid tie (Nat.pow 10 exponent.toNat) 1
  else interval.nearestOnGrid tie 1 (Nat.pow 10 (-exponent).toNat)

/-- Search from a grid that is too coarse towards finer ones. -/
def search (tie : Tie) (interval : RoundingInterval) : Nat → Int → Decimal
  | 0, exponent => ⟨0, exponent⟩
  | fuel + 1, exponent =>
      match interval.nearestAt tie exponent with
      | some digits => ⟨digits, exponent⟩
      | none => interval.search tie fuel (exponent - 1)

/-- An exponent of ten above every point of the interval, from the binary
logarithm of its center. -/
def coarsest (interval : RoundingInterval) : Int :=
  ((Nat.log2 interval.center : Int) - Nat.log2 interval.denominator + 1) * 30103 / 100000 + 2

end RoundingInterval

/-- Grids tried between one that is too coarse and one that is fine enough. -/
def gridLimit : Nat := 32

/-- The shortest decimal of a positive finite float. -/
def shortest (tie : Tie) (x : Binary64) : Decimal :=
  let interval := x.roundingInterval
  interval.search tie gridLimit interval.coarsest

end Binary64
end ScriptCore
