/-
# Shortest decimal text

A binary value is written with the fewest decimal digits that read back as the same value,
and among texts of that length with the one nearest to the value; an even last digit decides
between two that are equally near. The digits are found by trying one digit, two digits, and
so on: on each decimal grid only the two neighbours of the value can lie in the interval of
numbers that round to it. All comparisons are between natural numbers, after scaling the
value, its interval and the grid to one denominator.
-/

import Tenancy.Number.Binary64

namespace Tenancy.Binary64

/-- The numbers that round to `significand · 2 ^ exponent`, as a middle with its distance to
either end. All three are multiples of one quarter of the last binary place, counted in
`unit = num / den`. -/
structure RoundingInterval where
  /-- The value itself, in units. -/
  middle : Nat
  /-- Distance to the lower end, in units. -/
  below : Nat
  /-- Distance to the upper end, in units. -/
  above : Nat
  /-- Whether the ends belong to the interval. -/
  closed : Bool

/-- The interval of a positive value in quarters of its last place. Below a power of two the
neighbouring values are twice as dense. -/
def roundingInterval (significand : Nat) (exponent : Int) : RoundingInterval where
  middle := 4 * significand
  below := if significand = twoTo 52 ∧ minExponent < exponent then 1 else 2
  above := 2
  closed := significand % 2 = 0

/-- Whether `candidate` grid steps lie in the interval, a unit being `unit` and a grid step
being `step` of a common measure. -/
def RoundingInterval.admits (i : RoundingInterval) (unit step candidate : Nat) : Bool :=
  let point := candidate * step
  let low := (i.middle - i.below) * unit
  let high := (i.middle + i.above) * unit
  if i.closed then low ≤ point && point ≤ high else low < point && point < high

/-- The grid point that represents the value on one grid, if any does: of two the nearer one,
and the even one when the value lies half-way. -/
def RoundingInterval.choose? (i : RoundingInterval) (unit step : Nat) : Option Nat :=
  let value := i.middle * unit
  let down := value / step
  let up := down + 1
  match i.admits unit step down, i.admits unit step up with
  | true, true => some (roundDiv value step)
  | true, false => some down
  | false, true => some up
  | false, false => none

/-- The unit and the grid step `10 ^ scale` in a common measure, where the unit is a quarter
of `2 ^ exponent`. -/
def commonMeasure (exponent scale : Int) : Nat × Nat :=
  let e := exponent - 2
  let (u, s) := if 0 ≤ e then (twoTo e.toNat, 1) else (1, twoTo (-e).toNat)
  if 0 ≤ scale then (u, s * tenTo scale.toNat) else (u * tenTo (-scale).toNat, s)

/-- The largest `k` with `10 ^ k ≤ significand · 2 ^ exponent`, found by moving up or down from a
guess that is at most one off. -/
def floorLog10 (significand : Nat) (exponent : Int) : Int :=
  let reaches (k : Int) : Bool :=
    let (u, s) := commonMeasure exponent k
    s ≤ 4 * significand * u
  let bits : Int := significand.log2 + exponent
  let guess := Int.fdiv (bits * 30103) 100000
  if reaches (guess + 1) then guess + 1 else if reaches guess then guess else guess - 1

/-- Try grids of `count`, `count + 1`, … digits below the leading place `top`. -/
def searchDigits (i : RoundingInterval) (exponent top : Int) : Nat → Nat → Nat × Int
  | 0, _ => (0, 0)
  | fuel + 1, count =>
      let scale := top - count + 1
      let (u, s) := commonMeasure exponent scale
      match i.choose? u s with
      | some digits => (digits, scale)
      | none => searchDigits i exponent top fuel (count + 1)

/-- The shortest decimal `digits · 10 ^ scale` that rounds to a positive value. Seventeen digits
always suffice. -/
def shortestDecimal (significand : Nat) (exponent : Int) : Nat × Int :=
  searchDigits (roundingInterval significand exponent) exponent (floorLog10 significand exponent) 17 1

/-- How a decimal is laid out as text. -/
structure Layout where
  /-- Least exponent of ten that is written with a point rather than an exponent. -/
  positionalFrom : Int
  /-- First exponent of ten that is written with an exponent again. -/
  positionalBelow : Int
  /-- Least number of digits of a written exponent. -/
  exponentWidth : Nat

/-- Numbers are positional from 0.0001 up to, and without, 10 to the sixteenth; an exponent
has a sign and at least two digits. -/
def Layout.standard : Layout := ⟨-4, 16, 2⟩

/-- Drop the zeros at the end of a numeral. -/
def dropTrailingZeros (digits : List Char) : List Char :=
  (digits.reverse.dropWhile (· == '0')).reverse

/-- Lay out a decimal whose digits are `digits` and whose last digit counts `10 ^ scale`. -/
def Layout.write (l : Layout) (digits : List Char) (scale : Int) : List Char :=
  let top : Int := scale + digits.length - 1
  let ds := dropTrailingZeros digits
  if l.positionalFrom ≤ top ∧ top < l.positionalBelow then
    if top < 0 then '0' :: '.' :: (List.replicate (-top - 1).toNat '0' ++ ds)
    else
      let point := top.toNat + 1
      let whole := ds.take point ++ List.replicate (point - ds.length) '0'
      let fraction := ds.drop point
      whole ++ '.' :: (if fraction.isEmpty then ['0'] else fraction)
  else
    let mantissa := match ds with
      | [] => ['0']
      | [d] => [d]
      | d :: rest => d :: '.' :: rest
    let places := Nat.toDigits 10 top.natAbs
    mantissa ++ 'e' :: (if top < 0 then '-' else '+') ::
      (List.replicate (l.exponentWidth - places.length) '0' ++ places)

/-- The text of a value. -/
def print : Binary64 → String
  | .nan => "nan"
  | .infinite negative => if negative then "-inf" else "inf"
  | .finite negative m q =>
      let sign := if negative then "-" else ""
      if m = 0 then sign ++ "0.0"
      else
        let (digits, scale) := shortestDecimal m q
        sign ++ String.ofList (Layout.standard.write (Nat.toDigits 10 digits) scale)

end Tenancy.Binary64
