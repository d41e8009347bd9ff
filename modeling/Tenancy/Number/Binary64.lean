/-
# Binary floating point

A number with a point or an exponent is held in the 64-bit binary format, as the exact
value `± significand · 2 ^ exponent` rather than as a machine word. The significand is below
`2 ^ 53`, and it is at least `2 ^ 52` unless the exponent is the smallest one; every value
has one such form. Rounding a quotient of natural numbers to this format is the one
operation that loses information, and both the reader of decimal numerals and the product
with an integer are instances of it.
-/

namespace Tenancy

/-- A power of two. -/
def twoTo (n : Nat) : Nat := Nat.pow 2 n

/-- A power of ten. -/
def tenTo (n : Nat) : Nat := Nat.pow 10 n

/-- No power of two is zero. -/
theorem twoTo_pos (n : Nat) : 0 < twoTo n := Nat.pow_pos (by decide)

/-- No power of ten is zero. -/
theorem tenTo_pos (n : Nat) : 0 < tenTo n := Nat.pow_pos (by decide)

/-- A value of the 64-bit binary format. -/
inductive Binary64 where
  /-- The value `significand · 2 ^ exponent`, with a sign that zero has as well. -/
  | finite (negative : Bool) (significand : Nat) (exponent : Int)
  | infinite (negative : Bool)
  /-- The result of no meaningful operation. -/
  | nan
deriving DecidableEq, Repr

namespace Binary64

/-- The exponent of the subnormal numbers, the smallest there is. -/
def minExponent : Int := -1074

/-- The largest exponent of a finite value. -/
def maxExponent : Int := 971

/-- Zero with the given sign. -/
def signedZero (negative : Bool) : Binary64 := .finite negative 0 minExponent

/-- The integer nearest to a quotient, an exact half going to the even neighbour. -/
def roundDiv (num den : Nat) : Nat :=
  let whole := num / den
  let rest := num % den
  if 2 * rest < den then whole
  else if den < 2 * rest then whole + 1
  else if whole % 2 = 0 then whole else whole + 1

/-- The largest `k` with `2 ^ k ≤ num / den`, for positive `num` and `den`. -/
def floorLog2 (num den : Nat) : Int :=
  let guess : Int := (num.log2 : Int) - den.log2
  let reached := if 0 ≤ guess then den * twoTo guess.toNat ≤ num else den ≤ num * twoTo (-guess).toNat
  if reached then guess else guess - 1

/-- The value nearest to `num / den`, an exact half going to the even significand and a
magnitude beyond the largest finite value to infinity. -/
def ofRatio (negative : Bool) (num den : Nat) : Binary64 :=
  if num = 0 then signedZero negative
  else
    let q := max (floorLog2 num den - 52) minExponent
    let m := if 0 ≤ q then roundDiv num (den * twoTo q.toNat) else roundDiv (num * twoTo (-q).toNat) den
    let (m, q) := if m = twoTo 53 then (twoTo 52, q + 1) else (m, q)
    if maxExponent < q then .infinite negative else .finite negative m q

/-- The value nearest to `digits · 10 ^ scale`. Magnitudes far outside the format are
decided without computing the power. -/
def ofDecimal (negative : Bool) (digits : Nat) (scale : Int) : Binary64 :=
  if digits = 0 then signedZero negative
  else
    let size : Int := (Nat.toDigits 10 digits).length + scale
    if 310 < size then .infinite negative
    else if size < -330 then signedZero negative
    else if 0 ≤ scale then ofRatio negative (digits * tenTo scale.toNat) 1
    else ofRatio negative digits (tenTo (-scale).toNat)

/-- The value nearest to an integer. -/
def ofInt (n : Int) : Binary64 :=
  ofRatio (n < 0) n.natAbs 1

/-- The integer a finite value equals, when it has no fractional part. -/
def toInt? : Binary64 → Option Int
  | .finite negative m q =>
      let signed (n : Nat) : Int := if negative then -(n : Int) else n
      if 0 ≤ q then some (signed (m * twoTo q.toNat))
      else if m % twoTo (-q).toNat = 0 then some (signed (m / twoTo (-q).toNat))
      else none
  | _ => none

/-- Whether two values are the same number. The two zeros are, and the undefined value
equals nothing. -/
def sameNumber : Binary64 → Binary64 → Bool
  | .finite s m q, .finite s' m' q' => (m == 0 && m' == 0) || (s == s' && m == m' && q == q')
  | .infinite s, .infinite s' => s == s'
  | _, _ => false

/-- Whether a value is the given integer. -/
def equalsInt (x : Binary64) (n : Int) : Bool :=
  x.toInt? == some n

/-- Whether a value is neither infinite nor undefined. -/
def isFinite : Binary64 → Bool
  | .finite .. => true
  | _ => false

end Binary64

end Tenancy
