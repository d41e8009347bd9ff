/-
# Exact decimals

A decimal keeps the digits and the exponent it was written with: `1.50` and `1.5` are
different decimals, and nothing is ever rounded. The exponent is bounded; a text beyond
the bounds is not a decimal.
-/

import Tenancy.Number.Numeral

namespace Tenancy

/-- A decimal number, an infinity, or an undefined value with an optional payload. -/
inductive Decimal where
  /-- The value `± coefficient · 10 ^ exponent`. -/
  | finite (negative : Bool) (coefficient : Nat) (exponent : Int)
  | infinite (negative : Bool)
  /-- An undefined value, signaling or quiet. A payload of zero is no payload. -/
  | undefined (negative signaling : Bool) (payload : Nat)
deriving DecidableEq, Repr

namespace Decimal

/-- The least exponent. -/
def minExponent : Int := -1999999999999999997

/-- The largest power of ten that a digit may count. -/
def maxExponent : Int := 999999999999999999

/-- Whether a coefficient and an exponent are within bounds. -/
def inBounds (coefficient : Nat) (exponent : Int) : Bool :=
  let top := if coefficient = 0 then exponent else exponent + (Text.digitsOf coefficient).length - 1
  minExponent ≤ exponent && top ≤ maxExponent

/-- Read the words for infinity and for the undefined values. -/
def ofWord? (cs : List Char) : Option Decimal :=
  let (negative, body) := Numeral.splitSign (cs.map Char.toLower)
  let payload? (rest : List Char) : Option Nat :=
    if rest.all Char.isDigit then some (Text.numeral rest) else none
  if body = "inf".toList ∨ body = "infinity".toList then some (.infinite negative)
  else match body with
    | 'n' :: 'a' :: 'n' :: rest => (payload? rest).map (.undefined negative false)
    | 's' :: 'n' :: 'a' :: 'n' :: rest => (payload? rest).map (.undefined negative true)
    | _ => none

/-- Read a decimal from free text: blanks around it and underscores anywhere are ignored,
and digits of any script are allowed. -/
def ofText? (cs : List Char) : Option Decimal :=
  match asciiNumeral? ((Text.trim cs).filter (· != '_')) with
  | none => none
  | some body =>
      match Numeral.read? body with
      | some n =>
          if inBounds n.coefficient n.scale then some (.finite n.negative n.coefficient n.scale)
          else none
      | none => ofWord? body

/-- The text of `coefficient · 10 ^ exponent`: with a point when the exponent is at most zero and
at most five zeros follow the point, otherwise with one digit before the point and an
exponent. -/
def printFinite (coefficient : Nat) (exponent : Int) : List Char :=
  let digits := Text.digitsOf coefficient
  let left : Int := exponent + digits.length
  let point : Int := if exponent ≤ 0 ∧ -6 < left then left else 1
  let body :=
    if point ≤ 0 then '0' :: '.' :: (List.replicate (-point).toNat '0' ++ digits)
    else if (digits.length : Int) ≤ point then
      digits ++ List.replicate (point.toNat - digits.length) '0'
    else digits.take point.toNat ++ '.' :: digits.drop point.toNat
  let power := left - point
  if power = 0 then body
  else body ++ 'E' :: (if power < 0 then '-' else '+') :: Text.digitsOf power.natAbs

/-- The text of a decimal. -/
def print : Decimal → String
  | .finite negative c e => String.ofList ((if negative then ['-'] else []) ++ printFinite c e)
  | .infinite negative => if negative then "-Infinity" else "Infinity"
  | .undefined negative signaling payload =>
      (if negative then "-" else "") ++ (if signaling then "sNaN" else "NaN") ++
        (if payload = 0 then "" else String.ofList (Text.digitsOf payload))

end Decimal

end Tenancy
