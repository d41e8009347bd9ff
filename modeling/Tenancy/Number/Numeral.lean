/-
# Decimal numerals

The common grammar of numbers with a point or an exponent: an optional sign, digits with at
most one point among or around them, and an optional exponent. Reading keeps the digits as
they stand, so that each kind of number decides for itself what they are worth: binary
numbers round, decimal numbers keep every digit.
-/

import Tenancy.Number.Binary64
import Tenancy.Text.Blank
import Tenancy.Text.Digit

namespace Tenancy

/-- A numeral taken apart: sign, all digits with the point removed, and the power of ten
that the last digit counts. -/
structure Numeral where
  /-- Whether a minus sign stands in front. -/
  negative : Bool
  /-- The ASCII digits before and after the point. -/
  digits : List Char
  /-- The power of ten of the last digit. -/
  scale : Int
deriving DecidableEq, Repr

namespace Numeral

/-- Split off an optional sign. -/
def splitSign : List Char → Bool × List Char
  | '-' :: rest => (true, rest)
  | '+' :: rest => (false, rest)
  | cs => (false, cs)

/-- The value of an exponent, written after the letter: an optional sign and at least one
digit up to the end. -/
def readExponent? (cs : List Char) : Option Int :=
  let (negative, ds) := splitSign cs
  if ds.isEmpty || !ds.all Char.isDigit then none
  else
    let n : Int := Text.numeral ds
    some (if negative then -n else n)

/-- Read a numeral that makes up the whole text. -/
def read? (cs : List Char) : Option Numeral :=
  let (negative, body) := splitSign cs
  let whole := body.takeWhile Char.isDigit
  let afterWhole := body.dropWhile Char.isDigit
  let (fraction, tail) := match afterWhole with
    | '.' :: rest => (rest.takeWhile Char.isDigit, rest.dropWhile Char.isDigit)
    | rest => ([], rest)
  let digits := whole ++ fraction
  let numeral (exponent : Int) : Numeral := ⟨negative, digits, exponent - fraction.length⟩
  if digits.isEmpty then none
  else match tail with
    | [] => some (numeral 0)
    | e :: rest => if e == 'e' || e == 'E' then (readExponent? rest).map numeral else none

/-- The digits as one natural number. -/
def coefficient (n : Numeral) : Nat :=
  Text.numeral n.digits

/-- The binary value nearest to a numeral. -/
def toBinary64 (n : Numeral) : Binary64 :=
  .ofDecimal n.negative n.coefficient n.scale

end Numeral

/-- Write every digit of any script as the ASCII digit of the same value and every blank
outside ASCII as a space. A character that is neither and lies outside ASCII spoils the
text. -/
def asciiNumeral? : List Char → Option (List Char)
  | [] => some []
  | c :: rest =>
      if c.toNat < 128 then (asciiNumeral? rest).map (c :: ·)
      else if Text.isBlank c then (asciiNumeral? rest).map (' ' :: ·)
      else match Text.digitValue? c with
        | some d => (asciiNumeral? rest).map (Nat.digitChar d :: ·)
        | none => none

/-- Drop the underscores that stand between two digits. An underscore anywhere else spoils
the text. The flag says whether the previous character was a digit. -/
def joinDigitGroups? : Bool → List Char → Option (List Char)
  | _, [] => some []
  | afterDigit, '_' :: rest =>
      match rest with
      | d :: _ => if afterDigit && d.isDigit then joinDigitGroups? false rest else none
      | [] => none
  | _, c :: rest => (joinDigitGroups? c.isDigit rest).map (c :: ·)

/-- The lowercase words that name values without digits. -/
def wordValue? (cs : List Char) : Option Binary64 :=
  let (negative, body) := Numeral.splitSign (cs.map Char.toLower)
  if body = "inf".toList ∨ body = "infinity".toList then some (.infinite negative)
  else if body = "nan".toList then some .nan
  else none

/-- Read a binary number from free text: blanks around it, digits of any script and
underscores between digits are allowed, and infinities and the undefined value may be
spelled out. -/
def Binary64.ofText? (cs : List Char) : Option Binary64 :=
  match asciiNumeral? (Text.trim cs) with
  | none => none
  | some ascii =>
      match joinDigitGroups? false ascii with
      | none => none
      | some body => (Numeral.read? body).map Numeral.toBinary64 <|> wordValue? body

end Tenancy
