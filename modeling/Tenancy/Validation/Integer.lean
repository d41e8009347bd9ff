/-
# Integers in related forms

An integer is also accepted as a truth value, as a whole number with a point, and as a
numeral in a string. A numeral is read in stages, each of which leaves a shorter text: the
spacing around it and its sign, a fraction of zeros, the zeros in front, and at last the
digits. Underscores may join groups of digits, and they may stand anywhere among the zeros
in front. A minus sign may come before those zeros or after them, but not in both places.
-/

import Tenancy.Number.Binary64
import Tenancy.Text.Digit
import Tenancy.Text.Search
import Tenancy.Validation.Issue

namespace Tenancy.Validation

/-- The longest numeral an integer is read from. -/
def maxIntDigits : Nat := 4300

/-- The characters without underscores, when there are some and all of them are single and
inside. -/
def withoutUnderscores? (cs : List Char) : Option (List Char) :=
  if !cs.contains '_' || cs.head? == some '_' || cs.getLast? == some '_' ||
      Text.occursIn ['_', '_'] cs then none
  else some (cs.filter (· != '_'))

/-- Whether a minus sign stands in front of a numeral, and the rest of it. A plus sign says
nothing, but no minus sign may follow it. -/
def signed? : List Char → Option (Bool × List Char)
  | '-' :: rest => some (true, rest)
  | '+' :: '-' :: _ => none
  | '+' :: rest => some (false, rest)
  | cs => some (false, cs)

/-- Drop a point with nothing but zeros after it, of which there has to be one. -/
def dropZeroFraction (cs : List Char) : List Char :=
  match cs.dropWhile (· != '.') with
  | _ :: z :: zeros =>
      if (z :: zeros).all (· == '0') then cs.takeWhile (· != '.') else cs
  | _ => cs

/-- Whether a numeral goes on with a character once its zeros have been passed over. -/
def goesOn (c : Char) : Bool :=
  c == '-' || ('1' ≤ c && c ≤ '9')

/-- Pass over the zeros in front of a numeral and over the underscores among them. Where
nothing follows, the last character stands for all of them. -/
def dropLeadingZeros? : List Char → Option (List Char)
  | [] => none
  | '0' :: rest =>
      match rest.dropWhile fun c => c == '0' || c == '_' with
      | [] => some [('0' :: rest).getLast (by simp)]
      | c :: tail => if goesOn c then some (c :: tail) else none
  | c :: rest => if goesOn c then some (c :: rest) else none

/-- The number that digits spell. No zero stands in front of other digits; too many digits
are found out before anything that comes after them. -/
def magnitude (cs : List Char) : Except Complaint Nat :=
  let digits := cs.takeWhile Char.isDigit
  if digits.head? == some '0' && 1 < digits.length then .error .unreadableInt
  else if maxIntDigits < digits.length then .error .oversizedInt
  else if digits.isEmpty || digits.length < cs.length then .error .unreadableInt
  else .ok (Text.numeral digits)

/-- The integer that digits spell after at most one minus sign, which may have been read
already. -/
def integer (negative : Bool) : List Char → Except Complaint Int
  | '-' :: digits =>
      if negative then .error .unreadableInt else (magnitude digits).map fun n => -(n : Int)
  | digits => (magnitude digits).map fun n => if negative then -(n : Int) else n

/-- The integer that digits spell, possibly in groups. Groups are joined only when the text
cannot be read as it stands. -/
def groupedInteger (negative : Bool) (cs : List Char) : Except Complaint Int :=
  match integer negative cs, withoutUnderscores? cs with
  | .error .unreadableInt, some joined =>
      match integer negative joined with
      | .ok n => .ok n
      | .error _ => .error .unreadableInt
  | outcome, _ => outcome

/-- The integer spelled by a string. -/
def intOfText (s : String) : Except Complaint Int :=
  match signed? (Text.strip Text.isSpacing s.toList) with
  | none => .error .unreadableInt
  | some (negative, cs) =>
      match dropLeadingZeros? (dropZeroFraction cs) with
      | none => .error .unreadableInt
      | some numeral => groupedInteger negative numeral

/-- The bound of the integers of machine size. -/
def wordBound : Int := 9223372036854775808

/-- The integer equal to a number with a point. -/
def intOfFloat (x : Binary64) : Except Complaint Int :=
  if !x.isFinite then .error .notFinite
  else match x.toInt? with
    | none => .error .fractionalInt
    | some n => if -wordBound < n ∧ n < wordBound then .ok n else .error .oversizedInt

/-- The integer a value stands for. -/
def intOf : Json → Except Complaint Int
  | .int n => .ok n
  | .bool b => .ok (if b then 1 else 0)
  | .float x => intOfFloat x
  | .text s => intOfText s
  | _ => .error .notInt

end Tenancy.Validation
