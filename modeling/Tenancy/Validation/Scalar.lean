/-
# Lenient truth values and numbers

Truth values and numbers are also accepted in related forms: a truth value as zero, one or a
word, a number as an integer, a truth value or a numeral in a string. What is accepted has
one canonical value; what is not names the reason.
-/

import Tenancy.Number.Numeral
import Tenancy.Validation.Integer

namespace Tenancy.Validation

/-- The words for truth, in lowercase. -/
def trueWords : List String := ["1", "on", "t", "true", "y", "yes"]

/-- The words for falsehood, in lowercase. -/
def falseWords : List String := ["0", "off", "f", "false", "n", "no"]

/-- The truth value that an integer stands for. Only an integer of machine size is taken for a
truth value that is spelled wrongly. -/
def boolOfInt (n : Int) : Except Complaint Bool :=
  if n = 0 then .ok false
  else if n = 1 then .ok true
  else if -wordBound ≤ n ∧ n < wordBound then .error .unreadableBool
  else .error .notBool

/-- The truth value a value stands for. -/
def boolOf : Json → Except Complaint Bool
  | .bool b => .ok b
  | .int n => boolOfInt n
  | .float x =>
      match intOfFloat x with
      | .ok n => boolOfInt n
      | .error _ => .error .notBool
  | .text s =>
      let word := String.ofList (s.toList.map Char.toLower)
      if trueWords.contains word then .ok true
      else if falseWords.contains word then .ok false
      else .error .unreadableBool
  | _ => .error .notBool

/-- The number spelled by characters without spacing and underscores. -/
def plainNumber? (cs : List Char) : Option Binary64 :=
  (Numeral.read? cs).map Numeral.toBinary64 <|> wordValue? cs

/-- The number spelled by a string: either with spacing around or with underscores inside. -/
def numberOfText? (s : String) : Option Binary64 :=
  plainNumber? (Text.strip Text.isSpacing s.toList) <|>
    (withoutUnderscores? s.toList).bind plainNumber?

/-- The number a value stands for. An integer that is out of range stands for none. -/
def numberOf : Json → Except Complaint Binary64
  | .float x => .ok x
  | .int n => if (Binary64.ofInt n).isFinite then .ok (.ofInt n) else .error .notNumber
  | .bool b => .ok (.ofInt (if b then 1 else 0))
  | .text s =>
      match numberOfText? s with
      | some x => .ok x
      | none => .error .unreadableNumber
  | _ => .error .notNumber

end Tenancy.Validation
