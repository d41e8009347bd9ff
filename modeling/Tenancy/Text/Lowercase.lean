/-
# Full lowercasing

Names are compared without regard to case, over all of Unicode. Every letter is lowered on
its own with two exceptions: capital I with a dot above becomes an `i` followed by a
combining dot, and a capital sigma that ends a word becomes a final sigma.
-/

import Tenancy.Text.LowercaseTable
import Tenancy.Text.Ranges

namespace Tenancy.Text

/-- The shift that the table of case runs gives to a code point. -/
def caseShift (n : Nat) : Int :=
  match caseRuns.find? fun r => r.first ≤ n && n ≤ r.last && (n - r.first) % r.step == 0 with
  | some run => run.shift
  | none => 0

/-- The lowercase form of one letter taken alone. -/
def lowerChar (c : Char) : Char :=
  if c.toNat < 128 then c.toLower else Char.ofNat (Int.toNat (c.toNat + caseShift c.toNat))

/-- Letters with case, the neighbours that make a sigma final. -/
def isCased (c : Char) : Bool :=
  if c.toNat < 128 then c.isAlpha else inRanges casedRanges c.toNat

/-- Marks and punctuation that do not count as a neighbour of a sigma. -/
def isCaseIgnorable (c : Char) : Bool :=
  inRanges caseIgnorableRanges c.toNat

/-- Whether the nearest neighbour that counts is a cased letter. -/
def reachesCased (cs : List Char) : Bool :=
  match cs.dropWhile isCaseIgnorable with
  | c :: _ => isCased c
  | [] => false

/-- Lowercase a text of which `before` has been read already, latest character first. -/
def lowerFrom (before : List Char) : List Char → List Char
  | [] => []
  | c :: rest =>
      (if c = 'Σ' then
        [if reachesCased before && !reachesCased rest then 'ς' else 'σ']
      else if c = 'İ' then ['i', '\u0307']
      else [lowerChar c]) ++ lowerFrom (c :: before) rest

/-- The lowercase form of a text. -/
def lower (cs : List Char) : List Char :=
  lowerFrom [] cs

@[simp] theorem lower_nil : lower [] = [] := rfl

/-- The lowercase form of a string. -/
def lowerString (s : String) : String :=
  String.ofList (lower s.toList)

end Tenancy.Text
