/-
# Looking for text inside text

Plain search, search without regard to case, and the cut after the first line. A search
without regard to case compares a lowercase ASCII pattern with arbitrary text; besides the
two cases of each letter a few letters outside ASCII count as an `i`, an `s` or a `k`.
-/

import Tenancy.Text.Blank
import Tenancy.Text.Digit
import Tenancy.Text.Ranges
import Tenancy.Text.WordTable

namespace Tenancy.Text

/-- Whether `needle` stands somewhere in the text. -/
def occursIn (needle : List Char) : List Char → Bool
  | [] => needle.isEmpty
  | c :: rest => needle.isPrefixOf (c :: rest) || occursIn needle rest

/-- Whether one string contains another. -/
def contains (text needle : String) : Bool :=
  occursIn needle.toList text.toList

/-- Whether a character is part of a word. -/
def isWord (c : Char) : Bool :=
  if c.toNat < 128 then c.isAlphanum || c == '_' else inRanges wordRanges c.toNat

/-- Whether a character counts as the given lowercase ASCII letter when case is ignored. The
dotted and dotless `i`, the long `s` and the Kelvin sign count as their letters. -/
def sameLetter (letter c : Char) : Bool :=
  c.toLower == letter || (letter == 'i' && (c == 'İ' || c == 'ı')) || (letter == 's' && c == 'ſ') ||
    (letter == 'k' && c == '\u212a')

/-- The rest of the text after a pattern, when the text starts with it up to case. -/
def afterWord? : List Char → List Char → Option (List Char)
  | [], text => some text
  | _ :: _, [] => none
  | p :: pattern, c :: text => if sameLetter p c then afterWord? pattern text else none

/-- The rest of the text after a nonempty run of blanks. -/
def afterBlanks? : List Char → Option (List Char)
  | [] => none
  | c :: rest => if isBlank c then some (rest.dropWhile isBlank) else none

/-- Whether some suffix of the text satisfies `p`. -/
def anySuffix (p : List Char → Bool) : List Char → Bool
  | [] => p []
  | c :: rest => p (c :: rest) || anySuffix p rest

/-- Whether a lowercase ASCII phrase stands in the text up to case. -/
def mentions (text : List Char) (phrase : String) : Bool :=
  anySuffix (fun rest => (afterWord? phrase.toList rest).isSome) text

/-- The characters that end a line. -/
def isLineBreak (c : Char) : Bool :=
  let n := c.toNat
  n == 0x0a || n == 0x0b || n == 0x0c || n == 0x0d || (0x1c ≤ n && n ≤ 0x1e) || n == 0x85 ||
    n == 0x2028 || n == 0x2029

/-- The text up to its first line break. -/
def firstLine (cs : List Char) : List Char :=
  cs.takeWhile fun c => !isLineBreak c

/-- The first line of a text holds no line break. -/
theorem isLineBreak_of_mem_firstLine {cs : List Char} {c : Char} (h : c ∈ firstLine cs) :
    isLineBreak c = false := by
  induction cs with
  | nil => simp [firstLine] at h
  | cons d rest ih =>
      by_cases hd : isLineBreak d
      · simp [firstLine, List.takeWhile, hd] at h
      · simp only [Bool.not_eq_true] at hd
        rw [firstLine, List.takeWhile_cons] at h
        simp only [hd, Bool.not_false, if_true, List.mem_cons] at h
        rcases h with rfl | h
        · exact hd
        · exact ih h

end Tenancy.Text
