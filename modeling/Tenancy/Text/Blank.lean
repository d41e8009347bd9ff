/-
# Blank characters

Names, prompts and numerals arrive with stray white space around and inside them. One set
of blank characters serves the whole library: the Unicode spaces together with the four
ASCII information separators. Everything here works on lists of characters, so that what
trimming and squeezing leave behind can be read off by induction on the list.
-/

namespace Tenancy.Text

/-- The characters that separate words: ASCII white space, the information separators
U+001C to U+001F, and the space and line separators of Unicode. -/
def isBlank (c : Char) : Bool :=
  let n := c.toNat
  (0x09 ≤ n && n ≤ 0x0d) || (0x1c ≤ n && n ≤ 0x20) || n == 0x85 || n == 0xa0 || n == 0x1680 ||
    (0x2000 ≤ n && n ≤ 0x200a) || n == 0x2028 || n == 0x2029 || n == 0x202f || n == 0x205f ||
    n == 0x3000

/-- The blanks that may surround a numeral: all but the information separators. -/
def isSpacing (c : Char) : Bool :=
  isBlank c && !(0x1c ≤ c.toNat && c.toNat ≤ 0x1f)

/-- Drop the characters satisfying `p` at both ends. -/
def strip (p : Char → Bool) (cs : List Char) : List Char :=
  ((cs.dropWhile p).reverse.dropWhile p).reverse

/-- Drop the blanks at both ends. -/
def trim (cs : List Char) : List Char :=
  strip isBlank cs

@[simp] theorem strip_nil (p : Char → Bool) : strip p [] = [] := rfl

@[simp] theorem trim_nil : trim [] = [] := rfl

/-- Write `mark` once for every maximal run of characters satisfying `p`. The flag says
whether the previous character already belonged to a run. -/
def squeezeFrom (p : Char → Bool) (mark : Char) : Bool → List Char → List Char
  | _, [] => []
  | inside, c :: rest =>
      if p c then
        if inside then squeezeFrom p mark true rest else mark :: squeezeFrom p mark true rest
      else c :: squeezeFrom p mark false rest

/-- Write `mark` once for every maximal run of characters satisfying `p`. -/
def squeeze (p : Char → Bool) (mark : Char) (cs : List Char) : List Char :=
  squeezeFrom p mark false cs

@[simp] theorem squeeze_nil (p : Char → Bool) (mark : Char) : squeeze p mark [] = [] := rfl

/-- Text without a separator is left alone, whatever stood before it. -/
theorem squeezeFrom_of_forall_not (p : Char → Bool) (mark : Char) (inside : Bool)
    (cs : List Char) (h : ∀ c ∈ cs, p c = false) : squeezeFrom p mark inside cs = cs := by
  induction cs generalizing inside with
  | nil => rfl
  | cons c rest ih =>
      have hc : p c = false := h c (by simp)
      simp [squeezeFrom, hc, ih false fun d hd => h d (by simp [hd])]

end Tenancy.Text
