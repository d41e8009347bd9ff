/-
# Ranges of code points

Classes of characters come as tables of ranges. A table is a list of ranges, each with its
first and its last code point, and a code point belongs to the class when one of them has it.
-/

namespace Tenancy.Text

/-- Whether a code point lies in one of the given ranges. -/
def inRanges (ranges : List (Nat × Nat)) (n : Nat) : Bool :=
  ranges.any fun r => r.1 ≤ n && n ≤ r.2

end Tenancy.Text
