/-
# Visible characters

A character is visible when it shows something of its own, a plain space included. In ASCII
everything but the controls is; beyond ASCII the table of invisible characters decides.
-/

import Tenancy.Text.InvisibleTable
import Tenancy.Text.Ranges

namespace Tenancy.Text

/-- Whether a character shows something of its own. -/
def isVisible (c : Char) : Bool :=
  if c.toNat < 0x80 then 0x20 ≤ c.toNat && c.toNat < 0x7f
  else !inRanges invisibleRanges c.toNat

end Tenancy.Text
