/-
# Looking for a text in a value

A text can be looked for in a longer text, among the elements of an array, and among the
names of an object. In anything else there is nothing to look through.
-/

import Tenancy.Json.Basic
import Tenancy.Text.Search

namespace Tenancy.Json

/-- Whether a text stands in a value. There is no answer where nothing can be searched. -/
def includes? (j : Json) (needle : String) : Option Bool :=
  match j with
  | .text s => some (Text.contains s needle)
  | .list items => some (items.any fun item => item.text? == some needle)
  | .object fields => some (Named.has fields needle)
  | _ => none

end Tenancy.Json
