/-
# Loose names

People and programs spell the same table or column in many ways. Each spelling rule here is
one way of reading a loose name: as a phrase with single spaces, as an underscored
identifier, or as a camel-case word. The catalog decides which readings count.
-/

import Tenancy.Text.Blank
import Tenancy.Text.Lowercase

namespace Tenancy.Name

open Text

/-- Apply a rule on characters to a string. -/
def onText (f : List Char → List Char) (s : String) : String :=
  String.ofList (f s.toList)

/-- Blanks and hyphens separate the words of an identifier. -/
def isSeparator (c : Char) : Bool :=
  isBlank c || c == '-'

/-- A name as a phrase: trimmed, lowercase, with single spaces. -/
def phrase (raw : String) : String :=
  onText (fun cs => squeeze isBlank ' ' (lower (trim cs))) raw

/-- A name as an identifier: trimmed, lowercase, with one underscore for every run of blanks
and hyphens. -/
def identifier (raw : String) : String :=
  onText (fun cs => squeeze isSeparator '_' (lower (trim cs))) raw

/-- A name in lowercase with one underscore for every run of blanks, nothing trimmed. -/
def spaced (raw : String) : String :=
  onText (fun cs => squeeze isBlank '_' (lower cs)) raw

/-- Put an underscore in front of every ASCII capital and lower it. -/
def splitCapitals : List Char → List Char
  | [] => []
  | c :: rest => if c.isUpper then '_' :: c.toLower :: splitCapitals rest else c :: splitCapitals rest

/-- A camel-case name with its words apart, in lowercase and without underscores in front. -/
def uncamel (raw : String) : String :=
  onText (fun cs => lower ((splitCapitals cs).dropWhile (· == '_'))) raw

/-- The singular of an English plural, as far as its ending tells. -/
def singular (name : String) : String :=
  let cs := name.toList
  if ['i', 'e', 's'].isSuffixOf cs && 3 < cs.length then
    String.ofList (cs.take (cs.length - 3) ++ ['y'])
  else if ['s'].isSuffixOf cs && 1 < cs.length then String.ofList (cs.take (cs.length - 1))
  else name

/-- A name with its underscores replaced by spaces. -/
def unscored (name : String) : String :=
  onText (List.map fun c => if c == '_' then ' ' else c) name

/-- A name with its underscores left out. -/
def squashed (name : String) : String :=
  onText (List.filter fun c => c != '_') name

end Tenancy.Name
