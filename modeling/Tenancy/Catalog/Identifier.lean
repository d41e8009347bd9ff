/-
# Identifiers

The only names that are ever written into a statement. An identifier carries the proof that
its name passed the gate: a lowercase letter followed by lowercase letters, digits and
underscores, where the end of the name may also be a single line feed.
-/

import Tenancy.Command.Refusal

namespace Tenancy

/-- The characters an identifier may start with. -/
def isNameStart (c : Char) : Bool :=
  'a' ≤ c && c ≤ 'z'

/-- The characters an identifier may go on with. -/
def isNamePart (c : Char) : Bool :=
  isNameStart c || ('0' ≤ c && c ≤ '9') || c == '_'

/-- Lowercase snake case from the first to the last character. -/
def isSnakeCase : List Char → Bool
  | [] => false
  | c :: rest => isNameStart c && rest.all isNamePart

/-- Drop one line feed at the end. -/
def dropFinalNewline (cs : List Char) : List Char :=
  if cs.getLast? = some '\n' then cs.dropLast else cs

/-- What the gate lets through: snake case, up to one line feed at the end. -/
def admits (name : String) : Bool :=
  isSnakeCase (dropFinalNewline name.toList)

/-- A name that passed the gate. -/
structure Identifier where
  /-- The name itself. -/
  name : String
  /-- The gate lets the name through. -/
  admitted : admits name = true
deriving DecidableEq

namespace Identifier

/-- Pass a name through the gate. -/
def ofName (name : String) : Except Refusal Identifier :=
  if h : admits name = true then .ok ⟨name, h⟩ else .error (.unsafeIdentifier name)

/-- The name in double quotes, as it stands in a statement. -/
def quoted (i : Identifier) : String :=
  "\"" ++ i.name ++ "\""

/-- An identifier made from a name has that name. -/
theorem name_of_ofName {name : String} {i : Identifier} (h : ofName name = .ok i) :
    i.name = name := by
  unfold ofName at h
  split at h
  · cases h; rfl
  · cases h

end Identifier

end Tenancy
