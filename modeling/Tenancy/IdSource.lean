/-
# Ids

Runs and requests that come without an id of their own get one. A source of ids gives 32
hexadecimal digits at each call; an id is written in groups of 8, 4, 4, 4 and 12 digits.
-/

import Tenancy.Command.Basic
import Tenancy.Json.Printer

namespace Tenancy

/-- A source of ids: the hexadecimal digits of the first, the second, and so on. -/
abbrev IdSource := Nat → List Char

namespace IdSource

/-- Digits in groups, with hyphens between them. -/
def grouped (digits : List Char) : String :=
  String.ofList (digits.take 8 ++ '-' :: (digits.drop 8).take 4 ++ '-' :: (digits.drop 12).take 4 ++
    '-' :: (digits.drop 16).take 4 ++ '-' :: digits.drop 20)

/-- The source whose n-th id is the number n in eight digits, four times. -/
def counting : IdSource := fun n =>
  let unit := Json.hexUnit (n / 65536) ++ Json.hexUnit n
  unit ++ unit ++ unit ++ unit

/-- The id of a request and the number of ids used afterwards: its own id, or the next one of
the source. -/
def ofRequest (ids : IdSource) (r : Request) (issued : Nat) : String × Nat :=
  match r.requestId with
  | some id => (id, issued)
  | none => (grouped (ids (issued + 1)), issued + 1)

end IdSource

end Tenancy
