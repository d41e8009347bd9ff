/-
# Paths into JSON

A path is a list of keys and indexes, written with points between keys and indexes in
brackets. Reading a path keeps what it understands and passes over the rest; following a
path through a value either arrives somewhere or finds that there is nothing.
-/

import Tenancy.Json.Basic
import Tenancy.Text.Blank
import Tenancy.Text.Digit

namespace Tenancy

/-- One step of a path. -/
inductive Segment where
  /-- The field of an object. -/
  | key (name : String)
  /-- The element of an array. -/
  | index (n : Nat)
deriving DecidableEq, Repr

/-- An index with more digits than are ever read. -/
structure OversizedIndex where
  /-- The number of its digits. -/
  digits : Nat
deriving DecidableEq, Repr

namespace OversizedIndex

/-- The largest number of digits of an index. -/
def limit : Nat := 4300

/-- What to tell about an index that is too long. -/
def message (e : OversizedIndex) : String :=
  "Exceeds the limit (4300 digits) for integer string conversion: value has " ++
    toString e.digits ++ " digits; use sys.set_int_max_str_digits() to increase the limit"

end OversizedIndex

namespace Path

/-- A step as it stands in a path: a key, or the digits of an index. -/
inductive Token where
  | key (cs : List Char)
  /-- The digits of an index. -/
  | index (ds : List Char)
deriving DecidableEq, Repr

/-- The key read so far, if any; its characters are given in reverse. -/
def pending (read : List Char) : List Token :=
  if read.isEmpty then [] else [.key read.reverse]

/-- The digits up to a closing bracket, when there are digits and nothing else. -/
def indexAhead? (cs : List Char) : Option (List Char) :=
  let ds := cs.takeWhile Text.isDigit
  match cs.dropWhile Text.isDigit with
  | ']' :: _ => if ds.isEmpty then none else some ds
  | _ => none

/-- The steps of a path. `skip` characters belong to an index that has been read already, and
`read` is the beginning of a key, in reverse. -/
def scan : Nat → List Char → List Char → List Token
  | _, read, [] => pending read
  | skip + 1, read, _ :: rest => scan skip read rest
  | 0, read, c :: rest =>
      if c = '[' then
        match indexAhead? rest with
        | some ds => pending read ++ .index ds :: scan (ds.length + 1) [] rest
        | none => pending read ++ scan 0 [] rest
      else if c = '.' ∨ c = ']' then pending read ++ scan 0 [] rest
      else scan 0 (c :: read) rest

/-- A path without the blanks around it and without the sign for the root. -/
def clean (cs : List Char) : List Char :=
  match Text.trim cs with
  | '$' :: '.' :: rest => rest
  | '$' :: rest => rest
  | cs => cs

/-- The meaning of a step. -/
def Token.segment : Token → Except OversizedIndex Segment
  | .key cs => .ok (.key (String.ofList cs))
  | .index ds =>
      if OversizedIndex.limit < ds.length then .error ⟨ds.length⟩ else .ok (.index (Text.numeral ds))

/-- The steps of a path. -/
def segments (path : String) : Except OversizedIndex (List Segment) :=
  (scan 0 [] (clean path.toList)).mapM Token.segment

end Path

namespace Json

/-- Follow a path. There is nothing where a key or an index does not exist. -/
def follow : List Segment → Json → Option Json
  | [], j => some j
  | .key name :: rest, .object fields => (Named.get? fields name).bind (follow rest)
  | .index n :: rest, .list items => items[n]?.bind (follow rest)
  | _ :: _, _ => none

@[simp] theorem follow_nil (j : Json) : follow [] j = some j := rfl

/-- What stands at a written path, if anything does. -/
def at? (j : Json) (path : String) : Except OversizedIndex (Option Json) :=
  (Path.segments path).map fun segments => follow segments j

end Json

end Tenancy
