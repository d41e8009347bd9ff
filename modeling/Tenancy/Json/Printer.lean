/-
# JSON text

The written form of a value: `", "` between elements, `": "` after a field name, fields in
order, and nothing but ASCII, because every other character is escaped by its UTF-16 units.
-/

import Tenancy.Json.Basic
import Tenancy.Number.Shortest

namespace Tenancy.Json

/-- The four hexadecimal digits of a 16-bit unit. -/
def hexUnit (n : Nat) : List Char :=
  [n / 4096 % 16, n / 256 % 16, n / 16 % 16, n % 16].map Nat.digitChar

/-- The escape of a 16-bit unit. -/
def escapeUnit (n : Nat) : List Char :=
  '\\' :: 'u' :: hexUnit n

/-- A character as it stands inside a written string. -/
def escapeChar (c : Char) : List Char :=
  let n := c.toNat
  if c = '"' then ['\\', '"']
  else if c = '\\' then ['\\', '\\']
  else if n = 0x08 then ['\\', 'b']
  else if n = 0x09 then ['\\', 't']
  else if n = 0x0a then ['\\', 'n']
  else if n = 0x0c then ['\\', 'f']
  else if n = 0x0d then ['\\', 'r']
  else if 0x20 ≤ n ∧ n < 0x7f then [c]
  else if n < 0x10000 then escapeUnit n
  else escapeUnit (0xd800 + (n - 0x10000) / 0x400) ++ escapeUnit (0xdc00 + (n - 0x10000) % 0x400)

/-- A string in quotes. -/
def quote (s : String) : String :=
  String.ofList ('"' :: (s.toList.flatMap escapeChar ++ ['"']))

/-- The text of a number with a point or an exponent. -/
def printFloat : Binary64 → String
  | .nan => "NaN"
  | .infinite negative => if negative then "-Infinity" else "Infinity"
  | x => x.print

/- The written form, by recursion on the value and on its elements and fields. -/
mutual

/-- The written form of a value. -/
def print : Json → String
  | .null => "null"
  | .bool b => if b then "true" else "false"
  | .int n => toString n
  | .float x => printFloat x
  | .text s => quote s
  | .list items => "[" ++ printItems items ++ "]"
  | .object fields => "\x7b" ++ printFields fields ++ "\x7d"

/-- The elements of an array, separated. -/
def printItems : List Json → String
  | [] => ""
  | [item] => print item
  | item :: next :: rest => print item ++ ", " ++ printItems (next :: rest)

/-- The fields of an object, separated. -/
def printFields : List (String × Json) → String
  | [] => ""
  | [(name, value)] => quote name ++ ": " ++ print value
  | (name, value) :: next :: rest =>
      quote name ++ ": " ++ print value ++ ", " ++ printFields (next :: rest)

end

/-- A value as a message shows it: a string as it is, null as nothing, the rest in its
written form. -/
def toMessage : Json → String
  | .null => ""
  | .text s => s
  | j => j.print

/-- A value as it is spliced into longer text: a string as it is, the rest in its written
form. -/
def toSplice : Json → String
  | .text s => s
  | j => j.print

end Tenancy.Json
