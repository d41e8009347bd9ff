/-
# Values inside messages

Some messages show a value the way a log would: a top-level string as it is, null and the
truth values as capitalised words, strings inside arrays and objects in quotes and with
escapes for whatever would not show.
-/

import Tenancy.Json.Printer
import Tenancy.Text.Visible

namespace Tenancy.Json

/-- A code point in hexadecimal, with the given number of digits. -/
def hexDigits (width n : Nat) : List Char :=
  let digits := Nat.toDigits 16 n
  List.replicate (width - digits.length) '0' ++ digits

/-- The escape of a code point: the shortest of three lengths that has room for it. -/
def displayCode (n : Nat) : List Char :=
  if n < 0x100 then '\\' :: 'x' :: hexDigits 2 n
  else if n < 0x10000 then '\\' :: 'u' :: hexDigits 4 n
  else '\\' :: 'U' :: hexDigits 8 n

/-- A character inside single or double quotes of a message. -/
def displayChar (quote c : Char) : List Char :=
  if c = quote ∨ c = '\\' then ['\\', c]
  else if c = '\n' then ['\\', 'n']
  else if c = '\r' then ['\\', 'r']
  else if c = '\t' then ['\\', 't']
  else if Text.isVisible c then [c]
  else displayCode c.toNat

/-- A quoted string inside a message. Double quotes are used only where they save escaping. -/
def displayQuoted (s : String) : String :=
  let cs := s.toList
  let quote := if cs.contains '\'' && !cs.contains '"' then '"' else '\''
  String.ofList (quote :: (cs.flatMap (displayChar quote) ++ [quote]))

/- A value inside a message, by recursion on its elements and fields. -/
mutual

/-- A value inside a longer value of a message. -/
def displayInner : Json → String
  | .null => "None"
  | .bool b => if b then "True" else "False"
  | .int n => toString n
  | .float x => x.print
  | .text s => displayQuoted s
  | .list items => "[" ++ displayItems items ++ "]"
  | .object fields => "\x7b" ++ displayFields fields ++ "\x7d"

/-- The elements of an array inside a message. -/
def displayItems : List Json → String
  | [] => ""
  | [item] => displayInner item
  | item :: next :: rest => displayInner item ++ ", " ++ displayItems (next :: rest)

/-- The fields of an object inside a message. -/
def displayFields : List (String × Json) → String
  | [] => ""
  | [(name, value)] => displayQuoted name ++ ": " ++ displayInner value
  | (name, value) :: next :: rest =>
      displayQuoted name ++ ": " ++ displayInner value ++ ", " ++ displayFields (next :: rest)

end

/-- A value as a message shows it. -/
def display : Json → String
  | .text s => s
  | j => displayInner j

end Tenancy.Json
