/-
# Reading JSON

Reading keeps the order of fields. A field that is written twice keeps the place of its
first writing and the value of its last. A number is an integer unless it has a point or
an exponent. The reader is given as many steps as the text has characters, which is enough
because every step consumes one.
-/

import Tenancy.Json.Basic
import Tenancy.Number.Numeral

namespace Tenancy.Json

/-- The white space of the format. -/
def isSpace (c : Char) : Bool :=
  c == ' ' || c == '\t' || c == '\n' || c == '\r'

/-- Drop white space. -/
def skipSpace (cs : List Char) : List Char :=
  cs.dropWhile isSpace

/-- The value of a hexadecimal digit. -/
def hexValue? (c : Char) : Option Nat :=
  if '0' ≤ c ∧ c ≤ '9' then some (c.toNat - 48)
  else if 'a' ≤ c ∧ c ≤ 'f' then some (c.toNat - 87)
  else if 'A' ≤ c ∧ c ≤ 'F' then some (c.toNat - 55)
  else none

/-- The 16-bit unit written by four hexadecimal digits, and the rest. -/
def readUnit? : List Char → Option (Nat × List Char)
  | a :: b :: c :: d :: rest => do
      let a ← hexValue? a
      let b ← hexValue? b
      let c ← hexValue? c
      let d ← hexValue? d
      some (a * 4096 + b * 256 + c * 16 + d, rest)
  | _ => none

/-- The character escaped by a letter, for the escapes of one letter. -/
def shortEscape? : Char → Option Char
  | '"' => some '"'
  | '\\' => some '\\'
  | '/' => some '/'
  | 'b' => some '\x08'
  | 'f' => some '\x0c'
  | 'n' => some '\n'
  | 'r' => some '\r'
  | 't' => some '\t'
  | _ => none

/-- The character of an escape that starts with a unit, and the rest. Two units that form a
pair are one character. -/
def pairUnits (unit : Nat) (rest : List Char) : Char × List Char :=
  if 0xd800 ≤ unit ∧ unit < 0xdc00 then
    match rest with
    | '\\' :: 'u' :: more =>
        match readUnit? more with
        | some (low, rest') =>
            if 0xdc00 ≤ low ∧ low < 0xe000 then
              (Char.ofNat (0x10000 + (unit - 0xd800) * 0x400 + (low - 0xdc00)), rest')
            else ('\ufffd', rest)
        | none => ('\ufffd', rest)
    | _ => ('\ufffd', rest)
  else if 0xdc00 ≤ unit ∧ unit < 0xe000 then ('\ufffd', rest)
  else (Char.ofNat unit, rest)

/-- Read the inside of a string up to its closing quote; `read` holds what came before, in
reverse. -/
def readString? : Nat → List Char → List Char → Option (String × List Char)
  | 0, _, _ => none
  | fuel + 1, read, cs =>
      match cs with
      | [] => none
      | '"' :: rest => some (String.ofList read.reverse, rest)
      | '\\' :: 'u' :: rest =>
          match readUnit? rest with
          | some (unit, more) =>
              let (c, more) := pairUnits unit more
              readString? fuel (c :: read) more
          | none => none
      | '\\' :: e :: rest =>
          match shortEscape? e with
          | some c => readString? fuel (c :: read) rest
          | none => none
      | ['\\'] => none
      | c :: rest => readString? fuel (c :: read) rest

/-- The characters a number can be made of. -/
def isNumberChar (c : Char) : Bool :=
  c.isDigit || c == '-' || c == '+' || c == '.' || c == 'e' || c == 'E'

/-- The number a text stands for. -/
def readNumber? (cs : List Char) : Option Json :=
  let (negative, body) := Numeral.splitSign cs
  if !body.isEmpty && body.all Char.isDigit then
    let n : Int := Text.numeral body
    some (.int (if negative then -n else n))
  else (Numeral.read? cs).map fun n => .float n.toBinary64

/-- The values that are written as a word. -/
def words : List (String × Json) :=
  [("null", .null), ("true", .bool true), ("false", .bool false), ("NaN", .float .nan),
    ("Infinity", .float (.infinite false)), ("-Infinity", .float (.infinite true))]

/-- The word a text starts with, and the rest. -/
def readWord? (cs : List Char) : Option (Json × List Char) :=
  (words.find? fun w => w.1.toList.isPrefixOf cs).map fun w => (w.2, cs.drop w.1.length)

/- The reader proper: a value, the elements of an array, the fields of an object. -/
mutual

/-- Read one value, white space in front of it skipped. -/
def readValue? : Nat → List Char → Option (Json × List Char)
  | 0, _ => none
  | fuel + 1, cs =>
      match skipSpace cs with
      | [] => none
      | '"' :: rest => (readString? (rest.length + 1) [] rest).map fun r => (.text r.1, r.2)
      | '[' :: rest =>
          match skipSpace rest with
          | ']' :: more => some (.list [], more)
          | more => (readItems? fuel more).map fun r => (.list r.1, r.2)
      | '\x7b' :: rest =>
          match skipSpace rest with
          | '\x7d' :: more => some (.object [], more)
          | more => (readFields? fuel [] more).map fun r => (.object r.1, r.2)
      | c :: rest =>
          match readWord? (c :: rest) with
          | some r => some r
          | none =>
              (readNumber? ((c :: rest).takeWhile isNumberChar)).map fun j =>
                (j, (c :: rest).dropWhile isNumberChar)

/-- Read the elements of an array and its closing bracket. -/
def readItems? : Nat → List Char → Option (List Json × List Char)
  | 0, _ => none
  | fuel + 1, cs =>
      match readValue? fuel cs with
      | none => none
      | some (item, rest) =>
          match skipSpace rest with
          | ']' :: more => some ([item], more)
          | ',' :: more => (readItems? fuel more).map fun r => (item :: r.1, r.2)
          | _ => none

/-- Read the fields of an object and its closing brace, after the given fields. -/
def readFields? : Nat → Fields → List Char → Option (Fields × List Char)
  | 0, _, _ => none
  | fuel + 1, fields, cs =>
      match skipSpace cs with
      | '"' :: rest =>
          match readString? (rest.length + 1) [] rest with
          | none => none
          | some (name, rest) =>
              match skipSpace rest with
              | ':' :: rest =>
                  match readValue? fuel rest with
                  | none => none
                  | some (value, rest) =>
                      match skipSpace rest with
                      | '\x7d' :: more => some (fields.put name value, more)
                      | ',' :: more => readFields? fuel (fields.put name value) more
                      | _ => none
              | _ => none
      | _ => none

end

/-- The value written by a whole text. -/
def parse? (s : String) : Option Json :=
  let cs := s.toList
  match readValue? (cs.length + 1) cs with
  | some (j, rest) => if (skipSpace rest).isEmpty then some j else none
  | none => none

end Tenancy.Json
