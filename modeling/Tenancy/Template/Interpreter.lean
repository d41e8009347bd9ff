/-
# Resolving tokens

A token stands for a generated id, a moment, or a variable. Ids and moments are generated
once for each expression and remembered, so that the same token means the same thing for
as long as the interpreter lives; variables are looked up afresh every time. Resolved
values are never read again for tokens of their own. A path without steps leads to the
variables themselves, and so a resolved value may be live.

Both looking for tokens in a value and writing a value down inside longer text go from level
to level, on a stack that is not endless. How deep they come is for the surroundings to say.
-/

import Tenancy.IdSource
import Tenancy.Json.Form
import Tenancy.Json.Printer
import Tenancy.Template.Token
import Tenancy.Time.Moment
import Tenancy.Number.Numeral

namespace Tenancy.Template

/-- How deep values are gone through. The few calls that a text or a token takes by itself are not
told apart from those of the level it stands on. -/
class Stack where
  /-- The deepest nesting of arrays and objects in which tokens are looked for. -/
  search : Nat
  /-- The deepest nesting of a value that is written at a place from where so many more levels
  could be searched. -/
  print : Nat → Nat

/-- The stack of a service that answers a single request at a time: a level that is searched takes
two calls, a level that is written takes one, and the writing itself a few. -/
instance Stack.standard : Stack where
  search := 490
  print left := 2 * left - 6

/-- The state of an interpreter. -/
structure Interpreter where
  /-- The variables. -/
  vars : Bag
  /-- What was generated for each expression. -/
  memo : List (String × String)
  /-- The number of ids used so far. -/
  issued : Nat
  /-- The time. -/
  now : Instant
  /-- How deep values are gone through. -/
  [stack : Stack]

/-- Why a token cannot be resolved. -/
inductive Failure where
  /-- It means nothing. -/
  | unresolved (expression : String)
  /-- It has an index that is too long. -/
  | oversizedIndex (e : OversizedIndex)
  /-- It stands inside longer text for a value that has no written form. -/
  | endless
  /-- It may stand somewhere in a value that is nested too deeply to be searched, or it stands
  inside longer text for a value that is nested too deeply to be written. -/
  | tooDeep
deriving DecidableEq, Repr

/-- What to tell about a token that cannot be resolved. -/
def Failure.message : Failure → String
  | .unresolved expression =>
      "Unresolved template token: \"\x7b\x7b" ++ expression ++ "\x7d\x7d\""
  | .oversizedIndex e => e.message
  | .endless => Unwritable.endless.message
  | .tooDeep => "maximum recursion depth exceeded"

/- What stops a value from being written down, by recursion on its parts. -/
mutual

/-- What stops a value from being written in so many levels, if anything does. What stops the bag
is told apart. -/
def stop? (bag : Nat → Option Failure) (levels : Nat) : Live → Option Failure
  | .plain j => if levels < j.levels then some .tooDeep else none
  | .bag => bag levels
  | .list items =>
      match levels with
      | 0 => some .tooDeep
      | levels + 1 => stopItems? bag levels items
  | .object fields =>
      match levels with
      | 0 => some .tooDeep
      | levels + 1 => stopFields? bag levels fields

/-- What stops the first element of an array that cannot be written. -/
def stopItems? (bag : Nat → Option Failure) (levels : Nat) : List Live → Option Failure
  | [] => none
  | item :: rest => (stop? bag levels item).or (stopItems? bag levels rest)

/-- What stops the first field of an object that cannot be written. -/
def stopFields? (bag : Nat → Option Failure) (levels : Nat) : List (String × Live) → Option Failure
  | [] => none
  | (_, value) :: rest => (stop? bag levels value).or (stopFields? bag levels rest)

end

/-- What stops the bag from being written in so many levels. Inside itself it is always stopped. -/
def stopBag? (bag : Bag) : Nat → Option Failure
  | 0 => some .tooDeep
  | levels + 1 =>
      stopFields? (fun levels => some (if levels = 0 then .tooDeep else .endless)) levels bag

/-- The value as it is now, written at a place from where so many more levels could be searched. -/
def Stack.write (stack : Stack) (vars : Bag) (left : Nat) (v : Live) : Except Failure Json :=
  match stop? (stopBag? vars) (stack.print left) v with
  | some e => .error e
  | none => .ok (v.fill vars.outline)

/-- What resolving leads to: a value or a failure, and the interpreter afterwards. -/
abbrev Resolution (α : Type) := Except Failure α × Interpreter

/-- The families of expressions. -/
inductive Family where
  | id (tag : String)
  | now
  | later (minutes : List Char)
  | variable
deriving DecidableEq, Repr

/-- What follows a lead-in, blanks removed. -/
def after? (lead : String) (cs : List Char) : Option (List Char) :=
  if lead.toList.isPrefixOf cs then some (Text.trim (cs.drop lead.length)) else none

/-- The family of a trimmed expression. -/
def Family.of (cs : List Char) : Family :=
  match after? "id:" cs with
  | some tag => .id (if tag.isEmpty then "id" else String.ofList tag)
  | none =>
      if cs = "nowIso".toList then .now
      else match after? "nowPlusMinutes:" cs with
        | some minutes => .later minutes
        | none => .variable

/-- The number of hexadecimal digits of a generated id. -/
def idLength : Nat := 27

/-- The minutes an expression asks for; none when it cannot be read or is not finite. -/
def minutesOf (cs : List Char) : Binary64 :=
  match Binary64.ofText? cs with
  | some x => if x.isFinite then x else .signedZero false
  | none => .signedZero false

namespace Interpreter

/-- What was generated for an expression. -/
def remembered? (t : Interpreter) (expression : String) : Option String :=
  (t.memo.find? fun m => m.1 == expression).map Prod.snd

/-- Remember what was generated for an expression. -/
def remember (t : Interpreter) (expression value : String) : Interpreter :=
  { t with memo := t.memo ++ [(expression, value)] }

/-- The variable that an expression names, or what its path leads to. -/
def lookup (t : Interpreter) (expression : String) : Except Failure Live :=
  match t.vars.get? expression with
  | some v => .ok v
  | none =>
      match Live.bag.at? t.vars expression with
      | .error e => .error (.oversizedIndex e)
      | .ok (some v) => .ok v
      | .ok none => .error (.unresolved expression)

/-- Resolve the body of a token. A blank body is empty text. -/
def resolve (ids : IdSource) (t : Interpreter) (body : List Char) : Resolution Live :=
  let cs := Text.trim body
  let expression := String.ofList cs
  if cs.isEmpty then (.ok (.plain (.text "")), t)
  else match t.remembered? expression with
    | some value => (.ok (.plain (.text value)), t)
    | none =>
        match Family.of cs with
        | .id tag =>
            let value := tag ++ "_" ++ String.ofList ((ids (t.issued + 1)).take idLength)
            (.ok (.plain (.text value)), { t with issued := t.issued + 1 }.remember expression value)
        | .now => (.ok (.plain (.text t.now.stamp)), t.remember expression t.now.stamp)
        | .later minutes =>
            let value := (t.now.addMinutes (minutesOf minutes)).stamp
            (.ok (.plain (.text value)), t.remember expression value)
        | .variable => (t.lookup expression, t)

/-- The value as it is now, written at a place from where so many more levels could be searched. -/
def written (t : Interpreter) (left : Nat) (v : Live) : Except Failure Json :=
  t.stack.write t.vars left v

/-- Splice the tokens of a text, left to right, where so many more levels could be searched. -/
def splice (ids : IdSource) (left : Nat) : Interpreter → List Piece → Resolution (List Char)
  | t, [] => (.ok [], t)
  | t, .char c :: rest =>
      match splice ids left t rest with
      | (.ok cs, t) => (.ok (c :: cs), t)
      | (.error e, t) => (.error e, t)
  | t, .token body :: rest =>
      match t.resolve ids body with
      | (.error e, t) => (.error e, t)
      | (.ok value, t) =>
          match t.written left value with
          | .error e => (.error e, t)
          | .ok j =>
              match splice ids left t rest with
              | (.ok cs, t) => (.ok (j.toSplice.toList ++ cs), t)
              | (.error e, t) => (.error e, t)

/-- Interpolate a text where so many more levels could be searched. A text that is one token becomes
the value of the token, of whatever type. -/
def interpolateText (ids : IdSource) (left : Nat) (t : Interpreter) (s : String) : Resolution Live :=
  match soleToken? s.toList with
  | some body => t.resolve ids body
  | none =>
      match t.splice ids left (pieces 0 s.toList) with
      | (.ok cs, t) => (.ok (.plain (.text (String.ofList cs))), t)
      | (.error e, t) => (.error e, t)

/- Interpolating a value, by recursion on its elements and fields. -/
mutual

/-- Interpolate every string inside a value. So many arrays and objects may be nested in it. -/
def interpolateWithin (ids : IdSource) (levels : Nat) : Json → Interpreter → Resolution Live
  | .text s, t => t.interpolateText ids levels s
  | .list items, t =>
      match levels with
      | 0 => (.error .tooDeep, t)
      | levels + 1 =>
          match itemsWithin ids levels items t with
          | (.ok js, t) => (.ok (.list js), t)
          | (.error e, t) => (.error e, t)
  | .object fields, t =>
      match levels with
      | 0 => (.error .tooDeep, t)
      | levels + 1 =>
          match fieldsWithin ids levels fields t with
          | (.ok fs, t) => (.ok (.object fs), t)
          | (.error e, t) => (.error e, t)
  | j, t => (.ok (.plain j), t)

/-- Interpolate the elements of an array in order. -/
def itemsWithin (ids : IdSource) (levels : Nat) : List Json → Interpreter → Resolution (List Live)
  | [], t => (.ok [], t)
  | item :: rest, t =>
      match interpolateWithin ids levels item t with
      | (.error e, t) => (.error e, t)
      | (.ok j, t) =>
          match itemsWithin ids levels rest t with
          | (.ok js, t) => (.ok (j :: js), t)
          | (.error e, t) => (.error e, t)

/-- Interpolate the fields of an object in order. -/
def fieldsWithin (ids : IdSource) (levels : Nat) :
    List (String × Json) → Interpreter → Resolution (Named Live)
  | [], t => (.ok [], t)
  | (name, value) :: rest, t =>
      match interpolateWithin ids levels value t with
      | (.error e, t) => (.error e, t)
      | (.ok j, t) =>
          match fieldsWithin ids levels rest t with
          | (.ok fs, t) => (.ok ((name, j) :: fs), t)
          | (.error e, t) => (.error e, t)

end

/-- Interpolate every string inside a value. -/
def interpolate (ids : IdSource) (value : Json) (t : Interpreter) : Resolution Live :=
  interpolateWithin ids t.stack.search value t

/-- Interpolate every string inside the fields of an object, which is itself one level. -/
def interpolateFields (ids : IdSource) (fields : Fields) (t : Interpreter) : Resolution (Named Live) :=
  match t.stack.search with
  | 0 => (.error .tooDeep, t)
  | levels + 1 => fieldsWithin ids levels fields t

end Interpreter

end Tenancy.Template
