/-
# Bound values

What travels to and from the database besides JSON: moments, dates and exact decimals. A
JSON value that is bound to a column becomes one of these when the type of the column asks
for it and the text can be read; a text that cannot be read is passed on as it is, so that
the database reports the real problem. A live value stays live, but the text that a JSON
column takes shows what the variables are when it is bound. There is no such text of a value
that contains itself.
-/

import Tenancy.Json.Live
import Tenancy.Json.Printer
import Tenancy.Number.Decimal
import Tenancy.Text.Lowercase
import Tenancy.Text.Search
import Tenancy.Time.Reading

namespace Tenancy

/-- A value of a parameter or of a cell in a row. -/
inductive Value where
  | json (v : Live)
  | moment (m : Moment)
  | date (d : Date)
  | decimal (d : Decimal)

namespace Value

/-- A JSON value that is not live. -/
def plain (j : Json) : Value :=
  .json (.plain j)

/-- A value as results carry it. -/
def shown : Value → Live
  | .json v => v
  | .moment m => .plain (.text m.printResult)
  | .date d => .plain (.text d.print)
  | .decimal d => .plain (.text d.print)

/-- A value that is live no longer: it shows the variables as they are. -/
def settled (vars : Bag) : Value → Value
  | .json v => .plain (v.fill vars.outline)
  | v => v

/-- The kinds of column types that a text is converted for. -/
inductive TypeFamily where
  | json
  | moment
  | date
  | decimal
  | integer
  | boolean
  | other
deriving DecidableEq, Repr

/-- The names of the integer types. -/
def integerTypes : List String :=
  ["integer", "int", "int2", "int4", "int8", "smallint", "bigint"]

/-- The family of a type: the part of its name before any parenthesis decides. -/
def TypeFamily.ofType (sqlType : String) : TypeFamily :=
  let base := Text.trim ((Text.lower sqlType.toList).takeWhile (· != '('))
  let name := String.ofList base
  if Text.occursIn "json".toList base then .json
  else if Text.occursIn "timestamp".toList base || name == "datetime" then .moment
  else if name == "date" then .date
  else if name == "numeric" || name == "decimal" then .decimal
  else if integerTypes.contains name then .integer
  else if name == "boolean" || name == "bool" then .boolean
  else .other

/-- The largest number of digits an integer is read from. -/
def maxDigits : Nat := 4300

/-- Read an integer: an optional minus sign and digits of any script, with spacing around. -/
def integer? (s : String) : Option Int :=
  let inner := Text.trim s.toList
  let (negative, digits) := match inner with
    | '-' :: rest => (true, rest)
    | cs => (false, cs)
  let odd := s.toList.any fun c => Text.isBlank c && !Text.isSpacing c
  if digits.isEmpty || !digits.all Text.isDigit || odd || maxDigits < digits.length then none
  else
    let n : Int := Text.numeral digits
    some (if negative then -n else n)

/-- Read a truth value, in any case. -/
def boolean? (s : String) : Option Bool :=
  let word := Text.lowerString s
  if word == "true" then some true else if word == "false" then some false else none

/-- Convert a text for a family of types, if it can be read. -/
def convert? (family : TypeFamily) (s : String) : Option Value :=
  match family with
  | .json | .other => none
  | .moment => (Moment.ofText? s).map .moment
  | .date => (Date.ofText? s).map .date
  | .decimal => (Decimal.ofText? s.toList).map .decimal
  | .integer => (integer? s).map fun n => .plain (.int n)
  | .boolean => (boolean? s).map fun b => .plain (.bool b)

/-- Bind a value to a column of a type, as the variables are. Null stays null, a JSON column
takes the text of whatever is not a text already, and other columns convert texts they can
read. A value that would have to be written down and contains itself is not bound: such values
are told beforehand, by `isEndless`. -/
def bind (vars : Bag) (sqlType : String) (v : Live) : Value :=
  match v with
  | .plain .null => .plain .null
  | .plain (.text s) => (convert? (.ofType sqlType) s).getD (.json v)
  | v =>
      if TypeFamily.ofType sqlType = .json then .plain (.text (v.fill vars.outline).print)
      else .json v

/-- Whether a value that contains itself would have to be written down for a column of a type. -/
def isEndless (vars : Bag) (sqlType : String) (v : Live) : Bool :=
  TypeFamily.ofType sqlType = .json && (v.now? vars).isNone

@[simp] theorem isEndless_plain (vars : Bag) (sqlType : String) (j : Json) :
    isEndless vars sqlType (.plain j) = false := by
  simp [isEndless]

@[simp] theorem bind_null (vars : Bag) (sqlType : String) :
    bind vars sqlType (.plain .null) = .plain .null := rfl

end Value

end Tenancy
