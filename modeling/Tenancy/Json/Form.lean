/-
# Forms

What payloads and results look like before they are written. A form knows which of its parts
are open: nobody has said what is in them, so they hold whatever a caller, a database or a
script has put there. Open parts may be live, and so a form is written as the variables are
at the time. They are written under two conditions. A number that is infinite or undefined
has no place in them and becomes null, and nothing may be nested too deeply. Where a form
goes over the wire, the first condition holds for all of it.
-/

import Tenancy.Json.Live

namespace Tenancy

/-- A value on its way to being written. -/
inductive Form where
  /-- A part that is written as it stands. -/
  | exact (j : Json)
  /-- An open part. -/
  | free (v : Live)
  /-- An array. -/
  | list (items : List Form)
  /-- An object, its fields in order. -/
  | object (fields : List (String × Form))
  /-- A part that counts as nested one level deeper, whatever it holds. -/
  | level (f : Form)
deriving Inhabited

/-- Why a form cannot be written. -/
inductive Unwritable where
  /-- It is nested too deeply. -/
  | tooDeep
  /-- It contains itself. -/
  | endless
deriving DecidableEq, Repr

/-- What to tell about a form that cannot be written. -/
def Unwritable.message : Unwritable → String
  | .tooDeep => "Maximum serialization depth exceeded"
  | .endless => "Circular reference detected"

namespace Json

/- A value without infinite and undefined numbers, by recursion on its elements and fields. -/
mutual

/-- A value with null for every number that is infinite or undefined. -/
def finite : Json → Json
  | .float x => if x.isFinite then .float x else .null
  | .list items => .list (finiteItems items)
  | .object fields => .object (finiteFields fields)
  | j => j

/-- The elements of an array with null for every number that is infinite or undefined. -/
def finiteItems : List Json → List Json
  | [] => []
  | item :: rest => finite item :: finiteItems rest

/-- The fields of an object with null for every number that is infinite or undefined. -/
def finiteFields : List (String × Json) → List (String × Json)
  | [] => []
  | (name, value) :: rest => (name, finite value) :: finiteFields rest

end

end Json

namespace Form

/-- Null. -/
def null : Form := .exact .null

/-- A truth value. -/
def bool (b : Bool) : Form := .exact (.bool b)

/-- An integer. -/
def int (n : Int) : Form := .exact (.int n)

/-- A number of things. -/
def count (n : Nat) : Form := .exact (.count n)

/-- A number with a point. -/
def float (x : Binary64) : Form := .exact (.float x)

/-- A string. -/
def text (s : String) : Form := .exact (.text s)

/-- An array of strings. -/
def texts (items : List String) : Form := .exact (.texts items)

/-- An object whose fields are open. -/
def freeFields (fields : Named Live) : Form :=
  .object (fields.map fun f => (f.1, .free f.2))

/-- A form that may be missing, written as null then. -/
def ofOption {α : Type} (f : α → Form) : Option α → Form
  | some a => f a
  | none => .null

@[simp] theorem ofOption_none {α : Type} (f : α → Form) : ofOption f none = .null := rfl

@[simp] theorem ofOption_some {α : Type} (f : α → Form) (a : α) : ofOption f (some a) = f a := rfl

/- Readings of a form, by recursion on its parts. -/
mutual

/-- Whether an open part of a form refers to the bag of variables. -/
def refers : Form → Bool
  | .exact _ => false
  | .free v => v.refers
  | .list items => refersItems items
  | .object fields => refersFields fields
  | .level f => refers f

/-- Whether one of several forms refers to the bag. -/
def refersItems : List Form → Bool
  | [] => false
  | item :: rest => refers item || refersItems rest

/-- Whether one of several named forms refers to the bag. -/
def refersFields : List (String × Form) → Bool
  | [] => false
  | (_, f) :: rest => refers f || refersFields rest

end

mutual

/-- The value of a form, with something in the place of the bag. -/
def value (bag : Json) : Form → Json
  | .exact j => j
  | .free v => v.fill bag
  | .list items => .list (valueItems bag items)
  | .object fields => .object (valueFields bag fields)
  | .level f => value bag f

/-- The values of several forms. -/
def valueItems (bag : Json) : List Form → List Json
  | [] => []
  | item :: rest => value bag item :: valueItems bag rest

/-- The values of named forms. -/
def valueFields (bag : Json) : List (String × Form) → List (String × Json)
  | [] => []
  | (name, f) :: rest => (name, value bag f) :: valueFields bag rest

end

mutual

/-- The value of a form without infinite and undefined numbers in its open parts. -/
def settled (bag : Json) : Form → Json
  | .exact j => j
  | .free v => (v.fill bag).finite
  | .list items => .list (settledItems bag items)
  | .object fields => .object (settledFields bag fields)
  | .level f => settled bag f

/-- The values of several forms without infinite and undefined numbers in open parts. -/
def settledItems (bag : Json) : List Form → List Json
  | [] => []
  | item :: rest => settled bag item :: settledItems bag rest

/-- The values of named forms without infinite and undefined numbers in open parts. -/
def settledFields (bag : Json) : List (String × Form) → List (String × Json)
  | [] => []
  | (name, f) :: rest => (name, settled bag f) :: settledFields bag rest

end

mutual

/-- How many levels of a form count: those that are marked and those of open parts. -/
def nesting (bag : Json) : Form → Nat
  | .exact _ => 0
  | .free v => (v.fill bag).depth
  | .list items => nestingItems bag items
  | .object fields => nestingFields bag fields
  | .level f => nesting bag f + 1

/-- The greatest nesting among several forms. -/
def nestingItems (bag : Json) : List Form → Nat
  | [] => 0
  | item :: rest => max (nesting bag item) (nestingItems bag rest)

/-- The greatest nesting among named forms. -/
def nestingFields (bag : Json) : List (String × Form) → Nat
  | [] => 0
  | (_, f) :: rest => max (nesting bag f) (nestingFields bag rest)

end

/-- The deepest nesting that is written. -/
def maxNesting : Nat := 255

/-- Write a form as the variables are. -/
def write (vars : Bag) (f : Form) : Except Unwritable Json :=
  if f.refers && vars.fields?.isNone then .error .endless
  else if maxNesting < f.nesting vars.outline then .error .tooDeep
  else .ok (f.settled vars.outline)

/-- Write a form for the wire, where no number is infinite or undefined. -/
def send (vars : Bag) (f : Form) : Except Unwritable Json :=
  (f.write vars).map Json.finite

/-- A form is written exactly when it does not contain itself and is not nested too deeply. -/
theorem write_eq_ok_iff (vars : Bag) (f : Form) (j : Json) :
    f.write vars = .ok j ↔
      (f.refers = true → vars.fields?.isSome) ∧ f.nesting vars.outline ≤ maxNesting ∧
        f.settled vars.outline = j := by
  unfold write
  by_cases deep : maxNesting < f.nesting vars.outline <;> cases f.refers <;>
    cases vars.fields? <;> simp [deep, Nat.not_le.2, Nat.not_lt.1]

end Form

end Tenancy
