/-
# JSON values

The values that commands, scopes, variables and results are made of. An object is a list of
fields in the order in which they were written, because that order reaches the columns of
an insert, the numbering of parameters and the order in which ids are handed out. Integers
are unbounded and are never confused with numbers that carry a point or an exponent.
-/

import Tenancy.Number.Binary64

namespace Tenancy

/-- A JSON value. -/
inductive Json where
  /-- The null value. -/
  | null
  /-- A truth value. -/
  | bool (b : Bool)
  /-- A number without point and exponent. -/
  | int (n : Int)
  /-- A number with a point or an exponent. -/
  | float (x : Binary64)
  | text (s : String)
  /-- An array. -/
  | list (items : List Json)
  /-- An object, its fields in order. -/
  | object (fields : List (String × Json))
deriving Inhabited

/-- Things that go by names, in order. -/
abbrev Named (α : Type) := List (String × α)

/-- The fields of an object, in order. -/
abbrev Fields := Named Json

namespace Named

variable {α : Type}

/-- The value of the first field of the given name. -/
def get? (fields : Named α) (name : String) : Option α :=
  (fields.find? fun f => f.1 == name).map Prod.snd

/-- Whether a field of the given name exists. -/
def has (fields : Named α) (name : String) : Bool :=
  fields.any fun f => f.1 == name

/-- Set a field. A name that is there keeps its place, a new one goes to the end. -/
def put : Named α → String → α → Named α
  | [], name, value => [(name, value)]
  | (n, v) :: rest, name, value =>
      if n == name then (n, value) :: rest else (n, v) :: put rest name value

/-- Set every field of `upper`, in order. -/
def overlay (lower upper : Named α) : Named α :=
  upper.foldl (fun fields f => fields.put f.1 f.2) lower

@[simp] theorem get?_nil (name : String) : get? ([] : Named α) name = none := rfl

@[simp] theorem overlay_nil (lower : Named α) : lower.overlay [] = lower := rfl

/-- A field that has been set reads back. -/
@[simp] theorem get?_put_self (fields : Named α) (name : String) (value : α) :
    (fields.put name value).get? name = some value := by
  induction fields with
  | nil => simp [put, get?]
  | cons f rest ih =>
      obtain ⟨n, v⟩ := f
      by_cases h : n = name
      · simp [put, get?, h]
      · have hne : (n == name) = false := by simp [h]
        simpa [put, get?, hne] using ih

/-- Setting one field leaves the others alone. -/
theorem get?_put_of_ne (fields : Named α) {name other : String} (value : α)
    (h : name ≠ other) : (fields.put name value).get? other = fields.get? other := by
  induction fields with
  | nil => simp [put, get?, h]
  | cons f rest ih =>
      obtain ⟨n, v⟩ := f
      by_cases hn : n = name
      · subst hn
        simp [put, get?, h]
      · have hne : (n == name) = false := by simp [hn]
        by_cases ho : n = other
        · subst ho
          simp [put, get?, hne]
        · have hno : (n == other) = false := by simp [ho]
          simpa [put, get?, hne, hno] using ih

end Named

namespace Json

/-- Whether a value is null. -/
def isNull : Json → Bool
  | .null => true
  | _ => false

/-- The string a value is, if it is one. -/
def text? : Json → Option String
  | .text s => some s
  | _ => none

/-- The elements of a value that is an array. -/
def list? : Json → Option (List Json)
  | .list items => some items
  | _ => none

/-- The fields of a value that is an object. -/
def object? : Json → Option Fields
  | .object fields => some fields
  | _ => none

/-- The field of an object, if the value is an object that has it. -/
def field? (j : Json) (name : String) : Option Json :=
  j.object?.bind (Named.get? · name)

/-- Whether a value counts as true where a condition is wanted: null, false, zero, and
whatever is empty do not. -/
def truthy : Json → Bool
  | .null => false
  | .bool b => b
  | .int n => n != 0
  | .float x => !x.equalsInt 0
  | .text s => !s.isEmpty
  | .list items => !items.isEmpty
  | .object fields => !fields.isEmpty

/-- A list of strings as an array. -/
def texts (items : List String) : Json :=
  .list (items.map .text)

/-- A value that may be missing, written as null then. -/
def ofOption {α : Type} (f : α → Json) : Option α → Json
  | some a => f a
  | none => .null

/-- A number of things. -/
def count (n : Nat) : Json :=
  .int n

@[simp] theorem ofOption_none {α : Type} (f : α → Json) : ofOption f none = .null := rfl

@[simp] theorem ofOption_some {α : Type} (f : α → Json) (a : α) : ofOption f (some a) = f a := rfl

/- How deeply arrays and objects are nested in a value. -/
mutual

/-- The nesting depth of a value; a scalar has depth one. -/
def depth : Json → Nat
  | .list items => depthItems items + 1
  | .object fields => depthFields fields + 1
  | _ => 1

/-- The greatest depth among the elements of an array. -/
def depthItems : List Json → Nat
  | [] => 0
  | item :: rest => max (depth item) (depthItems rest)

/-- The greatest depth among the fields of an object. -/
def depthFields : List (String × Json) → Nat
  | [] => 0
  | (_, value) :: rest => max (depth value) (depthFields rest)

end

/- How many arrays and objects are nested in a value, by recursion on its elements and fields. -/
mutual

/-- The greatest number of arrays and objects that stand one inside the other. -/
def levels : Json → Nat
  | .list items => levelsItems items + 1
  | .object fields => levelsFields fields + 1
  | _ => 0

/-- The greatest number of levels among the elements of an array. -/
def levelsItems : List Json → Nat
  | [] => 0
  | item :: rest => max (levels item) (levelsItems rest)

/-- The greatest number of levels among the fields of an object. -/
def levelsFields : List (String × Json) → Nat
  | [] => 0
  | (_, value) :: rest => max (levels value) (levelsFields rest)

end

end Json

end Tenancy
