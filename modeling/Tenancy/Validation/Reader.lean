/-
# Readers

A reader checks one JSON value and turns it into a value of a type. It reports everything
that is wrong, not only the first thing. Of what it accepts it also makes two forms: one in
full, with every default spelled out, and one as given, with the fields that were actually
there. Readers of objects are put together from readers of their fields; a field is found
under its own name or under its name in snake case, the former winning.
-/

import Tenancy.Json.Form
import Tenancy.Validation.Scalar

namespace Tenancy.Validation

/-- An accepted value with its two forms. -/
structure Accepted (α : Type) where
  value : α
  /-- The value with all defaults spelled out. -/
  full : Form
  /-- The value with only the fields that were given. -/
  given : Form

/-- Use an accepted value as a value of another type. -/
def Accepted.map {α β : Type} (f : α → β) (a : Accepted α) : Accepted β :=
  ⟨f a.value, a.full, a.given⟩

/-- A value with the same form in full and as given. -/
def Accepted.uniform {α : Type} (value : α) (f : Form) : Accepted α :=
  ⟨value, f, f⟩

/-- A value that is written as it stands. -/
def Accepted.plain {α : Type} (value : α) (j : Json) : Accepted α :=
  .uniform value (.exact j)

/-- An accepted value one level deeper. -/
def Accepted.level {α : Type} (a : Accepted α) : Accepted α :=
  ⟨a.value, .level a.full, .level a.given⟩

/-- The outcome of reading: a value, or all that is wrong. -/
abbrev Outcome (α : Type) := Except (List Issue) α

namespace Outcome

/-- Combine two outcomes, keeping the issues of both. -/
def both {α β γ : Type} (f : α → β → γ) : Outcome α → Outcome β → Outcome γ
  | .ok a, .ok b => .ok (f a b)
  | .error e, .ok _ => .error e
  | .ok _, .error e => .error e
  | .error e, .error e' => .error (e ++ e')

/-- An outcome seen from one step further out. -/
def under {α : Type} (s : Step) : Outcome α → Outcome α
  | .ok a => .ok a
  | .error issues => .error (issues.map (Issue.under s))

/-- Refuse the value at hand. -/
def refuse {α : Type} (c : Complaint) : Outcome α :=
  .error [.here c]

@[simp] theorem both_ok {α β γ : Type} (f : α → β → γ) (a : α) (b : β) :
    both f (.ok a) (.ok b) = .ok (f a b) := rfl

@[simp] theorem under_ok {α : Type} (s : Step) (a : α) :
    under s (.ok a : Outcome α) = .ok a := rfl

end Outcome

/-- A reader of one value. -/
abbrev Reader (α : Type) := Json → Outcome (Accepted α)

namespace Reader

/-- Use what a reader reads as a value of another type. -/
def map {α β : Type} (f : α → β) (r : Reader α) : Reader β :=
  fun j => (r j).map (Accepted.map f)

/-- Check what a reader has read. -/
def guarded {α : Type} (r : Reader α) (check : α → Option Complaint) : Reader α :=
  fun j => do
    let a ← r j
    match check a.value with
    | none => .ok a
    | some c => .refuse c

/-- What a reader reads, one level deeper. -/
def level {α : Type} (r : Reader α) : Reader α :=
  fun j => (r j).map Accepted.level

/-- Anything at all. -/
def any : Reader Json :=
  fun j => .ok (.uniform j (.free (.plain j)))

/-- A string. -/
def text : Reader String
  | .text s => .ok (.plain s (.text s))
  | _ => .refuse .notText

/-- A string that is not empty. -/
def word : Reader String :=
  text.guarded fun s => if s.isEmpty then some (.textTooShort 1) else none

/-- An integer, in any form that stands for one. -/
def int : Reader Int :=
  fun j => match intOf j with
    | .ok n => .ok (.plain n (.int n))
    | .error c => .refuse c

/-- An integer not below a bound. -/
def intFrom (least : Int) : Reader Int :=
  int.guarded fun n => if n < least then some (.below least) else none

/-- An integer between two bounds. -/
def intBetween (least greatest : Int) : Reader Int :=
  int.guarded fun n =>
    if n < least then some (.below least) else if greatest < n then some (.above greatest) else none

/-- An integer above a bound. -/
def intAbove (bound : Int) : Reader Int :=
  int.guarded fun n => if n ≤ bound then some (.notAbove bound) else none

/-- A truth value, in any form that stands for one. -/
def bool : Reader Bool :=
  fun j => match boolOf j with
    | .ok b => .ok (.plain b (.bool b))
    | .error c => .refuse c

/-- A number, in any form that stands for one. -/
def number : Reader Binary64 :=
  fun j => match numberOf j with
    | .ok x => .ok (.plain x (.float x))
    | .error c => .refuse c

/-- An object with any fields. -/
def fields : Reader Fields
  | .object fs => .ok (.uniform fs (.freeFields (Live.ofFields fs)))
  | _ => .refuse .notObject

/-- An object with any fields, which are going to be passed on unread. -/
def openFields : Reader (Named Live) :=
  fields.map Live.ofFields

/-- Null, or what a reader reads. -/
def nullable {α : Type} (r : Reader α) : Reader (Option α)
  | .null => .ok (.plain none .null)
  | j => r.map some j

/-- Read the elements of an array, the first having the given index. -/
def items {α : Type} (r : Reader α) : Nat → List Json → Outcome (List (Accepted α))
  | _, [] => .ok []
  | i, j :: rest => .both List.cons ((r j).under (.index i)) (items r (i + 1) rest)

/-- The forms of a list from those of its elements. -/
def ofItems {α : Type} (accepted : List (Accepted α)) : Accepted (List α) :=
  ⟨accepted.map Accepted.value, .list (accepted.map Accepted.full), .list (accepted.map Accepted.given)⟩

/-- An array whose elements a reader reads. -/
def list {α : Type} (r : Reader α) : Reader (List α)
  | .list js => (r.items 0 js).map ofItems
  | _ => .refuse .notList

/-- An array with at least one element. -/
def nonemptyList {α : Type} (r : Reader α) : Reader (List α) :=
  r.list.guarded fun xs => if xs.isEmpty then some (.listTooShort 1 0) else none

/-- One of a few words. -/
def oneOf {α : Type} (choices : List (String × α)) : Reader α
  | .text s =>
      match choices.find? fun c => c.1 == s with
      | some c => .ok (.plain c.2 (.text s))
      | none => .refuse (.notOneOf (choices.map Prod.fst))
  | _ => .refuse (.notOneOf (choices.map Prod.fst))

/-- One of the members of an enumeration. -/
def member {α : Type} (choices : List (String × α)) : Reader α
  | .text s =>
      match choices.find? fun c => c.1 == s with
      | some c => .ok (.plain c.2 (.text s))
      | none => .refuse (.notMember (choices.map Prod.fst))
  | _ => .refuse (.notMember (choices.map Prod.fst))

/-- The complaints of the branches of a choice between the four kinds of scalars. -/
def scalarIssues : List Issue :=
  [⟨[.name "str"], .notText⟩, ⟨[.name "int"], .notInt⟩, ⟨[.name "float"], .notNumber⟩,
    ⟨[.name "bool"], .notBool⟩]

/-- A string, number or truth value, kept exactly as it is. -/
def scalar : Reader Json
  | .list _ | .object _ | .null => .error scalarIssues
  | j => .ok (.plain j j)

/-- The name of the branch of a choice that takes an array of scalars. -/
def scalarListBranch : String := "list[nullable[union[str,int,float,bool]]]"

/-- A scalar or an array of scalars and nulls. -/
def operand : Reader Json
  | .list js =>
      match (scalar.nullable.items 0 js) with
      | .ok _ => .ok (.plain (.list js) (.list js))
      | .error issues => .error (scalarIssues ++ issues.map (Issue.under (.name scalarListBranch)))
  | .object _ => .error (scalarIssues ++ [⟨[.name scalarListBranch], .notList⟩])
  | j => scalar j

/-- One string or an array of strings, as an array. An empty string stands for no string. -/
def texts : Reader (List String)
  | .text s => .ok (.plain (if s.isEmpty then [] else [s]) (.text s))
  | j => match text.list j with
    | .ok a => .ok a
    | .error issues =>
        .error (⟨[.name "str"], .notText⟩ :: issues.map (Issue.under (.name "list[str]")))

end Reader

/-! ## Objects -/

/-- What the readers of some fields have read, with the forms of the fields in full and as
given. -/
structure Taken (α : Type) where
  value : α
  /-- All the fields with their defaults. -/
  full : Named Form
  /-- The fields that were given. -/
  given : Named Form

/-- A reader of some fields of an object. -/
def FieldReader (α : Type) := Fields → Outcome (Taken α)

namespace FieldReader

/-- Read nothing. -/
def none {α : Type} (a : α) : FieldReader α :=
  fun _ => .ok ⟨a, [], []⟩

/-- Read some fields and then some others. -/
def andThen {α β : Type} (f : FieldReader (α → β)) (x : FieldReader α) : FieldReader β :=
  fun fs => .both (fun f x => ⟨f.value x.value, f.full ++ x.full, f.given ++ x.given⟩) (f fs) (x fs)

instance : Applicative FieldReader where
  pure := none
  seq f x := andThen f (x ())

end FieldReader

/-- A name of a field with the other name it is known by. -/
structure FieldName where
  /-- The name under which the field is written. -/
  name : String
  /-- The name under which the field is found as well. -/
  other : String
deriving DecidableEq, Repr

/-- A camel-case name in snake case. -/
def snakeCase (name : String) : String :=
  String.ofList (name.toList.flatMap fun c => if c.isUpper then ['_', c.toLower] else [c])

/-- A field that is found under its name and under its name in snake case. -/
def FieldName.camel (name : String) : FieldName := ⟨name, snakeCase name⟩

/-- The value of a field, with the name it is found under. The name under which the field is
written wins. -/
def FieldName.find? (n : FieldName) (fs : Fields) : Option (String × Json) :=
  (fs.get? n.name).map (Prod.mk n.name) <|> (fs.get? n.other).map (Prod.mk n.other)

/-- A reader that keeps null as a value like any other. -/
def Reader.keepNull (r : Reader Json) : Reader (Option Json)
  | .null => .ok (.plain (some .null) .null)
  | j => r.map some j

/-- Read a field that is there. What is wrong with it is reported under the name it is found
under. -/
def FieldName.take {α : Type} (n : FieldName) (r : Reader α) (found : String × Json) : Outcome (Taken α) :=
  ((r found.2).under (.name found.1)).map fun a => ⟨a.value, [(n.name, a.full)], [(n.name, a.given)]⟩

/-- A field that has to be there. -/
def FieldName.required {α : Type} (n : FieldName) (r : Reader α) : FieldReader α :=
  fun fs => match n.find? fs with
    | some found => n.take r found
    | none => .error [⟨[.name n.name], .missing⟩]

/-- A field that may be absent, with the value and the form it has then. -/
def FieldName.orElse {α : Type} (n : FieldName) (r : Reader α) (value : α) (full : Form) : FieldReader α :=
  fun fs => match n.find? fs with
    | some found => n.take r found
    | none => .ok ⟨value, [(n.name, full)], []⟩

/-- A field that has to be there. -/
def need {α : Type} (name : String) (r : Reader α) : FieldReader α :=
  (FieldName.camel name).required r

/-- A field that may be absent or null. -/
def maybe {α : Type} (name : String) (r : Reader α) : FieldReader (Option α) :=
  (FieldName.camel name).orElse r.nullable .none .null

/-- A field for which absent and null are different. -/
def stated (name : String) (r : Reader Json) : FieldReader (Option Json) :=
  (FieldName.camel name).orElse r.keepNull .none .null

/-- A truth value with a default. -/
def flag (name : String) (default : Bool) : FieldReader Bool :=
  (FieldName.camel name).orElse Reader.bool default (.bool default)

/-- An array that is empty when absent. -/
def many {α : Type} (name : String) (r : Reader α) : FieldReader (List α) :=
  (FieldName.camel name).orElse r.list [] (.list [])

namespace Reader

/-- An object of a kind, read field by field. A rule about the whole object is consulted only
when all fields are fine. -/
def record {α : Type} (title : String) (fields : FieldReader α) (broken : α → Option String) : Reader α
  | .object fs => do
      let taken ← fields fs
      match broken taken.value with
      | none => .ok ⟨taken.value, .object taken.full, .object taken.given⟩
      | some rule => .refuse (.broken rule)
  | _ => .refuse (.notShape title)

/-- An object of a kind without a rule of its own. -/
def object {α : Type} (title : String) (fields : FieldReader α) : Reader α :=
  record title fields fun _ => .none

/-- A reader that keeps the forms of what it accepted as well. -/
def kept {α : Type} (r : Reader α) : Reader (Accepted α) :=
  fun j => (r j).map fun a => ⟨a, a.full, a.given⟩

/-- Read a whole payload, with a report of all that is wrong. -/
def run {α : Type} (r : Reader α) (title : String) (j : Json) : Except Report (Accepted α) :=
  match r j with
  | .ok a => .ok a
  | .error issues => .error ⟨title, issues⟩

end Reader

/-- A field of a payload that is itself a payload with nothing but optional fields. -/
def optionalObject {α : Type} (name : String) (r : Reader α) (value : α) : FieldReader α :=
  (FieldName.camel name).orElse r value
    (match r (.object []) with
      | .ok a => a.full
      | .error _ => .null)

end Tenancy.Validation
