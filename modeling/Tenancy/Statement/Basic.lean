/-
# Statements

A statement is a small tree over identifiers and values. Its text is a sequence of
fragments, each either fixed text or a place for a value; a value never contributes
anything to the text but the number of its place. Numbering the places from left to right
gives the text with its placeholders, and the values in the same order are the parameters.
-/

import Tenancy.Catalog.Identifier
import Tenancy.Command.Basic
import Tenancy.Statement.Value

namespace Tenancy

/-- The comparisons of a condition with one value. -/
inductive Comparison where
  | eq
  | ne
  | gt
  | ge
  | lt
  | le
  | like
  | ilike
deriving DecidableEq, Repr

/-- A comparison as it is written. -/
def Comparison.symbol : Comparison → String
  | .eq => "="
  | .ne => "!="
  | .gt => ">"
  | .ge => ">="
  | .lt => "<"
  | .le => "<="
  | .like => "LIKE"
  | .ilike => "ILIKE"

/-- One condition of a statement. -/
inductive Condition where
  | compare (column : Identifier) (op : Comparison) (value : Value)
  /-- The column is one of several values. -/
  | isIn (column : Identifier) (first : Value) (rest : List Value)
  | isNull (column : Identifier)
  | notNull (column : Identifier)
  /-- No row at all. -/
  | never

/-- A statement on one table. -/
inductive Statement where
  /-- Read columns of the rows that meet all conditions. -/
  | select (columns : List Identifier) (table : Identifier) (conditions : List Condition)
      (order : List (Identifier × Direction)) (limit : Int) (offset : Option Int)
  /-- Add a row. -/
  | insert (table : Identifier) (assignments : List (Identifier × Value)) (returning : List Identifier)
  /-- Change the rows that meet all conditions. -/
  | update (table : Identifier) (assignments : List (Identifier × Value))
      (conditions : List Condition) (returning : List Identifier)
  /-- Remove the rows that meet all conditions. -/
  | delete (table : Identifier) (conditions : List Condition) (returning : List Identifier)

/-- A piece of a written statement. -/
inductive Fragment where
  /-- Fixed text. -/
  | text (s : String)
  /-- The place of a value. -/
  | slot (v : Value)

namespace Fragment

/-- The text of fragments whose first place has the number `next`. -/
def writeFrom (next : Nat) : List Fragment → String
  | [] => ""
  | .text s :: rest => s ++ writeFrom next rest
  | .slot _ :: rest => "$" ++ toString next ++ writeFrom (next + 1) rest

/-- The text of fragments, places numbered from one. -/
def write (fragments : List Fragment) : String :=
  writeFrom 1 fragments

/-- The values of fragments, in order. -/
def values : List Fragment → List Value
  | [] => []
  | .text _ :: rest => values rest
  | .slot v :: rest => v :: values rest

/-- Groups of fragments with a text between neighbours. -/
def separated (separator : String) : List (List Fragment) → List Fragment
  | [] => []
  | [group] => group
  | group :: next :: rest => group ++ .text separator :: separated separator (next :: rest)

@[simp] theorem values_append (a b : List Fragment) : values (a ++ b) = values a ++ values b := by
  induction a with
  | nil => rfl
  | cons f rest ih => cases f <;> simp [values, ih]

@[simp] theorem values_cons_text (s : String) (rest : List Fragment) :
    values (.text s :: rest) = values rest := rfl

@[simp] theorem values_cons_slot (v : Value) (rest : List Fragment) :
    values (.slot v :: rest) = v :: values rest := rfl

/-- Places are numbered consecutively across the seam of two texts. -/
theorem writeFrom_append (next : Nat) (a b : List Fragment) :
    writeFrom next (a ++ b) = writeFrom next a ++ writeFrom (next + (values a).length) b := by
  induction a generalizing next with
  | nil => simp [writeFrom, values]
  | cons f rest ih =>
      cases f with
      | text s => simp [writeFrom, ih, String.append_assoc]
      | slot v =>
          simp [writeFrom, ih, String.append_assoc, Nat.add_assoc, Nat.add_comm 1]

end Fragment

namespace Condition

/-- The fragments of a condition. -/
def fragments : Condition → List Fragment
  | .compare column op value => [.text (column.quoted ++ " " ++ op.symbol ++ " "), .slot value]
  | .isIn column first rest =>
      .text (column.quoted ++ " IN (") ::
        (Fragment.separated ", " ((first :: rest).map fun v => [.slot v]) ++ [.text ")"])
  | .isNull column => [.text (column.quoted ++ " IS NULL")]
  | .notNull column => [.text (column.quoted ++ " IS NOT NULL")]
  | .never => [.text "1 = 0"]

/-- The values a condition carries, in order. -/
def values : Condition → List Value
  | .compare _ _ value => [value]
  | .isIn _ first rest => first :: rest
  | _ => []

end Condition

namespace Statement

/-- A list of identifiers, separated by commas. -/
def nameList (names : List Identifier) : String :=
  ", ".intercalate (names.map Identifier.quoted)

/-- The condition part of a statement; nothing when there is no condition. -/
def whereFragments (conditions : List Condition) : List Fragment :=
  if conditions.isEmpty then []
  else .text " WHERE " :: Fragment.separated " AND " (conditions.map Condition.fragments)

/-- The direction as it is written. -/
def directionText : Direction → String
  | .asc => "ASC"
  | .desc => "DESC"

/-- The ordering part of a statement; nothing when there is no ordering. -/
def orderText (order : List (Identifier × Direction)) : String :=
  if order.isEmpty then ""
  else " ORDER BY " ++ ", ".intercalate (order.map fun o => o.1.quoted ++ " " ++ directionText o.2)

/-- The part that reads columns back; nothing when there is no such column. -/
def returningText (names : List Identifier) : String :=
  if names.isEmpty then "" else " RETURNING " ++ nameList names

/-- The offset part of a statement. -/
def offsetText : Option Int → String
  | some n => " OFFSET " ++ toString n
  | none => ""

/-- The fragments of a statement. -/
def fragments : Statement → List Fragment
  | .select columns table conditions order limit offset =>
      .text ("SELECT " ++ nameList columns ++ " FROM " ++ table.quoted) ::
        (whereFragments conditions ++
          [.text (orderText order ++ " LIMIT " ++ toString limit ++ offsetText offset)])
  | .insert table assignments returning =>
      .text ("INSERT INTO " ++ table.quoted ++ " (" ++ nameList (assignments.map Prod.fst) ++
          ") VALUES (") ::
        (Fragment.separated ", " (assignments.map fun a => [.slot a.2]) ++
          [.text (")" ++ returningText returning)])
  | .update table assignments conditions returning =>
      .text ("UPDATE " ++ table.quoted ++ " SET ") ::
        (Fragment.separated ", " (assignments.map fun a => [.text (a.1.quoted ++ " = "), .slot a.2]) ++
          whereFragments conditions ++ [.text (returningText returning)])
  | .delete table conditions returning =>
      .text ("DELETE FROM " ++ table.quoted) ::
        (whereFragments conditions ++ [.text (returningText returning)])

/-- The text of a statement. -/
def sql (s : Statement) : String :=
  Fragment.write s.fragments

/-- The parameters of a statement. -/
def params (s : Statement) : List Value :=
  Fragment.values s.fragments

/-- The table of a statement. -/
def table : Statement → Identifier
  | .select _ table .. => table
  | .insert table .. => table
  | .update table .. => table
  | .delete table .. => table

/-- The kind of command a statement came from. -/
def kind : Statement → String
  | .select .. => "query"
  | _ => "mutate"

/-- The action of a statement that changes rows. -/
def action? : Statement → Option Action
  | .select .. => none
  | .insert .. => some .insert
  | .update .. => some .update
  | .delete .. => some .delete

end Statement

/-- What a command compiles to: a statement, or the plans of a batch in order. -/
inductive Plan where
  /-- One statement. -/
  | leaf (s : Statement)
  | batch (steps : List Plan)

/- The statements of a plan, by recursion on its steps. -/
mutual

/-- The statements of a plan in the order in which they are carried out. -/
def Plan.leaves : Plan → List Statement
  | .leaf s => [s]
  | .batch steps => Plan.leavesOf steps

/-- The statements of several plans in order. -/
def Plan.leavesOf : List Plan → List Statement
  | [] => []
  | step :: rest => step.leaves ++ Plan.leavesOf rest

end

end Tenancy
