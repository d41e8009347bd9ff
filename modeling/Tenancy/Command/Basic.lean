/-
# Commands

What a caller may ask of the database: to read rows of one table, to change rows of one
table, or to do several such things in order. Names are as loose as the caller wrote them.
A filter without an operand is different from a filter whose operand is null, so the
operand is an optional value. What a caller hands in to be passed on, which is the values of a
mutation and what is attached to a request, may be live.
-/

import Tenancy.Json.Live

namespace Tenancy

/-- How a filter compares a column. -/
inductive Operator where
  | eq
  | neq
  | gt
  | gte
  | lt
  | lte
  | like
  | ilike
  | isIn
  | isNull
  | notNull
deriving DecidableEq, Repr

/-- The word for an operator. -/
def Operator.word : Operator → String
  | .eq => "eq"
  | .neq => "neq"
  | .gt => "gt"
  | .gte => "gte"
  | .lt => "lt"
  | .lte => "lte"
  | .like => "like"
  | .ilike => "ilike"
  | .isIn => "in"
  | .isNull => "is_null"
  | .notNull => "not_null"

/-- All operators, in the order in which messages list them. -/
def Operator.all : List Operator :=
  [.eq, .neq, .gt, .gte, .lt, .lte, .like, .ilike, .isIn, .isNull, .notNull]

/-- A condition on one column. -/
structure Filter where
  /-- The column, loosely named. -/
  column : String
  /-- How the column is compared. -/
  op : Operator
  /-- What it is compared with. Absent and null are different. -/
  operand : Option Json

/-- The direction of an ordering. -/
inductive Direction where
  | asc
  | desc
deriving DecidableEq, Repr

/-- The word for a direction. -/
def Direction.word : Direction → String
  | .asc => "asc"
  | .desc => "desc"

/-- An ordering by one column. -/
structure SortKey where
  /-- The column, loosely named. -/
  column : String
  direction : Direction

/-- A request to read rows of one table. -/
structure Query where
  /-- The table, loosely named. -/
  table : String
  /-- The columns to read; all of them when absent or empty. -/
  select : Option (List String)
  /-- The conditions on the rows. -/
  filters : List Filter
  /-- The orderings, most significant first. -/
  sort : List SortKey
  /-- The greatest number of rows. -/
  limit : Option Int
  /-- The number of rows to leave out first. -/
  offset : Option Int

/-- What a mutation does. -/
inductive Action where
  | insert
  | update
  | delete
  | other (name : String)
deriving DecidableEq, Repr

/-- The word for an action. -/
def Action.word : Action → String
  | .insert => "insert"
  | .update => "update"
  | .delete => "delete"
  | .other name => name

/-- A request to change rows of one table. -/
structure Mutation where
  /-- What to do. -/
  action : Action
  /-- The table, loosely named. -/
  table : String
  /-- The values to write, by loosely named columns. -/
  values : Option (Named Live)
  /-- The conditions on the rows. -/
  filters : List Filter
  /-- The columns to read back. -/
  returning : Option (List String)

/-- A command. Batches nest to any depth. -/
inductive Command where
  | query (q : Query)
  | mutate (m : Mutation)
  | batch (steps : List Command)
  | other (kind : String)

/-- The kinds of command as requests and responses name them. -/
def Command.kind : Command → String
  | .query _ => "query"
  | .mutate _ => "mutate"
  | .batch _ => "batch"
  | .other kind => kind

/-- On whose behalf a command is given. -/
structure Scope where
  /-- The tenant. -/
  bizId : Option String
  /-- The place of business. -/
  locationId : Option String
  /-- The user who acts. -/
  actorUserId : Option String
deriving DecidableEq, Repr

namespace Scope

/-- The scope that says nothing. -/
def none : Scope := ⟨.none, .none, .none⟩

/-- Lay one scope over another: what the upper one says wins. -/
def laidOver (upper lower : Scope) : Scope :=
  ⟨upper.bizId <|> lower.bizId, upper.locationId <|> lower.locationId,
    upper.actorUserId <|> lower.actorUserId⟩

end Scope

/-- A command with everything needed to carry it out. -/
structure Request where
  /-- The caller's own id for the request. -/
  requestId : Option String
  /-- The caller's key for recognising repetitions. -/
  idempotencyKey : Option String
  /-- Whether to undo everything at the end; absent when the caller did not say. -/
  dryRun : Option Bool
  /-- On whose behalf. -/
  scope : Scope
  /-- What to do. -/
  command : Command
  /-- Anything else the caller attached. -/
  metadata : Option (Named Live)

namespace Request

/-- Whether everything is undone at the end. It is unless the caller said otherwise. -/
def isDryRun (r : Request) : Bool :=
  r.dryRun.getD true

/-- A request without anything but its command and scope. -/
def ofCommand (dryRun : Bool) (scope : Scope) (command : Command) : Request :=
  { requestId := none, idempotencyKey := none, dryRun := some dryRun, scope, command, metadata := none }

end Request

end Tenancy
