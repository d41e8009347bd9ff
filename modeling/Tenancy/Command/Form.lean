/-
# Forms of commands

Every field of a command or request, in order, with null for what is absent. The values of a
mutation and what a caller attaches to a request are open parts.
-/

import Tenancy.Command.Basic
import Tenancy.Json.Form

namespace Tenancy

/-- The form of a filter. -/
def Filter.form (f : Filter) : Form :=
  .object [("column", .text f.column), ("op", .text f.op.word), ("value", .exact (f.operand.getD .null))]

/-- The form of an ordering. -/
def SortKey.form (s : SortKey) : Form :=
  .object [("column", .text s.column), ("direction", .text s.direction.word)]

/-- The form of a query. -/
def Query.form (q : Query) : Form :=
  .object [("kind", .text "query"), ("table", .text q.table),
    ("select", .ofOption .texts q.select),
    ("filters", .list (q.filters.map Filter.form)), ("sort", .list (q.sort.map SortKey.form)),
    ("limit", .ofOption .int q.limit), ("offset", .ofOption .int q.offset)]

/-- The form of a mutation. -/
def Mutation.form (m : Mutation) : Form :=
  .object [("kind", .text "mutate"), ("action", .text m.action.word), ("table", .text m.table),
    ("values", .ofOption .freeFields m.values),
    ("filters", .list (m.filters.map Filter.form)),
    ("returning", .ofOption .texts m.returning)]

/- The form of a step of a batch, by recursion on its own steps. -/
mutual

/-- The form of a step of a batch. A batch is one level deeper than what it stands in. -/
def Command.stepForm : Command → Form
  | .query q => q.form
  | .mutate m => m.form
  | .batch steps =>
      .level (.object [("kind", .text "batch"), ("steps", .list (Command.stepForms steps))])
  | .other kind => .object [("kind", .text kind)]

/-- The forms of the steps of a batch. -/
def Command.stepForms : List Command → List Form
  | [] => []
  | step :: rest => step.stepForm :: Command.stepForms rest

end

/-- The form of the command of a request. A batch counts as two levels there. -/
def Command.form : Command → Form
  | .batch steps => .level (Command.stepForm (.batch steps))
  | c => c.stepForm

/-- The form of a scope. -/
def Scope.form (s : Scope) : Form :=
  .object [("bizId", .ofOption .text s.bizId), ("locationId", .ofOption .text s.locationId),
    ("actorUserId", .ofOption .text s.actorUserId)]

/-- The fields of a scope that say something. -/
def Scope.stated (s : Scope) : Fields :=
  [("bizId", s.bizId), ("locationId", s.locationId), ("actorUserId", s.actorUserId)].filterMap
    fun f => f.2.map fun v => (f.1, Json.text v)

/-- The form of a request. -/
def Request.form (r : Request) : Form :=
  .object [("requestId", .ofOption .text r.requestId),
    ("idempotencyKey", .ofOption .text r.idempotencyKey), ("dryRun", .bool r.isDryRun),
    ("scope", r.scope.form), ("command", r.command.form),
    ("metadata", .ofOption .freeFields r.metadata)]

end Tenancy
