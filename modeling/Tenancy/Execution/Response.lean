/-
# Responses

What carrying out a request leaves behind: whether it succeeded, a trace of the statements
that ran, the rows that came back, and the error if there was one. The results of a batch
form a tree of the shape of the batch.
-/

import Tenancy.Json.Form
import Tenancy.Statement.Basic

namespace Tenancy

/-- A row: the values of its columns, in order. -/
abbrev Row := List (String × Value)

/-- A row as results carry it. -/
def Row.shown (row : Row) : Live :=
  .object (row.map fun cell => (cell.1, cell.2.shown))

/-- A statement that ran, as the trace records it. -/
structure TraceEntry where
  /-- The position of the statement in its plan, counted from zero. -/
  stepIndex : Nat
  statement : Statement
  /-- The number of rows it read or changed. -/
  rowCount : Int
  /-- Whether everything was going to be undone. -/
  dryRun : Bool

/-- The form of a trace entry. Nobody has said what parameters are. -/
def TraceEntry.form (e : TraceEntry) : Form :=
  .object [("stepIndex", .count e.stepIndex), ("kind", .text e.statement.kind),
    ("table", .text e.statement.table.name), ("sql", .text e.statement.sql),
    ("params", .list (e.statement.params.map fun v => .free v.shown)), ("rowCount", .int e.rowCount),
    ("dryRun", .bool e.dryRun)]

/-- Why a request failed. -/
structure ErrorDetail where
  /-- What to tell the caller. -/
  message : String
  /-- The kind of error. -/
  code : Option String
  /-- Anything more that is known. -/
  detail : Option Json

/-- The form of an error. -/
def ErrorDetail.form (e : ErrorDetail) : Form :=
  .object [("message", .text e.message), ("code", .ofOption .text e.code),
    ("detail", .ofOption (fun d => .free (.plain d)) e.detail)]

/-- The results of the statements of a plan. -/
inductive Result where
  /-- The result of one statement. -/
  | rows (table : String) (action : Option Action) (rowCount : Int) (rows : List Row)
  | batch (steps : List Result)

/- A result as responses carry it, by recursion on its steps. -/
mutual

/-- A result as responses carry it. -/
def Result.shown : Result → Live
  | .rows table action rowCount found =>
      .object ([("table", .plain (.text table))] ++
        (match action with
          | some a => [("action", .plain (.text a.word))]
          | none => []) ++
        [("rowCount", .plain (.int rowCount)), ("rows", .list (found.map Row.shown))])
  | .batch steps =>
      .object [("kind", .plain (.text "batch")), ("steps", .list (Result.shownSteps steps))]

/-- The results of several steps as responses carry them. -/
def Result.shownSteps : List Result → List Live
  | [] => []
  | step :: rest => step.shown :: Result.shownSteps rest

end

/-- The answer to a request. -/
structure Response where
  requestId : String
  /-- Whether everything was undone at the end. -/
  dryRun : Bool
  commandKind : String
  /-- Remarks. -/
  warnings : List String
  /-- The statements that ran. -/
  trace : List TraceEntry
  /-- What came back, or why nothing did. -/
  outcome : Except ErrorDetail Result

namespace Response

/-- Whether the request succeeded. -/
def success (r : Response) : Bool :=
  match r.outcome with
  | .ok _ => true
  | .error _ => false

/-- The error of a request that failed. -/
def error? (r : Response) : Option ErrorDetail :=
  match r.outcome with
  | .ok _ => none
  | .error e => some e

/-- The results of a request that succeeded. -/
def result? (r : Response) : Option Result :=
  match r.outcome with
  | .ok result => some result
  | .error _ => none

/-- The form of a response. Its result is open as a whole. -/
def form (r : Response) : Form :=
  .object [("requestId", .text r.requestId), ("dryRun", .bool r.dryRun), ("success", .bool r.success),
    ("commandKind", .text r.commandKind), ("warnings", .texts r.warnings),
    ("trace", .list (r.trace.map TraceEntry.form)),
    ("result", .ofOption (fun result => .free (Result.shown result)) r.result?),
    ("error", .ofOption ErrorDetail.form r.error?)]

end Response

end Tenancy
