/-
# Carrying out requests

A request is compiled completely before the database hears of it. It is then carried out
statement by statement, either in a transaction of its own, which ends in a commit or a
rollback and always closes its connection, or as a guest in a transaction that somebody
else has opened. Failures are part of the response.
-/

import Tenancy.Execution.Database
import Tenancy.Statement.Compile

namespace Tenancy

/-- The error that a fault is reported as. -/
def Fault.detail : Fault → ErrorDetail
  | .database message sqlstate =>
      { message, code := some "DATABASE_ERROR"
        detail := sqlstate.map fun s => .object [("sqlstate", .text s)] }
  | f => { message := if f.text.isEmpty then "unknown_execution_error" else f.text
           code := some "EXECUTION_ERROR", detail := none }

/-- The error that a refusal is reported as. -/
def Refusal.detail (r : Refusal) : ErrorDetail :=
  { message := r.message, code := some r.kind.code, detail := none }

/-- The remark on a request whose effects were undone. -/
def dryRunWarning : String :=
  "Request executed in dry-run mode; all writes were rolled back."

/-- A session with the trace of the statements that ran in it. -/
structure Progress (σ : Type) where
  session : Session σ
  trace : List TraceEntry

namespace Execution

variable {σ : Type}

/-- Carry out one statement and record it in the trace. -/
def runStatement (db : Database σ) (dryRun : Bool) (s : Statement) (p : Progress σ) :
    Ending Result × Progress σ :=
  match p.session.send db (.statement s.sql s.params) with
  | (.failed f, session) => (.raised f, { p with session })
  | (.silent, session) => (.hung, { p with session })
  | (.done found, session) =>
      (.returned (.rows s.table.name s.action? found.count (found.rows.getD [])),
        { session
          trace := p.trace ++
            [{ stepIndex := p.trace.length, statement := s, rowCount := found.count, dryRun }] })

/- Carrying out a plan, by recursion on its steps. -/
mutual

/-- Carry out a plan, in order and up to the first failure. -/
def runPlan (db : Database σ) (dryRun : Bool) : Plan → Progress σ → Ending Result × Progress σ
  | .leaf s, p => runStatement db dryRun s p
  | .batch steps, p =>
      match runSteps db dryRun steps p with
      | (.returned results, p) => (.returned (.batch results), p)
      | (.raised f, p) => (.raised f, p)
      | (.hung, p) => (.hung, p)

/-- Carry out the steps of a batch, in order and up to the first failure. -/
def runSteps (db : Database σ) (dryRun : Bool) :
    List Plan → Progress σ → Ending (List Result) × Progress σ
  | [], p => (.returned [], p)
  | step :: rest, p =>
      match runPlan db dryRun step p with
      | (.raised f, p) => (.raised f, p)
      | (.hung, p) => (.hung, p)
      | (.returned result, p) =>
          match runSteps db dryRun rest p with
          | (.returned results, p) => (.returned (result :: results), p)
          | (.raised f, p) => (.raised f, p)
          | (.hung, p) => (.hung, p)

end

/-- The response to a request. -/
def respond (r : Request) (id : String) (dryRun : Bool) (trace : List TraceEntry)
    (warnings : List String) (outcome : Except ErrorDetail Result) : Response :=
  { requestId := id, dryRun, commandKind := r.command.kind, warnings, trace, outcome }

/-- Carry out a request as a guest in an open transaction. -/
def executeInTransaction (db : Database σ) (k : Compiler) (r : Request) (id : String)
    (session : Session σ) : Ending Response × Session σ :=
  match k.compile r.scope r.command with
  | .error refusal => (.returned (respond r id false [] [] (.error refusal.detail)), session)
  | .ok plan =>
      match runPlan db false plan ⟨session, []⟩ with
      | (.returned result, p) => (.returned (respond r id false p.trace [] (.ok result)), p.session)
      | (.raised f, p) => (.returned (respond r id false p.trace [] (.error f.detail)), p.session)
      | (.hung, p) => (.hung, p.session)

/-- How a transaction of one's own ended before its connection is closed. -/
structure Finish where
  trace : List TraceEntry
  /-- Remarks. -/
  warnings : List String
  /-- What came back, or why nothing did. -/
  outcome : Except ErrorDetail Result

/-- Finish a transaction whose statements have all succeeded: undo it in a dry run, make it
permanent otherwise. -/
def finish (db : Database σ) (dryRun : Bool) (result : Result) (p : Progress σ) :
    Ending Finish × Session σ :=
  match p.session.perform db (if dryRun then .rollback else .commit) with
  | (.returned _, session) =>
      (.returned ⟨p.trace, if dryRun then [dryRunWarning] else [], .ok result⟩, session)
  | (.raised f, session) => (.returned ⟨p.trace, [], .error f.detail⟩, session)
  | (.hung, session) => (.hung, session)

/-- Start a transaction on an open connection, carry out a plan in it and finish it. A
failure of the statements undoes the transaction; that this may fail as well is not
reported. -/
def runOwned (db : Database σ) (dryRun : Bool) (plan : Plan) (session : Session σ) :
    Ending Finish × Session σ :=
  match session.perform db .begin with
  | (.raised f, session) => (.returned ⟨[], [], .error f.detail⟩, session)
  | (.hung, session) => (.hung, session)
  | (.returned _, session) =>
      match runPlan db dryRun plan ⟨session, []⟩ with
      | (.hung, p) => (.hung, p.session)
      | (.returned result, p) => finish db dryRun result p
      | (.raised f, p) =>
          match p.session.perform db .rollback with
          | (.hung, session) => (.hung, session)
          | (_, session) => (.returned ⟨p.trace, [], .error f.detail⟩, session)

/-- Carry out a request in a transaction of its own. A connection that was opened is closed;
a failure to close it is what the response reports then. -/
def execute (db : Database σ) (k : Compiler) (r : Request) (id : String) (session : Session σ) :
    Ending Response × Session σ :=
  match k.compile r.scope r.command with
  | .error refusal => (.returned (respond r id r.isDryRun [] [] (.error refusal.detail)), session)
  | .ok plan =>
      match session.perform db .connect with
      | (.raised f, session) => (.returned (respond r id r.isDryRun [] [] (.error f.detail)), session)
      | (.hung, session) => (.hung, session)
      | (.returned _, session) =>
          match runOwned db r.isDryRun plan session with
          | (.raised f, session) => (.raised f, session)
          | (.hung, session) => (.hung, session)
          | (.returned done, session) =>
              match session.perform db .close with
              | (.hung, session) => (.hung, session)
              | (.returned _, session) =>
                  (.returned (respond r id r.isDryRun done.trace done.warnings done.outcome), session)
              | (.raised f, session) =>
                  (.returned (respond r id r.isDryRun done.trace done.warnings (.error f.detail)), session)

end Execution

end Tenancy
