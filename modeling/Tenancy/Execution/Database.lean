/-
# The database

A database is anything that answers events. It is not known how: it may return rows, fail,
or never answer at all, and what it does next may depend on everything before. A session
is the state of a database together with the events it has been sent, in order.
-/

import Tenancy.Execution.Response

namespace Tenancy

/-- What a database can be asked to do. What was done since a savepoint is kept by `release` and
undone by `rollbackTo`; the transaction as a whole ends with `commit` or `rollback`. -/
inductive Event where
  | connect
  | begin
  | savepoint
  | release
  | rollbackTo
  | commit
  | rollback
  | close
  | statement (sql : String) (params : List Value)

/-- An event whose parameters are live no longer. -/
def Event.settled (vars : Bag) : Event → Event
  | .statement sql params => .statement sql (params.map (Value.settled vars))
  | e => e

/-- What goes wrong in a database. -/
inductive Fault where
  /-- The database rejects something, possibly with a code. -/
  | database (message : String) (sqlstate : Option String)
  /-- Something takes too long. -/
  | timeout (message : String)
  /-- Anything else. -/
  | other (message : String)
deriving DecidableEq, Repr

/-- The text of a fault. -/
def Fault.text : Fault → String
  | .database message _ => message
  | .timeout message => message
  | .other message => message

/-- What a statement comes back with. A statement that yields no rows is different from one
that yields none of them. -/
structure Rowset where
  /-- The rows, if the statement yields any. -/
  rows : Option (List Row)
  /-- The number of rows as the database states it; negative when it does not know. -/
  stated : Option Int

/-- The number of rows: what the database states, or else the number of rows that came back. -/
def Rowset.count (r : Rowset) : Int :=
  match r.stated with
  | some n => if 0 ≤ n then n else ((r.rows.getD []).length : Int)
  | none => ((r.rows.getD []).length : Int)

/-- The answer to an event. -/
inductive Reply where
  | done (r : Rowset)
  | failed (f : Fault)
  /-- There is no answer. -/
  | silent

/-- A database, whose states are of type `σ`. -/
structure Database (σ : Type) where
  /-- Answer an event. -/
  respond : σ → Event → Reply × σ

/-- The state of a database and the events it was sent. -/
structure Session (σ : Type) where
  state : σ
  /-- The events, in order. -/
  log : List Event

/-- How something that depends on a database ends. -/
inductive Ending (α : Type) where
  /-- With a value. -/
  | returned (a : α)
  | raised (f : Fault)
  /-- Not at all: the database never answers. -/
  | hung

namespace Session

variable {σ : Type}

/-- A session in whose log nothing is live any longer. -/
def settled (vars : Bag) (s : Session σ) : Session σ :=
  { s with log := s.log.map (Event.settled vars) }

/-- Send an event. -/
def send (db : Database σ) (s : Session σ) (e : Event) : Reply × Session σ :=
  let (reply, state) := db.respond s.state e
  (reply, { state, log := s.log ++ [e] })

@[simp] theorem log_send (db : Database σ) (s : Session σ) (e : Event) :
    (s.send db e).2.log = s.log ++ [e] := rfl

/-- Send an event that comes back without anything. -/
def perform (db : Database σ) (s : Session σ) (e : Event) : Ending Unit × Session σ :=
  match s.send db e with
  | (.done _, s) => (.returned (), s)
  | (.failed f, s) => (.raised f, s)
  | (.silent, s) => (.hung, s)

@[simp] theorem log_perform (db : Database σ) (s : Session σ) (e : Event) :
    (s.perform db e).2.log = s.log ++ [e] := by
  unfold perform
  rcases h : s.send db e with ⟨reply, s'⟩
  have hlog : s'.log = s.log ++ [e] := by
    have := log_send db s e
    rw [h] at this
    exact this
  cases reply <;> simpa using hlog

end Session

end Tenancy
