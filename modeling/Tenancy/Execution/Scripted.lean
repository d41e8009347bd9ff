/-
# A scripted database

A database that does what a script says: rules answer the statements they match, and
chosen occurrences of other events fail. Statements without a rule get a plain answer.
-/

import Tenancy.Execution.Database
import Tenancy.Text.Search

namespace Tenancy

/-- A cell of a scripted row. -/
inductive ScriptedCell where
  | value (v : Value)
  /-- The parameter with the given number, counted from one. -/
  | parameter (n : Int)

/-- What a rule does. -/
inductive RuleAction where
  /-- Never answer. -/
  | hang
  | fail (f : Fault)
  /-- Answer with rows and a number of rows. -/
  | answer (rows : Option (List (List (String × ScriptedCell)))) (rowCount : Option Int)

/-- A rule for statements. -/
structure ScriptedRule where
  /-- The text a statement has to contain. -/
  pattern : String
  /-- How often the rule can still be used; without bound when absent. -/
  left : Option Nat
  /-- What the rule does. -/
  action : RuleAction

/-- An event without its data. -/
inductive EventKind where
  | connect
  | begin
  | savepoint
  | release
  | rollbackTo
  | commit
  | rollback
  | close
  | statement
deriving DecidableEq, Repr

/-- The kind of an event. -/
def Event.kind : Event → EventKind
  | .connect => .connect
  | .begin => .begin
  | .savepoint => .savepoint
  | .release => .release
  | .rollbackTo => .rollbackTo
  | .commit => .commit
  | .rollback => .rollback
  | .close => .close
  | .statement .. => .statement

/-- The word for a kind of event. -/
def EventKind.word : EventKind → String
  | .connect => "connect"
  | .begin => "begin"
  | .savepoint => "savepoint"
  | .release => "savepoint:commit"
  | .rollbackTo => "savepoint:rollback"
  | .commit => "transaction:commit"
  | .rollback => "transaction:rollback"
  | .close => "close"
  | .statement => "statement"

/-- A failure of certain events. -/
structure ScriptedFailure where
  /-- The word for the events that fail. -/
  on : String
  /-- Which occurrence fails; every one when zero. -/
  nth : Int
  /-- How it fails. -/
  fault : Fault

/-- A script and what has happened of it. -/
structure Script where
  /-- The rules, in order. -/
  rules : List ScriptedRule
  failures : List ScriptedFailure
  /-- The events so far, latest first. -/
  past : List EventKind

namespace Script

/-- The script without rules and failures. -/
def empty : Script := ⟨[], [], []⟩

/-- A cell as it stands in a row, given the parameters of the statement. -/
def cell (params : List Value) : ScriptedCell → Value
  | .value v => v
  | .parameter n => if n < 1 then .plain .null else (params[n.toNat - 1]?).getD (.plain .null)

/-- The answer to a statement that no rule matches. -/
def plainAnswer (sql : String) : Rowset :=
  if "SELECT".toList.isPrefixOf sql.toList then
    { rows := some [[("id", .plain (.text "row_1")), ("status", .plain (.text "confirmed"))]]
      stated := some 1 }
  else if Text.contains sql "RETURNING" then
    { rows := some [[("id", .plain (.text "row_1"))]], stated := some 1 }
  else { rows := none, stated := some 1 }

/-- Whether a rule applies to a statement. -/
def applies (sql : String) (r : ScriptedRule) : Bool :=
  r.left != some 0 && Text.contains sql r.pattern

/-- Use the first rule that applies. -/
def useRule (sql : String) : List ScriptedRule → Option RuleAction × List ScriptedRule
  | [] => (none, [])
  | r :: rest =>
      if applies sql r then (some r.action, { r with left := r.left.map (· - 1) } :: rest)
      else
        let (action, rest) := useRule sql rest
        (action, r :: rest)

/-- The answer of a rule. -/
def answer (params : List Value) : RuleAction → Reply
  | .hang => .silent
  | .fail f => .failed f
  | .answer rows rowCount =>
      .done { rows := rows.map (List.map (List.map fun c => (c.1, cell params c.2))), stated := rowCount }

/-- The failure that the script has for an event, given how often it has happened now. -/
def failure? (s : Script) (kind : EventKind) (occurrence : Nat) : Option Fault :=
  (s.failures.find? fun f => f.on == kind.word && (f.nth == 0 || f.nth == (occurrence : Int))).map
    ScriptedFailure.fault

/-- Answer an event. -/
def respond (s : Script) (e : Event) : Reply × Script :=
  let s := { s with past := e.kind :: s.past }
  match e with
  | .statement sql params =>
      let (action, rules) := useRule sql s.rules
      let reply := match action with
        | some a => answer params a
        | none => .done (plainAnswer sql)
      (reply, { s with rules })
  | e =>
      match s.failure? e.kind (s.past.count e.kind) with
      | some f => (.failed f, s)
      | none => (.done { rows := none, stated := none }, s)

/-- The database that follows a script. -/
def database : Database Script := ⟨respond⟩

end Script

end Tenancy
