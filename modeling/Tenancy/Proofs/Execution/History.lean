/-
# Earlier events

A session keeps the events that its database was sent, but nothing that is sent later depends on
them: the database answers out of its state. Carrying out a request behind earlier events therefore
goes as it would without them, and comes to the same end in the same state, with the earlier events
in front of its own. So it is well defined what a request sends: whatever it sends where nothing
was sent before.
-/

import Tenancy.Execution.Execute

namespace Tenancy

variable {σ : Type}

/-- The session with earlier events in front of its own. -/
def Session.behind (past : List Event) (s : Session σ) : Session σ :=
  { s with log := past ++ s.log }

/-- A session is one without events, behind those that it keeps. -/
theorem Session.behind_log (s : Session σ) : Session.behind s.log ⟨s.state, []⟩ = s := by
  rw [Session.behind, List.append_nil]

/-- Carrying something out, with earlier events in front of the session. -/
def Progress.behind (past : List Event) (p : Progress σ) : Progress σ :=
  { p with session := p.session.behind past }

namespace Session

variable (db : Database σ) (past : List Event) (s : Session σ) (e : Event)

theorem send_behind :
    (s.behind past).send db e = (s.send db e).map id (behind past) := by
  simp [send, behind]

theorem perform_behind :
    (s.behind past).perform db e = (s.perform db e).map id (behind past) := by
  rw [perform, perform, send_behind]
  rcases s.send db e with ⟨reply, s'⟩
  cases reply <;> rfl

end Session

namespace Execution

variable (db : Database σ) (past : List Event) (dryRun : Bool)

theorem runStatement_behind (s : Statement) (p : Progress σ) :
    runStatement db dryRun s (p.behind past) =
      (runStatement db dryRun s p).map id (Progress.behind past) := by
  rw [runStatement, runStatement, Progress.behind, Session.send_behind]
  rcases p.session.send db (.statement s.sql s.params) with ⟨reply, session⟩
  cases reply <;> rfl

/- Plans and the steps of batches, by recursion on both at once. -/
mutual

theorem runPlan_behind : ∀ (plan : Plan) (p : Progress σ),
    runPlan db dryRun plan (p.behind past) =
      (runPlan db dryRun plan p).map id (Progress.behind past)
  | .leaf s, p => by
      rw [runPlan, runPlan]
      exact runStatement_behind db past dryRun s p
  | .batch steps, p => by
      rw [runPlan, runPlan, runSteps_behind steps p]
      rcases runSteps db dryRun steps p with ⟨ending, p'⟩
      cases ending <;> rfl

theorem runSteps_behind : ∀ (steps : List Plan) (p : Progress σ),
    runSteps db dryRun steps (p.behind past) =
      (runSteps db dryRun steps p).map id (Progress.behind past)
  | [], p => by
      rw [runSteps, runSteps]
      rfl
  | step :: rest, p => by
      rw [runSteps, runSteps, runPlan_behind step p]
      rcases runPlan db dryRun step p with ⟨ending, p'⟩
      cases ending with
      | raised f => rfl
      | hung => rfl
      | returned result =>
          dsimp only [Prod.map_apply, id_eq]
          rw [runSteps_behind rest p']
          rcases runSteps db dryRun rest p' with ⟨ending, p''⟩
          cases ending <;> rfl

end

theorem finish_behind (result : Result) (p : Progress σ) :
    finish db dryRun result (p.behind past) =
      (finish db dryRun result p).map id (Session.behind past) := by
  rw [finish, finish, Progress.behind, Session.perform_behind]
  rcases p.session.perform db (if dryRun then .rollback else .commit) with ⟨ending, session⟩
  cases ending <;> rfl

theorem runOwned_behind (plan : Plan) (session : Session σ) :
    runOwned db dryRun plan (session.behind past) =
      (runOwned db dryRun plan session).map id (Session.behind past) := by
  rw [runOwned, runOwned, Session.perform_behind]
  rcases session.perform db .begin with ⟨ending, begun⟩
  cases ending with
  | raised f => rfl
  | hung => rfl
  | returned u =>
      have run := runPlan_behind db past dryRun plan ⟨begun, []⟩
      dsimp only [Prod.map_apply, id_eq, Progress.behind] at run ⊢
      rw [run]
      rcases runPlan db dryRun plan ⟨begun, []⟩ with ⟨ending, p⟩
      cases ending with
      | hung => rfl
      | returned result => exact finish_behind db past dryRun result p
      | raised f =>
          dsimp only [Prod.map_apply, id_eq, Progress.behind]
          rw [Session.perform_behind]
          rcases p.session.perform db .rollback with ⟨ending, session⟩
          cases ending <;> rfl

/-- **What was sent before does not matter.** Behind earlier events a request comes to the same
end, in the same state, and sends the same events. -/
theorem execute_behind (k : Compiler) (r : Request) (requestId : String) (session : Session σ) :
    execute db k r requestId (session.behind past) =
      (execute db k r requestId session).map id (Session.behind past) := by
  rw [execute, execute]
  cases k.compile r.scope r.command with
  | error refusal => rfl
  | ok plan =>
      dsimp only
      rw [Session.perform_behind]
      rcases session.perform db .connect with ⟨ending, opened⟩
      cases ending with
      | raised f => rfl
      | hung => rfl
      | returned u =>
          dsimp only [Prod.map_apply, id_eq]
          rw [runOwned_behind]
          rcases runOwned db r.isDryRun plan opened with ⟨ending, ended⟩
          cases ending with
          | raised f => rfl
          | hung => rfl
          | returned done =>
              dsimp only [Prod.map_apply, id_eq]
              rw [Session.perform_behind]
              rcases ended.perform db .close with ⟨ending, closed⟩
              cases ending <;> rfl

/-- A request may be carried out where nothing was sent before. What was sent is put in front
afterwards. -/
theorem execute_eq_behind (k : Compiler) (r : Request) (requestId : String) (session : Session σ) :
    execute db k r requestId session =
      (execute db k r requestId ⟨session.state, []⟩).map id (Session.behind session.log) := by
  rw [← execute_behind, Session.behind_log]

end Execution

end Tenancy
