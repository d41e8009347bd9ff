/-
# Dry runs leave nothing behind

Three ways lead to the database under a dry run: a request carried out in a transaction of its
own, a simulation, and a scripted run. On none of them is a commit ever sent. This is proved for
every database, so it does not matter which rows come back and what fails, and for every
translator, so it does not matter what a translation says about being a dry run. The service
reaches a simulation by its path alone: an arrival with another method is refused before the
database hears of it.
-/

import Tenancy.Execution.Scripted
import Tenancy.Proofs.Chains
import Tenancy.Proofs.Execution.Events
import Tenancy.Proofs.Lifecycle.Events
import Tenancy.Proofs.Statement.Compiles
import Tenancy.Service.Respond

namespace Tenancy

open Session

variable {σ : Type}

/-- What a translation means is carried out as a dry run. -/
theorem Simulation.follows_ofTranslation (db : Database σ) (k : Compiler) (ids : IdSource)
    (t : Translation) (session : Session σ) :
    session.Follows (Event.Suits true) (ofTranslation db k ids t session).2 := by
  unfold ofTranslation
  cases t.usable? with
  | none => exact Follows.refl _ session
  | some request =>
      let forced := { request with dryRun := some true }
      have run : session.Follows (Event.Suits true)
          (Execution.execute db k forced (ids.ofRequest forced 0).1 session).2 :=
        Execution.follows_execute db k forced _ session
      dsimp only
      rcases hrun : Execution.execute db k forced (ids.ofRequest forced 0).1 session with
        ⟨ending, later⟩
      rw [hrun] at run
      cases ending with
      | returned response => exact run
      | raised f => exact run
      | hung => exact run

namespace Service

variable (service : Service σ)

/-- Following the route of simulations keeps to a dry run. -/
theorem follows_simulate {a : Arrival} {session : Session σ} {done : Outcome × Session σ}
    (h : service.follow .simulate a session = .ok done) :
    session.Follows (Event.Suits true) done.2 := by
  obtain ⟨r, -, h⟩ := bind_eq_ok.mp h
  dsimp only at h
  split at h
  · obtain rfl := pure_eq_ok.mp h
    exact Follows.refl _ session
  · rename_i t _
    obtain rfl := pure_eq_ok.mp h
    exact Simulation.follows_ofTranslation service.database service.compiler service.ids t session

/-- Whatever arrives at the path of simulations keeps to a dry run. -/
theorem follows_respond_of_path {a : Arrival} (ha : a.path = Route.simulate.path)
    (session : Session σ) : session.Follows (Event.Suits true) (service.respond a session).2 := by
  unfold respond
  split
  · rename_i done hdone
    obtain ⟨route, hroute, hfollow⟩ := bind_eq_ok.mp hdone
    have hpath := (Route.of_ofArrival hroute).1
    rw [ha] at hpath
    have : route = .simulate := by
      cases route with
      | simulate => rfl
      | _ => exact absurd hpath (by decide)
    subst this
    exact service.follows_simulate hfollow
  · exact Follows.refl _ session

end Service

/-- Under a dry run no commit is ever sent. -/
theorem dryRun_sends_no_commit :
    (∀ (db : Database σ) (k : Compiler) (r : Request) (id : String) (session : Session σ),
      r.isDryRun = true → (Execution.execute db k r id session).2.commits = session.commits) ∧
    (∀ (service : Service σ) (a : Service.Arrival) (session : Session σ),
      a.path = Service.Route.simulate.path →
        (service.respond a session).2.commits = session.commits) ∧
    (∀ (l : Lifecycle σ) (request : LifecycleRequest) (session : Session σ),
      request.defaults.dryRun = true → (l.run request session).2.commits = session.commits) := by
  refine ⟨?_, ?_, ?_⟩
  · intro db k r id session hdry
    have run := Execution.follows_execute db k r id session
    rw [hdry] at run
    exact commits_of_follows run
  · intro service a session ha
    exact commits_of_follows (service.follows_respond_of_path ha session)
  · intro l request session hdry
    have run := l.follows_complete request session
    rw [hdry] at run
    calc
      (l.run request session).2.commits = (l.complete request session).2.session.commits :=
        commits_settled _ _
      _ = session.commits := commits_of_follows run

/-! ## Against an eager translator and a failing database -/

/-- A translator whose requests are never dry runs of their own. -/
def eagerTranslator : Translator := fun _ =>
  .ok
    { success := true, confidence := .ofInt 1, notes := []
      request := some (.ofCommand false Compiler.demoScope Compiler.demoBatch), error := none }

/-- A database that neither undoes a transaction nor closes a connection without failing. -/
def stubbornSession : Session Script :=
  { state :=
      { rules := [], past := []
        failures :=
          [⟨"transaction:rollback", 0, .other "gone"⟩, ⟨"close", 0, .timeout "too late"⟩] }
    log := [] }

/-- A scripted dry run of one prompt. -/
def eagerRun : LifecycleRequest :=
  { defaults := { dryRun := true, scope := Compiler.demoScope, continueOnFailure := true }
    vars := []
    phases :=
      [{ id := none, name := "orders", description := none, continueOnFailure := true
         steps :=
          [{ id := none, name := "change", description := none, prompt := some "change the orders"
             request := none, execute := true, scope := none, expect := none, captures := []
             tags := [] }] }]
    options :=
      { rollbackOnFailure := true, includeStepTrace := false, stepSavepoints := true
        timeoutMs := none } }

theorem eager_dryRuns_send_no_commit :
    let service : Service Script :=
      ⟨Compiler.demo.catalog, Script.database, Compiler.demo, eagerTranslator, .counting, ⟨0⟩⟩
    let lifecycle : Lifecycle Script :=
      ⟨Script.database, Compiler.demo, eagerTranslator, .counting, ⟨0⟩⟩
    (Execution.execute Script.database Compiler.demo
      (.ofCommand true Compiler.demoScope Compiler.demoBatch) "r-1" stubbornSession).2.commits = 0 ∧
    (service.respond
      { method := "POST", path := "/agent/simulate", query := []
        body := some (.object [("input", .text "change the orders"), ("dryRun", .bool false)]) }
      stubbornSession).2.commits = 0 ∧
    (lifecycle.run eagerRun stubbornSession).2.commits = 0 := by
  intro service lifecycle
  obtain ⟨owned, simulated, scripted⟩ := dryRun_sends_no_commit (σ := Script)
  exact ⟨owned _ _ _ _ stubbornSession rfl, simulated service _ stubbornSession rfl,
    scripted lifecycle eagerRun stubbornSession rfl⟩

end Tenancy
