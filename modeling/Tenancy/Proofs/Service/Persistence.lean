/-
# What is reported as permanent

A success outside of a dry run, and a run that calls its effects permanent, are promises about the
database: the transaction was committed. The promise is kept, since both are reported only after the
commit was done. It is not a description, though. The connection is closed after the commit, and a
failure to close it takes the place of whatever was to be reported, so a failure does not say that
nothing is permanent. What is described exactly is the conversation as a whole: the commit was done
and the connection was closed.

Like everything about conversations, this is for every database. What never comes back reports
nothing, and the commit and the closing have not both been done then.
-/

import Tenancy.Proofs.Lifecycle.Outcome
import Tenancy.Proofs.Scenario.DryRun
import Tenancy.Proofs.Service.DryRun

namespace Tenancy

open Session

variable {σ : Type}

/-- Something came back, and it is no success. -/
def Ending.fails {α : Type} (success : α → Bool) : Ending α → Bool
  | .returned a => !success a
  | _ => false

theorem Ending.exists_of_fails {α : Type} {success : α → Bool} {e : Ending α}
    (h : e.fails success = true) : ∃ a, e = .returned a ∧ success a = false := by
  cases e with
  | returned a => exact ⟨a, rfl, by simpa [fails] using h⟩
  | raised f => cases h
  | hung => cases h

namespace Session.Exchanges

variable {db : Database σ} {s s' : Session σ} {transcript : Transcript}
  (h : s.Exchanges db transcript s')
include h

/-- Every reply in a transcript is one that the database gives to its event. -/
theorem replied : ∀ x ∈ transcript, ∃ state, x.2 = (db.respond state x.1).1 := by
  induction h with
  | nil s => exact fun x hx => nomatch hx
  | @cons s s' e transcript _ ih => exact List.forall_mem_cons.mpr ⟨⟨s.state, rfl⟩, ih⟩

/-- Where there are more commits than before, one was sent. -/
theorem sent_commit (hcommit : s.commits < s'.commits) : transcript.Sent .commit := by
  have more : 0 < (transcript.map Prod.fst).countP Event.isCommit := by
    rw [commits, commits, h.log_eq, List.countP_append] at hcommit
    omega
  obtain ⟨e, he, hcommit⟩ := List.countP_pos_iff.mp more
  obtain ⟨⟨e, reply⟩, hx, rfl⟩ := List.mem_map.mp he
  cases e with
  | commit => exact ⟨reply, hx⟩
  | _ => cases hcommit

end Session.Exchanges

namespace Execution

variable {plan : Plan} {transcript : Transcript}

/-- A transaction on an open connection leaves closing it to others. -/
theorem Owned.not_did_close {dryRun : Bool} {ending : Ending Bool}
    (h : Owned dryRun plan transcript ending) : ¬ transcript.Did .close := by
  have others : ∀ x ∈ transcript, x.1 ≠ .close := by
    refine h.forall_events (· ≠ .close) (fun h => nomatch h) ?_ (fun h => nomatch h) ?_
    · rintro e he rfl
      exact isStatement_of_mem_events he
    · cases dryRun <;> exact fun h => nomatch h
  exact Transcript.not_did_of_forall (· ≠ .close) others fun h => h rfl

/-- A transaction succeeds outside of a dry run if and only if its commit is done. -/
theorem Owned.returned_true_iff {ending : Ending Bool} (h : Owned false plan transcript ending) :
    ending = .returned true ↔ transcript.Did .commit := by
  have uncommitted {sent : Transcript} {ending : Ending Unit}
      (hsent : Carried plan.events sent ending) : ¬ sent.Did .commit :=
    Transcript.not_did_of_forall Event.IsStatement (isStatement_of_carried hsent) fun h => h
  cases h with
  | unbegun => simp [Reply.regardless_eq_returned]
  | stuck hsent => simp [uncommitted hsent]
  | undone hsent => simp [uncommitted hsent, Reply.regardless_eq_returned]
  | @finished b sent reply hsent =>
      cases reply <;> simp [finishing, uncommitted hsent, Reply.regardless, Reply.isDone]

/-- A request succeeds outside of a dry run if and only if its commit is done and its connection is
closed. -/
theorem Conducted.returned_true_iff {ending : Ending Bool}
    (h : Conducted false plan transcript ending) :
    ending = .returned true ↔ transcript.Did .commit ∧ transcript.Did .close := by
  cases h with
  | unconnected => simp [Reply.regardless_eq_returned]
  | stuck howned => simp [howned.not_did_close]
  | @closed c owned success reply howned =>
      have committed := howned.returned_true_iff
      -- the commit was sent before the connection is closed, whatever comes of that
      cases reply <;>
        simp [← committed, howned.not_did_close, Reply.regardless, Reply.isDone]

theorem success_execute_iff (db : Database σ) (k : Compiler) {r : Request}
    (hdry : r.isDryRun = false) (id : String) (session : Session σ) :
    ∃ transcript, session.Exchanges db transcript (execute db k r id session).2 ∧
      ((∃ response, (execute db k r id session).1 = .returned response ∧
          response.success = true) ↔ transcript.Did .commit ∧ transcript.Did .close) := by
  cases hcompile : k.compile r.scope r.command with
  | error refusal =>
      rw [execute_of_refused db hcompile]
      exact ⟨[], .nil session, by simp [success_respond, Except.isOk, Except.toBool]⟩
  | ok plan =>
      obtain ⟨transcript, exchanged, conducted⟩ := conducted_execute db hcompile id session
      refine ⟨transcript, exchanged, ?_⟩
      rw [hdry] at conducted
      rw [← conducted.returned_true_iff]
      cases (execute db k r id session).1 <;> simp [Ending.map]

end Execution

namespace Lifecycle

variable {l : Lifecycle σ} {request : LifecycleRequest}

/-- The transaction of a run leaves closing its connection to the run. -/
theorem Transacted.not_did_close {state after : RunState σ} {sent : Transcript}
    {ending : Ending RunEnd} (h : l.Transacted request state sent ending after) :
    ¬ sent.Did .close := by
  have others : ∀ x ∈ sent, x.1 ≠ .close := by
    refine h.forall_events (· ≠ .close) (fun h => nomatch h) ?_ (fun h => nomatch h)
      fun steps => (close_ne_finishing steps).symm
    rintro phase - s - e serves rfl
    exact serves.isGuest
  exact Transcript.not_did_of_forall (· ≠ .close) others fun h => h rfl

/-- A run that never comes back has not closed its connection. -/
theorem Completed.not_did_close {session : Session σ} {transcript : Transcript}
    (h : l.Completed request session transcript .hung) : ¬ transcript.Did .close := by
  generalize hending : Ending.hung = ending at h
  cases h with
  | unseeded => cases hending
  | unconnected => cases hending
  | unanswered => simp
  | stuck _ _ hsent => simp [hsent.not_did_close]
  | closed _ _ hsent =>
      obtain rfl := closed_eq_hung.mp hending.symm
      simp [hsent.not_did_close, Reply.isDone]

theorem persisted_run_iff (l : Lifecycle σ) (request : LifecycleRequest) (session : Session σ) :
    ∃ transcript later vars, session.Exchanges l.database transcript later ∧
      (l.run request session).2 = later.settled vars ∧
      ((∃ result, (l.run request session).1 = .returned result ∧ result.persisted = true) ↔
        transcript.Did .commit ∧ transcript.Did .close) := by
  obtain ⟨transcript, exchanged, completed⟩ := l.completed_complete request session
  refine ⟨transcript, _, _, exchanged, rfl, ?_⟩
  have same : (l.run request session).1 = (l.complete request session).1 := rfl
  rw [same]
  cases hending : (l.complete request session).1 with
  | raised f => exact absurd hending (completed.ne_raised f)
  | hung =>
      rw [hending] at completed
      simp [completed.not_did_close]
  | returned result =>
      rw [hending] at completed
      simp [completed.protocol.persisted_iff]

end Lifecycle

/-- A request outside of a dry run succeeds if and only if its transaction was committed and its
connection closed, and with a run and what it calls permanent it is the same. -/
theorem success_iff_committed_and_closed :
    (∀ (db : Database σ) (k : Compiler) (r : Request) (id : String) (session : Session σ),
      r.isDryRun = false →
        ∃ transcript, session.Exchanges db transcript (Execution.execute db k r id session).2 ∧
          ((∃ response, (Execution.execute db k r id session).1 = .returned response ∧
            response.success = true) ↔ transcript.Did .commit ∧ transcript.Did .close)) ∧
    (∀ (l : Lifecycle σ) (request : LifecycleRequest) (session : Session σ),
      ∃ transcript later vars, session.Exchanges l.database transcript later ∧
        (l.run request session).2 = later.settled vars ∧
        ((∃ result, (l.run request session).1 = .returned result ∧ result.persisted = true) ↔
          transcript.Did .commit ∧ transcript.Did .close)) := by
  constructor
  · intro db k r id session hdry
    exact Execution.success_execute_iff db k hdry id session
  · intro l request session
    exact l.persisted_run_iff request session

/-! ## A database that cannot be left -/

/-- A database that does whatever it is asked, but loses the connection when it is closed. -/
def fragile : Database Unit where
  respond _ e :=
    (match e with
      | .close => .failed (.other "connection lost")
      | _ => .done { rows := none, stated := some 1 }, ())

/-- Nothing was sent to the database so far. -/
def fragileSession : Session Unit :=
  ⟨(), []⟩

/-- A run of one prompt that is to last. -/
def lastingRun : LifecycleRequest :=
  { eagerRun with defaults := { eagerRun.defaults with dryRun := false } }

/-- The parts of a run whose every prompt adds a location. -/
def fragileLifecycle : Lifecycle Unit :=
  ⟨fragile, Compiler.demo, .always Compiler.demoRequest, .counting, ⟨0⟩⟩

/-- Every commit that is sent to the fragile database is done. -/
theorem fragile_did_commit {s s' : Session Unit} {transcript : Transcript}
    (h : s.Exchanges fragile transcript s') (hcommit : s.commits < s'.commits) :
    transcript.Did .commit := by
  obtain ⟨reply, hmem⟩ := h.sent_commit hcommit
  obtain ⟨state, rfl⟩ : ∃ state, reply = (fragile.respond state .commit).1 := h.replied _ hmem
  exact ⟨_, hmem⟩

/-- What comes of adding a location for good. -/
def fragileExecution : Ending Response × Session Unit :=
  Execution.execute fragile Compiler.demo Compiler.demoRequest "r-1" fragileSession

theorem success_of_fragileExecution_iff :
    Compiler.demoRequest.isDryRun = false ∧
      ∃ transcript, fragileSession.Exchanges fragile transcript fragileExecution.2 ∧
        ((∃ response, fragileExecution.1 = .returned response ∧ response.success = true) ↔
          transcript.Did .commit ∧ transcript.Did .close) :=
  ⟨rfl, success_iff_committed_and_closed.1 fragile Compiler.demo Compiler.demoRequest "r-1"
    fragileSession rfl⟩

/-- Where the connection is lost after the commit, a request is reported as failed and a run as not
permanent, although the transactions of both were committed. -/
theorem committed_but_reported_as_failed :
    (∃ transcript response, Compiler.demoRequest.isDryRun = false ∧
      fragileSession.Exchanges fragile transcript fragileExecution.2 ∧ transcript.Did .commit ∧
      fragileExecution.1 = .returned response ∧ response.success = false) ∧
    (∃ transcript later vars result,
      fragileSession.Exchanges fragile transcript later ∧
      (fragileLifecycle.run lastingRun fragileSession).2 = later.settled vars ∧
      transcript.Did .commit ∧
      (fragileLifecycle.run lastingRun fragileSession).1 = .returned result ∧
      result.persisted = false) := by
  constructor
  · have failed : fragileExecution.1.fails Response.success = true := by
      decide +kernel
    have committed : fragileSession.commits < fragileExecution.2.commits := by
      decide +kernel
    obtain ⟨response, hending, hfailed⟩ := Ending.exists_of_fails failed
    obtain ⟨transcript, exchanged, -⟩ :=
      Execution.success_execute_iff fragile Compiler.demo (r := Compiler.demoRequest) rfl "r-1"
        fragileSession
    exact ⟨transcript, response, rfl, exchanged, fragile_did_commit exchanged committed, hending,
      hfailed⟩
  · have failed : (fragileLifecycle.run lastingRun fragileSession).1.fails
        LifecycleResult.persisted = true := by
      decide +kernel
    have committed : fragileSession.commits <
        (fragileLifecycle.run lastingRun fragileSession).2.commits := by
      decide +kernel
    obtain ⟨result, hending, hfailed⟩ := Ending.exists_of_fails failed
    obtain ⟨transcript, later, vars, exchanged, hsettled, -⟩ :=
      fragileLifecycle.persisted_run_iff lastingRun fragileSession
    rw [hsettled, commits_settled] at committed
    exact ⟨transcript, later, vars, result, exchanged, hsettled,
      fragile_did_commit exchanged committed, hending, hfailed⟩

end Tenancy
