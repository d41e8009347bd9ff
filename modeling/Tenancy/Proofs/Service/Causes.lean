/-
# The first failure and what is told of it

When a statement fails, what comes after it is only cleaning up: the transaction is undone and the
connection is closed. Both may fail again. A run keeps the first failure in either case. A request
keeps it where undoing its transaction fails, but not where closing its connection does: that fault
takes the place of the error of the statement, and nothing of the error is left.
-/

import Tenancy.Proofs.Lifecycle.Deadline

namespace Tenancy

open Session

variable {σ : Type}

/-- A run whose phases are broken off comes back with the reason, unless it waits for a reply. -/
theorem Lifecycle.fatalError_of_brokenOff (l : Lifecycle σ) (request : LifecycleRequest)
    (session : Session σ) {state after : RunState σ} {message : String}
    (h : l.begun? request session = some state)
    (hloop : l.runLoop request state = (.brokenOff message, after)) :
    (l.run request session).1 = .hung ∨
      ∃ result, (l.run request session).1 = .returned result ∧
        result.fatalError = some message := by
  obtain ⟨transcript, -, completed⟩ := l.completed_complete request session
  show (l.complete request session).1 = .hung ∨
    ∃ result, (l.complete request session).1 = .returned result ∧
      result.fatalError = some message
  cases hending : (l.complete request session).1 with
  | hung => exact .inl rfl
  | raised f => exact absurd hending (completed.ne_raised f)
  | returned result => exact .inr ⟨result, rfl, (exchanges_of_brokenOff h hloop hending).1⟩

/-- A request one of whose statements has failed comes back with the error of that statement,
whatever comes of undoing its transaction, except where closing the connection fails: then it comes
back with that. A run whose phases were broken off comes back with the reason, whatever comes of
either. -/
theorem first_failure_told_unless_closing_fails :
    (∀ (db : Database σ) (k : Compiler) (r : Request) (id : String) (session : Session σ),
      ∃ transcript, session.Exchanges db transcript (Execution.execute db k r id session).2 ∧
        ((Execution.execute db k r id session).1 = .hung ↔ transcript.Unanswered) ∧
        ∀ e f, e.IsStatement → (e, .failed f) ∈ transcript →
          (Execution.execute db k r id session).1 = .hung ∨
            ∃ response, (Execution.execute db k r id session).1 = .returned response ∧
              response.error? = some (transcript.closeFault?.getD f).detail) ∧
    (∀ (l : Lifecycle σ) (request : LifecycleRequest) (session : Session σ)
        (state after : RunState σ) (message : String),
      l.begun? request session = some state →
        l.runLoop request state = (.brokenOff message, after) →
        (l.run request session).1 = .hung ∨
          ∃ result, (l.run request session).1 = .returned result ∧
            result.fatalError = some message) :=
  ⟨fun db k r id session => Execution.told_of_statement db k r id session,
    fun l request session _ _ _ h hloop => l.fatalError_of_brokenOff request session h hloop⟩

/-! ## Failures behind failures -/

/-- What a database says that finds a row twice. -/
def duplicateKey : Fault :=
  .database "duplicate key" (some "23505")

/-- A database that rejects every statement and cannot undo a transaction. -/
def unruly : Database Unit :=
  failing fun
    | .statement => some duplicateKey
    | .rollback => some (.other "no rollback")
    | _ => none

/-- A database that rejects every statement and loses the connection when it is closed. -/
def forgetful : Database Unit :=
  failing fun
    | .statement => some duplicateKey
    | .close => some (.other "connection lost")
    | _ => none

/-- A database on which everything fails that comes after a savepoint that cannot be set. -/
def helpless : Database Unit :=
  failing fun
    | .savepoint => some (.other "no savepoint")
    | .rollback => some (.other "no rollback")
    | .close => some (.other "connection lost")
    | _ => none

/-- What comes of adding a location for good. -/
def addition (db : Database Unit) : Ending Response × Session Unit :=
  Execution.execute db Compiler.demo Compiler.demoRequest "r-1" ⟨(), []⟩

/-- Where its log shows a statement, the row was found twice. -/
theorem duplicateKey_mem {fault? : EventKind → Option Fault} {transcript : Transcript}
    {later : Session Unit} (h : Session.Exchanges (failing fault?) ⟨(), []⟩ transcript later)
    (hfault : fault? .statement = some duplicateKey)
    (hsent : .statement ∈ later.log.map Event.kind) :
    ∃ e, e.IsStatement ∧ (e, .failed duplicateKey) ∈ transcript := by
  obtain ⟨e, he, hmem⟩ := failed_of_kind h hfault rfl hsent
  cases e with
  | statement sql params => exact ⟨.statement sql params, trivial, hmem⟩
  | _ => cases he

/-- A run of one prompt on a database where everything fails. -/
def helplessLifecycle : Lifecycle Unit :=
  ⟨helpless, Compiler.demo, .always Compiler.demoRequest, .counting, ⟨0⟩⟩

/-- A row that is found twice is told where undoing the transaction fails, and a savepoint that
cannot be set where everything fails that follows. -/
theorem first_failure_told_by_unruly_and_helpless :
    (∃ (transcript : Transcript) (response : Response) (e : Event),
      Session.Exchanges unruly ⟨(), []⟩ transcript (addition unruly).2 ∧
      e.IsStatement ∧ (e, .failed duplicateKey) ∈ transcript ∧
      (addition unruly).1 = .returned response ∧ response.error? = some duplicateKey.detail) ∧
    ∃ (state after : RunState Unit) (result : LifecycleResult),
      helplessLifecycle.begun? lastingRun ⟨(), []⟩ = some state ∧
      helplessLifecycle.runLoop lastingRun state = (.brokenOff "no savepoint", after) ∧
      (helplessLifecycle.run lastingRun ⟨(), []⟩).1 = .returned result ∧
      result.fatalError = some "no savepoint" := by
  obtain ⟨requests, runs⟩ := first_failure_told_unless_closing_fails (σ := Unit)
  constructor
  · obtain ⟨transcript, talk, -, told⟩ :=
      requests unruly Compiler.demo Compiler.demoRequest "r-1" ⟨(), []⟩
    have sent : .statement ∈ (addition unruly).2.log.map Event.kind := by decide +kernel
    have returns : (addition unruly).1.any (fun _ => true) = true := by decide +kernel
    obtain ⟨e, he, hmem⟩ := duplicateKey_mem talk rfl sent
    obtain ⟨_, hreturned, -⟩ := Ending.exists_of_any returns
    rcases told e duplicateKey he hmem with hung | ⟨response, hresponse, herror⟩
    · exact absurd (hung.symm.trans hreturned) (fun h => nomatch h)
    · rw [closeFault?_of_failing talk rfl] at herror
      exact ⟨transcript, response, e, talk, he, hmem, hresponse, herror⟩
  · have started : (helplessLifecycle.begun? lastingRun ⟨(), []⟩).isSome = true := by
      decide +kernel
    have broken : (helplessLifecycle.begun? lastingRun ⟨(), []⟩).all (fun state =>
        (helplessLifecycle.runLoop lastingRun state).1.fatal? == some "no savepoint") = true := by
      decide +kernel
    have returns : (helplessLifecycle.run lastingRun ⟨(), []⟩).1.any (fun _ => true) = true := by
      decide +kernel
    obtain ⟨state, hbegun⟩ := Option.isSome_iff_exists.mp started
    obtain ⟨_, hreturned, -⟩ := Ending.exists_of_any returns
    rw [hbegun, Option.all_some, beq_iff_eq] at broken
    rcases hloop : helplessLifecycle.runLoop lastingRun state with ⟨outcome, after⟩
    rw [hloop] at broken
    cases outcome with
    | ended => cases broken
    | waiting => cases broken
    | brokenOff message =>
        obtain rfl : message = "no savepoint" := Option.some.inj broken
        rcases runs helplessLifecycle lastingRun ⟨(), []⟩ state after _ hbegun hloop with
          hung | ⟨result, hresult, hfatal⟩
        · exact absurd (hung.symm.trans hreturned) (fun h => nomatch h)
        · exact ⟨state, after, result, hbegun, hloop, hresult, hfatal⟩

/-- Where closing the connection fails as well, nothing is told of a row that was found twice. -/
theorem duplicateKey_untold_where_closing_fails :
    ∃ (transcript : Transcript) (response : Response) (e : Event),
      Session.Exchanges forgetful ⟨(), []⟩ transcript (addition forgetful).2 ∧
      e.IsStatement ∧ (e, .failed duplicateKey) ∈ transcript ∧
      (addition forgetful).1 = .returned response ∧
      response.error?.map ErrorDetail.message = some "connection lost" ∧
      response.error? ≠ some duplicateKey.detail := by
  obtain ⟨transcript, talk, -⟩ :=
    Execution.told_of_statement forgetful Compiler.demo Compiler.demoRequest "r-1" ⟨(), []⟩
  have sent : .statement ∈ (addition forgetful).2.log.map Event.kind := by decide +kernel
  have told : (addition forgetful).1.any (fun response =>
      response.error?.map ErrorDetail.message == some "connection lost") = true := by
    decide +kernel
  obtain ⟨e, he, hmem⟩ := duplicateKey_mem talk rfl sent
  obtain ⟨response, hresponse, hlost⟩ := Ending.exists_of_any told
  have lost := eq_of_beq hlost
  refine ⟨transcript, response, e, talk, he, hmem, hresponse, lost, fun same => ?_⟩
  rw [same] at lost
  exact absurd lost (by decide)

end Tenancy
