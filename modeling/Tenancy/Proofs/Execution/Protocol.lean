/-
# The protocol of a request

A request in a transaction of its own keeps to a protocol, whatever the database does: connect,
begin, statements, one commit or one rollback, close, and nothing after the first step of this that
fails but what cleans up behind it. The protocol says when the transaction is made permanent and
what a success means. It is read off the conversations that a request can have. A request comes
back with a response whenever the database does not leave it without a reply; the only way not to
come back is to wait.
-/

import Tenancy.Proofs.Execution.Conversation

namespace Tenancy.Execution

open Session

variable {σ : Type} {dryRun success : Bool} {plan : Plan} {transcript : Transcript}

/-! ## Silence -/

theorem Owned.hung_iff {ending : Ending Bool} (h : Owned dryRun plan transcript ending) :
    ending = .hung ↔ transcript.Unanswered := by
  cases h with
  | unbegun => simp [Reply.regardless_eq_hung]
  | stuck hsent => simp [← hsent.hung_iff]
  | undone hsent => simp [← hsent.hung_iff, Reply.regardless_eq_hung]
  | finished hsent => simp [← hsent.hung_iff, Reply.regardless_eq_hung]

theorem Conducted.hung_iff {ending : Ending Bool} (h : Conducted dryRun plan transcript ending) :
    ending = .hung ↔ transcript.Unanswered := by
  cases h with
  | unconnected => simp [Reply.regardless_eq_hung]
  | stuck howned => simp [← howned.hung_iff]
  | closed howned => simp [← howned.hung_iff, Reply.regardless_eq_hung]

theorem Conducted.ne_raised {ending : Ending Bool} (h : Conducted dryRun plan transcript ending)
    (f : Fault) : ending ≠ .raised f := by
  cases h with
  | unconnected => exact Reply.regardless_ne_raised
  | stuck => exact fun h => nomatch h
  | closed => exact Reply.regardless_ne_raised

/-! ## The order of events -/

/-- What was sent in an open transaction and how it was finished: statements of the plan, in
order, and then one commit or one rollback. The commit comes where all statements of the plan were
done, and not in a dry run. -/
structure Settles (dryRun : Bool) (plan : Plan) (sent : Transcript) (last : Event) : Prop where
  planned : sent.map Prod.fst <+: plan.events
  finished : last = .commit ∨ last = .rollback
  committed : last = .commit ↔
    dryRun = false ∧ sent.map Prod.fst = plan.events ∧ sent.AllDone

/-- The protocol of a request that was not refused. -/
inductive Protocol (dryRun : Bool) (plan : Plan) : Transcript → Bool → Prop
  | unconnected {f : Fault} : Protocol dryRun plan [(.connect, .failed f)] false
  | unbegun {c : Rowset} {f : Fault} {reply : Reply} :
      Protocol dryRun plan [(.connect, .done c), (.begin, .failed f), (.close, reply)] false
  | ended {c b : Rowset} {sent : Transcript} {last : Event} {reply reply' : Reply} {success : Bool}
      (settles : Settles dryRun plan sent last)
      (succeeds : success = true ↔ last = finishing dryRun ∧
        Transcript.AllDone (sent ++ [(last, reply), (.close, reply')])) :
      Protocol dryRun plan
        ((.connect, .done c) :: (.begin, .done b) :: (sent ++ [(last, reply), (.close, reply')]))
        success

theorem settles_rollback {sent : Transcript} {f : Fault}
    (h : Carried plan.events sent (.raised f)) : Settles dryRun plan sent .rollback := by
  have failed := mt h.returned_iff.mpr (fun h => nomatch h)
  exact ⟨h.sent_prefix, .inr rfl, ⟨fun h => (nomatch h), fun h => absurd h.2.2 failed⟩⟩

theorem settles_finishing {sent : Transcript} (h : Carried plan.events sent (.returned ())) :
    Settles dryRun plan sent (finishing dryRun) := by
  cases dryRun with
  | false =>
      exact ⟨h.sent_prefix, .inl rfl,
        ⟨fun _ => ⟨rfl, h.sent_eq, h.returned_iff.mp rfl⟩, fun _ => rfl⟩⟩
  | true => exact ⟨h.sent_prefix, .inr rfl, ⟨fun h => (nomatch h), fun h => (nomatch h.1)⟩⟩

theorem protocol_of_undone {c b : Rowset} {sent : Transcript} {f : Fault} {reply reply' : Reply}
    (h : Carried plan.events sent (.raised f)) :
    Protocol dryRun plan
      ((.connect, .done c) :: (.begin, .done b) ::
        (sent ++ [(.rollback, reply), (.close, reply')])) false := by
  have failed := mt h.returned_iff.mpr (fun h => nomatch h)
  apply Protocol.ended (settles_rollback h)
  constructor
  · exact fun h => nomatch h
  · rintro ⟨-, hall⟩
    exact absurd (Transcript.allDone_append.mp hall).1 failed

theorem protocol_of_finished {c b : Rowset} {sent : Transcript} {reply reply' : Reply}
    (h : Carried plan.events sent (.returned ())) :
    Protocol dryRun plan
      ((.connect, .done c) :: (.begin, .done b) ::
        (sent ++ [(finishing dryRun, reply), (.close, reply')]))
      (reply.isDone && reply'.isDone) := by
  have all := h.returned_iff.mp rfl
  apply Protocol.ended (settles_finishing h)
  rw [Bool.and_eq_true]
  constructor
  · rintro ⟨hreply, hclosed⟩
    exact ⟨rfl, Transcript.allDone_append.mpr
      ⟨all, by simp [Transcript.AllDone, hreply, hclosed]⟩⟩
  · rintro ⟨-, hall⟩
    simpa [Transcript.AllDone] using (Transcript.allDone_append.mp hall).2

/-- A conversation that comes to its end has kept to the protocol. -/
theorem Conducted.protocol (h : Conducted dryRun plan transcript (.returned success)) :
    Protocol dryRun plan transcript success := by
  generalize hending : Ending.returned success = ending at h
  cases h with
  | unconnected hreply =>
      obtain ⟨f, rfl, rfl⟩ := Reply.failed_of_regardless hreply hending.symm
      exact .unconnected
  | stuck => cases hending
  | @closed c owned succeeded reply' howned =>
      obtain ⟨-, rfl⟩ := Reply.regardless_eq_returned.mp hending.symm
      generalize hending : Ending.returned succeeded = ending at howned
      cases howned with
      | unbegun hreply =>
          obtain ⟨f, rfl, rfl⟩ := Reply.failed_of_regardless hreply hending.symm
          exact .unbegun
      | stuck => cases hending
      | undone hsent =>
          obtain ⟨-, rfl⟩ := Reply.regardless_eq_returned.mp hending.symm
          rw [List.cons_append, List.append_assoc]
          exact protocol_of_undone hsent
      | finished hsent =>
          obtain ⟨-, rfl⟩ := Reply.regardless_eq_returned.mp hending.symm
          rw [List.cons_append, List.append_assoc]
          exact protocol_of_finished hsent

/-- A request in a transaction of its own never raises: it comes back with a response unless the
database leaves an event without a reply. A request that is refused sends nothing, and any other
keeps to the protocol. -/
theorem execute_keeps_protocol (db : Database σ) (k : Compiler) (r : Request) (id : String)
    (session : Session σ) :
    ∃ transcript, session.Exchanges db transcript (execute db k r id session).2 ∧
      (execute db k r id session).2.log = session.log ++ transcript.map Prod.fst ∧
      ((execute db k r id session).1 = .hung ↔ transcript.Unanswered) ∧
      ((execute db k r id session).1 = .hung ∨
        ∃ response, (execute db k r id session).1 = .returned response ∧
          match k.compile r.scope r.command with
          | .error _ => transcript = [] ∧ response.success = false
          | .ok plan => Protocol r.isDryRun plan transcript response.success) := by
  cases hcompile : k.compile r.scope r.command with
  | error refusal =>
      rw [execute_of_refused db hcompile]
      exact ⟨[], .nil session, by simp, by simp, .inr ⟨_, rfl, rfl, rfl⟩⟩
  | ok plan =>
      obtain ⟨transcript, exchanged, conducted⟩ := conducted_execute db hcompile id session
      refine ⟨transcript, exchanged, exchanged.log_eq, ?_⟩
      have silent := conducted.hung_iff
      cases hending : (execute db k r id session).1 with
      | raised f =>
          rw [hending] at conducted
          exact absurd rfl (conducted.ne_raised f)
      | hung =>
          rw [hending] at silent
          exact ⟨⟨fun _ => silent.mp rfl, fun _ => rfl⟩, .inl rfl⟩
      | returned response =>
          rw [hending] at silent conducted
          exact ⟨⟨fun h => (nomatch h), fun h => nomatch silent.mpr h⟩,
            .inr ⟨response, rfl, conducted.protocol⟩⟩

end Tenancy.Execution
