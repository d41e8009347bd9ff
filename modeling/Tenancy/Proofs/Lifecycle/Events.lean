/-
# The events of a scripted run

Whatever the steps of a run are and whatever the database answers, the run makes its transaction
permanent only outside of a dry run. This is about the log alone: it is read off the conversations
that a run can have, and never looks at a reply.
-/

import Tenancy.Proofs.Lifecycle.Conversation

namespace Tenancy.Lifecycle

open Session

variable {σ : Type} {l : Lifecycle σ} {request : LifecycleRequest}

/-- What finishes a run is a commit only outside of a dry run. -/
theorem suits_finishing (request : LifecycleRequest) (steps : List StepResult) :
    (finishing request steps).Suits request.defaults.dryRun := by
  unfold finishing isUndone
  cases request.defaults.dryRun with
  | false => exact fun _ => rfl
  | true => exact Event.suits_of_not rfl true

theorem Completed.suits {session : Session σ} {transcript : Transcript}
    {ending : Ending LifecycleResult} (h : l.Completed request session transcript ending) :
    ∀ x ∈ transcript, x.1.Suits request.defaults.dryRun :=
  h.forall_events (Event.Suits request.defaults.dryRun) (Event.suits_of_not rfl _)
    (Event.suits_of_not rfl _) (fun _ _ _ _ _ _ _ serves => serves.isGuest.suits _)
    (Event.suits_of_not rfl _) (suits_finishing request) (Event.suits_of_not rfl _)

/-- A run sends a commit only if it is not a dry run, whatever its steps say and whichever of
them fail. -/
theorem follows_complete (l : Lifecycle σ) (request : LifecycleRequest) (session : Session σ) :
    session.Follows (Event.Suits request.defaults.dryRun)
      (l.complete request session).2.session := by
  obtain ⟨transcript, exchanged, completed⟩ := l.completed_complete request session
  exact Follows.of_exchanges exchanged completed.suits

end Tenancy.Lifecycle
