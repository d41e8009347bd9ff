/-
# Which steps a run takes

A run that does not break down takes the steps of its request in their order and leaves out those
that a failure stops, and no others. Two flags say what a failure stops. Where the run does not go
on after a failure, a failed step is the last of all; where only its phase does not, it is the last
of its phase, and the next phase starts all the same. So a run that reports success has taken every
step of every phase, once, and each of them passed.

Which steps fail is not said here. That is up to the translator, the database and the checks, and
what is proved holds whatever they do.
-/

import Tenancy.Proofs.Lifecycle.Records

namespace Tenancy.Lifecycle

variable {σ : Type} {l : Lifecycle σ} {request : LifecycleRequest}

/-- The steps that a run without a fatal error reports are those of its request that no failed step
before them stops, in the order of the request, each under its own id or under the one made for its
position. If the run is a success these are all steps of the request, and all of them passed. -/
theorem reported_steps_follow_schedule (l : Lifecycle σ) (request : LifecycleRequest)
    (session : Session σ) {result : LifecycleResult}
    (hresult : (l.run request session).1 = .returned result) (hfatal : result.status ≠ .fatal) :
    ∃ entries : List Entry,
      entries.map Entry.result = result.steps ∧
      (∀ e ∈ entries, e.result.place = e.slot.place) ∧
      (entries.map Entry.slot = request.slots.filter fun s =>
        !entries.any fun e => e.stops request.defaults.continueOnFailure s) ∧
      (result.success = true →
        entries.map Entry.slot = request.slots ∧ ∀ e ∈ entries, e.result.success = true) := by
  obtain hung | ⟨result', transcript, hresult', protocol⟩ := hung_or_protocol l request session
  · rw [hresult] at hung
    cases hung
  obtain rfl : result = result' := Ending.returned.inj (hresult.symm.trans hresult')
  have unbroken : result.fatalError = none := by
    rwa [Ne, protocol.status_eq_fatal, Option.isSome_iff_ne_none, not_not] at hfatal
  obtain ⟨entries, n, reports⟩ := protocol.reports
  have scheduled := (reports.done unbroken).scheduled
  refine ⟨entries, reports.steps.symm, fun e he => (reports.faithful e he).place, scheduled,
    fun hsuccess => ?_⟩
  have passed : ∀ e ∈ entries, e.result.success = true := fun e he =>
    (success_iff.mp hsuccess).2 e.result (reports.steps ▸ List.mem_map_of_mem he)
  exact ⟨scheduled.map_slot_of_passed passed, passed⟩

/-! ## A phase that does not go on -/

/-- A run that goes on after a failure, whose first phase does not. -/
def twoPhases : LifecycleRequest :=
  { twoPrompts with
    phases :=
      [{ id := some "locations", name := "locations", description := none
         continueOnFailure := false, steps := [addingPrompt "first", addingPrompt "second"] },
       { id := none, name := "more locations", description := none
         continueOnFailure := true, steps := [addingPrompt "third"] }] }

/-- The ids of the steps a run reports, each with whether it passed, if the run is not fatal. -/
def outcomes : Ending LifecycleResult → Option (List (String × Bool))
  | .returned result =>
      if result.status = .fatal then none
      else some (result.steps.map fun r => (r.place.stepId, r.success))
  | _ => none

theorem second_step_left_out :
    ∃ result, (addingLifecycle.run twoPhases rejectingSession).1 = .returned result ∧
      result.status ≠ .fatal ∧
      ∃ entries : List Entry,
        entries.map (fun e => (e.slot.place.stepId, e.result.success)) =
          [("locations-step-1", false), ("phase-2-step-1", true)] ∧
        (entries.map Entry.slot = twoPhases.slots.filter fun s =>
          !entries.any fun e => e.stops true s) := by
  have told : outcomes (addingLifecycle.run twoPhases rejectingSession).1 =
      some [("locations-step-1", false), ("phase-2-step-1", true)] := by
    decide +kernel
  cases hresult : (addingLifecycle.run twoPhases rejectingSession).1 with
  | raised f => rw [hresult] at told; cases told
  | hung => rw [hresult] at told; cases told
  | returned result =>
      rw [hresult, outcomes] at told
      split at told
      · cases told
      rename_i hfatal
      obtain ⟨entries, hsteps, hplaces, hscheduled, -⟩ :=
        reported_steps_follow_schedule addingLifecycle twoPhases rejectingSession hresult hfatal
      refine ⟨result, rfl, hfatal, entries, ?_, hscheduled⟩
      rw [← Option.some.inj told, ← hsteps, List.map_map]
      refine List.map_congr_left fun e he => ?_
      rw [Function.comp_apply, hplaces e he]

end Tenancy.Lifecycle
