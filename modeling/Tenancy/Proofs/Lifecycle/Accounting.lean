/-
# The accounts of a run

A run tells how many steps passed and how many failed three times over: in its summary, in the
summaries of its phases, and in its list of issues. This module proves that the three agree with the
steps it reports, and that this is so however the run ended. A fatal error between two records loses
at most the summary of the phase it fell into; it never leaves a failed step without its issue, nor
an issue without its step.
-/

import Tenancy.Proofs.Lifecycle.Records

namespace Tenancy

/-! ## Sums -/

/-- The sum of the counts that summaries give. -/
def PhaseSummary.total (count : PhaseSummary → Nat) : List PhaseSummary → Nat
  | [] => 0
  | s :: rest => count s + total count rest

/-- Whether a step belongs to one of `n` phases, of which the first stands at the given position. -/
def Entry.among (index n : Nat) (e : Entry) : Bool :=
  decide (index ≤ e.slot.phaseIndex ∧ e.slot.phaseIndex < index + n)

namespace PhaseSummary

/-- The summaries of phases count every step once that belongs to one of them. -/
theorem total_ofPhases {count : PhaseSummary → Nat} {kind : Entry → Bool} {entries : List Entry}
    (hcount : ∀ index phase,
      count (of entries index phase) = (entries.filter (Entry.inPhase index)).countP kind)
    (index : Nat) (phases : List LifecyclePhase) :
    total count (ofPhases entries index phases) =
      (entries.filter (Entry.among index phases.length)).countP kind := by
  induction phases generalizing index with
  | nil =>
      have none : entries.filter (Entry.among index 0) = [] :=
        List.filter_eq_nil_iff.mpr fun e _ => by simp [Entry.among]
      rw [List.length_nil, none]
      rfl
  | cons phase rest ih =>
      -- a step of one of the phases is in the first or in a later one, and not in both
      have first : (entries.filter (Entry.among index (rest.length + 1))).filter
          (Entry.inPhase index) = entries.filter (Entry.inPhase index) := by
        rw [List.filter_filter]
        refine List.filter_congr fun e _ => ?_
        rw [Bool.eq_iff_iff]
        simp [Entry.among, Entry.inPhase]
        omega
      have later : (entries.filter (Entry.among index (rest.length + 1))).filter
          (fun e => !Entry.inPhase index e) =
            entries.filter (Entry.among (index + 1) rest.length) := by
        rw [List.filter_filter]
        refine List.filter_congr fun e _ => ?_
        rw [Bool.eq_iff_iff]
        simp [Entry.among, Entry.inPhase]
        omega
      have split := List.countP_eq_countP_filter_add
        (entries.filter (Entry.among index (rest.length + 1))) kind (Entry.inPhase index)
      rw [first, later] at split
      rw [ofPhases, total, hcount, ih, List.length_cons, split]

/-- Summaries that cover all recorded steps add up to the counts of the run. -/
theorem total_of_covered {count : PhaseSummary → Nat} {kind : Entry → Bool} {entries : List Entry}
    (hcount : ∀ index phase,
      count (of entries index phase) = (entries.filter (Entry.inPhase index)).countP kind)
    {phases : List LifecyclePhase} (h : ∀ e ∈ entries, e.slot.phaseIndex < phases.length) :
    total count (ofPhases entries 0 phases) = entries.countP kind := by
  have all : entries.filter (Entry.among 0 phases.length) = entries :=
    List.filter_eq_self.mpr fun e he => by simpa [Entry.among] using h e he
  rw [total_ofPhases hcount, all]

end PhaseSummary

/-! ## The accounts -/

namespace Lifecycle

variable {σ : Type} {l : Lifecycle σ} {request : LifecycleRequest}

/-- The summary of a run counts the steps it reports. -/
structure Counted (request : LifecycleRequest) (result : LifecycleResult) (passed failed : Nat) :
    Prop where
  summary : result.summary =
    .object [("totalPhases", .count request.phases.length),
      ("totalSteps", .count result.steps.length), ("passedSteps", .count passed),
      ("failedSteps", .count failed)]
  total : passed + failed = result.steps.length
  failed : failed = (result.steps.filter fun r => !r.success).length

/-- How the records of a run go together. -/
structure Accounts (request : LifecycleRequest) (result : LifecycleResult) (passed failed : Nat)
    (entries : List Entry) (n : Nat) : Prop where
  counted : Counted request result passed failed
  /-- One issue for each failed step, with the place and the class of that step. -/
  issues : List.Forall₂
    (fun r i => i.place = r.place ∧ r.classification = some i.classification)
    (result.steps.filter fun r => !r.success) result.issues
  /-- The reported steps are steps of the request, in its order, under their own places. -/
  steps : result.steps = entries.map Entry.result
  places : ∀ e ∈ entries, e.result.place = e.slot.place
  ordered : (entries.map Entry.slot).Sublist request.slots
  /-- The first `n` phases have summaries, which count the reported steps of each. -/
  phaseSummaries : result.phaseSummaries = PhaseSummary.ofPhases entries 0 (request.phases.take n)
  le_length : n ≤ request.phases.length
  /-- Unless the run is fatal, these are all phases with reported steps. -/
  covered : result.status ≠ .fatal → (∀ e ∈ entries, e.slot.phaseIndex < n) ∧
    PhaseSummary.total PhaseSummary.passedSteps result.phaseSummaries = passed ∧
    PhaseSummary.total PhaseSummary.failedSteps result.phaseSummaries = failed

theorem Reports.counted {result : LifecycleResult} {entries : List Entry} {n : Nat}
    (h : Reports request result entries n) :
    Counted request result (entries.countP Entry.passed) (entries.countP Entry.failed) := by
  have failed : failedSteps result.steps = entries.countP Entry.failed := by
    rw [failedSteps, h.steps, List.countP_map]
    rfl
  have total : entries.countP Entry.passed + entries.countP Entry.failed = result.steps.length := by
    rw [h.steps, List.length_map, List.length_eq_countP_add_countP Entry.passed]
    refine congrArg _ (List.countP_congr fun e _ => ?_)
    simp [Entry.passed, Entry.failed]
  refine
    { summary := ?_
      total := total
      failed := ?_ }
  · rw [LifecycleResult.summary, h.totalPhases, failed, ← total, Nat.add_sub_cancel]
  · rw [← failed, failedSteps, List.countP_eq_length_filter]

/-- Every failed step has an issue of its own, in the order of the steps. -/
theorem Reports.issues_of_failed {result : LifecycleResult} {entries : List Entry} {n : Nat}
    (h : Reports request result entries n) :
    List.Forall₂ (fun r i => i.place = r.place ∧ r.classification = some i.classification)
      (result.steps.filter fun r => !r.success) result.issues := by
  have steps : (result.steps.filter fun r => !r.success) =
      (entries.filter Entry.failed).map Entry.result := by
    rw [h.steps, List.filter_map]
    rfl
  rw [steps, h.issues, List.forall₂_map_left_iff, List.forall₂_map_right_iff, List.forall₂_same]
  intro e he
  obtain ⟨hmem, hfailed⟩ := List.mem_filter.mp he
  have classified := (h.faithful e hmem).classified (by simpa [Entry.failed] using hfailed)
  obtain ⟨c, hc⟩ := Option.isSome_iff_exists.mp classified
  exact ⟨rfl, by rw [StepResult.issue, hc, Option.getD_some]⟩

/-- Every run that comes back, with a fatal error or without, has accounts that agree: the summary
counts the reported steps, the issues are those of the failed steps, one each and in their order,
and the summaries of the phases are those of the first phases of the request and count the reported
steps of each. Without a fatal error the phases with summaries are all that have reported steps, and
their counts add up to those of the run. -/
theorem run_keeps_accounts (l : Lifecycle σ) (request : LifecycleRequest) (session : Session σ) :
    l.HungIffStalled request session ∧
      ((l.run request session).1 = .hung ∨
        ∃ result passed failed entries n, (l.run request session).1 = .returned result ∧
          Accounts request result passed failed entries n) := by
  refine ⟨hungIffStalled l request session, (hung_or_protocol l request session).imp_right ?_⟩
  rintro ⟨result, transcript, hresult, protocol⟩
  obtain ⟨entries, n, reports⟩ := protocol.reports
  refine ⟨result, _, _, entries, n, hresult,
    { counted := reports.counted
      issues := reports.issues_of_failed
      steps := reports.steps
      places := fun e he => (reports.faithful e he).place
      ordered := reports.ordered
      phaseSummaries := reports.phaseSummaries
      le_length := reports.le_length
      covered := fun hfatal => ?_ }⟩
  have unbroken : result.fatalError = none := by
    rwa [Ne, protocol.status_eq_fatal, Option.isSome_iff_ne_none, not_not] at hfatal
  have covered : ∀ e ∈ entries, e.slot.phaseIndex < n := by
    simpa using (reports.done unbroken).covered
  have summarised : ∀ e ∈ entries, e.slot.phaseIndex < (request.phases.take n).length := by
    rwa [List.length_take, Nat.min_eq_left reports.le_length]
  rw [reports.phaseSummaries]
  exact ⟨covered, PhaseSummary.total_of_covered (fun _ _ => rfl) summarised,
    PhaseSummary.total_of_covered (fun _ _ => rfl) summarised⟩

end Lifecycle

end Tenancy
