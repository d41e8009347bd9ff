/-
# What a scripted run records

A run takes the steps of its request in their order. For each step that comes to its end it records
a result, and an issue if the step failed; when it is done with a phase it records how that went.
This module says how the three records hang together with each other and with the steps of the
request, however the run ends: a fault between two records is as good an end as any other.

The steps that a run passes over are those that come after a failed step which ends their phase, or
the whole run. Both loops of a run are described by the same two laws: steps that no failure
concerns are added to what has been run, and steps that a failure ends are left out.
-/

import Tenancy.Proofs.Chains
import Tenancy.Proofs.Lifecycle.Containment

namespace Tenancy

/-! ## The steps of a request -/

/-- A step of a request, with its phase and the positions of both, counted from zero. -/
structure Slot where
  phaseIndex : Nat
  phase : LifecyclePhase
  stepIndex : Nat
  step : LifecycleStep

/-- The id of a phase: its own, or one made from its number. -/
def LifecyclePhase.idAt (phase : LifecyclePhase) (index : Nat) : String :=
  phase.id.getD ("phase-" ++ toString (index + 1))

namespace Slot

/-- What a step is reported as: its phase and itself, each with its own id or with one made from its
number. -/
def place (s : Slot) : StepPlace :=
  { phaseId := s.phase.idAt s.phaseIndex
    phaseName := s.phase.name
    stepId := s.step.id.getD
      (s.phase.idAt s.phaseIndex ++ "-step-" ++ toString (s.stepIndex + 1))
    stepName := s.step.name }

/-- Whether a step comes before another one: in an earlier phase, or earlier in the same phase. -/
def before (s t : Slot) : Bool :=
  decide (s.phaseIndex < t.phaseIndex) ||
    (s.phaseIndex == t.phaseIndex && decide (s.stepIndex < t.stepIndex))

/-- Steps of a phase, of which the first stands at the given position. -/
def ofSteps (phaseIndex : Nat) (phase : LifecyclePhase) : Nat → List LifecycleStep → List Slot
  | _, [] => []
  | index, step :: rest =>
      ⟨phaseIndex, phase, index, step⟩ :: ofSteps phaseIndex phase (index + 1) rest

/-- The steps of phases, of which the first stands at the given position. -/
def ofPhases : Nat → List LifecyclePhase → List Slot
  | _, [] => []
  | index, phase :: rest => ofSteps index phase 0 phase.steps ++ ofPhases (index + 1) rest

variable {s t : Slot}

theorem before_irrefl (s : Slot) : s.before s = false := by
  simp [before]

theorem before_of_phaseIndex (h : s.phaseIndex < t.phaseIndex) : s.before t = true := by
  simp [before, h]

theorem before_of_stepIndex (hphase : s.phaseIndex = t.phaseIndex) (h : s.stepIndex < t.stepIndex) :
    s.before t = true := by
  simp [before, hphase, h]

theorem not_before_of_before (h : s.before t = true) : t.before s = false := by
  simp [before] at *
  omega

theorem of_mem_ofSteps {phaseIndex index : Nat} {phase : LifecyclePhase}
    {steps : List LifecycleStep} (h : s ∈ ofSteps phaseIndex phase index steps) :
    s.phaseIndex = phaseIndex ∧ s.phase = phase ∧ index ≤ s.stepIndex := by
  induction steps generalizing index with
  | nil => cases h
  | cons step rest ih =>
      rcases List.mem_cons.mp h with rfl | h
      · exact ⟨rfl, rfl, Nat.le_refl _⟩
      · obtain ⟨hindex, hphase, hle⟩ := ih h
        exact ⟨hindex, hphase, Nat.le_of_succ_le hle⟩

theorem le_of_mem_ofPhases {index : Nat} {phases : List LifecyclePhase}
    (h : s ∈ ofPhases index phases) : index ≤ s.phaseIndex := by
  induction phases generalizing index with
  | nil => cases h
  | cons phase rest ih =>
      rcases List.mem_append.mp h with h | h
      · exact Nat.le_of_eq (of_mem_ofSteps h).1.symm
      · exact Nat.le_of_succ_le (ih h)

/-- A step comes before those after it in its phase. -/
theorem before_of_mem_ofSteps {phaseIndex index : Nat} {phase : LifecyclePhase}
    {step : LifecycleStep} {steps : List LifecycleStep}
    (h : s ∈ ofSteps phaseIndex phase (index + 1) steps) :
    before ⟨phaseIndex, phase, index, step⟩ s = true :=
  before_of_stepIndex (of_mem_ofSteps h).1.symm (of_mem_ofSteps h).2.2

/-- The steps of a phase come before those of the phases after it. -/
theorem before_of_mem_ofPhases {index : Nat} {phase : LifecyclePhase}
    {phases : List LifecyclePhase} (hs : s ∈ ofSteps index phase 0 phase.steps)
    (ht : t ∈ ofPhases (index + 1) phases) : s.before t = true :=
  before_of_phaseIndex ((of_mem_ofSteps hs).1 ▸ le_of_mem_ofPhases ht)

end Slot

/-- All steps of a request, in the order of the request. -/
def LifecycleRequest.slots (request : LifecycleRequest) : List Slot :=
  Slot.ofPhases 0 request.phases

/-! ## Recorded steps -/

/-- A step of a request that has been run, with what is reported about it. -/
structure Entry where
  slot : Slot
  result : StepResult

namespace Entry

/-- Whether the step passed. -/
def passed (e : Entry) : Bool :=
  e.result.success

/-- Whether the step failed. -/
def failed (e : Entry) : Bool :=
  !e.result.success

/-- Whether the failure of a step is why a later one is not run: it ends the run if that does not
go on after a failure, and otherwise its own phase if that does not. -/
def stops (goesOn : Bool) (e : Entry) (s : Slot) : Bool :=
  e.failed && e.slot.before s &&
    (!goesOn || (e.slot.phaseIndex == s.phaseIndex && !e.slot.phase.continueOnFailure))

/-- What is reported about a step is reported under its names, and a failure has a class. -/
structure Faithful (e : Entry) : Prop where
  place : e.result.place = e.slot.place
  classified : e.result.success = false → e.result.classification.isSome = true

theorem not_stops_of_passed {e : Entry} (h : e.result.success = true) (goesOn : Bool) (s : Slot) :
    e.stops goesOn s = false := by
  simp [stops, failed, h]

theorem not_stops_of_not_before {e : Entry} {s : Slot} (h : e.slot.before s = false)
    (goesOn : Bool) : e.stops goesOn s = false := by
  simp [stops, h]

end Entry

/-! ## The schedule -/

/-- The entries are those of the given steps that no failure before them stops, in their order. -/
def Scheduled (goesOn : Bool) (slots : List Slot) (entries : List Entry) : Prop :=
  entries.map Entry.slot = slots.filter fun s => !entries.any fun e => e.stops goesOn s

namespace Scheduled

variable {goesOn : Bool} {slots later : List Slot} {entries others : List Entry}

theorem nil : Scheduled goesOn [] [] := rfl

theorem single (e : Entry) : Scheduled goesOn [e.slot] [e] := by
  simp [Scheduled, Entry.not_stops_of_not_before e.slot.before_irrefl]

theorem mem (h : Scheduled goesOn slots entries) {e : Entry} (he : e ∈ entries) :
    e.slot ∈ slots := by
  have listed : e.slot ∈ entries.map Entry.slot := List.mem_map_of_mem he
  rw [h] at listed
  exact (List.mem_filter.mp listed).1

/-- Steps that no failure so far concerns are run next. -/
theorem append (h : Scheduled goesOn slots entries) (h' : Scheduled goesOn later others)
    (hbefore : ∀ s ∈ slots, ∀ t ∈ later, s.before t = true)
    (hfree : ∀ e ∈ entries, ∀ s ∈ later, e.stops goesOn s = false) :
    Scheduled goesOn (slots ++ later) (entries ++ others) := by
  have first : slots.filter (fun s => !entries.any fun e => e.stops goesOn s) =
      slots.filter (fun s => !(entries ++ others).any fun e => e.stops goesOn s) := by
    refine List.filter_congr fun s hs => ?_
    have free : others.any (fun e => e.stops goesOn s) = false :=
      List.any_eq_false.mpr fun e he => Bool.eq_false_iff.mp
        (Entry.not_stops_of_not_before (Slot.not_before_of_before (hbefore s hs _ (h'.mem he))) _)
    rw [List.any_append, free, Bool.or_false]
  have second : later.filter (fun s => !others.any fun e => e.stops goesOn s) =
      later.filter (fun s => !(entries ++ others).any fun e => e.stops goesOn s) := by
    refine List.filter_congr fun s hs => ?_
    have free : entries.any (fun e => e.stops goesOn s) = false :=
      List.any_eq_false.mpr fun e he => Bool.eq_false_iff.mp (hfree e he s hs)
    rw [List.any_append, free, Bool.false_or]
  rw [Scheduled, List.map_append, List.filter_append, ← first, ← second, h, h']

/-- Steps that a failure stops are left out. -/
theorem skip (h : Scheduled goesOn slots entries)
    (hstop : ∀ s ∈ later, ∃ e ∈ entries, e.stops goesOn s = true) :
    Scheduled goesOn (slots ++ later) entries := by
  have out : later.filter (fun s => !entries.any fun e => e.stops goesOn s) = [] := by
    refine List.filter_eq_nil_iff.mpr fun s hs => ?_
    rw [List.any_eq_true.mpr (hstop s hs)]
    exact Bool.false_ne_true
  rw [Scheduled, List.filter_append, out, List.append_nil]
  exact h

/-- Where nothing failed, nothing is left out. -/
theorem map_slot_of_passed (h : Scheduled goesOn slots entries)
    (hpassed : ∀ e ∈ entries, e.result.success = true) : entries.map Entry.slot = slots := by
  rw [h]
  refine List.filter_eq_self.mpr fun s _ => ?_
  rw [List.any_eq_false.mpr fun e he =>
    Bool.eq_false_iff.mp (Entry.not_stops_of_passed (hpassed e he) goesOn s)]
  rfl

end Scheduled

/-! ## The summaries of phases -/

/-- Whether the step belongs to the phase at a position. -/
def Entry.inPhase (index : Nat) (e : Entry) : Bool :=
  e.slot.phaseIndex == index

/-- The summary of the phase at a position, by the steps that have been recorded. -/
def PhaseSummary.of (entries : List Entry) (index : Nat) (phase : LifecyclePhase) : PhaseSummary :=
  { phaseId := phase.idAt index
    phaseName := phase.name
    totalSteps := phase.steps.length
    passedSteps := (entries.filter (Entry.inPhase index)).countP Entry.passed
    failedSteps := (entries.filter (Entry.inPhase index)).countP Entry.failed }

/-- The summaries of phases, of which the first stands at the given position. -/
def PhaseSummary.ofPhases (entries : List Entry) : Nat → List LifecyclePhase → List PhaseSummary
  | _, [] => []
  | index, phase :: rest => .of entries index phase :: ofPhases entries (index + 1) rest

namespace PhaseSummary

variable {entries others : List Entry} {index : Nat}

theorem filter_inPhase_of_ne (h : ∀ e ∈ entries, e.slot.phaseIndex ≠ index) :
    entries.filter (Entry.inPhase index) = [] :=
  List.filter_eq_nil_iff.mpr fun e he => by simpa [Entry.inPhase] using h e he

/-- A summary is not about the steps of later phases. -/
theorem of_append (h : ∀ e ∈ others, index < e.slot.phaseIndex) (phase : LifecyclePhase) :
    of (entries ++ others) index phase = of entries index phase := by
  have none := filter_inPhase_of_ne fun e he => Nat.ne_of_gt (h e he)
  rw [of, List.filter_append, none, List.append_nil]
  rfl

/-- Summaries are not about the steps of earlier phases. -/
theorem ofPhases_append (h : ∀ e ∈ entries, e.slot.phaseIndex < index)
    (phases : List LifecyclePhase) :
    ofPhases (entries ++ others) index phases = ofPhases others index phases := by
  induction phases generalizing index with
  | nil => rfl
  | cons phase rest ih =>
      have none := filter_inPhase_of_ne fun e he => Nat.ne_of_lt (h e he)
      rw [ofPhases, ofPhases, ih fun e he => Nat.lt_succ_of_lt (h e he), of, List.filter_append,
        none, List.nil_append]
      rfl

end PhaseSummary

/-! ## The records of a run -/

namespace Lifecycle

open RunState

variable {σ : Type} (l : Lifecycle σ)

/-- Going from one state to another, the run has recorded these steps of those it had before it, in
their order, and an issue for each that failed. -/
structure Records (state : RunState σ) (slots : List Slot) (entries : List Entry)
    (after : RunState σ) : Prop where
  steps : after.steps = state.steps ++ entries.map Entry.result
  issues : after.issues =
    state.issues ++ (entries.filter Entry.failed).map fun e => e.result.issue
  faithful : ∀ e ∈ entries, e.Faithful
  ordered : (entries.map Entry.slot).Sublist slots

namespace Records

variable {state mid after : RunState σ} {slots later : List Slot} {entries others : List Entry}

/-- Where nothing is recorded, no step has come to its end. -/
theorem of_ledger (h : after.ledger = state.ledger) (slots : List Slot) :
    Records state slots [] after := by
  obtain ⟨hsteps, -, hissues⟩ := ledger_eq_iff.mp h
  exact
    { steps := by simp [hsteps]
      issues := by simp [hissues]
      faithful := fun e he => nomatch he
      ordered := List.nil_sublist _ }

theorem mem (h : Records state slots entries after) {e : Entry} (he : e ∈ entries) :
    e.slot ∈ slots :=
  h.ordered.subset (List.mem_map_of_mem he)

theorem append (h : Records state slots entries mid) (h' : Records mid later others after) :
    Records state (slots ++ later) (entries ++ others) after where
  steps := by rw [h'.steps, h.steps, List.map_append, List.append_assoc]
  issues := by rw [h'.issues, h.issues, List.filter_append, List.map_append, List.append_assoc]
  faithful := List.forall_mem_append.mpr ⟨h.faithful, h'.faithful⟩
  ordered := by
    rw [List.map_append]
    exact h.ordered.append h'.ordered

theorem widen (h : Records state slots entries after) (later : List Slot) :
    Records state (slots ++ later) entries after :=
  { h with ordered := h.ordered.trans (List.sublist_append_left _ _) }

end Records

/-! ## One step -/

/-- Running a step records nothing yet, however it ends. -/
theorem ledger_runStep (options : LifecycleOptions) (place : StepPlace) (s : LifecycleStep)
    (state : RunState σ) : (l.runStep options place s state).2.ledger = state.ledger := by
  rw [runStep]
  rcases Prepared.step l.ids l.translator state.defaultScope s state.interpreter with
    ⟨p, interpreter⟩
  have carried := l.ledger_carryOut options.stepSavepoints s.execute p { state with interpreter }
  dsimp only
  rcases hcarried : l.carryOut options.stepSavepoints s.execute p { state with interpreter } with
    ⟨ending, mid⟩
  rw [hcarried] at carried
  cases ending with
  | raised f => exact carried
  | hung => exact carried
  | returned response =>
      exact (l.ledger_judge place options.includeStepTrace p s response mid).trans carried

variable {l}

/-- What is reported about a step is reported under the place it is given, and a failure has a
class. -/
theorem of_runStep {options : LifecycleOptions} {place : StepPlace} {s : LifecycleStep}
    {state later : RunState σ} {r : StepResult}
    (h : l.runStep options place s state = (.returned r, later)) :
    r.place = place ∧ (r.success = false → r.classification.isSome = true) := by
  obtain ⟨v, mid, -, rfl, -, -, hjudged⟩ := visit_of_runStep h
  obtain ⟨hplace, -, known, captured, -, -, hverdict⟩ := of_judge hjudged
  obtain ⟨failed, -, -, hclass⟩ := of_verdict hverdict
  refine ⟨hplace, fun hfailed => ?_⟩
  obtain ⟨k, hk, -⟩ := hclass (StepResult.success_eq_false_iff.mp hfailed)
  rw [hk]
  rfl

/-- Recording a result records that step, and nothing else. -/
theorem Records.single {state later : RunState σ} (h : later.ledger = state.ledger) {e : Entry}
    (he : e.Faithful) : Records state [e.slot] [e] (record e.result later) := by
  obtain ⟨hsteps, -, hissues⟩ := ledger_eq_iff.mp h
  refine
    { steps := by simp [record, hsteps]
      issues := ?_
      faithful := List.forall_mem_singleton.mpr he
      ordered := List.Sublist.refl _ }
  cases hsuccess : e.result.success <;> simp [record, Entry.failed, hissues, hsuccess]

/-! ## The steps of a phase -/

/-- Steps of a phase came to their end: they were run as they are scheduled, they are counted, and
the run stops if one of them failed and it does not go on after that. -/
structure StepsDone (request : LifecycleRequest) (slots : List Slot) (entries : List Entry)
    (tally tally' : Tally) : Prop where
  scheduled : Scheduled request.defaults.continueOnFailure slots entries
  passed : tally'.passed = tally.passed + entries.countP Entry.passed
  failed : tally'.failed = tally.failed + entries.countP Entry.failed
  stop : tally'.stop =
    (tally.stop || (!request.defaults.continueOnFailure && entries.any Entry.failed))

namespace StepsDone

variable {request : LifecycleRequest} {slots later : List Slot} {entries others : List Entry}
  {tally mid tally' : Tally}

theorem nil (tally : Tally) : StepsDone request [] [] tally tally where
  scheduled := .nil
  passed := rfl
  failed := rfl
  stop := by simp

/-- A step that passed. -/
theorem passing {e : Entry} (h : e.result.success = true) (tally : Tally) :
    StepsDone request [e.slot] [e] tally { tally with passed := tally.passed + 1 } where
  scheduled := .single e
  passed := by simp [Entry.passed, h]
  failed := by simp [Entry.failed, h]
  stop := by simp [Entry.failed, h]

/-- A step that failed. -/
theorem failing {e : Entry} (h : e.result.success = false) (tally : Tally) :
    StepsDone request [e.slot] [e] tally
      { tally with
        failed := tally.failed + 1
        stop := tally.stop || !request.defaults.continueOnFailure } where
  scheduled := .single e
  passed := by simp [Entry.passed, h]
  failed := by simp [Entry.failed, h]
  stop := by simp [Entry.failed, h]

theorem append (h : StepsDone request slots entries tally mid)
    (h' : StepsDone request later others mid tally')
    (hbefore : ∀ s ∈ slots, ∀ t ∈ later, s.before t = true)
    (hfree : ∀ e ∈ entries, ∀ s ∈ later, e.stops request.defaults.continueOnFailure s = false) :
    StepsDone request (slots ++ later) (entries ++ others) tally tally' where
  scheduled := h.scheduled.append h'.scheduled hbefore hfree
  passed := by rw [h'.passed, h.passed, List.countP_append, Nat.add_assoc]
  failed := by rw [h'.failed, h.failed, List.countP_append, Nat.add_assoc]
  stop := by rw [h'.stop, h.stop, List.any_append, Bool.and_or_distrib_left, Bool.or_assoc]

theorem skip (h : StepsDone request slots entries tally tally')
    (hstop : ∀ s ∈ later, ∃ e ∈ entries, e.stops request.defaults.continueOnFailure s = true) :
    StepsDone request (slots ++ later) entries tally tally' :=
  { h with scheduled := h.scheduled.skip hstop }

/-- A phase after which the run stops has a failed step that stops whatever comes later. -/
theorem exists_stops (h : StepsDone request slots entries ⟨0, 0, false⟩ tally)
    (hstop : tally.stop = true) {s : Slot} (hbefore : ∀ e ∈ entries, e.slot.before s = true) :
    ∃ e ∈ entries, e.stops request.defaults.continueOnFailure s = true := by
  rw [h.stop, Bool.false_or, Bool.and_eq_true, List.any_eq_true] at hstop
  obtain ⟨hruns, e, he, hfailed⟩ := hstop
  exact ⟨e, he, by simp [Entry.stops, hfailed, hbefore e he, hruns]⟩

/-- A phase after which the run goes on stops no step of another phase. -/
theorem not_stops (h : StepsDone request slots entries ⟨0, 0, false⟩ tally)
    (hstop : tally.stop ≠ true) {e : Entry} (he : e ∈ entries) {s : Slot}
    (hphase : e.slot.phaseIndex ≠ s.phaseIndex) :
    e.stops request.defaults.continueOnFailure s = false := by
  cases hfailed : e.failed with
  | false => simp [Entry.stops, hfailed]
  | true =>
      have failure : entries.any Entry.failed = true := List.any_eq_true.mpr ⟨e, he, hfailed⟩
      rw [h.stop, failure] at hstop
      have hruns : request.defaults.continueOnFailure = true := by simpa using hstop
      simp [Entry.stops, hphase, hruns]

end StepsDone

section Steps

variable {request : LifecycleRequest} {phase : LifecyclePhase} {phaseIndex index : Nat}

/-- A step that came to its end is recorded and counted. Then the phase goes on with the steps that
come next, if the step does not stop them, and otherwise it is over. -/
theorem runSteps_cons (rest : List LifecycleStep) (tally : Tally) {s : LifecycleStep}
    {state later : RunState σ} {r : StepResult} {e : Entry}
    (he : e = ⟨⟨phaseIndex, phase, index, s⟩, r⟩)
    (h : l.runStep request.options (place (phase.idAt phaseIndex) phase index s) s state =
      (.returned r, later)) :
    ∃ mid, StepsDone request [e.slot] [e] tally mid ∧
      (((∀ t ∈ Slot.ofSteps phaseIndex phase (index + 1) rest,
            e.stops request.defaults.continueOnFailure t = false) ∧
          l.runSteps request phase (phase.idAt phaseIndex) index (s :: rest) tally state =
            l.runSteps request phase (phase.idAt phaseIndex) (index + 1) rest mid
              (record r later)) ∨
        ((∀ t ∈ Slot.ofSteps phaseIndex phase (index + 1) rest,
            e.stops request.defaults.continueOnFailure t = true) ∧
          l.runSteps request phase (phase.idAt phaseIndex) index (s :: rest) tally state =
            (.returned mid, record r later))) := by
  have before : ∀ t ∈ Slot.ofSteps phaseIndex phase (index + 1) rest,
      e.slot.before t = true ∧ e.slot.phaseIndex = t.phaseIndex := by
    rw [he]
    exact fun t ht => ⟨Slot.before_of_mem_ofSteps ht, (Slot.of_mem_ofSteps ht).1.symm⟩
  have result : e.result = r := by rw [he]
  have owner : e.slot.phase = phase := by rw [he]
  rw [runSteps, h]
  cases hsuccess : r.success with
  | true =>
      refine ⟨_, .passing (result ▸ hsuccess) tally, .inl ⟨fun t _ => ?_, by simp [hsuccess]⟩⟩
      exact Entry.not_stops_of_passed (result ▸ hsuccess) _ t
  | false =>
      refine ⟨_, .failing (result ▸ hsuccess) tally, ?_⟩
      cases hruns : request.defaults.continueOnFailure with
      | false =>
          refine .inr ⟨fun t ht => ?_, by simp [hsuccess]⟩
          simp [Entry.stops, Entry.failed, result, hsuccess, before t ht]
      | true =>
          cases hphase : phase.continueOnFailure with
          | false =>
              refine .inr ⟨fun t ht => ?_, by simp [hsuccess]⟩
              simp [Entry.stops, Entry.failed, result, owner, hsuccess, hphase, before t ht]
          | true =>
              refine .inl ⟨fun t ht => ?_, by simp [hsuccess]⟩
              simp [Entry.stops, owner, hphase]

/-- However the steps of a phase end, they record what they have come to, and no summary. -/
theorem records_runSteps {steps : List LifecycleStep} {tally : Tally} {state after : RunState σ}
    {ending : Ending Tally}
    (h : l.runSteps request phase (phase.idAt phaseIndex) index steps tally state =
      (ending, after)) :
    ∃ entries, Records state (Slot.ofSteps phaseIndex phase index steps) entries after ∧
      after.phaseSummaries = state.phaseSummaries ∧
      ∀ tally', ending = .returned tally' →
        StepsDone request (Slot.ofSteps phaseIndex phase index steps) entries tally tally' := by
  induction steps generalizing index tally state with
  | nil =>
      cases h
      refine ⟨[], .of_ledger rfl _, rfl, fun tally' htally => ?_⟩
      cases htally
      exact .nil tally
  | cons s rest ih =>
      have quiet := l.ledger_runStep request.options (place (phase.idAt phaseIndex) phase index s) s
        state
      rcases hstep : l.runStep request.options (place (phase.idAt phaseIndex) phase index s) s state
        with ⟨outcome, later⟩
      rw [hstep] at quiet
      have summaries := (ledger_eq_iff.mp quiet).2.1
      cases outcome with
      | raised f =>
          rw [runSteps, hstep] at h
          cases h
          exact ⟨[], .of_ledger quiet _, summaries, fun _ h => by cases h⟩
      | hung =>
          rw [runSteps, hstep] at h
          cases h
          exact ⟨[], .of_ledger quiet _, summaries, fun _ h => by cases h⟩
      | returned r =>
          obtain ⟨hplace, hclass⟩ := of_runStep hstep
          have first : Records state [⟨phaseIndex, phase, index, s⟩]
              [⟨⟨phaseIndex, phase, index, s⟩, r⟩] (record r later) :=
            .single (e := ⟨⟨phaseIndex, phase, index, s⟩, r⟩) quiet ⟨hplace, hclass⟩
          obtain ⟨mid, done, ⟨hfree, heq⟩ | ⟨hstop, heq⟩⟩ :=
            runSteps_cons rest tally rfl hstep
          · rw [heq] at h
            obtain ⟨entries, hrecords, hsummaries, hdone⟩ := ih h
            refine ⟨_, first.append hrecords, hsummaries.trans summaries,
              fun tally' htally => done.append (hdone tally' htally) ?_ ?_⟩
            · exact List.forall_mem_singleton.mpr fun t ht => Slot.before_of_mem_ofSteps ht
            · exact List.forall_mem_singleton.mpr hfree
          · rw [heq] at h
            cases h
            refine ⟨_, first.widen _, summaries, fun tally' htally => ?_⟩
            cases htally
            exact done.skip fun t ht => ⟨_, List.mem_cons_self, hstop t ht⟩

end Steps

/-! ## The phases -/

/-- What phases of a run have recorded of which the first stands at the given position: some of
their steps, and the summaries of the first `n` of them. -/
structure PhasesRecord (state : RunState σ) (index : Nat) (phases : List LifecyclePhase)
    (entries : List Entry) (n : Nat) (after : RunState σ) : Prop where
  records : Records state (Slot.ofPhases index phases) entries after
  le_length : n ≤ phases.length
  phaseSummaries : after.phaseSummaries =
    state.phaseSummaries ++ PhaseSummary.ofPhases entries index (phases.take n)

/-- Phases came to their end: their steps were run as they are scheduled, and the summaries cover
all of them. -/
structure PhasesDone (request : LifecycleRequest) (index : Nat) (phases : List LifecyclePhase)
    (entries : List Entry) (n : Nat) : Prop where
  scheduled : Scheduled request.defaults.continueOnFailure (Slot.ofPhases index phases) entries
  covered : ∀ e ∈ entries, e.slot.phaseIndex < index + n

section Phases

variable {request : LifecycleRequest} {index n : Nat} {phase : LifecyclePhase}
  {phases : List LifecyclePhase} {entries others : List Entry} {tally : Tally}
  {state mid after : RunState σ}

/-- The summary of a phase that came to its end says what its steps have come to. -/
theorem phaseSummaries_summarise
    (h : StepsDone request (Slot.ofSteps index phase 0 phase.steps) entries ⟨0, 0, false⟩ tally)
    (state : RunState σ) :
    (summarise (phase.idAt index) phase tally state).phaseSummaries =
      state.phaseSummaries ++ [.of entries index phase] := by
  have all : entries.filter (Entry.inPhase index) = entries :=
    List.filter_eq_self.mpr fun e he => by
      simp [Entry.inPhase, (Slot.of_mem_ofSteps (h.scheduled.mem he)).1]
  simp [summarise, PhaseSummary.of, all, h.passed, h.failed]

/-- A phase that is broken off has no summary, and neither have those after it. -/
theorem PhasesRecord.brokenOff
    (h : Records state (Slot.ofSteps index phase 0 phase.steps) entries after)
    (hsummaries : after.phaseSummaries = state.phaseSummaries) (phases : List LifecyclePhase) :
    PhasesRecord state index (phase :: phases) entries 0 after where
  records := h.widen _
  le_length := Nat.zero_le _
  phaseSummaries := by rw [hsummaries]; exact (List.append_nil _).symm

/-- A phase that is the last one to be run has a summary. -/
theorem PhasesRecord.last (h : Records state (Slot.ofSteps index phase 0 phase.steps) entries after)
    (hsummary : after.phaseSummaries = state.phaseSummaries ++ [.of entries index phase])
    (phases : List LifecyclePhase) :
    PhasesRecord state index (phase :: phases) entries 1 after where
  records := h.widen _
  le_length := Nat.succ_le_succ (Nat.zero_le _)
  phaseSummaries := hsummary

/-- The records of a phase are followed by those of the phases after it. -/
theorem PhasesRecord.cons (h : Records state (Slot.ofSteps index phase 0 phase.steps) entries mid)
    (hsummary : mid.phaseSummaries = state.phaseSummaries ++ [.of entries index phase])
    (hrest : PhasesRecord mid (index + 1) phases others n after) :
    PhasesRecord state index (phase :: phases) (entries ++ others) (n + 1) after where
  records := h.append hrest.records
  le_length := Nat.succ_le_succ hrest.le_length
  phaseSummaries := by
    have earlier : ∀ e ∈ entries, e.slot.phaseIndex < index + 1 := fun e he =>
      Nat.lt_succ_of_le (Nat.le_of_eq (Slot.of_mem_ofSteps (h.mem he)).1)
    have later : ∀ e ∈ others, index < e.slot.phaseIndex := fun e he =>
      Slot.le_of_mem_ofPhases (hrest.records.mem he)
    rw [hrest.phaseSummaries, hsummary, List.append_assoc, List.take_succ_cons,
      PhaseSummary.ofPhases, PhaseSummary.of_append later, PhaseSummary.ofPhases_append earlier]
    rfl

/-- Where the run stops with a phase, all later steps are stopped. -/
theorem PhasesDone.last
    (h : StepsDone request (Slot.ofSteps index phase 0 phase.steps) entries ⟨0, 0, false⟩ tally)
    (hstop : tally.stop = true) (phases : List LifecyclePhase) :
    PhasesDone request index (phase :: phases) entries 1 where
  scheduled := h.scheduled.skip fun _ hs => h.exists_stops hstop fun _ he =>
    Slot.before_of_mem_ofPhases (h.scheduled.mem he) hs
  covered _ he := Nat.lt_succ_of_le (Nat.le_of_eq (Slot.of_mem_ofSteps (h.scheduled.mem he)).1)

/-- Where the run goes on after a phase, it stops no step of the phases after it. -/
theorem PhasesDone.cons
    (h : StepsDone request (Slot.ofSteps index phase 0 phase.steps) entries ⟨0, 0, false⟩ tally)
    (hgoes : tally.stop ≠ true) (hrest : PhasesDone request (index + 1) phases others n) :
    PhasesDone request index (phase :: phases) (entries ++ others) (n + 1) where
  scheduled := by
    refine h.scheduled.append hrest.scheduled
      (fun s hs t ht => Slot.before_of_mem_ofPhases hs ht) (fun e he s hs => ?_)
    have own := (Slot.of_mem_ofSteps (h.scheduled.mem he)).1
    exact h.not_stops hgoes he (Nat.ne_of_lt (own ▸ Slot.le_of_mem_ofPhases hs))
  covered := by
    refine List.forall_mem_append.mpr ⟨fun e he => ?_, fun e he => ?_⟩
    · have own := (Slot.of_mem_ofSteps (h.scheduled.mem he)).1
      omega
    · have later := hrest.covered e he
      omega

/-- However phases end, they record what they have come to. -/
theorem records_runPhases {ending : Ending Unit}
    (h : l.runPhases request index phases state = (ending, after)) :
    ∃ entries n, PhasesRecord state index phases entries n after ∧
      (ending = .returned () → PhasesDone request index phases entries n) := by
  induction phases generalizing index state with
  | nil =>
      cases h
      refine ⟨[], 0, ⟨.of_ledger rfl _, Nat.le_refl 0, ?_⟩, fun _ => ⟨.nil, fun e he => nomatch he⟩⟩
      exact (List.append_nil _).symm
  | cons phase rest ih =>
      rw [runPhases] at h
      rcases hsteps : l.runSteps request phase (phase.idAt index) 0 phase.steps ⟨0, 0, false⟩ state
        with ⟨outcome, later⟩
      obtain ⟨entries, hrecords, hsummaries, hdone⟩ := records_runSteps hsteps
      rw [LifecyclePhase.idAt] at hsteps
      dsimp only at h
      rw [hsteps] at h
      cases outcome with
      | raised f =>
          cases h
          exact ⟨entries, 0, .brokenOff hrecords hsummaries rest, fun h => by cases h⟩
      | hung =>
          cases h
          exact ⟨entries, 0, .brokenOff hrecords hsummaries rest, fun h => by cases h⟩
      | returned tally =>
          have done := hdone tally rfl
          have summary := phaseSummaries_summarise done later
          rw [hsummaries] at summary
          have first : Records state (Slot.ofSteps index phase 0 phase.steps) entries
              (summarise (phase.idAt index) phase tally later) :=
            { hrecords with steps := hrecords.steps, issues := hrecords.issues }
          dsimp only at h
          split at h
          · rename_i hstop
            cases h
            exact ⟨entries, 1, .last first summary rest, fun _ => .last done hstop rest⟩
          · rename_i hgoes
            obtain ⟨others, n, hothers, hrest⟩ := ih h
            exact ⟨entries ++ others, n + 1, .cons first summary hothers,
              fun hending => .cons done hgoes (hrest hending)⟩

end Phases

/-! ## What a run reports -/

/-- The states whose records a run reports: the one in which its phases leave it, however they end,
or the one they would start in if they do not start. Only where they come to their end, the run may
have no fatal error. -/
inductive Source (l : Lifecycle σ) (request : LifecycleRequest) (session : Session σ)
    (fatalError : Option String) (after : RunState σ) : Prop
  | unstarted (hledger : after.ledger = (l.initial session).ledger)
      (hinterpreter : after.interpreter = (l.seed request (l.initial session)).2.interpreter)
      (hfatal : fatalError ≠ none)
  | started {state : RunState σ} {ending : Ending Unit}
      (hbegun : l.begun? request session = some state)
      (hphases : l.runPhases request 0 request.phases state = (ending, after))
      (hending : fatalError = none → ending = .returned ())

variable {request : LifecycleRequest} {session : Session σ}

/-- What a run reports it has from one of these states. -/
theorem Protocol.source {transcript : Transcript} {result : LifecycleResult}
    (h : l.Protocol request session transcript result) :
    ∃ after status warnings,
      result = l.report request after status result.fatalError warnings ∧
        l.Source request session result.fatalError after := by
  have seeding := l.ledger_seed request (l.initial session)
  cases h with
  | unseeded h =>
      rw [h] at seeding
      exact ⟨_, _, _, rfl, .unstarted seeding (by rw [h]) (fun h => nomatch h)⟩
  | unconnected h =>
      rw [h] at seeding
      exact ⟨_, _, _, rfl, .unstarted seeding (by rw [h]) (fun h => nomatch h)⟩
  | unbegun h =>
      rw [h] at seeding
      exact ⟨_, _, _, rfl, .unstarted seeding (by rw [h]) (fun h => nomatch h)⟩
  | @brokenOff state after _ _ _ _ _ _ _ hbegun hloop =>
      refine ⟨_, _, _, rfl, ?_⟩
      unfold runLoop at hloop
      dsimp only at hloop
      split at hloop
      · obtain ⟨-, rfl⟩ := Prod.mk.inj hloop
        obtain ⟨hledger, hinterpreter⟩ := seeded_of_begun? hbegun
        exact .unstarted hledger hinterpreter (fun h => nomatch h)
      · rcases hphases : l.runPhases request 0 request.phases state with ⟨ending, later⟩
        rw [hphases] at hloop
        have same : later = after := by cases ending <;> exact (Prod.mk.inj hloop).2
        exact .started hbegun (same ▸ hphases) (fun h => nomatch h)
  | unfinished hbegun hloop =>
      exact ⟨_, _, _, rfl, .started hbegun (runPhases_of_runLoop hloop) (fun _ => rfl)⟩
  | finished hbegun hloop =>
      exact ⟨_, _, _, rfl, .started hbegun (runPhases_of_runLoop hloop) (fun _ => rfl)⟩

/-- What a run reports about its steps, its phases and its issues, as far as it has come. -/
structure Reports (request : LifecycleRequest) (result : LifecycleResult) (entries : List Entry)
    (n : Nat) : Prop where
  totalPhases : result.totalPhases = request.phases.length
  steps : result.steps = entries.map Entry.result
  issues : result.issues = (entries.filter Entry.failed).map fun e => e.result.issue
  phaseSummaries : result.phaseSummaries = PhaseSummary.ofPhases entries 0 (request.phases.take n)
  le_length : n ≤ request.phases.length
  faithful : ∀ e ∈ entries, e.Faithful
  ordered : (entries.map Entry.slot).Sublist request.slots
  done : result.fatalError = none → PhasesDone request 0 request.phases entries n

/-- Every report is about steps of the request. -/
theorem Protocol.reports {transcript : Transcript} {result : LifecycleResult}
    (h : l.Protocol request session transcript result) :
    ∃ entries n, Reports request result entries n := by
  obtain ⟨after, status, warnings, hresult, source⟩ := h.source
  have told : result.steps = after.steps ∧ result.issues = after.issues ∧
      result.phaseSummaries = after.phaseSummaries ∧
      result.totalPhases = request.phases.length := by
    rw [hresult]
    exact ⟨rfl, rfl, rfl, rfl⟩
  obtain ⟨hsteps, hissues, hsummaries, htotal⟩ := told
  cases source with
  | unstarted hledger _ hfatal =>
      obtain ⟨steps, summaries, issues⟩ := ledger_eq_iff.mp hledger
      exact ⟨[], 0,
        { totalPhases := htotal
          steps := hsteps.trans steps
          issues := hissues.trans issues
          phaseSummaries := hsummaries.trans summaries
          le_length := Nat.zero_le _
          faithful := fun e he => nomatch he
          ordered := List.nil_sublist _
          done := fun h => absurd h hfatal }⟩
  | started hbegun hphases hending =>
      obtain ⟨entries, n, record, done⟩ := records_runPhases hphases
      obtain ⟨steps, summaries, issues⟩ := ledger_eq_iff.mp (seeded_of_begun? hbegun).1
      exact ⟨entries, n,
        { totalPhases := htotal
          steps := by rw [hsteps, record.records.steps, steps]; rfl
          issues := by rw [hissues, record.records.issues, issues]; rfl
          phaseSummaries := by rw [hsummaries, record.phaseSummaries, summaries]; rfl
          le_length := record.le_length
          faithful := record.records.faithful
          ordered := record.records.ordered
          done := fun h => done (hending h) }⟩

/-- A run comes back with a report that keeps to the protocol, unless it never ends. -/
theorem hung_or_protocol (l : Lifecycle σ) (request : LifecycleRequest) (session : Session σ) :
    (l.run request session).1 = .hung ∨
      ∃ result transcript, (l.run request session).1 = .returned result ∧
        l.Protocol request session transcript result := by
  obtain ⟨transcript, -, completed⟩ := l.completed_complete request session
  show (l.complete request session).1 = .hung ∨
    ∃ result transcript, (l.complete request session).1 = .returned result ∧
      l.Protocol request session transcript result
  cases hending : (l.complete request session).1 with
  | hung => exact .inl rfl
  | raised f => exact absurd hending (completed.ne_raised f)
  | returned result =>
      rw [hending] at completed
      exact .inr ⟨result, transcript, rfl, completed.protocol⟩

end Lifecycle

end Tenancy
