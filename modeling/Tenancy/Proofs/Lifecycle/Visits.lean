/-
# The steps of a scripted run

The phases of a run go on by visiting one step after the other. A visit prepares the step, carries
out what was prepared if it comes to that, and judges what came of it. Where one of these fails for
good the run is broken off, and that step is not visited. This module lists the visits of a run, in
the order of the steps and with what each of them reports, and finds what they say to the database
where every step has a savepoint of its own: one bracket for each step that is carried out, and
nothing else.

Which steps are left out after a failure is not described here. The visits are those that the report
of the run shows.
-/

import Mathlib.Data.List.Forall2
import Tenancy.Proofs.Chains
import Tenancy.Proofs.Execution.Store
import Tenancy.Proofs.Lifecycle.Conversation

namespace Tenancy

/-- A step that a run has visited. -/
structure Visit where
  step : LifecycleStep
  /-- What preparing it has led to. -/
  prepared : Prepared
  /-- The tokens and variables as preparing it has left them. -/
  interpreter : Template.Interpreter
  /-- What came back, if it was carried out. -/
  response : Option Response
  /-- What is reported about it. -/
  result : StepResult

namespace Visit

/-- The request the step was carried out with, if it came to that: nothing went wrong before, and
it is not only to be prepared. -/
def request? (v : Visit) : Option Request :=
  if v.prepared.error.isNone && v.step.execute then v.prepared.request else none

/-- Whether the step was carried out. -/
def reached (v : Visit) : Bool :=
  v.request?.isSome

/-- Whether the step was carried out and its response is a success. -/
def kept (v : Visit) : Bool :=
  v.response.any Response.success

/-- How the request of the step is compiled: with the variables there were then. -/
def compiler (k : Compiler) (v : Visit) : Compiler :=
  { k with vars := v.interpreter.vars }

/-- The statements of the step; none if it was not carried out, or was refused. -/
def statements (k : Compiler) (v : Visit) : List Statement :=
  match v.request? with
  | some r => (v.compiler k).statements r
  | none => []

/-- What the step said to the database, inside a savepoint that was kept or undone as its response
says. -/
def Brackets (k : Compiler) (v : Visit) (transcript : Transcript) : Prop :=
  ∃ r response, v.request? = some r ∧ v.response = some response ∧
    Execution.Bracket (v.compiler k) r transcript response.success

end Visit

/-- What is known about a step after its captures, which go into the variables. -/
def StepContext.capturing (c : StepContext) (captured : Captured) : StepContext :=
  { c with captures := .object captured.values
           vars := c.vars.overlay (Live.ofFields captured.values) }

/-- What a step is held against: its own expectation, or else that it succeeds. -/
def LifecycleStep.expected (s : LifecycleStep) : Expectation :=
  s.expect.getD .toSucceed

theorem StepResult.success_eq_false_iff {r : StepResult} :
    r.success = false ↔ r.failures ≠ [] := by
  simp [StepResult.success]

/-- What a run has recorded so far. -/
def RunState.ledger {σ : Type} (state : RunState σ) :
    List StepResult × List PhaseSummary × List StepIssue :=
  (state.steps, state.phaseSummaries, state.issues)

theorem RunState.ledger_eq_iff {σ : Type} {state after : RunState σ} :
    after.ledger = state.ledger ↔ after.steps = state.steps ∧
      after.phaseSummaries = state.phaseSummaries ∧ after.issues = state.issues := by
  simp [ledger]

namespace Lifecycle

open Session

variable {σ : Type} (l : Lifecycle σ)

/-- A run goes from one state to another by visiting steps. -/
inductive Visits (options : LifecycleOptions) : RunState σ → List Visit → RunState σ → Prop
  | nil (state : RunState σ) : Visits options state [] state
  /-- A step is prepared, carried out and judged, and its result is recorded. -/
  | step {state mid later after : RunState σ} {place : StepPlace} {v : Visit} {rest : List Visit}
      (hprepared : Prepared.step l.ids l.translator state.defaultScope v.step state.interpreter =
        (v.prepared, v.interpreter))
      (hcarried : l.carryOut options.stepSavepoints v.step.execute v.prepared
        { state with interpreter := v.interpreter } = (.returned v.response, mid))
      (hjudged : l.judge place options.includeStepTrace v.prepared v.step v.response mid =
        (.returned v.result, later))
      (hrest : Visits options (record v.result later) rest after) :
      Visits options state (v :: rest) after
  /-- The end of a phase is recorded. -/
  | summary {state after : RunState σ} {visits : List Visit} {phaseId : String}
      {phase : LifecyclePhase} {tally : Tally}
      (h : Visits options (summarise phaseId phase tally state) visits after) :
      Visits options state visits after

variable {l} {options : LifecycleOptions}

theorem Visits.trans {state mid after : RunState σ} {visits later : List Visit}
    (h : l.Visits options state visits mid) (h' : l.Visits options mid later after) :
    l.Visits options state (visits ++ later) after := by
  induction h with
  | nil state => exact h'
  | step hprepared hcarried hjudged _ ih => exact .step hprepared hcarried hjudged (ih h')
  | summary _ ih => exact .summary (ih h')

/-! ## The phases of a run -/

/-- A step that comes to its end has been visited. -/
theorem visit_of_runStep {place : StepPlace} {s : LifecycleStep} {state later : RunState σ}
    {r : StepResult} (h : l.runStep options place s state = (.returned r, later)) :
    ∃ (v : Visit) (mid : RunState σ), v.step = s ∧ v.result = r ∧
      Prepared.step l.ids l.translator state.defaultScope v.step state.interpreter =
        (v.prepared, v.interpreter) ∧
      l.carryOut options.stepSavepoints v.step.execute v.prepared
        { state with interpreter := v.interpreter } = (.returned v.response, mid) ∧
      l.judge place options.includeStepTrace v.prepared v.step v.response mid =
        (.returned v.result, later) := by
  rw [runStep] at h
  rcases hprepared : Prepared.step l.ids l.translator state.defaultScope s state.interpreter with
    ⟨p, interpreter⟩
  rw [hprepared] at h
  dsimp only at h
  rcases hcarried : l.carryOut options.stepSavepoints s.execute p
    { state with interpreter := interpreter } with ⟨ending, mid⟩
  rw [hcarried] at h
  cases ending with
  | raised f => cases h
  | hung => cases h
  | returned response =>
      exact ⟨⟨s, p, interpreter, response, r⟩, mid, rfl, rfl, hprepared, hcarried, h⟩

/-- What comes after the last visit of a run: nothing, if it came to its end, and otherwise the step
that breaks it off. -/
inductive Ends (l : Lifecycle σ) (options : LifecycleOptions) :
    RunState σ → Option LifecycleStep → RunState σ → Prop
  | ended (state : RunState σ) : Ends l options state none state
  | raised {place : StepPlace} {s : LifecycleStep} {state after : RunState σ} {f : Fault}
      (h : l.runStep options place s state = (.raised f, after)) :
      Ends l options state (some s) after
  | hung {place : StepPlace} {s : LifecycleStep} {state after : RunState σ}
      (h : l.runStep options place s state = (.hung, after)) : Ends l options state (some s) after

/-- A run goes from one state to another by visiting some of these steps in their order, up to one
that breaks it off unless it comes to an end of its own. -/
def Goes (l : Lifecycle σ) (options : LifecycleOptions) (steps : List LifecycleStep)
    (state after : RunState σ) (ended : Prop) : Prop :=
  ∃ visits mid last, l.Visits options state visits mid ∧ l.Ends options mid last after ∧
    (visits.map Visit.step ++ last.toList).Sublist steps ∧ (last = none ↔ ended)

/-- However the steps of a phase end, they are visited in their order, up to one that breaks the run
off if there is one, and otherwise perhaps not to the last. -/
theorem goes_of_runSteps {request : LifecycleRequest} {phase : LifecyclePhase} {phaseId : String}
    {index : Nat} {steps : List LifecycleStep} {tally : Tally} {state after : RunState σ}
    {ending : Ending Tally}
    (h : l.runSteps request phase phaseId index steps tally state = (ending, after)) :
    l.Goes request.options steps state after (∃ tally', ending = .returned tally') := by
  induction steps generalizing index tally state with
  | nil =>
      cases h
      exact ⟨[], _, none, .nil _, .ended _, List.nil_sublist _, by simp⟩
  | cons s rest ih =>
      rw [runSteps] at h
      rcases hstep : l.runStep request.options (place phaseId phase index s) s state with
        ⟨outcome, later⟩
      rw [hstep] at h
      cases outcome with
      | raised f =>
          cases h
          exact ⟨[], state, some s, .nil _, .raised hstep, by simp, by simp⟩
      | hung =>
          cases h
          exact ⟨[], state, some s, .nil _, .hung hstep, by simp, by simp⟩
      | returned r =>
          obtain ⟨v, mid, rfl, rfl, hprepared, hcarried, hjudged⟩ := visit_of_runStep hstep
          have stopped {tally' : Tally}
              (h : (.returned tally', record v.result later) = (ending, after)) :
              l.Goes request.options (v.step :: rest) state after
                (∃ tally', ending = .returned tally') := by
            cases h
            exact ⟨[v], _, none, .step hprepared hcarried hjudged (.nil _), .ended _, by simp,
              by simp⟩
          have next {tally : Tally}
              (h : l.runSteps request phase phaseId (index + 1) rest tally
                (record v.result later) = (ending, after)) :
              l.Goes request.options (v.step :: rest) state after
                (∃ tally', ending = .returned tally') := by
            obtain ⟨visits, final, last, hvisits, hends, hsteps, hlast⟩ := ih h
            exact ⟨v :: visits, final, last, .step hprepared hcarried hjudged hvisits, hends,
              hsteps.cons_cons v.step, hlast⟩
          dsimp only at h
          split at h
          · exact next h
          · split at h
            · exact stopped h
            · split at h
              · exact stopped h
              · exact next h

/-- However phases end, steps of theirs are visited in order, up to one that breaks the run off if
there is one. -/
theorem goes_of_runPhases {request : LifecycleRequest} {index : Nat}
    {phases : List LifecyclePhase} {state after : RunState σ} {ending : Ending Unit}
    (h : l.runPhases request index phases state = (ending, after)) :
    l.Goes request.options (phases.flatMap LifecyclePhase.steps) state after
      (ending = .returned ()) := by
  induction phases generalizing index state with
  | nil =>
      cases h
      exact ⟨[], _, none, .nil _, .ended _, List.nil_sublist _, by simp⟩
  | cons phase rest ih =>
      rw [runPhases] at h
      dsimp only at h
      rcases hsteps : l.runSteps request phase (phase.id.getD ("phase-" ++ toString (index + 1))) 0
        phase.steps ⟨0, 0, false⟩ state with ⟨outcome, later⟩
      obtain ⟨visits, mid, last, hvisits, hends, hfirst, hlast⟩ := goes_of_runSteps hsteps
      rw [hsteps] at h
      rw [List.flatMap_cons]
      have within := hfirst.trans (List.sublist_append_left _ (rest.flatMap LifecyclePhase.steps))
      cases outcome with
      | raised f =>
          cases h
          exact ⟨visits, mid, last, hvisits, hends, within, by simp [hlast]⟩
      | hung =>
          cases h
          exact ⟨visits, mid, last, hvisits, hends, within, by simp [hlast]⟩
      | returned tally =>
          obtain rfl := hlast.mpr ⟨tally, rfl⟩
          cases hends
          rw [Option.toList_none, List.append_nil] at hfirst
          dsimp only at h
          split at h
          · cases h
            refine ⟨visits ++ [], _, none, hvisits.trans (.summary (.nil _)), .ended _, ?_, by simp⟩
            rw [List.append_nil]
            exact within
          · obtain ⟨others, final, last, hothers, hends, hrest, hlast⟩ := ih h
            refine ⟨visits ++ others, final, last, hvisits.trans (.summary hothers), hends, ?_,
              hlast⟩
            rw [List.map_append, List.append_assoc]
            exact hfirst.append hrest

/-- Phases that come to their end have visited steps of theirs, in order. -/
theorem visits_of_runPhases {request : LifecycleRequest} {index : Nat}
    {phases : List LifecyclePhase} {state after : RunState σ}
    (h : l.runPhases request index phases state = (.returned (), after)) :
    ∃ visits, l.Visits request.options state visits after ∧
      (visits.map Visit.step).Sublist (phases.flatMap LifecyclePhase.steps) := by
  obtain ⟨visits, mid, last, hvisits, hends, hsteps, hlast⟩ := goes_of_runPhases h
  obtain rfl := hlast.mpr rfl
  cases hends
  rw [Option.toList_none, List.append_nil] at hsteps
  exact ⟨visits, hvisits, hsteps⟩

/-! ## What is reported -/

section Quiet

variable (l)

theorem ledger_carryOut (useSavepoint execute : Bool) (p : Prepared) (state : RunState σ) :
    (l.carryOut useSavepoint execute p state).2.ledger = state.ledger := by
  unfold carryOut
  split
  · dsimp only
    split
    · split <;> rfl
    · rfl
  · rfl

/-- Judging a step records nothing yet. -/
theorem ledger_judge (place : StepPlace) (includeTrace : Bool) (p : Prepared) (s : LifecycleStep)
    (response : Option Response) (state : RunState σ) :
    (l.judge place includeTrace p s response state).2.ledger = state.ledger := by
  unfold judge
  split
  · rfl
  · dsimp only
    split <;> rfl

end Quiet

theorem vars_of_context {p : Prepared} {s : LifecycleStep} {response : Option Response} {vars : Bag}
    {c : StepContext} (h : context p s response vars = .ok c) : c.vars = vars := by
  unfold context at h
  obtain ⟨translation, -, h⟩ := bind_eq_ok.mp h
  obtain ⟨request, -, h⟩ := bind_eq_ok.mp h
  obtain ⟨answer, -, h⟩ := bind_eq_ok.mp h
  rw [← pure_eq_ok.mp h]

/-- Judging a step that comes to an end has found a verdict with what is known about it and with its
captures. What it reports has the place of the step, and its response if that is asked for. -/
theorem of_judge {place : StepPlace} {includeTrace : Bool} {p : Prepared} {s : LifecycleStep}
    {response : Option Response} {state later : RunState σ} {r : StepResult}
    (h : l.judge place includeTrace p s response state = (.returned r, later)) :
    r.place = place ∧ (includeTrace = true → r.response = response) ∧
      ∃ before captured, context p s response state.interpreter.vars = .ok before ∧
        Captured.takeAll before s.captures = (captured, none) ∧
        verdict s captured (before.capturing captured) = .ok (r.failures, r.classification) := by
  unfold judge at h
  split at h
  · cases h
  · rename_i before hbefore
    rcases hcaptured : Captured.takeAll before s.captures with ⟨captured, stopped⟩
    rw [hcaptured] at h
    dsimp only at h
    split at h
    · cases h
    · cases h
    · rename_i failures classification hverdict
      cases h
      refine ⟨rfl, fun htrace => if_pos htrace, before, captured, hbefore, hcaptured, ?_⟩
      rw [StepContext.capturing, vars_of_context hbefore, hverdict]

/-- A verdict is about the checks and captures that failed, and a failure has a class. -/
theorem of_verdict {s : LifecycleStep} {captured : Captured} {c : StepContext}
    {failures : List CheckFailure} {classification : Option FailureClass}
    (h : verdict s captured c = .ok (failures, classification)) :
    ∃ failed, s.expected.evaluate c = .ok failed ∧ failures = failed ++ captured.failures ∧
      (failures ≠ [] → ∃ k, classification = some k ∧
        Classification.classify failures c = .ok k) := by
  unfold verdict at h
  obtain ⟨failed, hfailed, h⟩ := bind_eq_ok.mp h
  refine ⟨failed, hfailed, ?_⟩
  dsimp only at h
  split at h
  · rename_i hempty
    cases h
    exact ⟨rfl, fun hne => absurd (List.isEmpty_iff.mp hempty) hne⟩
  · obtain ⟨k, hk, h⟩ := bind_eq_ok.mp h
    cases h
    exact ⟨rfl, fun _ => ⟨k, rfl, hk⟩⟩

/-- The results of the visits are what the run reports. -/
theorem Visits.steps_eq {state after : RunState σ} {visits : List Visit}
    (h : l.Visits options state visits after) :
    after.steps = state.steps ++ visits.map Visit.result := by
  induction h with
  | nil => simp
  | @step state mid later after place v rest hprepared hcarried hjudged hrest ih =>
      have carried := l.ledger_carryOut options.stepSavepoints v.step.execute v.prepared
        { state with interpreter := v.interpreter }
      have judged := l.ledger_judge place options.includeStepTrace v.prepared v.step v.response mid
      rw [hcarried] at carried
      rw [hjudged] at judged
      have kept : later.steps = state.steps := congrArg Prod.fst (judged.trans carried)
      have recorded : (record v.result later).steps = later.steps ++ [v.result] := rfl
      rw [ih, recorded, kept, List.map_cons, List.append_assoc, List.singleton_append]
  | summary _ ih => exact ih

theorem Visits.response_eq {state after : RunState σ} {visits : List Visit}
    (h : l.Visits options state visits after) (htrace : options.includeStepTrace = true) :
    ∀ v ∈ visits, v.result.response = v.response := by
  induction h with
  | nil => exact fun v hv => nomatch hv
  | step _ _ hjudged _ ih =>
      exact List.forall_mem_cons.mpr ⟨(of_judge hjudged).2.1 htrace, ih⟩
  | summary _ ih => exact ih

/-! ## What is said -/

/-- A step that is carried out inside a savepoint comes back from a bracket. -/
theorem bracket_of_executeStep {vars : Bag} {r : Request} {id : String}
    {session later : Session σ} {response : Response}
    (h : l.executeStep true vars r id session = (.returned response, later)) :
    ∃ transcript, session.Exchanges l.database transcript later ∧
      Execution.Bracket { l.compiler with vars } r transcript response.success := by
  obtain ⟨reply, opened, hsave, saved⟩ := exchanges_perform l.database session .savepoint
  unfold executeStep at h
  dsimp only at h
  rw [if_pos rfl, hsave] at h
  cases reply with
  | failed f => cases h
  | silent => cases h
  | done a =>
      dsimp only [Reply.ending] at h
      rcases hrun : Execution.executeInTransaction l.database { l.compiler with vars } r id opened
        with ⟨ending, ended⟩
      rw [hrun] at h
      cases ending with
      | raised f => cases h
      | hung => cases h
      | returned answer =>
          obtain ⟨sent, talk, served⟩ := Execution.served_executeInTransaction hrun
          obtain ⟨reply, final, hclose, closed⟩ :=
            exchanges_perform l.database ended (Execution.closing answer.success)
          dsimp only at h
          rw [Execution.closing] at hclose
          rw [hclose] at h
          cases reply with
          | failed f => cases h
          | silent => cases h
          | done b =>
              cases h
              exact ⟨_, saved.trans (talk.trans closed), .around served⟩

/-- What was prepared is carried out inside a bracket, or not at all. -/
theorem bracket_of_carryOut {v : Visit} {state mid : RunState σ}
    (hinterpreter : state.interpreter = v.interpreter)
    (h : l.carryOut true v.step.execute v.prepared state = (.returned v.response, mid)) :
    (v.reached = false ∧ v.response = none ∧ mid.session = state.session) ∨
      ∃ transcript, state.session.Exchanges l.database transcript mid.session ∧
        v.Brackets l.compiler transcript := by
  unfold carryOut at h
  split at h
  · rename_i r herror hrequest
    split at h
    · rename_i hexecute
      have request : v.request? = some r := by simp [Visit.request?, herror, hexecute, hrequest]
      dsimp only at h
      split at h
      · rename_i response later hrun
        obtain ⟨transcript, talk, bracket⟩ := bracket_of_executeStep hrun
        rw [hinterpreter] at bracket
        obtain ⟨hresponse, rfl⟩ := Prod.mk.inj h
        exact .inr ⟨transcript, talk, r, response, request, (Ending.returned.inj hresponse).symm,
          bracket⟩
      · cases h
      · cases h
    · rename_i hexecute
      obtain ⟨hresponse, rfl⟩ := Prod.mk.inj h
      have unreached : v.reached = false := by simp [Visit.reached, Visit.request?, hexecute]
      exact .inl ⟨unreached, (Ending.returned.inj hresponse).symm, rfl⟩
  · rename_i hnothing
    obtain ⟨hresponse, rfl⟩ := Prod.mk.inj h
    have unreached : v.reached = false := by
      cases herror : v.prepared.error with
      | some e => simp [Visit.reached, Visit.request?, herror]
      | none =>
          cases hrequest : v.prepared.request with
          | none => simp [Visit.reached, Visit.request?, hrequest]
          | some r => exact absurd hrequest (hnothing r herror)
    exact .inl ⟨unreached, (Ending.returned.inj hresponse).symm, rfl⟩

/-- A step has a response where it was carried out, and nowhere else. -/
theorem Visits.response_isSome (hsave : options.stepSavepoints = true) {state after : RunState σ}
    {visits : List Visit} (h : l.Visits options state visits after) :
    ∀ v ∈ visits, v.response.isSome = v.reached := by
  induction h with
  | nil => exact fun v hv => nomatch hv
  | @step state mid later after place v rest hprepared hcarried hjudged hrest ih =>
      refine List.forall_mem_cons.mpr ⟨?_, ih⟩
      rw [hsave] at hcarried
      rcases bracket_of_carryOut rfl hcarried with ⟨hreached, hnone, -⟩ | ⟨_, -, bracket⟩
      · rw [hreached, hnone]
        rfl
      · obtain ⟨r, response, hrequest, hresponse, -⟩ := bracket
        rw [Visit.reached, hrequest, hresponse]
        rfl
  | summary _ ih => exact ih

/-- The visits of a run say nothing to the database but one bracket for each step that is carried
out. -/
theorem Visits.brackets (hsave : options.stepSavepoints = true) {state after : RunState σ}
    {visits : List Visit} (h : l.Visits options state visits after) :
    ∃ brackets : List Transcript,
      state.session.Exchanges l.database brackets.flatten after.session ∧
      List.Forall₂ (fun v transcript => v.Brackets l.compiler transcript)
        (visits.filter Visit.reached) brackets := by
  induction h with
  | nil state => exact ⟨[], .nil _, .nil⟩
  | @step state mid later after place v rest hprepared hcarried hjudged hrest ih =>
      obtain ⟨brackets, talk, others⟩ := ih
      have quiet : later.session = mid.session := by
        have := (l.judge_quiet place options.includeStepTrace v.prepared v.step v.response mid).1
        rwa [hjudged] at this
      have talk : mid.session.Exchanges l.database brackets.flatten after.session := quiet ▸ talk
      rw [hsave] at hcarried
      rcases bracket_of_carryOut rfl hcarried with ⟨hreached, -, hsame⟩ | ⟨first, said, bracket⟩
      · refine ⟨brackets, hsame ▸ talk, ?_⟩
        rwa [List.filter_cons_of_neg (by simp [hreached])]
      · have hreached : v.reached = true := by
          obtain ⟨r, _, hrequest, _⟩ := bracket
          simp [Visit.reached, hrequest]
        refine ⟨first :: brackets, said.trans talk, ?_⟩
        rw [List.filter_cons_of_pos hreached]
        exact .cons bracket others
  | summary _ ih => exact ih

/-! ## What is left behind -/

/-- What brackets leave behind is what the statements of those steps do whose response is a success,
in the order of the steps. -/
theorem plays_of_brackets {δ : Type} {effect : String → List Value → δ → δ} {k : Compiler}
    {visits : List Visit} {brackets : List Transcript}
    (h : List.Forall₂ (fun v transcript => v.Brackets k transcript) visits brackets)
    {s s' : Store δ} (hplays : Store.Plays effect s brackets.flatten s') :
    s' = { s with
      working := Store.applyAll effect
        ((visits.filter Visit.kept).flatMap (Visit.statements k)) s.working } := by
  induction h generalizing s with
  | nil =>
      cases hplays
      rfl
  | @cons v bracket rest brackets hbracket _ ih =>
      obtain ⟨mid, hfirst, hlater⟩ := hplays.append
      obtain ⟨r, response, hrequest, hresponse, hbracket⟩ := hbracket
      have first := hbracket.plays hfirst
      have statements : v.statements k = (v.compiler k).statements r := by
        simp [Visit.statements, hrequest]
      rw [ih hlater, first]
      cases hsuccess : response.success with
      | false =>
          have lost : ¬v.kept = true := by simp [Visit.kept, hresponse, hsuccess]
          rw [List.filter_cons_of_neg lost]
          rfl
      | true =>
          have kept : v.kept = true := by simp [Visit.kept, hresponse, hsuccess]
          rw [List.filter_cons_of_pos kept, List.flatMap_cons, Store.applyAll_append, statements]
          rfl

end Lifecycle

end Tenancy
