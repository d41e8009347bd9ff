/-
# The scope of what is translated

A prompt is translated on behalf of somebody: the translator is told the scope that the scenario or
the step and the defaults make together. What it comes back with is a whole request, with a scope of
its own, and that is the scope under which the command is compiled. Nothing is put in its place, in
scenarios, in scripted runs or anywhere else; a scripted run sets the dry-run flag of the request
and leaves the rest alone. So a prompt is carried out for the tenant it was written for exactly as
far as the translator keeps to the scope it is told, which both translators of the library do.
-/

import Tenancy.Proofs.Lifecycle.Conversation
import Tenancy.Proofs.Scenario.DryRun
import Tenancy.Proofs.Service.DryRun

namespace Tenancy

open Session Template

variable {σ : Type}

namespace Translator

/-- The request has the command and the scope of what a translator comes back with when it is asked
for something. -/
def Answers (translator : Translator) (asked : TranslationRequest) (r : Request) : Prop :=
  ∃ t answer, translator asked = .ok t ∧ t.usable? = some answer ∧
    r.scope = answer.scope ∧ r.command = answer.command

/-- What a translator comes back with stays under the scope it is asked under. -/
def KeepsScope (translator : Translator) : Prop :=
  ∀ asked r, translator.Answers asked r → r.scope = asked.scope

theorem keepsScope_unavailable : unavailable.KeepsScope := by
  rintro asked r ⟨t, answer, ht, hanswer, -⟩
  cases ht
  cases hanswer

theorem keepsScope_prebuilt (prepared : Prepared) : (prebuilt prepared).KeepsScope := by
  rintro asked r ⟨t, answer, ht, hanswer, hscope, -⟩
  rw [hscope]
  unfold prebuilt at ht
  split at ht
  · cases ht
    cases hanswer
  · cases ht
    cases hanswer
    rfl

end Translator

/-! ## Prompts of scripted runs -/

/-- The scope under which the prompt of a step is translated: the scope of the step, with its tokens
resolved, lies over that of the run, and what is live in it is read as the variables stand. -/
def Prepared.Merges (ids : IdSource) (defaultScope : Named Live) (s : LifecycleStep)
    (before after : Interpreter) (scope : Scope) : Prop :=
  ∃ stepScope resolved accepted,
    Interpreter.interpolateFields ids ((s.scope.map Scope.stated).getD []) before =
      (.ok stepScope, resolved) ∧
    Scope.reader.run "RequestScope"
      ((Live.object (defaultScope.overlay stepScope)).fill after.vars.outline) = .ok accepted ∧
    accepted.value = scope

theorem Prepared.answers_of_translate {translator : Translator} {scope : Json} {prompt : String}
    {r : Request} (h : (translate translator scope prompt).request = some r) :
    ∃ accepted asked, Scope.reader.run "RequestScope" scope = .ok accepted ∧
      accepted.value = asked.scope ∧ translator.Answers asked r := by
  unfold translate at h
  cases hscope : Scope.reader.run "RequestScope" scope with
  | error report =>
      rw [hscope] at h
      cases h
  | ok accepted =>
      rw [hscope] at h
      dsimp only at h
      split at h
      · cases h
      · split at h
        · cases h
        · rename_i t ht
          unfold ofTranslation at h
          split at h
          · rename_i answer hanswer
            cases h
            exact ⟨accepted, _, rfl, rfl, t, answer, ht, hanswer, rfl, rfl⟩
          · cases h

/-- What is prepared for a prompt is what the translator answers under the merged scope. -/
theorem Prepared.answers_of_step {ids : IdSource} {translator : Translator}
    {defaultScope : Named Live} {s : LifecycleStep} {before after : Interpreter} {p : Prepared}
    {r : Request} (h : step ids translator defaultScope s before = (p, after))
    (hprompt : s.request = none) (hrequest : p.request = some r) :
    ∃ asked, Merges ids defaultScope s before after asked.scope ∧ translator.Answers asked r := by
  unfold step at h
  rw [hprompt] at h
  rcases hscope : Interpreter.interpolateFields ids ((s.scope.map Scope.stated).getD []) before with
    ⟨outcome, resolved⟩
  rw [hscope] at h
  cases outcome with
  | error e =>
      cases h
      cases hrequest
  | ok stepScope =>
      dsimp only at h
      unfold prompt at h
      split at h
      · cases h
        cases hrequest
      · split at h
        · cases h
          cases hrequest
        · cases h
          obtain ⟨accepted, asked, hread, hasked, answers⟩ := answers_of_translate hrequest
          exact ⟨asked, ⟨stepScope, resolved, accepted, hscope, hread, hasked⟩, answers⟩

/-- The event sends a statement of what the translator answers to the prompt of a step, compiled
under the scope of the answer. -/
def Lifecycle.SendsAnswer (l : Lifecycle σ) (defaultScope : Named Live) (before : Interpreter)
    (s : LifecycleStep) (e : Event) : Prop :=
  ∃ after asked r, Prepared.Merges l.ids defaultScope s before after asked.scope ∧
    l.translator.Answers asked r ∧ Execution.Sends { l.compiler with vars := after.vars } r e

theorem Lifecycle.ServesPrepared.sendsAnswer {l : Lifecycle σ} {defaultScope : Named Live}
    {s : LifecycleStep} {before after : Interpreter} {p : Prepared} {e : Event}
    (h : l.ServesPrepared p after.vars e)
    (hstep : Prepared.step l.ids l.translator defaultScope s before = (p, after))
    (hprompt : s.request = none) (he : e.IsStatement) : l.SendsAnswer defaultScope before s e := by
  obtain ⟨r, hrequest, serves⟩ := h
  obtain ⟨asked, merges, answers⟩ := Prepared.answers_of_step hstep hprompt hrequest
  exact ⟨after, asked, r, merges, answers, serves.sends he⟩

/-! ## Prompts of scenarios -/

theorem ScenarioRunner.answers_of_plan {runner : ScenarioRunner σ} {d : ScenarioDefaults}
    {s : Scenario} {translation : Option Translation} {r : Request}
    (hplan : runner.plan d s = .request translation r) (hprompt : s.request = none) :
    runner.translator.Answers (asked d s) r := by
  rcases plan_cases hplan with ⟨given, hrequest, -⟩ | ⟨-, t, ht, hanswer⟩
  · rw [hprompt] at hrequest
    cases hrequest
  · exact ⟨t, r, ht, hanswer, rfl, rfl⟩

/-! ## Both -/

/-- Whatever is sent for a prompt is compiled under the scope of what the translator answers, and it
answers to what it is asked under the scope that the caller's defaults and the step or the scenario
make together. This is so for a step in whatever state it is run, and every statement of a run is
sent for one of its steps. The translators of the library answer under the scope they are asked
under. -/
theorem prompts_compile_under_scope_of_answer :
    (∀ (l : Lifecycle σ) (options : LifecycleOptions) (place : StepPlace) (s : LifecycleStep)
      (state : RunState σ), s.request = none →
        ∃ events, (l.runStep options place s state).2.session.log = state.session.log ++ events ∧
          ∀ e ∈ events, e.IsStatement →
            l.SendsAnswer state.defaultScope state.interpreter s e) ∧
    (∀ (l : Lifecycle σ) (request : LifecycleRequest) (session : Session σ),
      ∃ transcript later vars, session.Exchanges l.database transcript later ∧
        (l.run request session).2 = later.settled vars ∧
        ∀ x ∈ transcript, x.1.IsStatement →
          ∃ seeded, l.seed request (l.initial session) = (.ok (), seeded) ∧
            ∃ phase ∈ request.phases, ∃ s ∈ phase.steps,
              l.ServesStep seeded.defaultScope s x.1 ∧
              (s.request = none → ∃ before, l.SendsAnswer seeded.defaultScope before s x.1)) ∧
    (∀ (runner : ScenarioRunner σ) (request : ScenarioRequest) (session : Session σ) (n : Nat)
      (s : Scenario), request.scenarios[n]? = some s → s.request = none →
        (ScenarioRunner.asked request.defaults s).scope =
          (s.scope.getD Scope.none).laidOver request.defaults.scope ∧
        ∃ events, (runner.after request (n + 1) session).log =
            (runner.after request n session).log ++ events ∧
          ∀ e ∈ events, e.IsStatement → ∃ r,
            runner.translator.Answers (ScenarioRunner.asked request.defaults s) r ∧
              Execution.Sends runner.compiler r e) ∧
    (∀ prepared, (Translator.prebuilt prepared).KeepsScope) ∧
    Translator.unavailable.KeepsScope := by
  refine ⟨?_, ?_, ?_, Translator.keepsScope_prebuilt, Translator.keepsScope_unavailable⟩
  · intro l options place s state hprompt
    rcases hstep : Prepared.step l.ids l.translator state.defaultScope s state.interpreter with
      ⟨p, after⟩
    obtain ⟨events, hlog, serves⟩ := (l.converses_runStep options place s hstep).follows
    exact ⟨events, hlog, fun e he hstatement => (serves e he).sendsAnswer hstep hprompt hstatement⟩
  · intro l request session
    obtain ⟨transcript, exchanged, completed⟩ := l.completed_complete request session
    refine ⟨transcript, _, _, exchanged, rfl, ?_⟩
    intro x hx hstatement
    obtain ⟨seeded, hseed, phase, hphase, s, hs, serves⟩ := completed.served x hx hstatement
    refine ⟨seeded, hseed, phase, hphase, s, hs, serves, fun hprompt => ?_⟩
    obtain ⟨before, p, after, hstep, prepared⟩ := serves
    exact ⟨before, prepared.sendsAnswer hstep hprompt hstatement⟩
  · intro runner request session n s hs hprompt
    obtain ⟨events, hlog, hserves⟩ := runner.follows_after hs session
    refine ⟨rfl, events, hlog, ?_⟩
    intro e he hstatement
    obtain ⟨translation, r, hplan, -, sends⟩ := hserves e he
    exact ⟨r, ScenarioRunner.answers_of_plan hplan hprompt, sends hstatement⟩

/-! ## An answer for another business -/

/-- A translator that answers on behalf of another business, whoever asks. -/
def rivalTranslator : Translator :=
  .always { Compiler.demoRequest with scope := { Compiler.demoScope with bizId := some "rival" } }

/-- The parts of a run whose prompts are answered for that business. -/
def rivalLifecycle : Lifecycle Script :=
  ⟨Script.database, Compiler.demo, rivalTranslator, .counting, ⟨0⟩⟩

/-- The event sends a statement with a text among its parameters. -/
def Event.binds (text : String) : Event → Bool
  | .statement _ params =>
      params.any fun v =>
        match v with
        | .json (.plain (.text t)) => t == text
        | _ => false
  | _ => false

theorem Event.isStatement_of_binds {text : String} {e : Event} (h : e.binds text = true) :
    e.IsStatement := by
  cases e with
  | statement sql params => trivial
  | _ => cases h

theorem Event.isStatement_settled {vars : Bag} {e : Event} :
    (e.settled vars).IsStatement ↔ e.IsStatement := by
  cases e <;> rfl

/-- What is sent for a prompt of one business is written for the other. -/
theorem rival_answer_changes_tenant :
    (ScenarioRunner.asked cautiousRequest.defaults cautiousScenario).scope.bizId = some "acme" ∧
    ((scriptedRunner rivalTranslator).after cautiousRequest 1 plainSession).log.any
      (Event.binds "rival") = true ∧
    ((scriptedRunner rivalTranslator).after cautiousRequest 1 plainSession).log.any
      (Event.binds "acme") = false ∧
    eagerRun.defaults.scope.bizId = some "acme" ∧
    (rivalLifecycle.run eagerRun plainSession).2.log.any (Event.binds "rival") = true ∧
    (rivalLifecycle.run eagerRun plainSession).2.log.any (Event.binds "acme") = false := by
  decide +kernel

/-- A step with the prompt alone. -/
def addingStep : LifecycleStep :=
  { id := none, name := "add", description := none, prompt := some "add a location"
    request := none, execute := true, scope := none, expect := none, captures := [], tags := [] }

/-- The state in which the step is run on behalf of the one business. -/
def addingState : RunState Script :=
  { rivalLifecycle.initial plainSession with defaultScope := [("bizId", .plain (.text "acme"))] }

theorem rival_answer_is_compiled :
    (∃ e, e.IsStatement ∧ addingStep.request = none ∧
      rivalLifecycle.SendsAnswer addingState.defaultScope addingState.interpreter addingStep e) ∧
    (∃ e seeded, e.IsStatement ∧
      rivalLifecycle.seed eagerRun (rivalLifecycle.initial plainSession) = (.ok (), seeded) ∧
      ∃ phase ∈ eagerRun.phases, ∃ s ∈ phase.steps, s.request = none ∧
        ∃ before, rivalLifecycle.SendsAnswer seeded.defaultScope before s e) ∧
    (∃ e r, e.IsStatement ∧
      (scriptedRunner rivalTranslator).translator.Answers
        (ScenarioRunner.asked cautiousRequest.defaults cautiousScenario) r ∧
      Execution.Sends (scriptedRunner rivalTranslator).compiler r e) := by
  obtain ⟨stepped, scripted, prompted, -⟩ := prompts_compile_under_scope_of_answer (σ := Script)
  refine ⟨?_, ?_, ?_⟩
  · let place : StepPlace := ⟨"phase-1", "setup", "phase-1-step-1", "add"⟩
    obtain ⟨events, hlog, answered⟩ :=
      stepped rivalLifecycle eagerRun.options place addingStep addingState rfl
    have written : (rivalLifecycle.runStep eagerRun.options place addingStep
        addingState).2.session.log.any (Event.binds "rival") = true := by
      decide +kernel
    have start : addingState.session.log = [] := rfl
    rw [hlog, start, List.nil_append] at written
    obtain ⟨e, he, hbinds⟩ := List.any_eq_true.mp written
    have hstatement := Event.isStatement_of_binds hbinds
    exact ⟨e, hstatement, rfl, answered e he hstatement⟩
  · obtain ⟨transcript, later, vars, exchanged, hsettled, served⟩ :=
      scripted rivalLifecycle eagerRun plainSession
    have written : (rivalLifecycle.run eagerRun plainSession).2.log.any (Event.binds "rival") =
        true := by
      decide +kernel
    rw [hsettled, Session.settled, exchanged.log_eq, plainSession, List.nil_append] at written
    obtain ⟨e', he', hbinds⟩ := List.any_eq_true.mp written
    obtain ⟨e, he, rfl⟩ := List.mem_map.mp he'
    obtain ⟨x, hx, rfl⟩ := List.mem_map.mp he
    have hstatement := Event.isStatement_settled.mp (Event.isStatement_of_binds hbinds)
    obtain ⟨seeded, hseed, phase, hphase, s, hs, -, answered⟩ := served x hx hstatement
    have prompt : s.request = none := by
      obtain rfl := List.mem_singleton.mp hphase
      obtain rfl := List.mem_singleton.mp hs
      rfl
    exact ⟨x.1, seeded, hstatement, hseed, phase, hphase, s, hs, prompt, answered prompt⟩
  · obtain ⟨-, events, hlog, compiled⟩ := prompted (scriptedRunner rivalTranslator) cautiousRequest
      plainSession 0 cautiousScenario rfl rfl
    have written : ((scriptedRunner rivalTranslator).after cautiousRequest (0 + 1)
        plainSession).log.any (Event.binds "rival") = true := by
      decide +kernel
    rw [hlog, ScenarioRunner.after_zero, plainSession, List.nil_append] at written
    obtain ⟨e, he, hbinds⟩ := List.any_eq_true.mp written
    have hstatement := Event.isStatement_of_binds hbinds
    obtain ⟨r, answers, sends⟩ := compiled e he hstatement
    exact ⟨e, r, hstatement, answers, sends⟩

end Tenancy
