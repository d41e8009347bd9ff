/-
# Dry runs of scenarios

A scenario, its literal request or the defaults say whether everything it does is to be undone. For
a literal request that settles it. A prompt is different: the flag is only handed on to the
translator, and what is carried out is the request that the translator comes back with, with the
flag it has there. So a scenario that is to be a dry run sends no commit if its request is literal
or if the translator keeps to the dry run it is told of. Nothing is assumed of the database, and
nothing of the other scenarios.

A translator that does not keep to it gets its commit. Simulations and scripted runs are not like
this: they set the flag of a translated request themselves.
-/

import Tenancy.Execution.Scripted
import Tenancy.Proofs.Scenario.Events
import Tenancy.Proofs.Statement.Compiles
import Tenancy.Translation.Prebuilt

namespace Tenancy

open Session

/-- Whether everything that a scenario does is to be undone: as it says itself, or else its literal
request, or else the defaults. -/
def Scenario.isDryRun (d : ScenarioDefaults) (s : Scenario) : Bool :=
  s.dryRun.getD ((s.request.bind Request.dryRun).getD d.dryRun)

/-- What a translator comes back with, when it is asked this, is a dry run. -/
def Translator.KeepsDryRun (translator : Translator) (asked : TranslationRequest) : Prop :=
  ∀ t r, translator asked = .ok t → t.usable? = some r → r.isDryRun = true

theorem Translator.keepsDryRun_prebuilt (prepared : Prepared) {asked : TranslationRequest}
    (h : asked.dryRun = true) : (prebuilt prepared).KeepsDryRun asked := by
  intro t r ht hr
  unfold prebuilt at ht
  split at ht
  · cases ht
    cases hr
  · cases ht
    cases hr
    exact h

namespace ScenarioRunner

variable {σ : Type} (runner : ScenarioRunner σ)

theorem isDryRun_of_plan {d : ScenarioDefaults} {s : Scenario} {r : Request}
    {translation : Option Translation} (hplan : runner.plan d s = .request translation r)
    (hdry : s.isDryRun d = true)
    (hkeeps : s.request = none → runner.translator.KeepsDryRun (asked d s)) :
    r.isDryRun = true := by
  rcases plan_cases hplan with ⟨given, hrequest, rfl⟩ | ⟨hrequest, t, ht, hanswer⟩
  · rw [Scenario.isDryRun, hrequest] at hdry
    exact hdry
  · exact hkeeps hrequest t r ht hanswer

/-- No commit is sent during a scenario that is to be a dry run, if its request is literal or the
translator keeps to it. -/
theorem dryRun_scenario_sends_no_commit (request : ScenarioRequest) (session : Session σ) {n : Nat}
    {s : Scenario} (hs : request.scenarios[n]? = some s)
    (hdry : s.isDryRun request.defaults = true)
    (hkeeps : s.request = none → runner.translator.KeepsDryRun (asked request.defaults s)) :
    ∃ events, (runner.after request (n + 1) session).log =
        (runner.after request n session).log ++ events ∧
      ∀ e ∈ events, e.isCommit = false := by
  obtain ⟨events, hlog, hserves⟩ := runner.follows_after hs session
  refine ⟨events, hlog, ?_⟩
  intro e he
  obtain ⟨translation, r, hplan, suits, -⟩ := hserves e he
  have dry := runner.isDryRun_of_plan hplan hdry hkeeps
  cases hcommit : e.isCommit with
  | false => rfl
  | true => exact absurd (suits hcommit) (by simp [dry])

end ScenarioRunner

/-! ## A prompt and two translators -/

/-- A scenario that is to be a dry run, whatever the defaults are. -/
def cautiousScenario : Scenario :=
  { id := none, name := "setup", prompt := some "add a location", request := none
    execute := true, dryRun := some true, scope := none }

/-- The scenario alone. -/
def cautiousRequest : ScenarioRequest :=
  { scenarios := [cautiousScenario], defaults := { dryRun := false, scope := Compiler.demoScope } }

/-- A session of the plainest script. -/
def plainSession : Session Script :=
  ⟨Script.empty, []⟩

/-- A translator that has the same request for every prompt. -/
def Translator.always (r : Request) : Translator := fun _ =>
  .ok
    { success := true, confidence := .ofInt 1, notes := [], request := some r, error := none }

/-- The parts for running scenarios on a script. -/
def scriptedRunner (translator : Translator) : ScenarioRunner Script :=
  ⟨Script.database, Compiler.demo, translator, .counting⟩

theorem translator_scriptedRunner (translator : Translator) :
    (scriptedRunner translator).translator = translator := rfl

/-- The translator that is prepared for the prompt of the scenario. -/
def preparedTranslator : Translator :=
  .prebuilt [("add a location", Compiler.demoInsert)]

theorem prepared_scenario_sends_no_commit :
    cautiousRequest.scenarios[0]? = some cautiousScenario ∧
    cautiousScenario.isDryRun cautiousRequest.defaults = true ∧
    (scriptedRunner preparedTranslator).translator.KeepsDryRun
      (ScenarioRunner.asked cautiousRequest.defaults cautiousScenario) ∧
    ∃ events, ((scriptedRunner preparedTranslator).after cautiousRequest 1 plainSession).log =
        ((scriptedRunner preparedTranslator).after cautiousRequest 0 plainSession).log ++ events ∧
      ∀ e ∈ events, e.isCommit = false := by
  have keeps : (scriptedRunner preparedTranslator).translator.KeepsDryRun
      (ScenarioRunner.asked cautiousRequest.defaults cautiousScenario) := by
    rw [translator_scriptedRunner]
    exact Translator.keepsDryRun_prebuilt _ rfl
  exact ⟨rfl, rfl, keeps, (scriptedRunner preparedTranslator).dryRun_scenario_sends_no_commit
    cautiousRequest plainSession rfl rfl fun _ => keeps⟩

/-- A translator that does not keep to the dry run has a scenario commit that is to be one. -/
theorem hasty_answer_commits :
    cautiousRequest.scenarios[0]? = some cautiousScenario ∧
    cautiousScenario.isDryRun cautiousRequest.defaults = true ∧
    ((scriptedRunner (.always Compiler.demoRequest)).after cautiousRequest 0
      plainSession).commits = 0 ∧
    ((scriptedRunner (.always Compiler.demoRequest)).after cautiousRequest 1
      plainSession).commits = 1 := by
  refine ⟨rfl, rfl, rfl, ?_⟩
  decide +kernel

end Tenancy
