/-
# Running scenarios

Scenarios are run one after the other, each in a transaction of its own. Whatever happens
to one of them, it has exactly one result and the next one is run.
-/

import Tenancy.Execution.Execute
import Tenancy.IdSource
import Tenancy.Scenario.Basic

namespace Tenancy

/-- The parts that running scenarios needs. -/
structure ScenarioRunner (σ : Type) where
  database : Database σ
  /-- How commands are compiled. -/
  compiler : Compiler
  /-- How prompts are translated. -/
  translator : Translator
  /-- Where ids come from. -/
  ids : IdSource

/-- What a scenario asks for, once a prompt has been translated. -/
inductive ScenarioPlan where
  /-- A request to carry out. -/
  | request (translation : Option Translation) (r : Request)
  /-- A prompt that has no translation. -/
  | untranslated (t : Translation)
  /-- A translator that broke down. -/
  | crashed (message : String)

namespace ScenarioRunner

/-- The scope of a literal request: of the defaults, of the request and of the scenario, the
later ones winning. -/
def literalScope (d : ScenarioDefaults) (s : Scenario) (r : Request) : Scope :=
  (s.scope.getD Scope.none).laidOver (r.scope.laidOver d.scope)

/-- Whether a literal request is a dry run: as the scenario says, or the request, or the
defaults. -/
def literalDryRun (d : ScenarioDefaults) (s : Scenario) (r : Request) : Bool :=
  s.dryRun.getD (r.dryRun.getD d.dryRun)

/-- What the translator of a prompt is told: to keep to the dry run and to the scope of the
scenario, and to those of the defaults where it has none. -/
def asked (d : ScenarioDefaults) (s : Scenario) : TranslationRequest :=
  { input := s.prompt.getD "", dryRun := s.dryRun.getD d.dryRun
    scope := (s.scope.getD Scope.none).laidOver d.scope, options := none }

variable {σ : Type} (runner : ScenarioRunner σ)

/-- Work out what a scenario asks for. -/
def plan (d : ScenarioDefaults) (s : Scenario) : ScenarioPlan :=
  match s.request with
  | some r =>
      .request none { r with dryRun := some (literalDryRun d s r), scope := literalScope d s r }
  | none =>
      match runner.translator (asked d s) with
      | .error breakdown =>
          .crashed (if breakdown.message.isEmpty then "unknown_scenario_error" else breakdown.message)
      | .ok t =>
          match t.usable? with
          | some r => .request (some t) r
          | none => .untranslated t

/-- A result that says nothing yet but whose it is. -/
def blank (id : String) (s : Scenario) : ScenarioResult :=
  { id, name := s.name, success := false, prompt := s.prompt, translation := none, request := none
    response := none, error := none }

/-- Run one scenario. The number of ids used so far is carried along. -/
def runOne (d : ScenarioDefaults) (id : String) (s : Scenario) (issued : Nat) (session : Session σ) :
    Ending ScenarioResult × Nat × Session σ :=
  match runner.plan d s with
  | .crashed message => (.returned { blank id s with error := some message }, issued, session)
  | .untranslated t =>
      (.returned { blank id s with translation := some t, error := some t.failureMessage }, issued, session)
  | .request translation r =>
      if !s.execute then
        (.returned { blank id s with success := true, translation, request := some r }, issued, session)
      else
        let (requestId, issued) := runner.ids.ofRequest r issued
        match Execution.execute runner.database runner.compiler r requestId session with
        | (.returned response, session) =>
            (.returned { blank id s with
              success := response.success, translation, request := some r, response := some response
              error := response.error?.map ErrorDetail.message }, issued, session)
        | (.raised f, session) => (.returned { blank id s with translation, error := some f.text }, issued, session)
        | (.hung, session) => (.hung, issued, session)

/-- Run scenarios, of which the first has the given index. -/
def runFrom (d : ScenarioDefaults) :
    Nat → List Scenario → Nat → Session σ → Ending (List ScenarioResult) × Nat × Session σ
  | _, [], issued, session => (.returned [], issued, session)
  | index, s :: rest, issued, session =>
      match runner.runOne d (s.id.getD ("scenario-" ++ toString (index + 1))) s issued session with
      | (.raised f, issued, session) => (.raised f, issued, session)
      | (.hung, issued, session) => (.hung, issued, session)
      | (.returned r, issued, session) =>
          match runFrom d (index + 1) rest issued session with
          | (.returned rs, issued, session) => (.returned (r :: rs), issued, session)
          | (.raised f, issued, session) => (.raised f, issued, session)
          | (.hung, issued, session) => (.hung, issued, session)

/-- Run all scenarios. -/
def run (request : ScenarioRequest) (session : Session σ) : Ending ScenarioReport × Session σ :=
  match runner.runFrom request.defaults 0 request.scenarios 0 session with
  | (.returned results, _, session) => (.returned ⟨results⟩, session)
  | (.raised f, _, session) => (.raised f, session)
  | (.hung, _, session) => (.hung, session)

end ScenarioRunner

end Tenancy
