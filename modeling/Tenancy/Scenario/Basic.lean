/-
# Scenarios

Independent requests to try out, each either literal or a prompt to translate.
-/

import Tenancy.Execution.Response
import Tenancy.Translation.Basic

namespace Tenancy

open Validation

/-- One request to try out. -/
structure Scenario where
  id : Option String
  name : String
  /-- The prompt to translate. -/
  prompt : Option String
  /-- The literal request. -/
  request : Option Request
  /-- Whether the request is carried out. -/
  execute : Bool
  /-- Whether everything is undone at the end. -/
  dryRun : Option Bool
  /-- On whose behalf. -/
  scope : Option Scope

/-- What holds for all scenarios. -/
structure ScenarioDefaults where
  /-- Whether everything is undone at the end. -/
  dryRun : Bool
  /-- On whose behalf. -/
  scope : Scope

/-- Scenarios to run. -/
structure ScenarioRequest where
  scenarios : List Scenario
  /-- What holds for all of them. -/
  defaults : ScenarioDefaults

/-- The rule that a scenario has something to do. -/
def Scenario.broken (s : Scenario) : Option String :=
  if s.prompt.isNone && s.request.isNone then some "Scenario must provide either prompt or request."
  else none

/-- The payload of a scenario. -/
def Scenario.reader : Reader Scenario :=
  .record "ScenarioItem" (Scenario.mk <$> maybe "id" .word <*> need "name" .word <*> maybe "prompt" .word
    <*> maybe "request" Request.reader <*> flag "execute" true <*> maybe "dryRun" .bool
    <*> maybe "scope" Scope.reader) Scenario.broken

/-- The payload of the defaults. -/
def ScenarioDefaults.reader : Reader ScenarioDefaults :=
  .object "ScenarioDefaults" (ScenarioDefaults.mk <$> flag "dryRun" true <*> Scope.field)

/-- The payload of scenarios to run. -/
def ScenarioRequest.reader : Reader ScenarioRequest :=
  .object "ScenarioRunRequest" (ScenarioRequest.mk
    <$> need "scenarios" Scenario.reader.nonemptyList
    <*> optionalObject "defaults" ScenarioDefaults.reader ⟨true, Scope.none⟩)

/-- What came of a scenario. -/
structure ScenarioResult where
  id : String
  name : String
  success : Bool
  prompt : Option String
  translation : Option Translation
  request : Option Request
  response : Option Response
  /-- Why it failed. -/
  error : Option String

/-- The form of the result of a scenario. -/
def ScenarioResult.form (r : ScenarioResult) : Form :=
  .object [("id", .text r.id), ("name", .text r.name), ("success", .bool r.success),
    ("prompt", .ofOption .text r.prompt), ("translation", .ofOption Translation.form r.translation),
    ("request", .ofOption Request.form r.request),
    ("response", .ofOption Response.form r.response),
    ("error", .ofOption .text r.error)]

/-- What came of all scenarios. -/
structure ScenarioReport where
  /-- The results, in order. -/
  results : List ScenarioResult

namespace ScenarioReport

/-- The number of scenarios that succeeded. -/
def succeeded (r : ScenarioReport) : Nat :=
  r.results.countP ScenarioResult.success

/-- The number of scenarios that failed. -/
def failed (r : ScenarioReport) : Nat :=
  r.results.length - r.succeeded

/-- Whether all scenarios succeeded. -/
def success (r : ScenarioReport) : Bool :=
  r.succeeded == r.results.length

/-- The form of the report. -/
def form (r : ScenarioReport) : Form :=
  .object [("success", .bool r.success), ("total", .count r.results.length),
    ("succeeded", .count r.succeeded), ("failed", .count r.failed),
    ("results", .list (r.results.map ScenarioResult.form))]

end ScenarioReport

end Tenancy
