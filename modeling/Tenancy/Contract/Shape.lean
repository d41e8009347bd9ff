/-
# The shapes of results

Results are payloads too: a caller may store one and hand it in again. Nothing is done with
a result that is read, so its reader keeps only the forms. A shape is a list of
fields, each read on its own; the fields of the payloads that are acted upon are shared with
their readers.
-/

import Tenancy.Lifecycle.Result
import Tenancy.Scenario.Basic

namespace Tenancy

open Validation

namespace Validation

/-- A field of which only the forms matter. -/
def FieldReader.shape {α : Type} (r : FieldReader α) : FieldReader Unit :=
  (fun _ => ()) <$> r

/-- Read fields one after the other. -/
def FieldReader.all : List (FieldReader Unit) → FieldReader Unit
  | [] => pure ()
  | r :: rest => (fun _ _ => ()) <$> r <*> all rest

/-- An object of a kind with the given fields. -/
def Reader.shaped (title : String) (fields : List (FieldReader Unit)) : Reader Unit :=
  .object title (.all fields)

/-- A field that has to be there. -/
def must {α : Type} (name : String) (r : Reader α) : FieldReader Unit :=
  (need name r).shape

/-- A field that may be absent or null. -/
def may {α : Type} (name : String) (r : Reader α) : FieldReader Unit :=
  (maybe name r).shape

/-- Fields that have to be there, all read alike. -/
def musts {α : Type} (names : List String) (r : Reader α) : List (FieldReader Unit) :=
  names.map fun name => must name r

/-- Fields that may be absent or null, all read alike. -/
def mays {α : Type} (names : List String) (r : Reader α) : List (FieldReader Unit) :=
  names.map fun name => may name r

/-- An array that is empty when absent. -/
def list {α : Type} (name : String) (r : Reader α) : FieldReader Unit :=
  (many name r).shape

/-- One of the given words. -/
def Reader.word? (words : List String) : Reader String :=
  .oneOf (words.map fun w => (w, w))

/-- One of the words of an enumeration. -/
def Reader.term (words : List String) : Reader String :=
  .member (words.map fun w => (w, w))

end Validation

namespace Shape

/-- The words for the states of a step, in the order in which it passes through them. -/
def stepStates : List String :=
  ["pending", "interpolating", "translating", "literal", "executing", "evaluated", "passed", "failed"]

/-- The words for the states of a run: those it can end in, and the one before. -/
def runStates : List String :=
  [RunStatus.running, .rolledBack, .committed, .fatal].map RunStatus.word

/-- The words for the classes of failures. -/
def failureClasses : List String :=
  [FailureClass.scenarioContract, .schemaConstraint, .expectationMismatch, .executionError].map
    FailureClass.word

/-- A trace entry. -/
def traceEntry : Reader Unit :=
  .shaped "ExecutionTraceStep" [must "stepIndex" .int, must "kind" (.word? ["query", "mutate"]),
    must "table" .text, must "sql" .text, must "params" (Reader.any.list), must "rowCount" .int,
    must "dryRun" .bool]

/-- An error. -/
def errorDetail : Reader Unit :=
  .shaped "ErrorDetail" [must "message" .text, may "code" .text, may "detail" .any]

/-- A response. -/
def response : Reader Unit :=
  .shaped "PseudoApiResponse" [must "requestId" .text, must "dryRun" .bool, must "success" .bool,
    must "commandKind" (.word? ["query", "mutate", "batch"]), list "warnings" .text,
    list "trace" traceEntry, may "result" .any, may "error" errorDetail]

/-- A simulation. -/
def simulation : Reader Unit :=
  .shaped "SimulationResult"
    [must "success" .bool, must "translation" Translation.reader, may "execution" response]

/-- The parts of what came of a step or a scenario. -/
def parts : List (FieldReader Unit) :=
  [may "translation" Translation.reader, may "request" Request.reader, may "response" response]

/-- What came of a scenario. -/
def scenarioResult : Reader Unit :=
  .shaped "ScenarioResult"
    (musts ["id", "name"] .text ++ [must "success" .bool, may "prompt" .text] ++ parts ++
      [may "error" .text])

/-- What came of all scenarios. -/
def scenarioReport : Reader Unit :=
  .shaped "ScenarioRunResult" ([must "success" .bool] ++ musts ["total", "succeeded", "failed"] .int ++
    [must "results" scenarioResult.list])

/-- The fields that say where a step stands. -/
def place : List (FieldReader Unit) :=
  musts ["phaseId", "phaseName", "stepId", "stepName"] .text

/-- A failed step in the list of issues. -/
def stepIssue : Reader Unit :=
  .shaped "LifecycleStepIssue"
    (place ++ [must "classification" (.term failureClasses), must "message" .text])

/-- The fields that say when something ran. -/
def period : List (FieldReader Unit) :=
  musts ["startedAt", "endedAt"] .text ++ [must "durationMs" .int]

/-- What a step did. -/
def stepResult : Reader Unit :=
  .shaped "LifecycleStepResult"
    (place ++ [must "success" .bool, must "state" (.term stepStates)] ++ period ++
      mays ["prompt", "resolvedPrompt"] .text ++ parts ++
      [list "expectationFailures" .text,
        ((FieldName.camel "captures").orElse .fields [] (.object [])).shape,
        may "classification" (.term failureClasses), may "error" .text])

/-- How a phase went. -/
def phaseSummary : Reader Unit :=
  .shaped "LifecyclePhaseSummary"
    (musts ["phaseId", "phaseName"] .text ++ musts ["totalSteps", "passedSteps", "failedSteps"] .int)

/-- The counts of a run. -/
def runSummary : Reader Unit :=
  .shaped "LifecycleRunSummary" (musts ["totalPhases", "totalSteps", "passedSteps", "failedSteps"] .int)

/-- What a run reports. -/
def runReport : Reader Unit :=
  .shaped "LifecycleRunResult"
    ([must "success" .bool, must "status" (.term runStates)] ++ musts ["dryRun", "persisted"] .bool ++
      period ++ [must "summary" runSummary, must "phaseSummaries" phaseSummary.list,
        must "steps" stepResult.list, must "issues" stepIssue.list, must "variables" .fields,
        list "warnings" .text, may "fatalError" .text])

end Shape

end Tenancy
