/-
# The kinds of payloads

Every kind of payload by its name, with a reader that gives its forms. The steps of
a batch may be batches again; a choice between the kinds of command has a name of its own.
-/

import Tenancy.Contract.Shape

namespace Tenancy.Contract

open Validation

/-- A reader of which only the forms matter. -/
def shape {α : Type} (r : Reader α) : Reader Unit :=
  r.map fun _ => ()

/-- The payload of a batch. -/
def batch : Reader Command :=
  Command.batchReader (Command.stepReader Command.maxBatches)

/-- The kinds of payloads, each with the name that reports give it and its reader. -/
def kinds : List (String × Reader Unit) :=
  [("ContractModel", .shaped "ContractModel" []),
    ("CommandFilter", shape Filter.reader), ("CommandSort", shape SortKey.reader),
    ("QueryCommand", shape Query.reader), ("MutateCommand", shape Mutation.reader),
    ("BatchCommand", shape batch), ("RequestScope", shape Scope.reader),
    ("PseudoApiRequest", shape Request.reader), ("ExecutionTraceStep", Shape.traceEntry),
    ("ErrorDetail", Shape.errorDetail), ("PseudoApiResponse", Shape.response),
    ("TranslationOptions", shape TranslationOptions.reader),
    ("TranslationRequest", shape TranslationRequest.reader),
    ("TranslationError", shape TranslationError.reader),
    ("TranslationResult", shape Translation.reader), ("SimulationResult", Shape.simulation),
    ("ScenarioItem", shape Scenario.reader), ("ScenarioDefaults", shape ScenarioDefaults.reader),
    ("ScenarioRunRequest", shape ScenarioRequest.reader), ("ScenarioResult", Shape.scenarioResult),
    ("ScenarioRunResult", Shape.scenarioReport), ("PathAssertion", shape PathAssertion.reader),
    ("StepExpectation", shape Expectation.reader), ("StepCapture", shape Capture.reader),
    ("LifecycleStep", shape LifecycleStep.reader), ("LifecyclePhase", shape LifecyclePhase.reader),
    ("LifecycleDefaults", shape LifecycleDefaults.reader),
    ("LifecycleOptions", shape LifecycleOptions.reader),
    ("LifecycleRunRequest", shape LifecycleRequest.reader),
    ("LifecycleStepIssue", Shape.stepIssue), ("LifecycleStepResult", Shape.stepResult),
    ("LifecyclePhaseSummary", Shape.phaseSummary), ("LifecycleRunSummary", Shape.runSummary),
    ("LifecycleRunResult", Shape.runReport)]

/-- The name that reports give to a kind of payload. -/
def title (kind : String) : String :=
  if kind == "AgentCommand" then Command.title else kind

/-- The reader of a kind of payload. -/
def reader? (kind : String) : Option (Reader Unit) :=
  if kind == "AgentCommand" then some (shape Command.reader)
  else (kinds.find? fun k => k.1 == kind).map Prod.snd

end Tenancy.Contract
