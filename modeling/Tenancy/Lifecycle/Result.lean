/-
# Results of scripted runs

What a run reports: how it ended, what every step did, which steps failed and why, and the
variables as they were left. What is live in a request or a response shows them as they were
left as well, and not as they were when it was carried out.
-/

import Tenancy.Command.Form
import Tenancy.Execution.Response
import Tenancy.Expectation.Classify
import Tenancy.Lifecycle.Basic

namespace Tenancy

/-- How a run ended, if it has. -/
inductive RunStatus where
  | running
  | rolledBack
  | committed
  | fatal
deriving DecidableEq, Repr

/-- The word for a status. -/
def RunStatus.word : RunStatus → String
  | .running => "running"
  | .rolledBack => "rolled_back"
  | .committed => "committed"
  | .fatal => "fatal"

/-- Where in a run a step stands. -/
structure StepPlace where
  phaseId : String
  phaseName : String
  stepId : String
  stepName : String
deriving DecidableEq, Repr

/-- What a step did. -/
structure StepResult where
  /-- Where it stands. -/
  place : StepPlace
  /-- When it ran. -/
  stamp : String
  prompt : Option String
  /-- Its prompt with the tokens resolved. -/
  resolvedPrompt : Option String
  /-- Its translation, if results include it. -/
  translation : Option Translation
  /-- Its request, if results include it. -/
  request : Option Request
  /-- Its response, if results include it. -/
  response : Option Response
  failures : List CheckFailure
  /-- The values it captured. -/
  captures : Fields
  /-- Whose fault its failure is, if it failed. -/
  classification : Option FailureClass
  error : Option String

namespace StepResult

/-- A step passes when no check fails. -/
def success (r : StepResult) : Bool :=
  r.failures.isEmpty

end StepResult

/-- The fields of a place. -/
def StepPlace.fields (p : StepPlace) : Named Form :=
  [("phaseId", .text p.phaseId), ("phaseName", .text p.phaseName), ("stepId", .text p.stepId),
    ("stepName", .text p.stepName)]

/-- The form of the result of a step. -/
def StepResult.form (r : StepResult) : Form :=
  .object (r.place.fields ++
    [("success", .bool r.success), ("state", .text (if r.success then "passed" else "failed")),
      ("startedAt", .text r.stamp), ("endedAt", .text r.stamp), ("durationMs", .int 0),
      ("prompt", .ofOption .text r.prompt), ("resolvedPrompt", .ofOption .text r.resolvedPrompt),
      ("translation", .ofOption Translation.form r.translation),
      ("request", .ofOption Request.form r.request),
      ("response", .ofOption Response.form r.response),
      ("expectationFailures", .texts (r.failures.map CheckFailure.message)),
      ("captures", .freeFields (Live.ofFields r.captures)),
      ("classification", .ofOption (fun c => .text (FailureClass.word c)) r.classification),
      ("error", .ofOption .text r.error)])

/-- A failed step in the list of issues. -/
structure StepIssue where
  /-- Where the step stands. -/
  place : StepPlace
  /-- Whose fault it is. -/
  classification : FailureClass
  /-- What to tell about it, in one line. -/
  message : String

/-- The form of an issue. -/
def StepIssue.form (i : StepIssue) : Form :=
  .object (i.place.fields ++
    [("classification", .text i.classification.word), ("message", .text i.message)])

/-- How a phase went. -/
structure PhaseSummary where
  phaseId : String
  phaseName : String
  /-- The number of its steps. -/
  totalSteps : Nat
  /-- The number of its steps that passed. -/
  passedSteps : Nat
  /-- The number of its steps that failed. -/
  failedSteps : Nat
deriving DecidableEq, Repr

/-- The form of the summary of a phase. -/
def PhaseSummary.form (s : PhaseSummary) : Form :=
  .object [("phaseId", .text s.phaseId), ("phaseName", .text s.phaseName),
    ("totalSteps", .count s.totalSteps), ("passedSteps", .count s.passedSteps),
    ("failedSteps", .count s.failedSteps)]

/-- What a run reports. -/
structure LifecycleResult where
  /-- How it ended. -/
  status : RunStatus
  /-- Whether everything was to be undone. -/
  dryRun : Bool
  /-- When it ran. -/
  stamp : String
  /-- The number of phases that were asked for. -/
  totalPhases : Nat
  /-- How the phases went. -/
  phaseSummaries : List PhaseSummary
  /-- What the steps did. -/
  steps : List StepResult
  /-- The steps that failed. -/
  issues : List StepIssue
  /-- The variables as they were left. -/
  vars : Bag
  /-- Remarks. -/
  warnings : List String
  /-- Why the run broke down, if it did. -/
  fatalError : Option String

/-- The number of failed steps. -/
def failedSteps (steps : List StepResult) : Nat :=
  steps.countP fun s => !s.success

namespace LifecycleResult

/-- A run succeeds when it did not break down and no step failed. -/
def success (r : LifecycleResult) : Bool :=
  r.fatalError.isNone && failedSteps r.steps == 0

/-- Whether what the run did is permanent. -/
def persisted (r : LifecycleResult) : Bool :=
  r.status == .committed

/-- The form of the counts of a run. -/
def summary (r : LifecycleResult) : Form :=
  .object [("totalPhases", .count r.totalPhases), ("totalSteps", .count r.steps.length),
    ("passedSteps", .count (r.steps.length - failedSteps r.steps)),
    ("failedSteps", .count (failedSteps r.steps))]

/-- The form of the report of a run. -/
def form (r : LifecycleResult) : Form :=
  .object [("success", .bool r.success), ("status", .text r.status.word), ("dryRun", .bool r.dryRun),
    ("persisted", .bool r.persisted), ("startedAt", .text r.stamp), ("endedAt", .text r.stamp),
    ("durationMs", .int 0), ("summary", r.summary),
    ("phaseSummaries", .list (r.phaseSummaries.map PhaseSummary.form)),
    ("steps", .list (r.steps.map StepResult.form)),
    ("issues", .list (r.issues.map StepIssue.form)), ("variables", .freeFields r.vars),
    ("warnings", .texts r.warnings), ("fatalError", .ofOption .text r.fatalError)]

end LifecycleResult

end Tenancy
