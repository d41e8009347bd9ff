/-
# Carrying out scripted runs

A run opens one connection and one transaction, takes its phases and steps in order, and
then makes the transaction permanent or undoes it. A step that fails is reported and does
not stop the run unless the script says so. A fault outside any statement, a deadline that
passes, a step that cannot be judged or something that cannot be written down stops the run
for good. The first such fault is the one that is reported.
-/

import Tenancy.Execution.Execute
import Tenancy.Lifecycle.Prepare
import Tenancy.Lifecycle.Result

namespace Tenancy

open Template

/-- The remark on a run whose effects were undone because it was a dry run. -/
def lifecycleDryRunWarning : String :=
  "Lifecycle executed in dry-run mode; transaction rolled back."

/-- The remark on a run whose effects were undone because a step failed. -/
def rollbackOnFailureWarning : String :=
  "Lifecycle failed and rollbackOnFailure=true; transaction rolled back."

/-- The parts a run works with. -/
structure Lifecycle (σ : Type) where
  database : Database σ
  /-- How commands are compiled. -/
  compiler : Compiler
  /-- How prompts are translated. -/
  translator : Translator
  /-- Where ids come from. -/
  ids : IdSource
  /-- The time of the run. -/
  now : Instant
  /-- How deep values are gone through for tokens. -/
  [stack : Stack]

/-- The state of a run. -/
structure RunState (σ : Type) where
  /-- The session with the database. -/
  session : Session σ
  /-- The tokens resolved so far, and the variables. -/
  interpreter : Interpreter
  /-- The scope of the run with the tokens resolved. -/
  defaultScope : Named Live
  /-- The results of the steps so far. -/
  steps : List StepResult
  /-- The summaries of the phases so far. -/
  phaseSummaries : List PhaseSummary
  /-- The failed steps so far. -/
  issues : List StepIssue

/-- What a step has left to say about itself in the list of issues: its first failed check, or
the first line of its error when the error is what counts. -/
def StepResult.issueMessage (r : StepResult) : String :=
  let first := match r.failures with
    | f :: _ => f.message
    | [] =>
        match r.error with
        | some e => if e.isEmpty then "lifecycle_step_failed" else e
        | none => "lifecycle_step_failed"
  match r.error with
  | some e =>
      if r.classification != some .expectationMismatch && !e.isEmpty then
        String.ofList (Text.firstLine e.toList)
      else first
  | none => first

/-- The issue of a failed step. -/
def StepResult.issue (r : StepResult) : StepIssue :=
  { place := r.place, classification := r.classification.getD .executionError
    message := r.issueMessage }

namespace Lifecycle

variable {σ : Type} (l : Lifecycle σ)

/-- Carry out the request of a step, inside a savepoint of its own if wanted. The savepoint is
kept when the request succeeds and undone when it fails. -/
def executeStep (useSavepoint : Bool) (vars : Bag) (r : Request) (id : String) (session : Session σ) :
    Ending Response × Session σ :=
  let compiler := { l.compiler with vars }
  if useSavepoint then
    match session.perform l.database .savepoint with
    | (.raised f, session) => (.raised f, session)
    | (.hung, session) => (.hung, session)
    | (.returned _, session) =>
        match Execution.executeInTransaction l.database compiler r id session with
        | (.raised f, session) => (.raised f, session)
        | (.hung, session) => (.hung, session)
        | (.returned response, session) =>
            match session.perform l.database (if response.success then .release else .rollbackTo) with
            | (.raised f, session) => (.raised f, session)
            | (.hung, session) => (.hung, session)
            | (.returned _, session) => (.returned response, session)
  else Execution.executeInTransaction l.database compiler r id session

/-- Carry out what was prepared, if there is anything to carry out. Live values are bound as the
variables are. -/
def carryOut (useSavepoint execute : Bool) (p : Prepared) (state : RunState σ) :
    Ending (Option Response) × RunState σ :=
  match p.error, p.request with
  | none, some r =>
      if execute then
        let (id, issued) := l.ids.ofRequest r state.interpreter.issued
        let state := { state with interpreter := { state.interpreter with issued } }
        match l.executeStep useSavepoint state.interpreter.vars r id state.session with
        | (.returned response, session) => (.returned (some response), { state with session })
        | (.raised f, session) => (.raised f, { state with session })
        | (.hung, session) => (.hung, { state with session })
      else (.returned none, state)
  | _, _ => (.returned none, state)

/-- The error of a step: what went wrong in preparing it, or what its response reports. -/
def stepError (p : Prepared) (response : Option Response) : Option String :=
  match p.error with
  | some e => some e
  | none => (response.bind Response.error?).map ErrorDetail.message

/-- The prompt a step is judged with: the resolved one if it says anything. -/
def shownPrompt (p : Prepared) (s : LifecycleStep) : Option String :=
  match p.resolvedPrompt with
  | some text => if text.isEmpty then s.prompt else some text
  | none => s.prompt

/-- What is known about a step that has run, before anything is captured. Its translation, its
request and its response have to be writable. -/
def context (p : Prepared) (s : LifecycleStep) (response : Option Response) (vars : Bag) :
    Except Unwritable StepContext := do
  let translation ← (Form.ofOption Translation.form p.translation).write vars
  let request ← (Form.ofOption Request.form p.request).write vars
  let answer ← (Form.ofOption Response.form response).write vars
  pure
    { prompt := .ofOption .text (shownPrompt p s), translation, request, response := answer
      error := .ofOption .text (stepError p response), captures := .object [], varsRoot := .bag, vars }

/-- The verdict on a step: the checks that failed, and the class of the failure if there is
one. -/
def verdict (s : LifecycleStep) (captured : Captured) (c : StepContext) :
    Except Obstacle (List CheckFailure × Option FailureClass) := do
  let failed ← (s.expect.getD .toSucceed).evaluate c
  let failures := failed ++ captured.failures
  if failures.isEmpty then pure (failures, none)
  else pure (failures, some (← Classification.classify failures c))

/-- Judge a step that has run: take its captures, hold it against its expectation, and find the
class of its failure. -/
def judge (place : StepPlace) (includeTrace : Bool) (p : Prepared) (s : LifecycleStep)
    (response : Option Response) (state : RunState σ) : Ending StepResult × RunState σ :=
  match context p s response state.interpreter.vars with
  | .error u => (.raised (.other u.message), state)
  | .ok before =>
      let (captured, stopped) := Captured.takeAll before s.captures
      let vars := state.interpreter.vars.overlay (Live.ofFields captured.values)
      let state := { state with interpreter := { state.interpreter with vars } }
      match stopped, verdict s captured { before with captures := .object captured.values, vars } with
      | some o, _ => (.raised (.other o.message), state)
      | none, .error o => (.raised (.other o.message), state)
      | none, .ok (failures, classification) =>
          (.returned
            { place, stamp := l.now.stamp, prompt := s.prompt, resolvedPrompt := p.resolvedPrompt
              translation := if includeTrace then p.translation else none
              request := if includeTrace then p.request else none
              response := if includeTrace then response else none
              failures, captures := captured.values, classification
              error := stepError p response }, state)

/-- Run one step. -/
def runStep (options : LifecycleOptions) (place : StepPlace) (s : LifecycleStep) (state : RunState σ) :
    Ending StepResult × RunState σ :=
  let (p, interpreter) := Prepared.step l.ids l.translator state.defaultScope s state.interpreter
  let state := { state with interpreter }
  match l.carryOut options.stepSavepoints s.execute p state with
    | (.raised f, state) => (.raised f, state)
    | (.hung, state) => (.hung, state)
    | (.returned response, state) => l.judge place options.includeStepTrace p s response state

/-- Record the result of a step, and its issue if it failed. -/
def record (r : StepResult) (state : RunState σ) : RunState σ :=
  { state with
    steps := state.steps ++ [r]
    issues := if r.success then state.issues else state.issues ++ [r.issue] }

/-- How the steps of a phase went. -/
structure Tally where
  /-- The number of steps that passed. -/
  passed : Nat
  /-- The number of steps that failed. -/
  failed : Nat
  /-- Whether the run stops here. -/
  stop : Bool

/-- The place of a step in its phase. -/
def place (phaseId : String) (phase : LifecyclePhase) (index : Nat) (s : LifecycleStep) : StepPlace :=
  { phaseId, phaseName := phase.name
    stepId := s.id.getD (phaseId ++ "-step-" ++ toString (index + 1)), stepName := s.name }

/-- Run the steps of a phase, of which the first has the given index. -/
def runSteps (request : LifecycleRequest) (phase : LifecyclePhase) (phaseId : String) :
    Nat → List LifecycleStep → Tally → RunState σ → Ending Tally × RunState σ
  | _, [], tally, state => (.returned tally, state)
  | index, s :: rest, tally, state =>
      match l.runStep request.options (place phaseId phase index s) s state with
      | (.raised f, state) => (.raised f, state)
      | (.hung, state) => (.hung, state)
      | (.returned r, state) =>
          let state := record r state
          if r.success then
            runSteps request phase phaseId (index + 1) rest { tally with passed := tally.passed + 1 } state
          else
            let tally := { tally with failed := tally.failed + 1 }
            if !request.defaults.continueOnFailure then (.returned { tally with stop := true }, state)
            else if !phase.continueOnFailure then (.returned tally, state)
            else runSteps request phase phaseId (index + 1) rest tally state

/-- Record how the steps of a phase went. -/
def summarise (phaseId : String) (phase : LifecyclePhase) (tally : Tally) (state : RunState σ) :
    RunState σ :=
  { state with
    phaseSummaries := state.phaseSummaries ++
      [{ phaseId, phaseName := phase.name, totalSteps := phase.steps.length
         passedSteps := tally.passed, failedSteps := tally.failed }] }

/-- Run phases, of which the first has the given index. -/
def runPhases (request : LifecycleRequest) :
    Nat → List LifecyclePhase → RunState σ → Ending Unit × RunState σ
  | _, [], state => (.returned (), state)
  | index, phase :: rest, state =>
      let phaseId := phase.id.getD ("phase-" ++ toString (index + 1))
      match l.runSteps request phase phaseId 0 phase.steps ⟨0, 0, false⟩ state with
      | (.raised f, state) => (.raised f, state)
      | (.hung, state) => (.hung, state)
      | (.returned tally, state) =>
          let state := summarise phaseId phase tally state
          if tally.stop then (.returned (), state) else runPhases request (index + 1) rest state

/-! ## The transaction -/

/-- What to tell about a fault that ends a run. -/
def fatalText (f : Fault) : String :=
  if f.text.isEmpty then "unknown_lifecycle_run_error" else f.text

/-- What to tell about a deadline. -/
def deadlineText (timeoutMs : Option Int) : String :=
  "Lifecycle run exceeded its deadline of " ++ (Json.ofOption .int timeoutMs).display ++ " ms."

/-- What to tell about a deadline that is too far away to be waited for. -/
def unreachableDeadlineText : String :=
  "integer division result too large for a float"

/-- Whether a deadline, counted in seconds, is a finite number. -/
def isReachable (timeoutMs : Option Int) : Bool :=
  match timeoutMs with
  | some ms => (Binary64.ofRatio (ms < 0) ms.natAbs 1000).isFinite
  | none => true

/-- What to tell about a fault in the phases of a run. -/
def phaseFaultText (timeoutMs : Option Int) : Fault → String
  | .timeout _ => deadlineText timeoutMs
  | f => fatalText f

/-- How the transaction of a run ended. -/
inductive RunEnd where
  /-- It was made permanent or undone as it should be. -/
  | finished (status : RunStatus) (warnings : List String)
  /-- A fault in its phases ended the run. -/
  | brokeDown (message : String)
  /-- Starting or finishing it failed. -/
  | interrupted (message : String)

namespace RunEnd

/-- The status of the run. Only finishing its transaction changes the one it started with. -/
def status : RunEnd → RunStatus
  | .finished status _ => status
  | _ => .running

/-- Why the run broke down, if it did. -/
def fatal? : RunEnd → Option String
  | .finished .. => none
  | .brokeDown message => some message
  | .interrupted message => some message

/-- The remarks. -/
def warnings : RunEnd → List String
  | .finished _ warnings => warnings
  | _ => []

end RunEnd

/-- Undo the transaction of a run that broke down. Whether this succeeds is not reported. -/
def abandon (message : String) (state : RunState σ) : Ending RunEnd × RunState σ :=
  match state.session.perform l.database .rollback with
  | (.hung, session) => (.hung, { state with session })
  | (_, session) => (.returned (.brokeDown message), { state with session })

/-- Whether a run is undone although its phases came to their end: in a dry run, and after a
failed step if the options say so. -/
def isUndone (request : LifecycleRequest) (steps : List StepResult) : Bool :=
  request.defaults.dryRun || (0 < failedSteps steps && request.options.rollbackOnFailure)

/-- The event that finishes a run whose phases came to their end. -/
def finishing (request : LifecycleRequest) (steps : List StepResult) : Event :=
  if isUndone request steps then .rollback else .commit

/-- How a run ends that could be finished. -/
def finished (request : LifecycleRequest) (steps : List StepResult) : RunEnd :=
  if isUndone request steps then
    .finished .rolledBack
      [if request.defaults.dryRun then lifecycleDryRunWarning else rollbackOnFailureWarning]
  else .finished .committed []

/-- Finish the transaction of a run whose phases came to their end: undo it or make it
permanent. -/
def conclude (request : LifecycleRequest) (state : RunState σ) : Ending RunEnd × RunState σ :=
  match state.session.perform l.database (finishing request state.steps) with
  | (.hung, session) => (.hung, { state with session })
  | (.raised f, session) => (.returned (.interrupted (fatalText f)), { state with session })
  | (.returned _, session) => (.returned (finished request state.steps), { state with session })

/-- What becomes of the phases of a run. -/
inductive LoopEnd where
  /-- They come to their end, whatever their steps report. -/
  | ended
  /-- A fault or the deadline breaks them off. -/
  | brokenOff (message : String)
  /-- The database never answers, and there is no deadline. -/
  | waiting

/-- Run all phases within the deadline. Only a deadline ends a run whose database never answers;
a deadline that cannot be waited for breaks it off before the first phase. -/
def runLoop (request : LifecycleRequest) (state : RunState σ) : LoopEnd × RunState σ :=
  let timeoutMs := request.options.timeoutMs
  if !isReachable timeoutMs then (.brokenOff unreachableDeadlineText, state)
  else match l.runPhases request 0 request.phases state with
    | (.returned _, state) => (.ended, state)
    | (.raised f, state) => (.brokenOff (phaseFaultText timeoutMs f), state)
    | (.hung, state) =>
        (if timeoutMs.isSome then .brokenOff (deadlineText timeoutMs) else .waiting, state)

/-- Start a transaction on an open connection, run the phases in it and finish it. -/
def runTransaction (request : LifecycleRequest) (state : RunState σ) : Ending RunEnd × RunState σ :=
  match state.session.perform l.database .begin with
  | (.hung, session) => (.hung, { state with session })
  | (.raised f, session) => (.returned (.interrupted (fatalText f)), { state with session })
  | (.returned _, session) =>
      match l.runLoop request { state with session } with
      | (.ended, state) => l.conclude request state
      | (.brokenOff message, state) => l.abandon message state
      | (.waiting, state) => (.hung, state)

/-- How a run ends when closing its connection fails: a fault of its phases is still what is
reported, and anything else gives way to the failure to close. -/
def closeFailed (f : Fault) : RunEnd → Option String × List String
  | .brokeDown message => (some message, [])
  | done => (some (fatalText f), done.warnings)

/-- The report of a run. -/
def report (request : LifecycleRequest) (state : RunState σ) (status : RunStatus)
    (fatalError : Option String) (warnings : List String) : LifecycleResult :=
  { status := if fatalError.isSome then .fatal else status
    dryRun := request.defaults.dryRun, stamp := l.now.stamp, totalPhases := request.phases.length
    phaseSummaries := state.phaseSummaries, steps := state.steps, issues := state.issues
    vars := state.interpreter.vars, warnings, fatalError }

/-- Run the phases on a connection of their own. -/
def runConnected (request : LifecycleRequest) (state : RunState σ) :
    Ending LifecycleResult × RunState σ :=
  match state.session.perform l.database .connect with
  | (.hung, session) => (.hung, { state with session })
  | (.raised f, session) =>
      let state := { state with session }
      (.returned (l.report request state .running (some (fatalText f)) []), state)
  | (.returned _, session) =>
      match l.runTransaction request { state with session } with
      | (.raised f, state) => (.raised f, state)
      | (.hung, state) => (.hung, state)
      | (.returned done, state) =>
          match state.session.perform l.database .close with
          | (.hung, session) => (.hung, { state with session })
          | (.returned _, session) =>
              let state := { state with session }
              (.returned (l.report request state done.status done.fatal? done.warnings), state)
          | (.raised f, session) =>
              let state := { state with session }
              let (fatalError, warnings) := closeFailed f done
              (.returned (l.report request state done.status fatalError warnings), state)

/-! ## The whole run -/

/-- The variables every run starts with. -/
def seedVariables (runId : String) (now : Instant) : Bag :=
  Live.ofFields [("runId", .text runId), ("runStartedAt", .text now.stamp)]

/-- The state a run starts in: one id is used for the run itself. -/
def initial (session : Session σ) : RunState σ :=
  { session
    interpreter :=
      { vars := seedVariables (IdSource.grouped (l.ids 1)) l.now, memo := [], issued := 1, now := l.now
        stack := l.stack }
    defaultScope := [], steps := [], phaseSummaries := [], issues := [] }

/-- Resolve the tokens in the variables a run is given, and then those in its scope. The
variables are taken over before the scope is looked at. -/
def seed (request : LifecycleRequest) (state : RunState σ) : Except Failure Unit × RunState σ :=
  match Interpreter.interpolateFields l.ids request.vars state.interpreter with
  | (.error e, interpreter) => (.error e, { state with interpreter })
  | (.ok vars, interpreter) =>
      let interpreter :=
        { interpreter with vars := interpreter.vars.overlay vars }
      match Interpreter.interpolateFields l.ids request.defaults.scope.stated interpreter with
      | (.error e, interpreter) => (.error e, { state with interpreter })
      | (.ok defaultScope, interpreter) => (.ok (), { state with interpreter, defaultScope })

/-- Carry out a run, from its variables to the closing of its connection. -/
def complete (request : LifecycleRequest) (session : Session σ) :
    Ending LifecycleResult × RunState σ :=
  match l.seed request (l.initial session) with
  | (.error e, state) =>
      (.returned (l.report request state .running (some ("Failed to seed run variables: " ++ e.message)) []),
        state)
  | (.ok _, state) => l.runConnected request state

/-- Carry out a run. What was live in it shows the variables as they were left. -/
def run (request : LifecycleRequest) (session : Session σ) : Ending LifecycleResult × Session σ :=
  let (ending, state) := l.complete request session
  (ending, state.session.settled state.interpreter.vars)

end Lifecycle

end Tenancy
