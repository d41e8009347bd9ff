/-
# Scripted runs

A run is a list of phases, each a list of steps, under one transaction. A step is either a
prompt to translate or a literal request; either may contain tokens. The payload of a
literal request is kept as it was given, because tokens are resolved in it before it is
read again.
-/

import Tenancy.Expectation.Basic
import Tenancy.Translation.Basic

namespace Tenancy

open Validation

/-- One step of a run. -/
structure LifecycleStep where
  id : Option String
  name : String
  /-- What the step is about. -/
  description : Option String
  /-- The prompt to translate. -/
  prompt : Option String
  /-- The literal request. -/
  request : Option (Accepted Request)
  /-- Whether the request is carried out. -/
  execute : Bool
  /-- On whose behalf. -/
  scope : Option Scope
  /-- What the step has to do. -/
  expect : Option Expectation
  /-- The values to keep. -/
  captures : List Capture
  /-- Labels. -/
  tags : List String

/-- A phase of a run. -/
structure LifecyclePhase where
  id : Option String
  name : String
  /-- What the phase is about. -/
  description : Option String
  /-- Whether the phase goes on after a failed step. -/
  continueOnFailure : Bool
  steps : List LifecycleStep

/-- What holds for all phases. -/
structure LifecycleDefaults where
  /-- Whether everything is undone at the end. -/
  dryRun : Bool
  /-- On whose behalf. -/
  scope : Scope
  /-- Whether the run goes on after a failed step. -/
  continueOnFailure : Bool

/-- How a run is carried out. -/
structure LifecycleOptions where
  /-- Whether everything is undone after a failure. -/
  rollbackOnFailure : Bool
  /-- Whether results include translations, requests and responses. -/
  includeStepTrace : Bool
  /-- Whether every step has a savepoint of its own. -/
  stepSavepoints : Bool
  /-- The deadline in milliseconds. -/
  timeoutMs : Option Int
deriving DecidableEq, Repr

/-- A run to carry out. -/
structure LifecycleRequest where
  /-- What holds for all phases. -/
  defaults : LifecycleDefaults
  /-- The variables to start with. -/
  vars : Fields
  phases : List LifecyclePhase
  /-- How to carry it out. -/
  options : LifecycleOptions

/-- The rule that a step is either a prompt or a request. -/
def LifecycleStep.broken (s : LifecycleStep) : Option String :=
  if s.prompt.isSome == s.request.isSome then
    some "Lifecycle step must provide exactly one of prompt or request."
  else none

/-- The payload of a step. -/
def LifecycleStep.reader : Reader LifecycleStep :=
  .record "LifecycleStep" (LifecycleStep.mk <$> maybe "id" .word <*> need "name" .word
    <*> maybe "description" .text <*> maybe "prompt" .word
    <*> maybe "request" Request.reader.kept <*> flag "execute" true
    <*> maybe "scope" Scope.reader <*> maybe "expect" Expectation.reader
    <*> many "captures" Capture.reader <*> many "tags" .text) LifecycleStep.broken

/-- The payload of a phase. -/
def LifecyclePhase.reader : Reader LifecyclePhase :=
  .object "LifecyclePhase" (LifecyclePhase.mk <$> maybe "id" .word <*> need "name" .word
    <*> maybe "description" .text <*> flag "continueOnFailure" true
    <*> need "steps" LifecycleStep.reader.nonemptyList)

/-- The payload of the defaults. -/
def LifecycleDefaults.reader : Reader LifecycleDefaults :=
  .object "LifecycleDefaults" (LifecycleDefaults.mk <$> flag "dryRun" true <*> Scope.field
    <*> flag "continueOnFailure" true)

/-- The payload of the options. -/
def LifecycleOptions.reader : Reader LifecycleOptions :=
  .object "LifecycleOptions" (LifecycleOptions.mk <$> flag "rollbackOnFailure" false
    <*> flag "includeStepTrace" false <*> flag "stepSavepoints" true
    <*> maybe "timeoutMs" (.intAbove 0))

/-- The payload of a run. -/
def LifecycleRequest.reader : Reader LifecycleRequest :=
  .object "LifecycleRunRequest" (LifecycleRequest.mk
    <$> optionalObject "defaults" LifecycleDefaults.reader ⟨true, Scope.none, true⟩
    <*> (FieldName.camel "variables").orElse .fields [] (.object [])
    <*> need "phases" LifecyclePhase.reader.nonemptyList
    <*> optionalObject "options" LifecycleOptions.reader ⟨false, false, true, none⟩)

end Tenancy
