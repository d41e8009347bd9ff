/-
# Preparing a step

Before a step can be carried out its tokens are resolved. A literal request is read again
from its resolved payload, under the merged scopes and never as a dry run of its own, and
what is live in the payload stays live in it; a prompt is resolved and translated. Whatever
goes wrong here is the error of the step.
-/

import Tenancy.Command.Live
import Tenancy.Lifecycle.Basic
import Tenancy.Template.Interpreter

namespace Tenancy

open Validation Template

/-- What preparing a step leads to. -/
structure Prepared where
  /-- The prompt with the tokens resolved. -/
  resolvedPrompt : Option String
  translation : Option Translation
  /-- The request to carry out. -/
  request : Option Request
  /-- What went wrong. -/
  error : Option String

namespace Prepared

/-- Nothing but an error. -/
def failed (message : String) : Prepared :=
  { resolvedPrompt := none, translation := none, request := none
    error := some (if message.isEmpty then "unknown_lifecycle_step_error" else message) }

/-- The fields that are not null. -/
def withoutNulls (fields : Named Live) : Named Live :=
  fields.filter fun f => !f.2.isNull

/-- The payload of a literal request for carrying it out: not a dry run of its own, and under
the scopes of the run, of the request and of the step, the later ones winning. -/
def literalPayload (defaultScope stepScope resolved : Named Live) : Live :=
  let own := withoutNulls (((resolved.get? "scope").map Live.fields).getD [])
  .object ((resolved.put "dryRun" (.plain (.bool false))).put "scope"
    (.object ((defaultScope.overlay own).overlay stepScope)))

/-- Prepare a literal request. It is read with what the variables hold now. -/
def literal (ids : IdSource) (defaultScope stepScope : Named Live) (given : Json) (t : Interpreter) :
    Prepared × Interpreter :=
  match t.interpolate ids given with
  | (.error e, t) => (failed e.message, t)
  | (.ok resolved, t) =>
      let payload := literalPayload defaultScope stepScope resolved.fields
      match Request.reader.run "PseudoApiRequest" (payload.fill t.vars.outline) with
      | .error report => (failed report.message, t)
      | .ok accepted =>
          ({ resolvedPrompt := none, translation := none
             request := some (accepted.value.livened payload), error := none }, t)

/-- Prepare a translation from what the translator answers. The request is never a dry run of
its own. -/
def ofTranslation (resolvedPrompt : String) (t : Translation) : Prepared :=
  match t.usable? with
  | some request =>
      { resolvedPrompt := some resolvedPrompt, translation := some t
        request := some { request with dryRun := some false }, error := none }
  | none =>
      { resolvedPrompt := some resolvedPrompt, translation := some t, request := none
        error := some t.failureMessage }

/-- Translate a resolved prompt under the given scope. -/
def translate (translator : Translator) (scope : Json) (prompt : String) : Prepared :=
  let broken (message : String) : Prepared := { failed message with resolvedPrompt := some prompt }
  match Scope.reader.run "RequestScope" scope with
  | .error report => broken report.message
  | .ok scope =>
      if prompt.isEmpty then
        broken (Report.message ⟨"TranslationRequest", [⟨[.name "input"], .textTooShort 1⟩]⟩)
      else
        match translator { input := prompt, dryRun := false, scope := scope.value, options := none } with
        | .error breakdown => broken breakdown.message
        | .ok t => ofTranslation prompt t

/-- Prepare a prompt. It stands on no level at all. -/
def prompt (ids : IdSource) (translator : Translator) (defaultScope stepScope : Named Live)
    (text : String) (t : Interpreter) : Prepared × Interpreter :=
  match t.interpolateText ids t.stack.search text with
  | (.error e, t) => (failed e.message, t)
  | (.ok resolved, t) =>
      match t.written t.stack.search resolved with
      | .error e => (failed e.message, t)
      | .ok prompt =>
          let scope := Live.object (defaultScope.overlay stepScope)
          (translate translator (scope.fill t.vars.outline) prompt.toMessage, t)

/-- Prepare a step. -/
def step (ids : IdSource) (translator : Translator) (defaultScope : Named Live) (s : LifecycleStep)
    (t : Interpreter) : Prepared × Interpreter :=
  match Interpreter.interpolateFields ids ((s.scope.map Scope.stated).getD []) t with
  | (.error e, t) => (failed e.message, t)
  | (.ok stepScope, t) =>
      match s.request with
      | some accepted => literal ids defaultScope stepScope (accepted.given.value .null) t
      | none => prompt ids translator defaultScope stepScope (s.prompt.getD "") t

end Prepared

end Tenancy
