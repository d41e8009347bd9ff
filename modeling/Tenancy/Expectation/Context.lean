/-
# What is known about a step

Once a step has run, its prompt, translation, request, response and error are at hand as
JSON values, each null when it does not exist. Success, the error text and the number of
rows are read off them. The values need not have the shape that a run gives them, and then
there may be nothing to be read.
-/

import Tenancy.Expectation.Basic
import Tenancy.Json.Form
import Tenancy.Json.Printer

namespace Tenancy

/-- Why a step cannot be judged. -/
inductive Obstacle where
  /-- A path has an index that is too long. -/
  | oversizedIndex (e : OversizedIndex)
  /-- A value that has to be shown has no end. -/
  | endless
  /-- Something has to have fields and has none. -/
  | fieldless
  /-- Something has to be searched and cannot be. -/
  | unsearchable
  /-- An array or object stands where a code should be. -/
  | noCode
deriving DecidableEq, Repr

/-- What to tell about a step that cannot be judged. -/
def Obstacle.message : Obstacle → String
  | .oversizedIndex e => e.message
  | .endless => Unwritable.endless.message
  | .fieldless => "A value without fields was asked for a field"
  | .unsearchable => "A value that is neither a text nor a collection was searched"
  | .noCode => "A collection was given as an error code"

/-- Everything known about a step. -/
structure StepContext where
  prompt : Json
  translation : Json
  request : Json
  response : Json
  error : Json
  /-- The values captured by this step. -/
  captures : Json
  /-- What stands for the variables in the paths of assertions. -/
  varsRoot : Live
  /-- The variables of the run, which live values refer to. -/
  vars : Bag

namespace StepContext

/-- A field of a value, null when there is none. What counts as false has no fields. -/
def part (j : Json) (name : String) : Except Obstacle Json :=
  match j with
  | .object fields => .ok ((Named.get? fields name).getD .null)
  | j => if j.truthy then .error .fieldless else .ok .null

/-- Whether a translation or response says that it succeeded. -/
def saysSuccess (j : Json) : Except Obstacle Bool :=
  match j with
  | .object fields => .ok ((Named.get? fields "success").getD .null).truthy
  | _ => .error .fieldless

/-- The result inside the response. -/
def result (c : StepContext) : Except Obstacle Json :=
  part c.response "result"

/-- Whether there is a translation that failed. -/
def untranslated (c : StepContext) : Except Obstacle Bool :=
  if c.translation.isNull then .ok false else (saysSuccess c.translation).map not

/-- Whether the step succeeded: by its response if there is one, otherwise unless the
translation failed or there is an error. -/
def succeeded (c : StepContext) : Except Obstacle Bool :=
  if c.response.isNull then c.untranslated.map fun failed => !failed && c.error.isNull
  else saysSuccess c.response

/-- The message of the error inside a value. -/
def messageIn (j : Json) : Except Obstacle Json := do
  part (← part j "error") "message"

/-- The most specific error message that says anything: of the response, of the translation, or
of the step. -/
def errorMessage (c : StepContext) : Except Obstacle Json := do
  let responded ← messageIn c.response
  if responded.truthy then pure responded
  else
    let translated ← messageIn c.translation
    pure (if translated.truthy then translated else .text c.error.toMessage)

/-- The code of the error inside the response. -/
def errorCode (c : StepContext) : Except Obstacle Json := do
  part (← part c.response "error") "code"

/-- The number of rows as the result states it. -/
def statedRowCount (c : StepContext) : Except Obstacle Json :=
  c.result.map fun result =>
    match result.field? "rowCount" with
    | some (.int n) => .int n
    | some (.bool b) => .bool b
    | _ => .null

/-- The value that a source of captures stands for. -/
def source (c : StepContext) : Source → Except Obstacle Json
  | .translation => .ok c.translation
  | .request => .ok c.request
  | .response => .ok c.response
  | .result => c.result
  | .error => .ok c.error

/-- The value that the paths of assertions lead through. -/
def root (c : StepContext) : Except Obstacle Live :=
  c.result.map fun result =>
    .object [("prompt", .plain c.prompt), ("translation", .plain c.translation),
      ("request", .plain c.request), ("response", .plain c.response), ("result", .plain result),
      ("error", .plain c.error), ("captures", .plain c.captures), ("variables", c.varsRoot)]

end StepContext

end Tenancy
