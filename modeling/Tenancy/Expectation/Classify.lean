/-
# Whose fault a failure is

A failed step belongs to one of four classes. A broken expectation comes first, unless the
step broke down when it was expected to succeed and nothing but that and its captures
failed; then the error decides: a translation, name or tenant problem is the script's
fault, a violated constraint is the schema's, and the rest is a plain execution error.
-/

import Tenancy.Command.Refusal
import Tenancy.Expectation.Evaluate

namespace Tenancy

/-- The classes of failures. -/
inductive FailureClass where
  | scenarioContract
  | schemaConstraint
  | expectationMismatch
  | executionError
deriving DecidableEq, Repr

/-- The word for a class of failures. -/
def FailureClass.word : FailureClass → String
  | .scenarioContract => "scenario_contract"
  | .schemaConstraint => "schema_constraint"
  | .expectationMismatch => "expectation_mismatch"
  | .executionError => "execution_error"

namespace Classification

open Text

/-- Whether a text starts with the word for a table or a column. -/
def startsWithObject (cs : List Char) : Bool :=
  (afterWord? "table".toList cs).isSome || (afterWord? "column".toList cs).isSome

/-- Whether a text starts by saying that a table or column is unknown, with at most one word
in between. -/
def startsWithUnknown (cs : List Char) : Bool :=
  match (afterWord? "unknown".toList cs).bind afterBlanks? with
  | none => false
  | some rest =>
      startsWithObject rest ||
        (!(rest.takeWhile isWord).isEmpty &&
          match afterBlanks? (rest.dropWhile isWord) with
          | some rest => startsWithObject rest
          | none => false)

/-- Whether an error text speaks of an unknown name, an unsafe command, a tenant or a token. -/
def speaksOfContract (text : List Char) : Bool :=
  anySuffix startsWithUnknown text ||
    ["unsafe", "tenant", "unresolved template token"].any (mentions text)

/-- Whether an error text speaks of a violated constraint. -/
def speaksOfConstraint (text : List Char) : Bool :=
  ["violates", "constraint", "not-null", "check", "foreign key", "duplicate key"].any (mentions text)

/-- Whether a failure is a check other than the one the step's own error explains. -/
def isMismatch (succeeded brokeUnexpectedly : Bool) : CheckFailure → Bool
  | .success .. => succeeded
  | .capture .. => !brokeUnexpectedly
  | _ => true

/-- Whether a step broke down although it was expected to succeed, or the other way round. -/
def hasSuccessFailure (failures : List CheckFailure) : Bool :=
  failures.any fun f => f.check == "success"

/-- Whether some check failed that the step's own error does not explain. -/
def hasMismatch (failures : List CheckFailure) (succeeded : Bool) : Bool :=
  failures.any (isMismatch succeeded (!succeeded && hasSuccessFailure failures))

/-- Whether a code is one of those that refused commands have. -/
def isRefusalCode : Json → Except Obstacle Bool
  | .list _ | .object _ => .error .noCode
  | code => .ok ((RefusalKind.all.map RefusalKind.code).any fun known => code.text? == some known)

/-- The class that an error message gives a failure. -/
def ofMessage : Json → Except Obstacle FailureClass
  | .text s =>
      if speaksOfContract s.toList then .ok .scenarioContract
      else if speaksOfConstraint s.toList then .ok .schemaConstraint
      else .ok .executionError
  | _ => .error .unsearchable

/-- The class of a failed step. -/
def classify (failures : List CheckFailure) (c : StepContext) : Except Obstacle FailureClass := do
  if hasMismatch failures (← c.succeeded) then pure .expectationMismatch
  else if ← c.untranslated then pure .scenarioContract
  else if ← isRefusalCode (← c.errorCode) then pure .scenarioContract
  else ofMessage (← c.errorMessage)

end Classification

end Tenancy
