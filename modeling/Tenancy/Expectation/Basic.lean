/-
# Expectations

What a step of a scripted run declares it will do: succeed or fail, touch so many rows,
report a certain error, leave certain values at certain paths. A step may also capture
values for the steps after it.
-/

import Tenancy.Validation.Reader

namespace Tenancy

open Validation

/-- What has to hold of the value at a path. -/
structure PathAssertion where
  path : String
  /-- The value it has to be. Absent and null are different. -/
  equals : Option Json
  /-- Whether there has to be a value. -/
  existing : Option Bool
  /-- What the text of the value has to contain. -/
  contains : Option String

/-- The rule that an assertion asserts something. -/
def PathAssertion.broken (a : PathAssertion) : Option String :=
  if a.equals.isNone && a.existing.isNone && a.contains.isNone then
    some "Path assertion needs at least one check: equals, exists, or contains."
  else none

/-- The payload of an assertion. -/
def PathAssertion.reader : Reader PathAssertion :=
  .record "PathAssertion" (PathAssertion.mk <$> need "path" .word <*> stated "equals" .scalar
    <*> maybe "exists" .bool <*> maybe "contains" .word) PathAssertion.broken

/-- What a step has to do. Whatever is absent is not checked, except that a step has to
succeed unless it is said to fail. -/
structure Expectation where
  /-- Whether the step succeeds. -/
  success : Option Bool
  /-- The exact number of rows. -/
  rowCountEq : Option Int
  /-- The least number of rows. -/
  rowCountGte : Option Int
  /-- The greatest number of rows. -/
  rowCountLte : Option Int
  /-- What the error text has to contain. -/
  errorContains : Option (List String)
  /-- What has to hold of the values at paths. -/
  asserts : List PathAssertion

/-- The expectation that a step succeeds. -/
def Expectation.toSucceed : Expectation :=
  ⟨none, none, none, none, none, []⟩

/-- Whether the step has to succeed. -/
def Expectation.wantsSuccess (e : Expectation) : Bool :=
  e.success.getD true

/-- The payload of an expectation. -/
def Expectation.reader : Reader Expectation :=
  .object "StepExpectation" (Expectation.mk <$> maybe "success" .bool
    <*> maybe "rowCountEq" (.intFrom 0) <*> maybe "rowCountGte" (.intFrom 0)
    <*> maybe "rowCountLte" (.intFrom 0) <*> maybe "errorContains" .texts
    <*> many "asserts" PathAssertion.reader)

/-- Where a captured value is taken from. -/
inductive Source where
  | translation
  | request
  | response
  /-- The result inside the response. -/
  | result
  | error
deriving DecidableEq, Repr

/-- The word for a source. -/
def Source.word : Source → String
  | .translation => "translation"
  | .request => "request"
  | .response => "response"
  | .result => "result"
  | .error => "error"

/-- All sources, in the order in which messages list them. -/
def Source.all : List Source :=
  [.translation, .request, .response, .result, .error]

/-- A value to keep under a name. -/
structure Capture where
  /-- The name. -/
  key : String
  /-- Where the value is taken from. -/
  source : Source
  /-- The path of the value in its source. -/
  path : String
  /-- Whether the step fails without the value. -/
  required : Bool
  /-- The value to keep when there is none. Absent and null are different. -/
  default : Option Json

/-- The payload of a capture. -/
def Capture.reader : Reader Capture :=
  .object "StepCapture" (Capture.mk <$> need "key" .word
    <*> (⟨"from", "source"⟩ : FieldName).orElse (.oneOf (Source.all.map fun s => (s.word, s)))
      .response (.text "response")
    <*> need "path" .word <*> flag "required" true <*> stated "defaultValue" .any)

end Tenancy
