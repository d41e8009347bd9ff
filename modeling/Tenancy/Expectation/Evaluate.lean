/-
# Judging a step

A step is held against its expectation check by check, and every check that fails is
reported on its own. Captures are taken before that; what they find goes into the variables
at once. The judgement itself stops only where something cannot be read at all.
-/

import Tenancy.Expectation.Context
import Tenancy.Json.Display
import Tenancy.Json.Search

namespace Tenancy

/-- A check that failed. -/
inductive CheckFailure where
  /-- Success where failure was expected, or the other way round. -/
  | success (expected actual : Bool)
  /-- Another number of rows. -/
  | rowCountEq (expected : Int) (actual : Json)
  /-- Too few rows. -/
  | rowCountGte (expected : Int) (actual : Json)
  /-- Too many rows. -/
  | rowCountLte (expected : Int) (actual : Json)
  /-- An error message without what it has to contain. -/
  | errorContains (needle : String) (message : Json)
  /-- A value where there should be none, or none where there should be one. -/
  | existing (path : String) (expected actual : Bool)
  /-- Another value. -/
  | equals (path : String) (expected actual : Json)
  /-- A value whose text lacks what it has to contain. -/
  | contains (path needle text : String)
  /-- A capture without a value. -/
  | capture (key : String) (source : Source) (path : String)

namespace CheckFailure

/-- A truth value in a message. -/
def truth (b : Bool) : String :=
  if b then "true" else "false"

/-- The kind of check that failed. -/
def check : CheckFailure → String
  | .success .. => "success"
  | .rowCountEq .. | .rowCountGte .. | .rowCountLte .. => "row_count"
  | .errorContains .. => "error_contains"
  | .existing .. | .equals .. | .contains .. => "assert"
  | .capture .. => "capture"

/-- What to tell about a check that failed. -/
def message : CheckFailure → String
  | .success expected actual =>
      "Expected success=" ++ truth expected ++ " but got success=" ++ truth actual ++ "."
  | .rowCountEq n actual => "Expected rowCount=" ++ toString n ++ " but got " ++ actual.display ++ "."
  | .rowCountGte n actual =>
      "Expected rowCount >= " ++ toString n ++ " but got " ++ actual.display ++ "."
  | .rowCountLte n actual =>
      "Expected rowCount <= " ++ toString n ++ " but got " ++ actual.display ++ "."
  | .errorContains needle message =>
      "Expected error to include \"" ++ needle ++ "\" but got \"" ++ message.display ++ "\"."
  | .existing path expected actual =>
      "Assert path \"" ++ path ++ "\" exists expected " ++ truth expected ++ " but got " ++
        truth actual ++ "."
  | .equals path expected actual =>
      "Assert path \"" ++ path ++ "\" equals " ++ expected.toMessage ++ " but got " ++
        actual.toMessage ++ "."
  | .contains path needle text =>
      "Assert path \"" ++ path ++ "\" should contain \"" ++ needle ++ "\" but got \"" ++ text ++ "\"."
  | .capture key source path =>
      "Capture \"" ++ key ++ "\" from " ++ source.word ++ "." ++ path ++ " could not be resolved."

end CheckFailure

/-- Whether a value is what a scalar or null asks for. Truth values are only equal to truth
values, numbers are compared by value, and everything else has to be of one kind. -/
def Json.strictlyEquals : Json → Json → Bool
  | .bool a, .bool b => a == b
  | .int a, .int b => a == b
  | .int a, .float b => b.equalsInt a
  | .float a, .int b => a.equalsInt b
  | .float a, .float b => a.sameNumber b
  | .text a, .text b => a == b
  | .null, .null => true
  | _, _ => false

namespace Expectation

/-- The check of success. -/
def successFailures (e : Expectation) (succeeded : Bool) : List CheckFailure :=
  if succeeded == e.wantsSuccess then [] else [.success e.wantsSuccess succeeded]

/-- A number of rows as a number, a truth value counting as zero or one. -/
def rowCount? : Json → Option Int
  | .int n => some n
  | .bool b => some (if b then 1 else 0)
  | _ => none

/-- The check of one bound on the number of rows: a number of rows has to be known and to
satisfy the bound. -/
def boundFailure (bound : Option Int) (ok : Int → Int → Bool) (failure : Int → Json → CheckFailure)
    (stated : Json) : List CheckFailure :=
  match bound with
  | none => []
  | some n =>
      match rowCount? stated with
      | some found => if ok found n then [] else [failure n stated]
      | none => [failure n stated]

/-- The checks of the number of rows. -/
def rowCountFailures (e : Expectation) (stated : Json) : List CheckFailure :=
  boundFailure e.rowCountEq (fun found n => found == n) .rowCountEq stated ++
    boundFailure e.rowCountGte (fun found n => decide (n ≤ found)) .rowCountGte stated ++
    boundFailure e.rowCountLte (fun found n => decide (found ≤ n)) .rowCountLte stated

/-- The checks of the error message, in order. -/
def errorFailures (message : Json) : List String → Except Obstacle (List CheckFailure)
  | [] => .ok []
  | needle :: rest =>
      match message.includes? needle with
      | none => .error .unsearchable
      | some found =>
          (errorFailures message rest).map fun later =>
            if found then later else .errorContains needle message :: later

/-- What a value at a path looks like in a message. -/
def shown (vars : Bag) (actual : Live) : Except Obstacle Json :=
  match actual.now? vars with
  | some j => .ok j
  | none => .error .endless

/-- The check that there is a value. -/
def existenceFailures (a : PathAssertion) (actual : Live) : List CheckFailure :=
  match a.existing with
  | some expected =>
      if (!actual.isNull) == expected then [] else [.existing a.path expected (!actual.isNull)]
  | none => []

/-- The check of a value. Only a value that does not refer to the variables can be a scalar. -/
def equalityFailures (a : PathAssertion) (vars : Bag) (actual : Live) :
    Except Obstacle (List CheckFailure) :=
  match a.equals, actual with
  | none, _ => .ok []
  | some expected, .plain j => .ok (if j.strictlyEquals expected then [] else [.equals a.path expected j])
  | some expected, actual => (shown vars actual).map fun j => [.equals a.path expected j]

/-- The check of the text of a value. -/
def textFailures (a : PathAssertion) (vars : Bag) (actual : Live) :
    Except Obstacle (List CheckFailure) :=
  match a.contains with
  | none => .ok []
  | some needle => (shown vars actual).map fun j =>
      if Text.contains j.toMessage needle then [] else [.contains a.path needle j.toMessage]

/-- The checks of an assertion about a value. -/
def assertionFailures (a : PathAssertion) (vars : Bag) (actual : Live) :
    Except Obstacle (List CheckFailure) := do
  let unequal ← equalityFailures a vars actual
  let lacking ← textFailures a vars actual
  pure (existenceFailures a actual ++ unequal ++ lacking)

/-- The checks of all assertions, in order. -/
def assertsFailures (root : Live) (vars : Bag) :
    List PathAssertion → Except Obstacle (List CheckFailure)
  | [] => .ok []
  | a :: rest => do
      let found ← (root.at? vars a.path).mapError Obstacle.oversizedIndex
      let failures ← assertionFailures a vars (found.getD (.plain .null))
      let later ← assertsFailures root vars rest
      pure (failures ++ later)

/-- All checks that fail, in order. -/
def evaluate (e : Expectation) (c : StepContext) : Except Obstacle (List CheckFailure) := do
  let succeeded ← c.succeeded
  let stated ← c.statedRowCount
  let unmentioned ← errorFailures (← c.errorMessage) (e.errorContains.getD [])
  let asserted ← assertsFailures (← c.root) c.vars e.asserts
  pure (e.successFailures succeeded ++ e.rowCountFailures stated ++ unmentioned ++ asserted)

end Expectation

/-! ## Captures -/

/-- What captures leave behind. -/
structure Captured where
  /-- The values captured, by name. -/
  values : Fields
  /-- The captures that failed. -/
  failures : List CheckFailure

namespace Captured

/-- Nothing captured yet. -/
def start : Captured := ⟨[], []⟩

/-- Keep a value. -/
def keep (s : Captured) (key : String) (value : Json) : Captured :=
  { s with values := s.values.put key value }

/-- Record a capture that failed. -/
def fail (s : Captured) (f : CheckFailure) : Captured :=
  { s with failures := s.failures ++ [f] }

/-- Take one capture. -/
def take (c : StepContext) (s : Captured) (capture : Capture) : Except Obstacle Captured := do
  let source ← c.source capture.source
  let found ← (source.at? capture.path).mapError Obstacle.oversizedIndex
  match found <|> capture.default with
  | some value => pure (s.keep capture.key value)
  | none =>
      if capture.required then pure (s.fail (.capture capture.key capture.source capture.path))
      else pure s

/-- Take captures in order. When one of them cannot be read the others are not taken, and what
was captured before it stays. -/
def takeFrom (c : StepContext) : Captured → List Capture → Captured × Option Obstacle
  | s, [] => (s, none)
  | s, capture :: rest =>
      match take c s capture with
      | .ok s => takeFrom c s rest
      | .error o => (s, some o)

/-- Take all captures of a step. The result inside its response has to be readable even when
nothing is captured from it. -/
def takeAll (c : StepContext) (captures : List Capture) : Captured × Option Obstacle :=
  match c.result with
  | .ok _ => takeFrom c start captures
  | .error o => (start, some o)

end Captured

end Tenancy
