/-
# The service

One arrival leads to one answer. The service has a fixed catalog; everything else it needs
is what carrying out requests, scenarios and scripted runs needs. A translator that breaks
down takes the answer with it where nothing is there to report it, and so does an answer
that cannot be written.
-/

import Tenancy.Catalog.Snapshot
import Tenancy.Lifecycle.Run
import Tenancy.Scenario.Run
import Tenancy.Service.Route
import Tenancy.Service.Simulation

namespace Tenancy

/-- The parts the service works with. -/
structure Service (σ : Type) where
  catalog : Catalog
  database : Database σ
  /-- How commands are compiled. -/
  compiler : Compiler
  /-- How prompts are translated. -/
  translator : Translator
  /-- Where ids come from. -/
  ids : IdSource
  /-- The time. -/
  now : Instant
  /-- How deep values are gone through for tokens. -/
  [stack : Template.Stack]

namespace Service

/-- What an arrival leads to. -/
inductive Outcome where
  | answered (a : Answer)
  /-- A translator that broke down. -/
  | brokeDown (b : Breakdown)
  /-- A fault that nobody reported. -/
  | raised (f : Fault)
  /-- An answer that cannot be written. -/
  | unwritable (u : Unwritable)
  /-- Nothing at all. -/
  | hung

/-- The outcome of sending a form, with a status and the variables that live values refer to. -/
def Outcome.sent (status : Nat) (form : Form) (vars : Bag) : Outcome :=
  match form.send vars with
  | .ok body => .answered ⟨status, body⟩
  | .error u => .unwritable u

/-- The outcome of something that ends with a value. -/
def Outcome.ofEnding {α : Type} (outcome : α → Outcome) : Ending α → Outcome
  | .returned a => outcome a
  | .raised f => .raised f
  | .hung => .hung

/-- The greeting. -/
def greeting : Answer :=
  .fine (.object [("message", .text "Schemagate pseudo API: canonical commands in, safe SQL out")])

/-- The answer about a table that does not exist. -/
def missingTable (raw : String) : Answer :=
  ⟨404, .object [("success", .bool false),
    ("error", .object [("code", .text "TABLE_NOT_FOUND"),
      ("message", .text (Catalog.missingTableMessage raw))])]⟩

/-- The status 200 if all is well, and another one otherwise. -/
def statusOr (status : Nat) (ok : Bool) : Nat :=
  if ok then 200 else status

/-- What a translation leads to. -/
def translated (t : Translation) : Outcome := .sent (statusOr 400 t.success) t.form []

/-- What a request that was carried out leads to. -/
def executed (r : Response) : Outcome := .sent (statusOr 400 r.success) r.form []

/-- What a simulation leads to. -/
def simulated (s : Simulation) : Outcome := .sent (statusOr 400 s.success) s.form []

/-- What scenarios lead to. -/
def triedOut (r : ScenarioReport) : Outcome := .sent (statusOr 207 r.success) r.form []

/-- What a scripted run leads to. -/
def finished (r : LifecycleResult) : Outcome :=
  .sent (statusOr (if r.fatalError.isSome then 500 else 207) r.success) r.form r.vars

variable {σ : Type} (service : Service σ)

/-- Answer with the catalog, or with one table of it. -/
def schemaAnswer (a : Arrival) : Except Answer Answer := do
  let _ ← a.queryFlag "refresh" false
  let table := a.queryText? "table"
  match service.catalog.snapshot? service.now.print table with
  | some snapshot => pure (.fine (.object [("success", .bool true), ("data", snapshot)]))
  | none => pure (missingTable (table.getD ""))

/-- Follow a route. -/
def follow (route : Route) (a : Arrival) (session : Session σ) :
    Except Answer (Outcome × Session σ) :=
  match route with
  | .greeting => .ok (.answered greeting, session)
  | .schema => (service.schemaAnswer a).map fun answer => (.answered answer, session)
  | .translate => do
      let r ← a.readBody TranslationRequest.reader
      match service.translator r with
      | .error b => pure (.brokeDown b, session)
      | .ok t => pure (translated t, session)
  | .execute => do
      let r ← a.readBody Request.reader
      let (ending, session) :=
        Execution.execute service.database service.compiler r (service.ids.ofRequest r 0).1 session
      pure (.ofEnding executed ending, session)
  | .simulate => do
      let r ← a.readBody TranslationRequest.reader
      match service.translator { r with dryRun := true } with
      | .error b => pure (.brokeDown b, session)
      | .ok t =>
          let (ending, session) :=
            Simulation.ofTranslation service.database service.compiler service.ids t session
          pure (.ofEnding simulated ending, session)
  | .scenarios => do
      let r ← a.readBody ScenarioRequest.reader
      let runner : ScenarioRunner σ :=
        ⟨service.database, service.compiler, service.translator, service.ids⟩
      let (ending, session) := runner.run r session
      pure (.ofEnding triedOut ending, session)
  | .lifecycle => do
      let r ← a.readBody LifecycleRequest.reader
      let runner : Lifecycle σ :=
        { database := service.database, compiler := service.compiler
          translator := service.translator, ids := service.ids, now := service.now
          stack := service.stack }
      let (ending, session) := runner.run r session
      pure (.ofEnding finished ending, session)

/-- Answer an arrival. What cannot be read is refused before anything is done. -/
def respond (a : Arrival) (session : Session σ) : Outcome × Session σ :=
  match (Route.ofArrival a).bind fun route => service.follow route a session with
  | .ok done => done
  | .error refusal => (.answered refusal, session)

end Service

end Tenancy
