/-
# Simulations

A prompt is translated and what it means is carried out, always as a dry run. A simulation
succeeds when both do.
-/

import Tenancy.Execution.Execute
import Tenancy.IdSource
import Tenancy.Translation.Basic

namespace Tenancy

/-- What came of a simulation. -/
structure Simulation where
  translation : Translation
  /-- The response, if there was a request to carry out. -/
  execution : Option Response

namespace Simulation

/-- Whether the simulation succeeded. -/
def success (s : Simulation) : Bool :=
  match s.execution with
  | some response => response.success
  | none => false

/-- The form of a simulation. -/
def form (s : Simulation) : Form :=
  .object [("success", .bool s.success), ("translation", s.translation.form),
    ("execution", .ofOption Response.form s.execution)]

/-- Simulate what a translation says. Its request is carried out as a dry run, whatever it says
itself. -/
def ofTranslation {σ : Type} (db : Database σ) (k : Compiler) (ids : IdSource)
    (translation : Translation) (session : Session σ) : Ending Simulation × Session σ :=
  match translation.usable? with
  | none => (.returned ⟨translation, none⟩, session)
  | some request =>
      let forced := { request with dryRun := some true }
      match Execution.execute db k forced (ids.ofRequest forced 0).1 session with
      | (.returned response, session) => (.returned ⟨translation, some response⟩, session)
      | (.raised f, session) => (.raised f, session)
      | (.hung, session) => (.hung, session)

end Simulation

end Tenancy
