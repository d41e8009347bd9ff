/-
# Commands with live values

A command is read from a payload as it is at the moment. What is passed on unread, which is
the values of mutations and what is attached to a request, can be taken from the payload
itself, and is live then where the payload is.
-/

import Tenancy.Command.Basic

namespace Tenancy

/-- A mutation with the values that stand in its payload. -/
def Mutation.livened (payload : Live) (m : Mutation) : Mutation :=
  { m with values := m.values.map fun _ => (payload.part "values").fields }

/- A command with the values that stand in its payload, by recursion on its steps. -/
mutual

/-- A command with the values that stand in its payload. -/
def Command.livened (payload : Live) : Command → Command
  | .mutate m => .mutate (m.livened payload)
  | .batch steps => .batch (Command.livenedSteps (payload.part "steps").items steps)
  | c => c

/-- The steps of a batch with the values that stand in their payloads. -/
def Command.livenedSteps : List Live → List Command → List Command
  | payload :: payloads, step :: steps =>
      step.livened payload :: Command.livenedSteps payloads steps
  | _, steps => steps

end

/-- A request with the values and attachments that stand in its payload. -/
def Request.livened (payload : Live) (r : Request) : Request :=
  { r with
    command := r.command.livened (payload.part "command")
    metadata := r.metadata.map fun _ => (payload.part "metadata").fields }

end Tenancy
