/-
# Reading commands and requests

The payloads that commands, scopes and requests are read from. A command says what it is in
its `kind`, and the rest of it is read accordingly. Batches may be nested, but not without
bound: the number of batches that are still allowed is counted down on the way in.
-/

import Tenancy.Command.Basic
import Tenancy.Validation.Reader

namespace Tenancy

open Validation

/-- The payload of a filter. -/
def Filter.reader : Reader Filter :=
  .object "CommandFilter" (Filter.mk <$> need "column" .word
    <*> need "op" (.member (Operator.all.map fun op => (op.word, op)))
    <*> stated "value" .operand)

/-- The payload of an ordering. -/
def SortKey.reader : Reader SortKey :=
  .object "CommandSort" (SortKey.mk <$> need "column" .word
    <*> (FieldName.camel "direction").orElse
      (.oneOf [("asc", Direction.asc), ("desc", Direction.desc)]) .asc (.text "asc"))

/-- The largest number of rows a query may ask for. -/
def Query.maxLimit : Int := 500

/-- The payload of a query. -/
def Query.reader : Reader Query :=
  .object "QueryCommand"
    ((fun (_ : Unit) table select filters sort limit offset =>
        (⟨table, select, filters, sort, limit, offset⟩ : Query))
      <$> need "kind" (.oneOf [("query", ())])
      <*> need "table" .word
      <*> maybe "select" (Reader.text.list)
      <*> many "filters" Filter.reader
      <*> many "sort" SortKey.reader
      <*> maybe "limit" (.intBetween 1 Query.maxLimit)
      <*> maybe "offset" (.intFrom 0))

/-- The payload of a mutation. -/
def Mutation.reader : Reader Mutation :=
  .object "MutateCommand"
    ((fun (_ : Unit) action table values filters returning =>
        (⟨action, table, values, filters, returning⟩ : Mutation))
      <$> need "kind" (.oneOf [("mutate", ())])
      <*> need "action" (.oneOf [("insert", Action.insert), ("update", Action.update),
        ("delete", Action.delete)])
      <*> need "table" .word
      <*> maybe "values" .openFields
      <*> many "filters" Filter.reader
      <*> maybe "returning" (Reader.text.list))

namespace Command

/-- The name of a choice between the kinds of command. -/
def title : String := "tagged-union[QueryCommand,MutateCommand,BatchCommand]"

/-- How many batches may be nested in a command. -/
def maxBatches : Nat := 254

/-- The payload of a batch, whose steps the given reader reads. -/
def batchReader (step : Reader Command) : Reader Command :=
  Reader.level (.object "BatchCommand" ((fun (_ : Unit) steps => Command.batch steps)
    <$> need "kind" (.oneOf [("batch", ())])
    <*> need "steps" step.nonemptyList))

/-- The payload of a command, batches being read by the given reader. -/
def readerWith (batch : Reader Command) : Reader Command
  | .object fs =>
      match Named.get? fs "kind" with
      | none => .refuse .noTag
      | some (.text "query") => (Query.reader.map Command.query (.object fs)).under (.name "query")
      | some (.text "mutate") => (Mutation.reader.map Command.mutate (.object fs)).under (.name "mutate")
      | some (.text "batch") => (batch (.object fs)).under (.name "batch")
      | some tag => .refuse (.unknownTag tag.display)
  | _ => .refuse .notAttributes

/-- The payload of a step in which at most the given number of batches are nested. -/
def stepReader : Nat → Reader Command
  | 0 => readerWith fun _ => .refuse .tooDeep
  | batches + 1 => readerWith (batchReader (stepReader batches))

/-- The payload of a batch that is not a step of another one. -/
def outerBatchReader : Reader Command :=
  batchReader (stepReader (maxBatches - 1))

/-- The payload of a command that stands alone. -/
def reader : Reader Command :=
  readerWith outerBatchReader

/-- The payload of a command inside a larger payload, where a batch counts as two levels. -/
def partReader : Reader Command :=
  readerWith outerBatchReader.level

end Command

/-- The payload of a scope. -/
def Scope.reader : Reader Scope :=
  .object "RequestScope" (Scope.mk <$> maybe "bizId" .word <*> maybe "locationId" .word
    <*> maybe "actorUserId" .word)

/-- A scope in a larger payload; the empty one when absent. -/
def Scope.field : FieldReader Scope :=
  (FieldName.camel "scope").orElse Scope.reader Scope.none
    (.object [("bizId", .null), ("locationId", .null), ("actorUserId", .null)])

/-- The payload of a request. -/
def Request.reader : Reader Request :=
  .object "PseudoApiRequest" (Request.mk <$> maybe "requestId" .word
    <*> maybe "idempotencyKey" .word
    <*> (FieldName.camel "dryRun").orElse (Reader.bool.map some) none (.bool true)
    <*> Scope.field
    <*> need "command" Command.partReader
    <*> maybe "metadata" .openFields)

end Tenancy
