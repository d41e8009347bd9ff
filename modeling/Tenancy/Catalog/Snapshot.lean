/-
# Catalog snapshots

What a catalog looks like from outside: all tables by name, or one table that was asked for
by any of its spellings.
-/

import Tenancy.Catalog.Basic
import Tenancy.Json.Basic

namespace Tenancy

/-- A column as a snapshot shows it. -/
def Column.toJson (c : Column) : Json :=
  .object [("name", .text c.name), ("sqlType", .text c.sqlType), ("notNull", .bool c.notNull),
    ("primaryKey", .bool c.primaryKey)]

namespace Catalog

/-- A table as a snapshot shows it. -/
def tableFields (c : Catalog) (t : Table) : Fields :=
  [("name", .text t.name), ("hasBizId", .bool (c.isTenantTable t)),
    ("primaryKeys", .texts t.primaryKeys), ("columns", .list (t.columns.map Column.toJson))]

/-- The counts of a snapshot. -/
def summaryJson (tables columns : Nat) : Json :=
  .object [("tableCount", .count tables), ("columnCount", .count columns)]

/-- The counts of the whole catalog. -/
def summary (c : Catalog) : Json :=
  summaryJson c.tables.length c.columnCount

/-- Strings in ascending order of their code points. -/
def sortNames (names : List String) : List String :=
  names.mergeSort fun a b => decide (a ≤ b)

/-- The tables in ascending order of their names. -/
def sortedTables (c : Catalog) : List Table :=
  c.tables.mergeSort fun a b => decide (a.name ≤ b.name)

/-- The whole catalog, or the one table that a loose name means. There is no snapshot of a
table that does not exist. -/
def snapshot? (c : Catalog) (generatedAt : String) : Option String → Option Json
  | none => some (.object [("generatedAt", .text generatedAt), ("summary", c.summary),
      ("tables", .list (c.sortedTables.map fun t => .object (c.tableFields t)))])
  | some raw => (c.findTable? raw).map fun t =>
      .object [("generatedAt", .text generatedAt), ("summary", summaryJson 1 t.columns.length),
        ("table", .object (c.tableFields t))]

/-- The message about a table that does not exist. -/
def missingTableMessage (raw : String) : String :=
  "Unknown table alias/name: " ++ raw

end Catalog

end Tenancy
