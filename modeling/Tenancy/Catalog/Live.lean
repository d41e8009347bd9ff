/-
# The catalog of a live database

A catalog can be read off a live database over a connection of its own. It is kept once it
has been read and read again only on demand; a reading that fails leaves the kept one as it
was. A table that cannot be described is left out, because an incomplete catalog is still
of use.
-/

import Tenancy.Catalog.Snapshot
import Tenancy.Execution.Database

namespace Tenancy

/-- A column as the database describes it. -/
structure LiveColumn where
  name : String
  /-- Its type, unless the type cannot be told. -/
  sqlType : Option String
  /-- Whether it takes nulls. -/
  nullable : Bool
deriving DecidableEq, Repr

/-- A table as the database describes it. -/
structure LiveTable where
  name : String
  /-- The names of the columns of its primary key, unless the key cannot be told. -/
  primaryKey : Option (List String)
  /-- Its columns in order, unless they cannot be told. -/
  columns : Option (List LiveColumn)
deriving DecidableEq, Repr

namespace LiveTable

/-- A column as a catalog describes it, given the primary key of its table. -/
def column? (primaryKey : List String) (c : LiveColumn) : Option Column :=
  c.sqlType.map fun sqlType =>
    { name := c.name, sqlType, notNull := !c.nullable, primaryKey := primaryKey.contains c.name }

/-- A table as a catalog describes it. There is none when anything about it cannot be told. -/
def table? (t : LiveTable) : Option Table := do
  let primaryKey ← t.primaryKey
  let columns ← (← t.columns).mapM (column? primaryKey)
  some { name := t.name, columns }

/-- The tables that can be described, in ascending order of their names. -/
def describe (tables : List LiveTable) : List Table :=
  (tables.mergeSort fun a b => decide (a.name ≤ b.name)).filterMap table?

end LiveTable

/-- Where a catalog comes from. -/
structure CatalogSource (σ : Type) where
  database : Database σ
  /-- The namespace of the database whose tables count; the default one when absent. -/
  schema : Option String
  /-- The column that marks tenant tables. -/
  tenantColumn : String

/-- The catalog kept so far, with the namespaces whose tables have been listed. -/
structure CatalogCache (σ : Type) where
  /-- The catalog, once it has been read. -/
  kept : Option Catalog
  /-- The namespace of each listing, in order. -/
  listings : List (Option String)
  /-- The session with the database. -/
  session : Session σ

/-- Send an event that comes back without anything. -/
def CatalogCache.perform {σ : Type} (db : Database σ) (cache : CatalogCache σ) (e : Event) :
    Ending Unit × CatalogCache σ :=
  let (ending, session) := cache.session.perform db e
  (ending, { cache with session })

/-- What comes of listing the tables of a database: the tables that are there, or no list. -/
abbrev Listing := Ending (List LiveTable)

namespace CatalogSource

variable {σ : Type} (source : CatalogSource σ)

/-- Read the catalog, given what comes of listing the tables. A connection that was opened is closed
again when the listing has come to an end, and what is raised then is a failure to close it before
it is a failure of the listing. The catalog is kept only when nothing has failed. -/
def load (listing : Listing) (cache : CatalogCache σ) : Ending Catalog × CatalogCache σ :=
  match cache.perform source.database .connect with
  | (.raised f, cache) => (.raised f, cache)
  | (.hung, cache) => (.hung, cache)
  | (.returned _, cache) =>
      let cache := { cache with listings := cache.listings ++ [source.schema] }
      match listing with
      | .hung => (.hung, cache)
      | .raised f =>
          match cache.perform source.database .close with
          | (.raised g, cache) => (.raised g, cache)
          | (.hung, cache) => (.hung, cache)
          | (.returned _, cache) => (.raised f, cache)
      | .returned tables =>
          match cache.perform source.database .close with
          | (.raised g, cache) => (.raised g, cache)
          | (.hung, cache) => (.hung, cache)
          | (.returned _, cache) =>
              let catalog := Catalog.build (LiveTable.describe tables) source.tenantColumn
              (.returned catalog, { cache with kept := some catalog })

/-- The catalog that is kept, or one that is read now. -/
def serve (listing : Listing) (force : Bool) (cache : CatalogCache σ) :
    Ending Catalog × CatalogCache σ :=
  match cache.kept, force with
  | some catalog, false => (.returned catalog, cache)
  | _, _ => source.load listing cache

/-- The catalog where the tables can be listed. -/
def get (tables : List LiveTable) (force : Bool) (cache : CatalogCache σ) :
    Ending Catalog × CatalogCache σ :=
  source.serve (.returned tables) force cache

/-- A catalog that is kept is served without a word to the database. -/
theorem serve_of_kept (listing : Listing) {cache : CatalogCache σ} {catalog : Catalog}
    (h : cache.kept = some catalog) :
    source.serve listing false cache = (.returned catalog, cache) := by
  simp [serve, h]

/-- Where nothing is kept, or what is kept is not wanted, the catalog is read. -/
theorem serve_of_not_kept (listing : Listing) {force : Bool} {cache : CatalogCache σ}
    (h : force = true ∨ cache.kept = none) :
    source.serve listing force cache = source.load listing cache := by
  rcases h with rfl | h
  · cases hkept : cache.kept <;> simp [serve, hkept]
  · simp [serve, h]

end CatalogSource

end Tenancy
