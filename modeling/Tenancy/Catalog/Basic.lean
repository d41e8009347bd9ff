/-
# The catalog

The tables a command may speak of, in the order in which they were registered, with an
index of the phrases under which each is known. An index entry belongs to the table that
wrote it first; a later table never takes it over. Resolving a loose name answers with a
name of the catalog or not at all.
-/

import Tenancy.Catalog.Name

namespace Tenancy

/-- A column as the database describes it. -/
structure Column where
  name : String
  /-- Its type, as the database writes it. -/
  sqlType : String
  /-- Whether it refuses nulls. -/
  notNull : Bool
  /-- Whether it is part of the primary key. -/
  primaryKey : Bool
deriving DecidableEq, Repr

/-- A table with its columns in order. -/
structure Table where
  name : String
  columns : List Column
deriving DecidableEq, Repr

namespace Table

/-- The names of the columns, in order. -/
def columnNames (t : Table) : List String :=
  t.columns.map Column.name

/-- Whether a column of exactly this name exists. -/
def hasColumn (t : Table) (name : String) : Bool :=
  t.columnNames.contains name

/-- The first column of exactly this name. -/
def column? (t : Table) (name : String) : Option Column :=
  t.columns.find? fun c => c.name == name

/-- The names of the columns of the primary key. -/
def primaryKeys (t : Table) : List String :=
  (t.columns.filter Column.primaryKey).map Column.name

/-- The column a loose name means: the first of its readings that is a column. -/
def resolve? (t : Table) (raw : String) : Option String :=
  [Name.identifier raw, Name.spaced raw, Name.uncamel raw].find? t.hasColumn

/-- A resolved name is the name of a column. -/
theorem hasColumn_of_resolve? {t : Table} {raw name : String} (h : t.resolve? raw = some name) :
    t.hasColumn name = true :=
  List.find?_some h

end Table

/-- A set of tables with the phrases that mean them, and the column that marks the tables
that belong to tenants. -/
structure Catalog where
  /-- The tables, in order of registration. -/
  tables : List Table
  /-- Each phrase with the name of the table it means, in order of registration. -/
  aliases : List (String × String)
  /-- The column that marks a tenant table. -/
  tenantColumn : String
deriving Repr

namespace Catalog

/-- The table of exactly this name. -/
def table? (c : Catalog) (name : String) : Option Table :=
  c.tables.find? fun t => t.name == name

/-- The table a phrase means, by its name. -/
def alias? (c : Catalog) (phrase : String) : Option String :=
  (c.aliases.find? fun a => a.1 == phrase).map Prod.snd

/-- Whether a table belongs to tenants. -/
def isTenantTable (c : Catalog) (t : Table) : Bool :=
  t.hasColumn c.tenantColumn

/-- The table a loose name means: by its phrase, or else by the phrase of its identifier. A
blank name means nothing. -/
def resolveTable? (c : Catalog) (raw : String) : Option String :=
  if (Name.phrase raw).isEmpty then none
  else c.alias? (Name.phrase raw) <|> c.alias? (Name.phrase (Name.identifier raw))

/-- The table a loose name means, or else the table of exactly that name. -/
def findTable? (c : Catalog) (raw : String) : Option Table :=
  c.table? ((c.resolveTable? raw).getD raw)

/-- The column that a loose name means in the table of the given name. -/
def resolveColumn? (c : Catalog) (table raw : String) : Option String :=
  (c.table? table).bind fun t => t.resolve? raw

/-- The number of columns of all tables. -/
def columnCount (c : Catalog) : Nat :=
  c.tables.foldr (fun t n => t.columns.length + n) 0

/-! ## Construction -/

/-- Enter a phrase into the index unless it is blank or taken. -/
def addAlias (aliases : List (String × String)) (spelling table : String) : List (String × String) :=
  let phrase := Name.phrase spelling
  if phrase.isEmpty || aliases.any (fun a => a.1 == phrase) then aliases
  else aliases ++ [(phrase, table)]

/-- The spellings under which a table is entered: its name, its singular, both with spaces,
and its name without underscores. -/
def spellings (name : String) : List String :=
  let one := Name.singular name
  [name, Name.unscored name, one, Name.unscored one, Name.squashed name]

/-- Register one more table. A table without a name or with a name that is taken is left
out. -/
def register (c : Catalog) (t : Table) : Catalog :=
  if t.name.isEmpty || c.tables.any (fun u => u.name == t.name) then c
  else
    { c with
      tables := c.tables ++ [t]
      aliases := (spellings t.name).foldl (fun aliases s => addAlias aliases s t.name) c.aliases }

/-- The column that marks tenant tables unless another one is named. -/
def defaultTenantColumn : String := "biz_id"

/-- A catalog without tables. An empty tenant column stands for the default one. -/
def empty (tenantColumn : String) : Catalog :=
  { tables := [], aliases := []
    tenantColumn := if tenantColumn.isEmpty then defaultTenantColumn else tenantColumn }

/-- Build a catalog by registering tables in order. -/
def build (tables : List Table) (tenantColumn : String) : Catalog :=
  tables.foldl register (empty tenantColumn)

end Catalog

end Tenancy
