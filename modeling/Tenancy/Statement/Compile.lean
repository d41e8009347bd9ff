/-
# Compiling commands

A command under a scope becomes a statement, or is refused for the first reason met. Loose
names are resolved through the catalog and pass the gate before they reach a statement. On
a tenant table the tenant in scope is required; a filter or value that names the tenant
column must agree with it, and where none does the condition or the value is added in
front.
-/

import Tenancy.Catalog.Basic
import Tenancy.Statement.Basic

namespace Tenancy

/-- What compiling depends on besides the command and its scope. -/
structure Compiler where
  /-- The tables there are. -/
  catalog : Catalog
  /-- The number of rows a query reads when it does not say. -/
  defaultLimit : Int
  /-- The variables that live values refer to. -/
  vars : Bag

namespace Compiler

/-- The number of rows a query reads unless the settings say otherwise. -/
def standardLimit : Int := 100

/-- A compiler over a catalog, without variables. A missing limit, or a limit of zero, stands for
the standard one. -/
def ofCatalog (catalog : Catalog) (defaultLimit : Option Int) : Compiler :=
  { catalog
    defaultLimit := match defaultLimit with
      | some n => if n = 0 then standardLimit else n
      | none => standardLimit
    vars := [] }

variable (k : Compiler)

/-! ## Names -/

/-- The table a command speaks of. -/
def table (raw : String) : Except Refusal Table :=
  match k.catalog.findTable? raw with
  | some t => .ok t
  | none => .error (.unknownTable raw)

/-- The column a loose name means, by its name in the catalog. -/
def column (t : Table) (usage : Usage) (raw : String) : Except Refusal String :=
  match k.catalog.resolveColumn? t.name raw with
  | some name => .ok name
  | none => .error (.unknownColumn usage raw t.name)

/-- The columns of a list of loose names. -/
def columns (t : Table) (raws : List String) : Except Refusal (List String) :=
  raws.mapM (k.column t .plain)

/-- The column a loose name means, through the gate. -/
def columnIdentifier (t : Table) (usage : Usage) (raw : String) : Except Refusal Identifier := do
  let name ← k.column t usage raw
  Identifier.ofName name

/-- Whether a loose name means the tenant column. -/
def meansTenant (t : Table) (raw : String) : Bool :=
  k.catalog.resolveColumn? t.name raw == some k.catalog.tenantColumn

/-- Bind a value to a column of a table. -/
def bindTo (t : Table) (name : String) (v : Live) : Value :=
  match t.column? name with
  | some c => Value.bind k.vars c.sqlType v
  | none => .json v

/-- Whether a value cannot be bound to a column of a table, because it contains itself. -/
def isUnbindable (t : Table) (name : String) (v : Live) : Bool :=
  (t.column? name).any fun c => Value.isEndless k.vars c.sqlType v

/-- The columns that a list of loose names asks for, or the given ones where it asks for
none. -/
def columnsOr (t : Table) (otherwise : List String) :
    Option (List String) → Except Refusal (List String)
  | none | some [] => .ok otherwise
  | some raws => k.columns t raws

/-- The columns to read back: those asked for, or else the primary key. -/
def returning (t : Table) (raws : Option (List String)) : Except Refusal (List Identifier) := do
  let names ← k.columnsOr t t.primaryKeys raws
  names.mapM Identifier.ofName

/-! ## Tenants -/

/-- The tenant in scope, which a tenant table requires. -/
def requireTenant (t : Table) (scope : Scope) : Except Refusal String :=
  match scope.bizId with
  | some tenant => if tenant.isEmpty then .error (.tenantRequired t.name) else .ok tenant
  | none => .error (.tenantRequired t.name)

/-- Whether a filter asks for equality with the given tenant. -/
def asksFor (tenant : String) (f : Filter) : Bool :=
  f.op == .eq && (f.operand.bind Json.text?) == some tenant

/-- The filters under a scope. On a tenant table every filter on the tenant column has to ask
for the tenant in scope, and if there is none it is added in front. -/
def scopeFilters (t : Table) (filters : List Filter) (scope : Scope) : Except Refusal (List Filter) :=
  if k.catalog.isTenantTable t then do
    let tenant ← requireTenant t scope
    let own := filters.filter fun f => k.meansTenant t f.column
    if own.all (asksFor tenant) then
      if own.isEmpty then
        pure ({ column := k.catalog.tenantColumn, op := .eq, operand := some (.text tenant) } :: filters)
      else pure filters
    else throw (.tenantFilterMismatch k.catalog.tenantColumn)
  else pure filters

/-- The values to write with those of the tenant column checked: a null is left out, and
anything but the tenant is refused. -/
def checkTenantValues (t : Table) (tenant : String) : Named Live → Except Refusal (Named Live)
  | [] => .ok []
  | (raw, value) :: rest =>
      if k.meansTenant t raw then
        if value.isNull then checkTenantValues t tenant rest
        else if value.text? == some tenant then
          (checkTenantValues t tenant rest).map ((raw, value) :: ·)
        else .error (.tenantValueMismatch k.catalog.tenantColumn)
      else (checkTenantValues t tenant rest).map ((raw, value) :: ·)

/-- The values under a scope. With `inject`, a tenant table gets the tenant in scope in front
unless the values name it already. -/
def scopeValues (t : Table) (values : Named Live) (scope : Scope) (inject : Bool) :
    Except Refusal (Named Live) :=
  if k.catalog.isTenantTable t then do
    let tenant ← requireTenant t scope
    let checked ← k.checkTenantValues t tenant values
    if !inject || checked.any fun f => k.meansTenant t f.1 then pure checked
    else pure (Named.overlay [(k.catalog.tenantColumn, .plain (.text tenant))] checked)
  else pure values

/-! ## Conditions and assignments -/

/-- The comparison that an operator on one value stands for. -/
def comparison? : Operator → Option Comparison
  | .eq => some .eq
  | .neq => some .ne
  | .gt => some .gt
  | .gte => some .ge
  | .lt => some .lt
  | .lte => some .le
  | .like => some .like
  | .ilike => some .ilike
  | .isIn | .isNull | .notNull => none

/-- The condition of a comparison with an operand. Equality with null asks for null; a pattern
is never converted for the column. -/
def compareCondition (t : Table) (column : Identifier) (op : Operator) (c : Comparison) :
    Option Json → Except Refusal Condition
  | none => .error (.missingOperand op.word column.name)
  | some (.list _) => .error (.arrayOperand op.word column.name)
  | some .null =>
      match c with
      | .eq => .ok (.isNull column)
      | .ne => .ok (.notNull column)
      | _ => .error (.nullOperand op.word column.name)
  | some operand =>
      match c with
      | .like | .ilike => .ok (.compare column c (.plain operand))
      | _ => .ok (.compare column c (k.bindTo t column.name (.plain operand)))

/-- The condition of a membership test. Nothing is a member of the empty array. -/
def membershipCondition (t : Table) (column : Identifier) : Option Json → Except Refusal Condition
  | some (.list []) => .ok .never
  | some (.list (first :: rest)) =>
      .ok (.isIn column (k.bindTo t column.name (.plain first))
        (rest.map fun j => k.bindTo t column.name (.plain j)))
  | _ => .error (.membershipNeedsArray column.name)

/-- The condition of a filter. -/
def condition (t : Table) (f : Filter) : Except Refusal Condition := do
  let column ← k.columnIdentifier t .filter f.column
  match f.op, comparison? f.op with
  | .isNull, _ => pure (.isNull column)
  | .notNull, _ => pure (.notNull column)
  | op, some c => k.compareCondition t column op c f.operand
  | _, none => k.membershipCondition t column f.operand

/-- The conditions of the filters under a scope. -/
def conditions (t : Table) (filters : List Filter) : Except Refusal (List Condition) :=
  filters.mapM (k.condition t)

/-- Refuse a command with which something is wrong. -/
def refuseIf (wrong : Bool) (r : Refusal) : Except Refusal Unit :=
  if wrong then .error r else .ok ()

/-- The assignment of one value. -/
def assignment (t : Table) (usage : Usage) (f : String × Live) : Except Refusal (Identifier × Value) := do
  let column ← k.columnIdentifier t usage f.1
  refuseIf (k.isUnbindable t column.name f.2) .endlessValue
  pure (column, k.bindTo t column.name f.2)

/-! ## Statements -/

/-- The ordering of one column. -/
def ordering (t : Table) (s : SortKey) : Except Refusal (Identifier × Direction) := do
  let column ← k.columnIdentifier t .sort s.column
  pure (column, s.direction)

/-- The number of rows to read. -/
def limitOf (limit : Option Int) : Int :=
  match limit with
  | some n => if n = 0 then k.defaultLimit else n
  | none => k.defaultLimit

/-- The number of rows to leave out, if any. -/
def offsetOf (offset : Option Int) : Option Int :=
  offset.filter fun n => decide (0 < n)

/-- Compile a query. -/
def compileQuery (q : Query) (scope : Scope) : Except Refusal Statement := do
  let t ← k.table q.table
  let selected ← k.columnsOr t t.columnNames q.select
  let filters ← k.scopeFilters t q.filters scope
  let conditions ← k.conditions t filters
  let order ← q.sort.mapM (k.ordering t)
  let names ← selected.mapM Identifier.ofName
  let tableName ← Identifier.ofName t.name
  pure (.select names tableName conditions order (k.limitOf q.limit) (offsetOf q.offset))

/-- Compile an insert. -/
def compileInsert (t : Table) (m : Mutation) (scope : Scope) : Except Refusal Statement := do
  let values ← k.scopeValues t (m.values.getD []) scope true
  refuseIf values.isEmpty .nothingToInsert
  let assignments ← values.mapM (k.assignment t .insert)
  let tableName ← Identifier.ofName t.name
  let returned ← k.returning t m.returning
  pure (.insert tableName assignments returned)

/-- Compile an update. The tenant is never added to what is written, only to the
conditions. -/
def compileUpdate (t : Table) (m : Mutation) (scope : Scope) : Except Refusal Statement := do
  let values ← k.scopeValues t (m.values.getD []) scope false
  refuseIf values.isEmpty .nothingToUpdate
  refuseIf m.filters.isEmpty (.unfiltered .update)
  let filters ← k.scopeFilters t m.filters scope
  let assignments ← values.mapM (k.assignment t .update)
  let tableName ← Identifier.ofName t.name
  let conditions ← k.conditions t filters
  let returned ← k.returning t m.returning
  pure (.update tableName assignments conditions returned)

/-- Compile a delete. -/
def compileDelete (t : Table) (m : Mutation) (scope : Scope) : Except Refusal Statement := do
  refuseIf m.filters.isEmpty (.unfiltered .delete)
  let filters ← k.scopeFilters t m.filters scope
  let tableName ← Identifier.ofName t.name
  let conditions ← k.conditions t filters
  let returned ← k.returning t m.returning
  pure (.delete tableName conditions returned)

/-- Compile a mutation. -/
def compileMutation (m : Mutation) (scope : Scope) : Except Refusal Statement := do
  let t ← k.table m.table
  match m.action with
  | .insert => k.compileInsert t m scope
  | .update => k.compileUpdate t m scope
  | .delete => k.compileDelete t m scope
  | .other name => throw (.unsupportedAction name)

/- Compiling a tree of commands, by recursion on its steps. -/
mutual

/-- Compile a command. A batch compiles only if all of its steps do. -/
def compile (scope : Scope) : Command → Except Refusal Plan
  | .query q => (k.compileQuery q scope).map .leaf
  | .mutate m => (k.compileMutation m scope).map .leaf
  | .batch steps => (compileSteps scope steps).map .batch
  | .other kind => .error (.unsupportedKind kind)

/-- Compile the steps of a batch in order. -/
def compileSteps (scope : Scope) : List Command → Except Refusal (List Plan)
  | [] => .ok []
  | step :: rest => do
      let plan ← compile scope step
      let plans ← compileSteps scope rest
      pure (plan :: plans)

end

end Compiler

end Tenancy
