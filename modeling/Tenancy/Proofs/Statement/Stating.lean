/-
# Stating the tenant

A command on a tenant table may state the tenant in scope or leave it out. Where it is left out,
scoping adds it in front, under the name of the tenant column; where it is stated, scoping checks
it and leaves everything as it is. This module shows that the two ways come to one: a command in
which nothing speaks of the tenant compiles to the same plan, or is refused for the same reason
with the same message, as the command that states the tenant first, under any spelling of its
column.

Updates and deletes have to have a filter of their own, because stating the tenant is a filter too
and would make an unfiltered command pass. The tenant is never added to what an update writes, so
nothing is said of stating it there.
-/

import Tenancy.Proofs.Statement.Respelling

namespace Tenancy

/-! ## Commands that state the tenant -/

/-- Whether a spelling means the tenant column of the table that another spelling means, and the
table carries tenants. -/
def Compiler.spellsTenant (k : Compiler) (table raw : String) : Bool :=
  match k.catalog.findTable? table with
  | some t => k.catalog.isTenantTable t && k.meansTenant t raw
  | none => false

/-- The filter that states a tenant under a spelling of its column. -/
def Filter.stating (raw tenant : String) : Filter :=
  { column := raw, op := .eq, operand := some (.text tenant) }

/-- A query with the tenant stated in front of its filters. -/
def Query.stating (q : Query) (raw tenant : String) : Query :=
  { q with filters := .stating raw tenant :: q.filters }

/-- A mutation with the tenant stated in front of its filters. -/
def Mutation.stating (m : Mutation) (raw tenant : String) : Mutation :=
  { m with filters := .stating raw tenant :: m.filters }

/-- A mutation with the tenant in front of the values that it writes. -/
def Mutation.writing (m : Mutation) (raw tenant : String) : Mutation :=
  { m with values := some ((raw, .plain (.text tenant)) :: m.values.getD []) }

/-- The second command states a tenant at one place where the first leaves it out: among the
filters of a query, of an update or of a delete, or among the values of an insert. The place may
be at any depth of a batch. -/
inductive Command.States (k : Compiler) (tenant : String) : Command → Command → Prop
  | query {q : Query} {raw : String} (own : k.spellsTenant q.table raw = true)
      (silent : ∀ f ∈ q.filters, k.spellsTenant q.table f.column = false) :
      States k tenant (.query q) (.query (q.stating raw tenant))
  | filtered {m : Mutation} {raw : String} (action : m.action = .update ∨ m.action = .delete)
      (some : m.filters ≠ []) (own : k.spellsTenant m.table raw = true)
      (silent : ∀ f ∈ m.filters, k.spellsTenant m.table f.column = false) :
      States k tenant (.mutate m) (.mutate (m.stating raw tenant))
  | insert {m : Mutation} {raw : String} (action : m.action = .insert)
      (distinct : m.DistinctKeys) (own : k.spellsTenant m.table raw = true)
      (silent : ∀ f ∈ m.values.getD [], k.spellsTenant m.table f.1 = false) :
      States k tenant (.mutate m) (.mutate (m.writing raw tenant))
  | step {before after : List Command} {c c' : Command} (h : States k tenant c c') :
      States k tenant (.batch (before ++ c :: after)) (.batch (before ++ c' :: after))

namespace Compiler

variable {k : Compiler} {t : Table} {scope : Scope} {table raw tenant : String}

theorem findTable?_of_table (h : k.table table = .ok t) :
    k.catalog.findTable? table = some t := by
  unfold Compiler.table at h
  split at h <;> simp_all

/-- What a spelling of the tenant column is, on the table that was found. -/
theorem spellsTenant_eq (htable : k.table table = .ok t) (raw : String) :
    k.spellsTenant table raw = (k.catalog.isTenantTable t && k.meansTenant t raw) := by
  rw [spellsTenant, findTable?_of_table htable]

/-- A spelling of the tenant column is one on a tenant table. -/
theorem tenant_of_spellsTenant (htable : k.table table = .ok t)
    (h : k.spellsTenant table raw = true) :
    k.catalog.isTenantTable t = true ∧ k.meansTenant t raw = true := by
  rwa [spellsTenant_eq htable, Bool.and_eq_true] at h

/-- On a tenant table that was found, a spelling that does not spell the tenant column does not
mean it. -/
theorem meansTenant_eq_false (htable : k.table table = .ok t)
    (htenant : k.catalog.isTenantTable t = true) (h : k.spellsTenant table raw = false) :
    k.meansTenant t raw = false := by
  rwa [spellsTenant_eq htable, htenant, Bool.true_and] at h

/-- A tenant that was required is the one in scope. -/
theorem eq_of_requireTenant (hscope : scope.bizId = some tenant) {found : String}
    (h : requireTenant t scope = .ok found) : found = tenant :=
  Option.some.inj ((of_requireTenant h).1.symm.trans hscope)

/-! ## Filters -/

section Filters

variable {filters : List Filter} (htenant : k.catalog.isTenantTable t = true)
  (silent : ∀ f ∈ filters, k.meansTenant t f.column = false)
include htenant silent

/-- Where no filter speaks of the tenant, the tenant is required and its filter is added. -/
theorem scopeFilters_of_silent (scope : Scope) :
    k.scopeFilters t filters scope =
      (requireTenant t scope).map fun tenant => k.tenantFilter tenant :: filters := by
  have none : (filters.filter fun f => k.meansTenant t f.column) = [] :=
    List.filter_eq_nil_iff.mpr fun f hf => Bool.eq_false_iff.mp (silent f hf)
  rw [scopeFilters, if_pos htenant, none]
  rfl

/-- Where the tenant in scope is stated and no other filter speaks of it, the tenant is required
and the filters are left as they are. -/
theorem scopeFilters_stating (hscope : scope.bizId = some tenant)
    (own : k.meansTenant t raw = true) :
    k.scopeFilters t (.stating raw tenant :: filters) scope =
      (requireTenant t scope).map fun _ => .stating raw tenant :: filters := by
  have none : (filters.filter fun f => k.meansTenant t f.column) = [] :=
    List.filter_eq_nil_iff.mpr fun f hf => Bool.eq_false_iff.mp (silent f hf)
  have only : ((Filter.stating raw tenant :: filters).filter fun f => k.meansTenant t f.column) =
      [.stating raw tenant] := by
    rw [List.filter_cons_of_pos (by exact own), none]
  rw [scopeFilters, if_pos htenant, only]
  cases hrequired : requireTenant t scope with
  | error r => rfl
  | ok found =>
      obtain rfl := eq_of_requireTenant hscope hrequired
      have asks : asksFor found (.stating raw found) = true := asksFor_iff.mpr ⟨rfl, rfl⟩
      change (if ([Filter.stating raw found].all (asksFor found)) = true then _ else _) = _
      rw [if_pos (by rw [List.all_cons, asks]; rfl)]
      rfl

end Filters

/-- The identifier of a column depends only on what its spelling means. -/
theorem columnIdentifier_eq {usage : Usage} {raw' : String} (own : k.meansTenant t raw = true)
    (own' : k.meansTenant t raw' = true) :
    k.columnIdentifier t usage raw = k.columnIdentifier t usage raw' := by
  rw [columnIdentifier, columnIdentifier, column, column, meansTenant_iff.mp own,
    meansTenant_iff.mp own']

/-- A stated tenant makes the condition that the added filter makes. -/
theorem conditions_stating (own : k.meansTenant t raw = true)
    (own' : k.meansTenant t k.catalog.tenantColumn = true) (filters : List Filter) :
    k.conditions t (.stating raw tenant :: filters) =
      k.conditions t (k.tenantFilter tenant :: filters) := by
  have same : k.condition t (.stating raw tenant) = k.condition t (k.tenantFilter tenant) := by
    rw [condition, condition]
    exact congrArg (· >>= _) (columnIdentifier_eq own own')
  rw [conditions, conditions, List.mapM_cons, List.mapM_cons, same]

/-! ## Values -/

section Values

variable {values : Named Live} (htenant : k.catalog.isTenantTable t = true)
  (silent : ∀ f ∈ values, k.meansTenant t f.1 = false)

include silent in
/-- Values that do not speak of the tenant pass the check unchanged. -/
theorem checkTenantValues_of_silent (tenant : String) :
    k.checkTenantValues t tenant values = .ok values := by
  induction values with
  | nil => rfl
  | cons f rest ih =>
      obtain ⟨raw, value⟩ := f
      have other : ¬ k.meansTenant t raw = true :=
        Bool.eq_false_iff.mp (silent (raw, value) List.mem_cons_self)
      rw [checkTenantValues, if_neg other, ih fun f hf => silent f (List.mem_cons_of_mem _ hf)]
      rfl

include silent in
/-- None of the values speaks of the tenant, as scoping asks. -/
theorem any_meansTenant_of_silent : (values.any fun f => k.meansTenant t f.1) = false :=
  List.any_eq_false.mpr fun f hf => Bool.eq_false_iff.mp (silent f hf)

include htenant silent

/-- Where no value speaks of the tenant, the tenant is required and put in front. -/
theorem scopeValues_of_silent (hcolumn : isSnakeCase k.catalog.tenantColumn.toList = true)
    (htable : k.catalog.findTable? table = some t) (hdistinct : (values.map Prod.fst).Nodup)
    (scope : Scope) :
    k.scopeValues t values scope true = (requireTenant t scope).map fun tenant =>
      (k.catalog.tenantColumn, .plain (.text tenant)) :: values := by
  rw [scopeValues, if_pos htenant]
  cases requireTenant t scope with
  | error r => rfl
  | ok tenant =>
      have checked := checkTenantValues_of_silent silent tenant
      have none := any_meansTenant_of_silent silent
      change (k.checkTenantValues t tenant values >>= _) = Except.ok _
      rw [checked]
      change (if (!true || values.any fun f => k.meansTenant t f.1) = true then _ else _) = _
      rw [none, if_neg (by decide), overlay_checked htable hcolumn htenant hdistinct checked none]
      rfl

/-- Where the tenant in scope is stated and no other value speaks of it, the tenant is required
and the values are left as they are. -/
theorem scopeValues_stating (hscope : scope.bizId = some tenant)
    (own : k.meansTenant t raw = true) :
    k.scopeValues t ((raw, .plain (.text tenant)) :: values) scope true =
      (requireTenant t scope).map fun _ => (raw, .plain (.text tenant)) :: values := by
  rw [scopeValues, if_pos htenant]
  cases hrequired : requireTenant t scope with
  | error r => rfl
  | ok found =>
      obtain rfl := eq_of_requireTenant hscope hrequired
      have checked : k.checkTenantValues t found ((raw, .plain (.text found)) :: values) =
          .ok ((raw, .plain (.text found)) :: values) := by
        rw [checkTenantValues, if_pos own, checkTenantValues_of_silent silent found]
        rw [if_neg (by simp [Live.isNull, Json.isNull]), if_pos (by simp [Live.text?, Json.text?])]
        rfl
      change (k.checkTenantValues t found _ >>= _) = Except.ok _
      rw [checked]
      change (if (!true || List.any (_ :: values) fun f => k.meansTenant t f.1) = true
        then _ else _) = _
      rw [if_pos (by rw [List.any_cons, own]; rfl)]
      rfl

end Values

/-- A stated tenant is assigned as the added value is. -/
theorem assignments_stating (usage : Usage) (own : k.meansTenant t raw = true)
    (own' : k.meansTenant t k.catalog.tenantColumn = true) (v : Live) (values : Named Live) :
    ((raw, v) :: values).mapM (k.assignment t usage) =
      ((k.catalog.tenantColumn, v) :: values).mapM (k.assignment t usage) := by
  have same : k.assignment t usage (raw, v) = k.assignment t usage (k.catalog.tenantColumn, v) := by
    rw [assignment, assignment]
    exact congrArg (· >>= _) (columnIdentifier_eq own own')
  rw [List.mapM_cons, List.mapM_cons, same]

/-! ## Statements -/

section Following

variable {α : Type} (hscope : scope.bizId = some tenant)
  (htenant : k.catalog.isTenantTable t = true) (own : k.meansTenant t raw = true)
include hscope htenant own

/-- What follows the scoping of filters cannot tell a stated tenant from an added one, if it cannot
tell the two filters apart. -/
theorem scopeFilters_bind_stating {filters : List Filter}
    (silent : ∀ f ∈ filters, k.meansTenant t f.column = false)
    {next : List Filter → Except Refusal α}
    (hnext : next (.stating raw tenant :: filters) = next (k.tenantFilter tenant :: filters)) :
    (k.scopeFilters t (.stating raw tenant :: filters) scope >>= next) =
      (k.scopeFilters t filters scope >>= next) := by
  rw [scopeFilters_of_silent htenant silent, scopeFilters_stating htenant silent hscope own,
    bind_map_eq, bind_map_eq]
  apply bind_congr_of_ok
  intro found hfound
  obtain rfl := eq_of_requireTenant hscope hfound
  exact hnext

/-- What follows the scoping of values cannot tell a stated tenant from an added one, if it cannot
tell the two names apart. -/
theorem scopeValues_bind_stating (hcolumn : isSnakeCase k.catalog.tenantColumn.toList = true)
    (htable : k.table table = .ok t) {values : Named Live}
    (hdistinct : (values.map Prod.fst).Nodup)
    (silent : ∀ f ∈ values, k.meansTenant t f.1 = false)
    {next : Named Live → Except Refusal α}
    (hnext : next ((raw, .plain (.text tenant)) :: values) =
      next ((k.catalog.tenantColumn, .plain (.text tenant)) :: values)) :
    (k.scopeValues t ((raw, .plain (.text tenant)) :: values) scope true >>= next) =
      (k.scopeValues t values scope true >>= next) := by
  rw [scopeValues_of_silent htenant silent hcolumn (findTable?_of_table htable) hdistinct,
    scopeValues_stating htenant silent hscope own, bind_map_eq, bind_map_eq]
  apply bind_congr_of_ok
  intro found hfound
  obtain rfl := eq_of_requireTenant hscope hfound
  exact hnext

end Following

section Statements

variable (hcolumn : isSnakeCase k.catalog.tenantColumn.toList = true)
  (hscope : scope.bizId = some tenant)
include hcolumn hscope

theorem compileQuery_stating {q : Query} (own : k.spellsTenant q.table raw = true)
    (silent : ∀ f ∈ q.filters, k.spellsTenant q.table f.column = false) :
    k.compileQuery (q.stating raw tenant) scope = k.compileQuery q scope := by
  rw [compileQuery, compileQuery]
  apply bind_congr_of_ok
  intro t htable
  obtain ⟨htenant, own⟩ := tenant_of_spellsTenant htable own
  have own' := meansTenant_tenantColumn hcolumn (table?_of_table htable) htenant
  apply bind_congr
  intro selected
  apply scopeFilters_bind_stating hscope htenant own
  · exact fun f hf => meansTenant_eq_false htable htenant (silent f hf)
  · rw [conditions_stating own own']

variable {m : Mutation} (htable : k.table m.table = .ok t)
  (own : k.spellsTenant m.table raw = true)
include htable own

theorem compileUpdate_stating (some : m.filters ≠ [])
    (silent : ∀ f ∈ m.filters, k.spellsTenant m.table f.column = false) :
    k.compileUpdate t (m.stating raw tenant) scope = k.compileUpdate t m scope := by
  obtain ⟨htenant, own⟩ := tenant_of_spellsTenant htable own
  have own' := meansTenant_tenantColumn hcolumn (table?_of_table htable) htenant
  rw [compileUpdate, compileUpdate, refuseIf_of_ne_nil some]
  apply bind_congr
  intro values
  apply bind_congr
  intro _
  apply scopeFilters_bind_stating hscope htenant own
  · exact fun f hf => meansTenant_eq_false htable htenant (silent f hf)
  · rw [conditions_stating own own']

theorem compileDelete_stating (some : m.filters ≠ [])
    (silent : ∀ f ∈ m.filters, k.spellsTenant m.table f.column = false) :
    k.compileDelete t (m.stating raw tenant) scope = k.compileDelete t m scope := by
  obtain ⟨htenant, own⟩ := tenant_of_spellsTenant htable own
  have own' := meansTenant_tenantColumn hcolumn (table?_of_table htable) htenant
  rw [compileDelete, compileDelete, refuseIf_of_ne_nil some]
  apply scopeFilters_bind_stating hscope htenant own
  · exact fun f hf => meansTenant_eq_false htable htenant (silent f hf)
  · rw [conditions_stating own own']

theorem compileInsert_writing (hdistinct : m.DistinctKeys)
    (silent : ∀ f ∈ m.values.getD [], k.spellsTenant m.table f.1 = false) :
    k.compileInsert t (m.writing raw tenant) scope = k.compileInsert t m scope := by
  obtain ⟨htenant, own⟩ := tenant_of_spellsTenant htable own
  have own' := meansTenant_tenantColumn hcolumn (table?_of_table htable) htenant
  rw [compileInsert, compileInsert]
  apply scopeValues_bind_stating hscope htenant own hcolumn htable hdistinct
  · exact fun f hf => meansTenant_eq_false htable htenant (silent f hf)
  · rw [assignments_stating .insert own own']
    rfl

end Statements

/-! ## Trees -/

/-- What a batch compiles to depends on a step only through what the step compiles to. -/
theorem compileSteps_congr (before after : List Command) {c c' : Command}
    (h : k.compile scope c' = k.compile scope c) :
    k.compileSteps scope (before ++ c' :: after) = k.compileSteps scope (before ++ c :: after) := by
  induction before with
  | nil => rw [List.nil_append, List.nil_append, compileSteps, compileSteps, h]
  | cons first rest ih =>
      rw [List.cons_append, List.cons_append, compileSteps, compileSteps, ih]

/-- **Stating the tenant is the same as leaving it out.** Where the tenant column is in snake case
and a tenant is in scope, a command that states that tenant, at a place where another leaves it
out, compiles to the same plan as the other, or is refused for the same reason with the same
message. -/
theorem compile_states (hcolumn : isSnakeCase k.catalog.tenantColumn.toList = true)
    (hscope : scope.bizId = some tenant) {c c' : Command} (h : c.States k tenant c') :
    k.compile scope c' = k.compile scope c := by
  induction h with
  | query own silent =>
      rw [compile, compile, compileQuery_stating hcolumn hscope own silent]
  | @filtered m raw action some own silent =>
      have same : k.compileMutation (m.stating raw tenant) scope = k.compileMutation m scope := by
        apply bind_congr_of_ok
        intro t htable
        rcases action with action | action
        · simp only [Mutation.stating, action]
          exact compileUpdate_stating hcolumn hscope htable own some silent
        · simp only [Mutation.stating, action]
          exact compileDelete_stating hcolumn hscope htable own some silent
      rw [compile, compile, same]
  | @insert m raw action distinct own silent =>
      have same : k.compileMutation (m.writing raw tenant) scope = k.compileMutation m scope := by
        apply bind_congr_of_ok
        intro t htable
        simp only [Mutation.writing, action]
        exact compileInsert_writing hcolumn hscope htable own distinct silent
      rw [compile, compile, same]
  | step _ ih => rw [compile, compile, compileSteps_congr _ _ ih]

/-! ## Removing payments and adding a location, with and without the tenant -/

/-- Remove the payments without a currency. -/
def demoRemoval : Mutation :=
  { action := .delete, table := "payments", values := none
    filters := [⟨"currency", .isNull, none⟩], returning := none }

/-- Add a location. -/
def demoAddition : Mutation :=
  { action := .insert, table := "Locations", values := some [("name", .plain (.text "Quay"))]
    filters := [], returning := some ["ID"] }

/-- The spellings of the tenant column, and the columns that are none. -/
theorem demo_spellings :
    demo.spellsTenant "payments" "Biz-ID" = true ∧
      demo.spellsTenant "payments" "currency" = false ∧
      demo.spellsTenant "Locations" "bizId" = true ∧
      demo.spellsTenant "Locations" "name" = false := by
  decide +kernel

/-- The removal states the tenant in a batch inside a batch, and the addition states it alone. -/
theorem demo_states :
    (Command.batch [demoInsert, .batch [.mutate demoRemoval]]).States demo "acme"
        (.batch [demoInsert, .batch [.mutate (demoRemoval.stating "Biz-ID" "acme")]]) ∧
      (Command.mutate demoAddition).States demo "acme"
        (.mutate (demoAddition.writing "bizId" "acme")) := by
  obtain ⟨removal, currency, addition, name⟩ := demo_spellings
  constructor
  · have inner : (Command.mutate demoRemoval).States demo "acme"
        (.mutate (demoRemoval.stating "Biz-ID" "acme")) :=
      .filtered (.inr rfl) (by decide) removal fun f hf => by
        rw [List.mem_singleton.mp hf]
        exact currency
    exact @Command.States.step _ _ [demoInsert] [] _ _ (@Command.States.step _ _ [] [] _ _ inner)
  · exact .insert rfl (by decide) addition fun f hf => by
      rw [List.mem_singleton.mp hf]
      exact name

/-- Both compile to what they compile to without the tenant, and that is a plan. -/
theorem compile_demoStating :
    isSnakeCase demo.catalog.tenantColumn.toList = true ∧ demoScope.bizId = some "acme" ∧
      (demo.compile demoScope
          (.batch [demoInsert, .batch [.mutate (demoRemoval.stating "Biz-ID" "acme")]]) =
        demo.compile demoScope (.batch [demoInsert, .batch [.mutate demoRemoval]])) ∧
      (demo.compile demoScope (.mutate (demoAddition.writing "bizId" "acme")) =
        demo.compile demoScope (.mutate demoAddition)) ∧
      (demo.compile demoScope (.mutate demoAddition)).isOk = true := by
  obtain ⟨removal, addition⟩ := demo_states
  refine ⟨by decide +kernel, rfl, ?_, ?_, by decide +kernel⟩
  · exact compile_states (by decide +kernel) rfl removal
  · exact compile_states (by decide +kernel) rfl addition

end Compiler

end Tenancy
