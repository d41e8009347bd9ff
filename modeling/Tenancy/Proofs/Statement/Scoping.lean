/-
# The tenant among filters and values

Filters and values are scoped under the loose names the caller wrote, and those names are
resolved once more when conditions and assignments are made from them. Both readings go through
the catalog, so they agree: a filter or a value that means the tenant column is the one from
which a condition or an assignment on that column comes. Scoping requires that every one of
them carries the tenant in scope, and adds one under the name of the tenant column where there
is none; in snake case that name means the tenant column.
-/

import Tenancy.Proofs.Catalog.Resolution
import Tenancy.Proofs.Json.Live
import Tenancy.Proofs.Named
import Tenancy.Proofs.Statement.Compiles

namespace Tenancy

/-- The column a condition is on. The condition that holds of no row is on none. -/
def Condition.column? : Condition → Option Identifier
  | .compare column .. | .isIn column .. | .isNull column | .notNull column => some column
  | .never => none

namespace Compiler

variable {k : Compiler} {t : Table} {scope : Scope} {tenant : String}

/-! ## Names -/

/-- A table that was found is found again under its own name. -/
theorem table?_of_table {raw : String} (h : k.table raw = .ok t) :
    k.catalog.table? t.name = some t := by
  unfold table at h
  split at h
  · rename_i found hfound
    cases h
    exact Catalog.table?_name hfound
  · cases h

/-- A statement is on a table of the catalog. -/
theorem table?_of_compiles {c : Command} {s : Statement} (h : k.Compiles scope c t s) :
    k.catalog.table? t.name = some t ∧ s.table.name = t.name := by
  cases h with
  | select htable _ _ htableName =>
      exact ⟨table?_of_table htable, Identifier.name_of_ofName htableName⟩
  | insert _ htable htableName =>
      exact ⟨table?_of_table htable, Identifier.name_of_ofName htableName⟩
  | update _ htable htableName =>
      exact ⟨table?_of_table htable, Identifier.name_of_ofName htableName⟩
  | delete _ htable htableName =>
      exact ⟨table?_of_table htable, Identifier.name_of_ofName htableName⟩

theorem column_eq_ok {usage : Usage} {raw name : String} :
    k.column t usage raw = .ok name ↔ k.catalog.resolveColumn? t.name raw = some name := by
  unfold column
  split <;> simp_all

/-- The identifier of a column has the name that the loose name resolves to. -/
theorem resolveColumn?_of_columnIdentifier {usage : Usage} {raw : String} {i : Identifier}
    (h : k.columnIdentifier t usage raw = .ok i) :
    k.catalog.resolveColumn? t.name raw = some i.name := by
  obtain ⟨name, hname, hi⟩ := bind_eq_ok.mp h
  rw [Identifier.name_of_ofName hi]
  exact column_eq_ok.mp hname

theorem meansTenant_iff {raw : String} : k.meansTenant t raw = true ↔
    k.catalog.resolveColumn? t.name raw = some k.catalog.tenantColumn := by
  simp [meansTenant]

/-- In snake case, the name of the tenant column means the tenant column. -/
theorem meansTenant_tenantColumn (hcolumn : isSnakeCase k.catalog.tenantColumn.toList = true)
    (htable : k.catalog.table? t.name = some t) (htenant : k.catalog.isTenantTable t = true) :
    k.meansTenant t k.catalog.tenantColumn = true := by
  rw [meansTenant_iff, Catalog.resolveColumn?_of_table? htable]
  exact Table.resolve?_of_isSnakeCase hcolumn htenant

/-! ## Filters -/

/-- A tenant that was required is in scope. -/
theorem of_requireTenant (h : requireTenant t scope = .ok tenant) :
    scope.bizId = some tenant ∧ tenant ≠ "" := by
  unfold requireTenant at h
  split at h
  · rename_i found hfound
    split at h
    · cases h
    · rename_i hne
      cases h
      refine ⟨hfound, ?_⟩
      rintro rfl
      exact hne rfl
  · cases h

/-- A filter that asks for the tenant asks for equality with that text. -/
theorem asksFor_iff {f : Filter} :
    asksFor tenant f = true ↔ f.op = .eq ∧ f.operand = some (.text tenant) := by
  have text (j : Json) : j.text? = some tenant ↔ j = .text tenant := by
    cases j <;> simp [Json.text?]
  simp only [asksFor, Bool.and_eq_true, beq_iff_eq]
  cases f.operand with
  | none => simp
  | some j => simp [text]

/-- The filter that is added for a tenant. -/
def tenantFilter (k : Compiler) (tenant : String) : Filter :=
  { column := k.catalog.tenantColumn, op := .eq, operand := some (.text tenant) }

/-- Scoping filters on a tenant table succeeds only under a tenant for which every filter on the
tenant column asks. It leaves the filters as they are if there is such a filter, and otherwise
adds the one for the tenant in front. -/
theorem scopeFilters_cases (htenant : k.catalog.isTenantTable t = true)
    {given filters : List Filter} (h : k.scopeFilters t given scope = .ok filters) :
    ∃ tenant, scope.bizId = some tenant ∧ tenant ≠ "" ∧
      (∀ f ∈ given, k.meansTenant t f.column = true → asksFor tenant f = true) ∧
      ((filters = given ∧ ∃ f ∈ given, k.meansTenant t f.column = true) ∨
        (filters = k.tenantFilter tenant :: given ∧
          ∀ f ∈ given, k.meansTenant t f.column = false)) := by
  rw [scopeFilters, if_pos htenant] at h
  obtain ⟨tenant, hrequired, h⟩ := bind_eq_ok.mp h
  obtain ⟨hscope, hne⟩ := of_requireTenant hrequired
  dsimp only at h
  split at h
  · rename_i hall
    rw [List.all_eq_true] at hall
    refine ⟨tenant, hscope, hne, fun f hf hmeans => hall f (List.mem_filter.mpr ⟨hf, hmeans⟩), ?_⟩
    split at h
    · rename_i hempty
      obtain rfl := pure_eq_ok.mp h
      rw [List.isEmpty_iff, List.filter_eq_nil_iff] at hempty
      exact .inr ⟨rfl, fun f hf => Bool.eq_false_iff.mpr (hempty f hf)⟩
    · rename_i hnonempty
      obtain rfl := pure_eq_ok.mp h
      obtain ⟨f, hf⟩ := List.exists_mem_of_ne_nil _ (mt List.isEmpty_iff.mpr hnonempty)
      exact .inl ⟨rfl, f, List.mem_filter.mp hf⟩
  · exact absurd h throw_ne_ok

/-- What filters on a tenant table are after scoping: one of them means the tenant column, and
every one that does asks for the tenant. -/
structure FiltersScoped (k : Compiler) (t : Table) (tenant : String) (filters : List Filter) :
    Prop where
  /-- The tenant is asked for. -/
  asked : ∃ f ∈ filters, k.meansTenant t f.column = true
  /-- Nothing but the tenant is asked for. -/
  only : ∀ f ∈ filters, k.meansTenant t f.column = true → asksFor tenant f = true

/-- Scoping filters on a tenant table succeeds only under a tenant, and makes every filter on
the tenant column ask for that tenant. -/
theorem filtersScoped_of_scopeFilters
    (hcolumn : isSnakeCase k.catalog.tenantColumn.toList = true)
    (htable : k.catalog.table? t.name = some t) (htenant : k.catalog.isTenantTable t = true)
    {given filters : List Filter} (h : k.scopeFilters t given scope = .ok filters) :
    ∃ tenant, scope.bizId = some tenant ∧ tenant ≠ "" ∧ FiltersScoped k t tenant filters := by
  obtain ⟨tenant, hscope, hne, agree, ⟨rfl, asked⟩ | ⟨rfl, -⟩⟩ := scopeFilters_cases htenant h
  · exact ⟨tenant, hscope, hne, asked, agree⟩
  · have own := meansTenant_tenantColumn hcolumn htable htenant
    refine ⟨tenant, hscope, hne, ⟨_, List.mem_cons_self, own⟩, ?_⟩
    intro f hf hmeans
    rcases List.mem_cons.mp hf with rfl | hf
    · exact asksFor_iff.mpr ⟨rfl, rfl⟩
    · exact agree f hf hmeans

/-! ## Conditions -/

/-- A condition is on the column that its filter names. -/
theorem resolveColumn?_of_condition {f : Filter} {c : Condition} {i : Identifier}
    (h : k.condition t f = .ok c) (hc : c.column? = some i) :
    k.catalog.resolveColumn? t.name f.column = some i.name := by
  obtain ⟨column, hcolumn, h⟩ := bind_eq_ok.mp h
  have resolved := resolveColumn?_of_columnIdentifier hcolumn
  have same : c.column? = some column ∨ c.column? = none := by
    split at h
    · exact .inl (pure_eq_ok.mp h ▸ rfl)
    · exact .inl (pure_eq_ok.mp h ▸ rfl)
    · unfold compareCondition at h
      split at h
      · cases h
      · cases h
      · split at h <;> cases h <;> exact .inl rfl
      · split at h <;> cases h <;> exact .inl rfl
    · unfold membershipCondition at h
      split at h <;> cases h
      · exact .inr rfl
      · exact .inl rfl
  rcases same with same | same
  · obtain rfl : column = i := by simpa [same] using hc
    exact resolved
  · simp [same] at hc

/-- The condition of a filter that asks for the tenant compares its column with the tenant. -/
theorem condition_of_asksFor {f : Filter} {c : Condition} (h : k.condition t f = .ok c)
    (hasks : asksFor tenant f = true) :
    ∃ i, c = .compare i .eq (k.bindTo t i.name (.plain (.text tenant))) ∧
      k.catalog.resolveColumn? t.name f.column = some i.name := by
  obtain ⟨hop, hoperand⟩ := asksFor_iff.mp hasks
  obtain ⟨column, hcolumn, h⟩ := bind_eq_ok.mp h
  rw [hop, hoperand] at h
  cases h
  exact ⟨column, rfl, resolveColumn?_of_columnIdentifier hcolumn⟩

/-! ## Values -/

/-- A live value that is a text is plain. -/
theorem eq_plain_of_text? {v : Live} (h : v.text? = some tenant) :
    v = .plain (.text tenant) := by
  cases v with
  | plain j => cases j <;> simp_all [Live.text?, Json.text?]
  | bag | list | object => cases h

/-- Checking values leaves out those that are null in the tenant column and nothing else, and
succeeds only if all other values of the tenant column are the tenant. -/
theorem of_checkTenantValues {values checked : Named Live}
    (h : k.checkTenantValues t tenant values = .ok checked) :
    checked = values.filter (fun f => !(k.meansTenant t f.1 && f.2.isNull)) ∧
      ∀ f ∈ checked, k.meansTenant t f.1 = true → f.2 = .plain (.text tenant) := by
  induction values generalizing checked with
  | nil =>
      cases h
      exact ⟨rfl, by simp⟩
  | cons first rest ih =>
      obtain ⟨raw, value⟩ := first
      rw [checkTenantValues] at h
      split at h
      · rename_i hmeans
        split at h
        · rename_i hnull
          obtain ⟨hrest, hall⟩ := ih h
          exact ⟨by simpa [hmeans, hnull] using hrest, hall⟩
        · rename_i hnull
          split at h
          · rename_i htext
            obtain ⟨others, hothers, rfl⟩ := map_eq_ok.mp h
            obtain ⟨hrest, hall⟩ := ih hothers
            refine ⟨by simpa [hnull] using hrest, ?_⟩
            intro f hf hf'
            rcases List.mem_cons.mp hf with rfl | hf
            · exact eq_plain_of_text? (beq_iff_eq.mp htext)
            · exact hall f hf hf'
          · cases h
      · rename_i hother
        obtain ⟨others, hothers, rfl⟩ := map_eq_ok.mp h
        obtain ⟨hrest, hall⟩ := ih hothers
        refine ⟨by simpa [hother] using hrest, ?_⟩
        intro f hf hf'
        rcases List.mem_cons.mp hf with rfl | hf
        · exact absurd hf' hother
        · exact hall f hf hf'

/-- On a table without the tenant column the values are left as they are. -/
theorem eq_of_scopeValues (htenant : k.catalog.isTenantTable t ≠ true)
    {given values : Named Live} {inject : Bool}
    (h : k.scopeValues t given scope inject = .ok values) : values = given := by
  rw [scopeValues, if_neg htenant] at h
  exact (pure_eq_ok.mp h).symm

/-- Scoping values on a tenant table succeeds only under a tenant for which they are checked. The
tenant is laid under what is left of them if it is to be added and none of them is of the tenant
column. -/
theorem scopeValues_cases (htenant : k.catalog.isTenantTable t = true)
    {given values : Named Live} {inject : Bool}
    (h : k.scopeValues t given scope inject = .ok values) :
    ∃ tenant checked, scope.bizId = some tenant ∧ tenant ≠ "" ∧
      k.checkTenantValues t tenant given = .ok checked ∧
      ((values = checked ∧ (inject = true → ∃ f ∈ checked, k.meansTenant t f.1 = true)) ∨
        (values = Named.overlay [(k.catalog.tenantColumn, .plain (.text tenant))] checked ∧
          inject = true ∧ ∀ f ∈ checked, k.meansTenant t f.1 = false)) := by
  rw [scopeValues, if_pos htenant] at h
  obtain ⟨tenant, hrequired, h⟩ := bind_eq_ok.mp h
  obtain ⟨checked, hchecked, h⟩ := bind_eq_ok.mp h
  obtain ⟨hscope, hne⟩ := of_requireTenant hrequired
  refine ⟨tenant, checked, hscope, hne, hchecked, ?_⟩
  split at h
  · rename_i hthere
    obtain rfl := pure_eq_ok.mp h
    refine .inl ⟨rfl, ?_⟩
    rintro rfl
    exact List.any_eq_true.mp hthere
  · rename_i habsent
    obtain rfl := pure_eq_ok.mp h
    rw [Bool.not_eq_true, Bool.or_eq_false_iff, Bool.not_eq_false', List.any_eq_false] at habsent
    exact .inr ⟨rfl, habsent.1, fun f hf => Bool.eq_false_iff.mpr (habsent.2 f hf)⟩

/-- Scoping values on a tenant table succeeds only under a tenant, and makes every value of the
tenant column that tenant. Where the tenant is to be added, some value is of that column. -/
theorem valuesScoped_of_scopeValues
    (hcolumn : isSnakeCase k.catalog.tenantColumn.toList = true)
    (htable : k.catalog.table? t.name = some t) (htenant : k.catalog.isTenantTable t = true)
    {given values : Named Live} {inject : Bool}
    (h : k.scopeValues t given scope inject = .ok values) :
    ∃ tenant, scope.bizId = some tenant ∧ tenant ≠ "" ∧
      (inject = true → ∃ f ∈ values, k.meansTenant t f.1 = true) ∧
      ∀ f ∈ values, k.meansTenant t f.1 = true → f.2 = .plain (.text tenant) := by
  obtain ⟨tenant, checked, hscope, hne, hchecked, hcases⟩ := scopeValues_cases htenant h
  refine ⟨tenant, hscope, hne, ?_⟩
  have own := meansTenant_tenantColumn hcolumn htable htenant
  have agree := (of_checkTenantValues hchecked).2
  rcases hcases with ⟨rfl, hthere⟩ | ⟨rfl, -, -⟩
  · exact ⟨hthere, agree⟩
  · -- the tenant is laid under the values, none of which means the tenant column
    refine ⟨fun _ => ?_, ?_⟩
    · have front : (k.catalog.tenantColumn, Live.plain (.text tenant)) ∈
          [(k.catalog.tenantColumn, Live.plain (.text tenant))] := List.mem_cons_self
      obtain ⟨v, hv⟩ := Named.exists_mem_overlay front checked
      exact ⟨_, hv, own⟩
    · intro f hf hmeans
      rcases Named.mem_overlay hf with hf | hf
      · rw [List.mem_singleton.mp hf]
      · exact agree f hf hmeans

/-! ## Assignments -/

/-- Only a value that refers to variables that contain themselves cannot be bound. -/
theorem of_isUnbindable {name : String} {v : Live} (h : k.isUnbindable t name v = true) :
    v.refers = true ∧ k.vars.fields?.isNone = true := by
  rw [isUnbindable, Option.any_eq_true] at h
  obtain ⟨c, -, hendless⟩ := h
  rw [Value.isEndless, Bool.and_eq_true] at hendless
  exact Live.isNone_now?_iff.mp hendless.2

theorem isUnbindable_of_not_refers (name : String) {v : Live} (h : v.refers = false) :
    k.isUnbindable t name v = false :=
  Bool.eq_false_iff.mpr fun hbad => Bool.eq_false_iff.mp h (of_isUnbindable hbad).1

/-- An assignment is to the column that the value is given for, and its value is bound to that
column. -/
theorem of_assignment {usage : Usage} {f : String × Live} {a : Identifier × Value}
    (h : k.assignment t usage f = .ok a) :
    k.catalog.resolveColumn? t.name f.1 = some a.1.name ∧ a.2 = k.bindTo t a.1.name f.2 := by
  obtain ⟨column, hcolumn, h⟩ := bind_eq_ok.mp h
  obtain ⟨_, -, h⟩ := bind_eq_ok.mp h
  obtain rfl := pure_eq_ok.mp h
  exact ⟨resolveColumn?_of_columnIdentifier hcolumn, rfl⟩

end Compiler

end Tenancy
