/-
# Tenants are kept apart

A statement on a tenant table reaches the rows of the tenant in scope and no others. The
statements of this module are about the text that goes to the database, read back token by
token, and about the parameters its places point at. They do not depend on how a caller spells
the tenant column, since every spelling that means it ends up as the same name in the text, and
they hold of every statement of a plan, however deep the batch it stands in.
-/

import Tenancy.Proofs.Statement.Clauses
import Tenancy.Proofs.Statement.Scoping

namespace Tenancy

namespace Sql

/-- A part of a text that sets a column equal to a place whose parameter is the given value. -/
def Equates (name : String) (value : Value) (params : List Value) (part : List Token) : Prop :=
  ∃ number, part = [.name name, .word "=", .place number] ∧ 0 < number ∧
    params[number - 1]? = some value

/-- The condition part of a text admits only rows that have the given value in a column: some
conjunct asks for it, no conjunct on that column asks for anything else, and the conjuncts are
joined by nothing but conjunction. -/
structure Confines (name : String) (value : Value) (params : List Value) (sql : String) :
    Prop where
  asked : ∃ conjunct ∈ conjuncts sql, Equates name value params conjunct
  only : ∀ conjunct ∈ conjuncts sql, .name name ∈ conjunct → Equates name value params conjunct
  conjunction : ∀ conjunct ∈ conjuncts sql, .word "OR" ∉ conjunct

theorem name_not_mem_placeTokens {α : Type} (next : Nat) (items : List α) (name : String) :
    Token.name name ∉ placeTokens next items := by
  intro h
  rcases mem_intercalate h with hcomma | ⟨part, hpart, hname⟩
  · cases hcomma
  · obtain ⟨p, -, rfl⟩ := List.mem_map.mp hpart
    cases List.mem_singleton.mp hname

/-- The only name in a condition is the name of its column. -/
theorem column?_of_name_mem {number : Nat} {c : Condition} {name : String}
    (h : .name name ∈ conditionTokens number c) : ∃ i, c.column? = some i ∧ i.name = name := by
  cases c with
  | compare column op value =>
      have hname : name = column.name := by simpa [conditionTokens, Token.place] using h
      exact ⟨column, rfl, hname.symm⟩
  | isIn column first rest =>
      have places := name_not_mem_placeTokens number (first :: rest) name
      have hname : name = column.name := by simpa [conditionTokens, places] using h
      exact ⟨column, rfl, hname.symm⟩
  | isNull column | notNull column =>
      have hname : name = column.name := by simpa [conditionTokens] using h
      exact ⟨column, rfl, hname.symm⟩
  | never => simp [conditionTokens] at h

/-- A comparison for equality in a statement equates its column with its value. -/
theorem equates_of_numbered {s : Statement} {number : Nat} {i : Identifier} {value : Value}
    (h : (number, .compare i .eq value) ∈ s.numberedConditions) :
    Equates i.name value s.params (conditionTokens number (.compare i .eq value)) := by
  obtain ⟨hpos, hparam⟩ := Statement.getElem?_params_of_numbered h rfl
  exact ⟨number, rfl, hpos, hparam⟩

/-- The row that a text adds has the given value in a column: the column is among those that are
written, and wherever it is, the value at its position is a place with that parameter. -/
structure Fills (name : String) (value : Value) (params : List Value) (sql : String) : Prop where
  present : [.name name] ∈ insertedColumns sql
  only : ∀ (i : Nat) (item : List Token), (insertedColumns sql)[i]? = some item →
    .name name ∈ item → ∃ number, (insertedValues sql)[i]? = some [.place number] ∧ 0 < number ∧
      params[number - 1]? = some value

/-- The assignments of a text give a column no other value than the given one. -/
def Keeps (name : String) (value : Value) (params : List Value) (sql : String) : Prop :=
  ∀ part ∈ assignments sql, .name name ∈ part → Equates name value params part

/-- An insert that writes nothing but the given value to a column, and does write to it. -/
theorem fills_of_assignments {s : Statement} {name : String} {value : Value}
    (haction : s.action? = some .insert) (hthere : ∃ a ∈ s.assignments, a.1.name = name)
    (hall : ∀ a ∈ s.assignments, a.1.name = name → a.2 = value) :
    Fills name value s.params s.sql := by
  cases s with
  | select | update | delete => cases haction
  | insert table assigned returning =>
      obtain ⟨first, hfirst, hname⟩ := hthere
      have hne : assigned ≠ [] := List.ne_nil_of_mem hfirst
      constructor
      · rw [insertedColumns_sql hne, List.mem_map]
        exact ⟨first, hfirst, by rw [hname]⟩
      · intro i item hitem hnamed
        rw [insertedColumns_sql hne, List.getElem?_map, Option.map_eq_some_iff] at hitem
        obtain ⟨a, ha, rfl⟩ := hitem
        have hname : name = a.1.name := Token.name.inj (List.mem_singleton.mp hnamed)
        have hparam := Statement.getElem?_params_of_assignment
          (s := .insert table assigned returning) ha
        refine ⟨1 + i, ?_, by omega, ?_⟩
        · rw [insertedValues_sql hne, List.getElem?_map, getElem?_numberFrom_one, ha]
          rfl
        · rw [Nat.add_sub_cancel_left, hparam, hall a (List.mem_of_getElem? ha) hname.symm]

/-- An update that writes nothing but the given value to a column. -/
theorem keeps_of_assignments {s : Statement} {name : String} {value : Value}
    (haction : s.action? = some .update) (hne : s.assignments ≠ [])
    (hall : ∀ a ∈ s.assignments, a.1.name = name → a.2 = value) :
    Keeps name value s.params s.sql := by
  cases s with
  | select | insert | delete => cases haction
  | update table assigned conditions returning =>
      intro part hpart hnamed
      have hne : assigned ≠ [] := hne
      rw [assignments_sql hne, setTokens, List.mem_map] at hpart
      obtain ⟨p, hp, rfl⟩ := hpart
      obtain ⟨i, hi⟩ := List.mem_iff_getElem?.mp hp
      rw [getElem?_numberFrom_one, Option.map_eq_some_iff] at hi
      obtain ⟨a, ha, rfl⟩ := hi
      have hname : name = a.1.name := by
        simpa [assignmentTokens, Token.place] using hnamed
      have hparam := Statement.getElem?_params_of_assignment
        (s := .update table assigned conditions returning) ha
      refine ⟨1 + i, by rw [hname]; rfl, by omega, ?_⟩
      rw [Nat.add_sub_cancel_left, hparam, hall a (List.mem_of_getElem? ha) hname.symm]

end Sql

namespace Compiler

variable {k : Compiler} {t : Table} {scope : Scope} {tenant : String}

/-- The conditions of a statement that does not add a row come from filters under the scope. -/
theorem scopedConditions_of_compiles {c : Command} {s : Statement} (h : k.Compiles scope c t s)
    (hrows : s.action? ≠ some .insert) :
    ∃ given filters, k.scopeFilters t given scope = .ok filters ∧
      k.conditions t filters = .ok s.conditions := by
  cases h with
  | select _ _ _ _ hfilters hconditions => exact ⟨_, _, hfilters, hconditions⟩
  | insert => exact absurd rfl hrows
  | update _ _ _ _ _ _ hfilters _ hconditions => exact ⟨_, _, hfilters, hconditions⟩
  | delete _ _ _ _ hfilters hconditions => exact ⟨_, _, hfilters, hconditions⟩

theorem bindTo_of_column? {column : Column} {name : String} (h : t.column? name = some column)
    (v : Live) : k.bindTo t name v = Value.bind k.vars column.sqlType v := by
  rw [bindTo, h]

/-- A condition that comes from scoped filters and names the tenant column compares that column
with the tenant. -/
theorem condition_of_filtersScoped {filters : List Filter} {conditions : List Condition}
    (hscoped : FiltersScoped k t tenant filters) (h : k.conditions t filters = .ok conditions)
    {c : Condition} (hc : c ∈ conditions) {i : Identifier} (hi : c.column? = some i)
    (hname : i.name = k.catalog.tenantColumn) :
    c = .compare i .eq (k.bindTo t k.catalog.tenantColumn (.plain (.text tenant))) := by
  obtain ⟨f, hf, hfc⟩ := exists_of_mem_mapM h hc
  have hmeans : k.meansTenant t f.column = true := by
    rw [meansTenant_iff, resolveColumn?_of_condition hfc hi, hname]
  obtain ⟨j, rfl, -⟩ := condition_of_asksFor hfc (hscoped.only f hf hmeans)
  obtain rfl : j = i := Option.some.inj hi
  rw [hname]

/-- Scoped filters give a condition that compares the tenant column with the tenant. -/
theorem exists_condition_of_filtersScoped {filters : List Filter} {conditions : List Condition}
    (hscoped : FiltersScoped k t tenant filters) (h : k.conditions t filters = .ok conditions) :
    ∃ i : Identifier, i.name = k.catalog.tenantColumn ∧
      .compare i .eq (k.bindTo t k.catalog.tenantColumn (.plain (.text tenant))) ∈ conditions := by
  obtain ⟨f, hf, hmeans⟩ := hscoped.asked
  obtain ⟨c, hc, hfc⟩ := exists_mem_of_mapM h hf
  obtain ⟨i, rfl, hresolved⟩ := condition_of_asksFor hfc (hscoped.only f hf hmeans)
  have hname : i.name = k.catalog.tenantColumn :=
    Option.some.inj (hresolved.symm.trans (meansTenant_iff.mp hmeans))
  exact ⟨i, hname, hname ▸ hc⟩

/-- Conditions from scoped filters confine a statement to the rows of the tenant. -/
theorem confines_of_filtersScoped {filters : List Filter} {s : Statement}
    (hscoped : FiltersScoped k t tenant filters)
    (h : k.conditions t filters = .ok s.conditions) :
    Sql.Confines k.catalog.tenantColumn
      (k.bindTo t k.catalog.tenantColumn (.plain (.text tenant))) s.params s.sql := by
  have conjunct {part : List Sql.Token} (hpart : part ∈ Sql.conjuncts s.sql) :
      ∃ p ∈ s.numberedConditions, Sql.conditionTokens p.1 p.2 = part := by
    rwa [Sql.conjuncts_sql, List.mem_map] at hpart
  constructor
  · obtain ⟨i, hname, hi⟩ := exists_condition_of_filtersScoped hscoped h
    obtain ⟨number, hp⟩ := exists_mem_numberFrom Condition.size hi (1 + s.assignments.length)
    have equates := Sql.equates_of_numbered hp
    rw [hname] at equates
    refine ⟨_, ?_, equates⟩
    rw [Sql.conjuncts_sql]
    exact List.mem_map_of_mem hp
  · intro part hpart hnamed
    obtain ⟨⟨number, c⟩, hp, rfl⟩ := conjunct hpart
    obtain ⟨i, hi, hname⟩ := Sql.column?_of_name_mem hnamed
    obtain rfl := condition_of_filtersScoped hscoped h (mem_of_mem_numberFrom _ hp) hi hname
    have equates := Sql.equates_of_numbered hp
    rwa [hname] at equates
  · intro part hpart hor
    obtain ⟨p, -, rfl⟩ := conjunct hpart
    exact (Sql.plain_conditionTokens p.1 p.2).not_mem (by decide) hor

/-- A statement that reads, changes or removes rows of a tenant table is compiled only under a
tenant, and is confined to the rows that have this tenant in the tenant column. -/
theorem rows_confined_to_tenant (hcolumn : isSnakeCase k.catalog.tenantColumn.toList = true)
    {c : Command} {plan : Plan} (h : k.compile scope c = .ok plan) {s : Statement}
    (hs : s ∈ plan.leaves) (hrows : s.action? ≠ some .insert) :
    ∃ t, k.catalog.table? s.table.name = some t ∧ (k.catalog.isTenantTable t = true →
      ∃ tenant column, scope.bizId = some tenant ∧ tenant ≠ "" ∧
        t.column? k.catalog.tenantColumn = some column ∧
        Sql.Confines k.catalog.tenantColumn
          (Value.bind k.vars column.sqlType (.plain (.text tenant))) s.params s.sql) := by
  obtain ⟨leaf, t, hleaf⟩ := compiles_of_mem_leaves c h s hs
  obtain ⟨htable, hname⟩ := table?_of_compiles hleaf
  refine ⟨t, hname ▸ htable, ?_⟩
  intro htenant
  obtain ⟨given, filters, hfilters, hconditions⟩ := scopedConditions_of_compiles hleaf hrows
  obtain ⟨tenant, hscope, hne, hscoped⟩ :=
    filtersScoped_of_scopeFilters hcolumn htable htenant hfilters
  obtain ⟨column, hfound⟩ := Table.hasColumn_iff.mp htenant
  refine ⟨tenant, column, hscope, hne, hfound, ?_⟩
  rw [← bindTo_of_column? hfound]
  exact confines_of_filtersScoped hscoped hconditions

theorem rows_confined_in_demoBatch :
    ∃ plan s, demo.compile demoScope demoBatch = .ok plan ∧ s ∈ plan.leaves ∧
      s.action? = some .update ∧
      Sql.Confines "biz_id" (.plain (.text "acme")) s.params s.sql := by
  obtain ⟨plan, hplan, hleaves⟩ := compile_demoBatch
  obtain ⟨s, hs, haction, hname⟩ := hleaves (some .update, "booking_orders") (by decide)
  obtain ⟨t, htable, hconfined⟩ := rows_confined_to_tenant (by decide) hplan hs (by simp [haction])
  rw [hname] at htable
  cases htable
  obtain ⟨tenant, column, hscope, -, hcolumn, h⟩ := hconfined rfl
  cases hscope
  cases hcolumn
  exact ⟨plan, s, hplan, hs, haction, h⟩

/-! ## What is written -/

/-- An assignment to the tenant column that comes from scoped values assigns the tenant. -/
theorem value_of_scopedValues {usage : Usage} {values : Named Live}
    (hscoped : ∀ f ∈ values, k.meansTenant t f.1 = true → f.2 = .plain (.text tenant))
    {assigned : List (Identifier × Value)} (h : values.mapM (k.assignment t usage) = .ok assigned)
    {a : Identifier × Value} (ha : a ∈ assigned) (hname : a.1.name = k.catalog.tenantColumn) :
    a.2 = k.bindTo t k.catalog.tenantColumn (.plain (.text tenant)) := by
  obtain ⟨f, hf, hassigned⟩ := exists_of_mem_mapM h ha
  obtain ⟨hresolved, hvalue⟩ := of_assignment hassigned
  have hmeans : k.meansTenant t f.1 = true := by
    rw [meansTenant_iff, hresolved, hname]
  rw [hvalue, hname, hscoped f hf hmeans]

/-- A value that means the tenant column becomes an assignment to it. -/
theorem exists_assignment_of_meansTenant {usage : Usage} {values : Named Live}
    {assigned : List (Identifier × Value)} (h : values.mapM (k.assignment t usage) = .ok assigned)
    {f : String × Live} (hf : f ∈ values) (hmeans : k.meansTenant t f.1 = true) :
    ∃ a ∈ assigned, a.1.name = k.catalog.tenantColumn := by
  obtain ⟨a, ha, hassigned⟩ := exists_mem_of_mapM h hf
  obtain ⟨hresolved, -⟩ := of_assignment hassigned
  exact ⟨a, ha, Option.some.inj (hresolved.symm.trans (meansTenant_iff.mp hmeans))⟩

/-- The assignments of a statement that writes values come from values under the scope, with the
tenant added where a row is added. -/
theorem scopedAssignments_of_compiles {c : Command} {s : Statement} (h : k.Compiles scope c t s)
    (hwrites : s.action? = some .insert ∨ s.action? = some .update) :
    ∃ given values usage inject, k.scopeValues t given scope inject = .ok values ∧
      values ≠ [] ∧ values.mapM (k.assignment t usage) = .ok s.assignments ∧
      (s.action? = some .insert → inject = true) := by
  cases h with
  | select => rcases hwrites with hwrites | hwrites <;> cases hwrites
  | insert _ _ _ hvalues hne hassigned =>
      exact ⟨_, _, _, _, hvalues, hne, hassigned, fun _ => rfl⟩
  | update _ _ _ hvalues hne _ _ hassigned =>
      refine ⟨_, _, _, _, hvalues, hne, hassigned, ?_⟩
      intro haction
      cases haction
  | delete => rcases hwrites with hwrites | hwrites <;> cases hwrites

/-- A statement that writes to a tenant table is compiled only under a tenant. A row it adds
belongs to this tenant, and the rows it changes are not moved to another one. -/
theorem written_values_belong_to_tenant
    (hcolumn : isSnakeCase k.catalog.tenantColumn.toList = true)
    {c : Command} {plan : Plan} (h : k.compile scope c = .ok plan) {s : Statement}
    (hs : s ∈ plan.leaves) (hwrites : s.action? = some .insert ∨ s.action? = some .update) :
    ∃ t, k.catalog.table? s.table.name = some t ∧ (k.catalog.isTenantTable t = true →
      ∃ tenant column, scope.bizId = some tenant ∧ tenant ≠ "" ∧
        t.column? k.catalog.tenantColumn = some column ∧
        (s.action? = some .insert → Sql.Fills k.catalog.tenantColumn
          (Value.bind k.vars column.sqlType (.plain (.text tenant))) s.params s.sql) ∧
        (s.action? = some .update → Sql.Keeps k.catalog.tenantColumn
          (Value.bind k.vars column.sqlType (.plain (.text tenant))) s.params s.sql)) := by
  obtain ⟨leaf, t, hleaf⟩ := compiles_of_mem_leaves c h s hs
  obtain ⟨htable, hname⟩ := table?_of_compiles hleaf
  refine ⟨t, hname ▸ htable, ?_⟩
  intro htenant
  obtain ⟨given, values, usage, inject, hvalues, hne, hassigned, hinject⟩ :=
    scopedAssignments_of_compiles hleaf hwrites
  obtain ⟨tenant, hscope, hnonempty, hadded, hscoped⟩ :=
    valuesScoped_of_scopeValues hcolumn htable htenant hvalues
  obtain ⟨column, hfound⟩ := Table.hasColumn_iff.mp htenant
  refine ⟨tenant, column, hscope, hnonempty, hfound, ?_⟩
  rw [← bindTo_of_column? hfound]
  have hwritten : s.assignments ≠ [] := mapM_ne_nil hassigned hne
  have hall : ∀ a ∈ s.assignments, a.1.name = k.catalog.tenantColumn →
      a.2 = k.bindTo t k.catalog.tenantColumn (.plain (.text tenant)) :=
    fun a ha => value_of_scopedValues hscoped hassigned ha
  constructor
  · intro haction
    obtain ⟨f, hf, hmeans⟩ := hadded (hinject haction)
    exact Sql.fills_of_assignments haction (exists_assignment_of_meansTenant hassigned hf hmeans)
      hall
  · intro haction
    exact Sql.keeps_of_assignments haction hwritten hall

theorem written_values_of_demoBatch :
    ∃ plan s, demo.compile demoScope demoBatch = .ok plan ∧ s ∈ plan.leaves ∧
      s.action? = some .insert ∧
      Sql.Fills "biz_id" (.plain (.text "acme")) s.params s.sql := by
  obtain ⟨plan, hplan, hleaves⟩ := compile_demoBatch
  obtain ⟨s, hs, haction, hname⟩ := hleaves (some .insert, "booking_orders") (by decide)
  obtain ⟨t, htable, hwritten⟩ :=
    written_values_belong_to_tenant (by decide) hplan hs (.inl haction)
  rw [hname] at htable
  cases htable
  obtain ⟨tenant, column, hscope, -, hcolumn, h, -⟩ := hwritten rfl
  cases hscope
  cases hcolumn
  exact ⟨plan, s, hplan, hs, haction, h haction⟩

end Compiler

end Tenancy
