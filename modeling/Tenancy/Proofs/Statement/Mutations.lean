/-
# What updates and deletes on tenant tables say

Two things one would like to know of a statement that changes rows of a tenant table: that it
leaves the tenant column alone, and that it is about fewer rows than all rows of the tenant. Both
depend on what the caller wrote. A tenant written among the values of an update is checked and
then assigned like any other value; it is absent from the text exactly when no spelling of the
column comes with it. A tenant written as a filter is a filter like any other; a statement is
restricted by nothing else exactly when the caller wrote no other filter. Neither fact needs the
tenant column to be in snake case.
-/

import Tenancy.Proofs.Statement.Isolation

namespace Tenancy

namespace Sql

/-- The text of an update assigns something to a column. -/
def Assigns (name sql : String) : Prop :=
  ∃ part ∈ assignments sql, .name name ∈ part

/-- A part of a text that asks for a place in a column, and for nothing else. -/
def IsPlaceEquality (name : String) (part : List Token) : Prop :=
  ∃ number, part = [.name name, .word "=", .place number]

theorem assigns_iff {s : Statement} (haction : s.action? = some .update)
    (hne : s.assignments ≠ []) {name : String} :
    Assigns name s.sql ↔ ∃ a ∈ s.assignments, a.1.name = name := by
  cases s with
  | select | insert | delete => cases haction
  | update table assigned conditions returning =>
      have hne : assigned ≠ [] := hne
      unfold Assigns
      rw [assignments_sql hne, setTokens]
      constructor
      · rintro ⟨part, hpart, hnamed⟩
        obtain ⟨p, hp, rfl⟩ := List.mem_map.mp hpart
        have hname : name = p.2.1.name := by
          simpa [assignmentTokens, Token.place] using hnamed
        exact ⟨p.2, mem_of_mem_numberFrom _ hp, hname.symm⟩
      · rintro ⟨a, ha, rfl⟩
        obtain ⟨number, hp⟩ := exists_mem_numberFrom (fun _ => 1) ha 1
        exact ⟨_, List.mem_map_of_mem hp, List.mem_cons_self⟩

end Sql

namespace Compiler

variable {k : Compiler} {t : Table} {scope : Scope} {tenant : String}

/-! ## The tenant among the values of an update -/

theorem assigned_tenant_iff {usage : Usage} {values : Named Live}
    {assigned : List (Identifier × Value)} (h : values.mapM (k.assignment t usage) = .ok assigned) :
    (∃ a ∈ assigned, a.1.name = k.catalog.tenantColumn) ↔
      ∃ f ∈ values, k.meansTenant t f.1 = true := by
  constructor
  · rintro ⟨a, ha, hname⟩
    obtain ⟨f, hf, hassigned⟩ := exists_of_mem_mapM h ha
    obtain ⟨hresolved, -⟩ := of_assignment hassigned
    exact ⟨f, hf, by rw [meansTenant_iff, hresolved, hname]⟩
  · rintro ⟨f, hf, hmeans⟩
    exact exists_assignment_of_meansTenant h hf hmeans

/-- The values of an update on a tenant table are those given, without nulls in the tenant
column. What is left in that column is the tenant in scope. -/
theorem values_of_update (htenant : k.catalog.isTenantTable t = true) {given values : Named Live}
    (h : k.scopeValues t given scope false = .ok values) :
    ∃ tenant, scope.bizId = some tenant ∧
      values = given.filter (fun f => !(k.meansTenant t f.1 && f.2.isNull)) ∧
      ∀ f ∈ values, k.meansTenant t f.1 = true → f.2 = .plain (.text tenant) := by
  obtain ⟨tenant, checked, hscope, -, hchecked, ⟨rfl, -⟩ | ⟨-, hinject, -⟩⟩ :=
    scopeValues_cases htenant h
  · exact ⟨tenant, hscope, of_checkTenantValues hchecked⟩
  · cases hinject

theorem named_tenant_iff {given values : Named Live}
    (hvalues : values = given.filter fun f => !(k.meansTenant t f.1 && f.2.isNull))
    (hscoped : ∀ f ∈ values, k.meansTenant t f.1 = true → f.2 = .plain (.text tenant)) :
    (∃ f ∈ values, k.meansTenant t f.1 = true) ↔
      ∃ f ∈ given, k.meansTenant t f.1 = true ∧ f.2 = .plain (.text tenant) := by
  constructor
  · rintro ⟨f, hf, hmeans⟩
    have hgiven : f ∈ given := by
      rw [hvalues] at hf
      exact List.mem_of_mem_filter hf
    exact ⟨f, hgiven, hmeans, hscoped f hf hmeans⟩
  · rintro ⟨f, hf, hmeans, htext⟩
    refine ⟨f, ?_, hmeans⟩
    rw [hvalues, List.mem_filter]
    exact ⟨hf, by simp [htext, Live.isNull, Json.isNull]⟩

/-- An update on a tenant table assigns the tenant column exactly when the caller wrote the tenant
in scope under some spelling of that column. Where the column is absent from the values, or null
under every spelling, the text does not assign it. -/
theorem assigns_tenant_iff {c : Command} {plan : Plan} (h : k.compile scope c = .ok plan)
    {i : Nat} {s : Statement} (hs : plan.leaves[i]? = some s)
    (hupdate : s.action? = some .update) :
    ∃ m t, c.leaves[i]? = some (.mutate m) ∧ k.catalog.table? s.table.name = some t ∧
      (k.catalog.isTenantTable t = true → ∃ tenant, scope.bizId = some tenant ∧
        (Sql.Assigns k.catalog.tenantColumn s.sql ↔
          ∃ f ∈ m.values.getD [], k.meansTenant t f.1 = true ∧ f.2 = .plain (.text tenant))) := by
  obtain ⟨leaf, t, hleaf, hcompiles⟩ := compiles_of_getElem?_leaves h hs
  obtain ⟨htable, hname⟩ := table?_of_compiles hcompiles
  cases hcompiles with
  | select | insert | delete => cases hupdate
  | @update m _ _ values _ assigned _ _ _ _ _ hvalues hne _ _ hassigned _ _ =>
      refine ⟨m, t, hleaf, hname ▸ htable, ?_⟩
      intro htenant
      obtain ⟨tenant, hscope, hgiven, hscoped⟩ := values_of_update htenant hvalues
      refine ⟨tenant, hscope, ?_⟩
      calc
        Sql.Assigns k.catalog.tenantColumn _ ↔
            ∃ a ∈ assigned, a.1.name = k.catalog.tenantColumn :=
          Sql.assigns_iff rfl (mapM_ne_nil hassigned hne)
        _ ↔ ∃ f ∈ values, k.meansTenant t f.1 = true := assigned_tenant_iff hassigned
        _ ↔ _ := named_tenant_iff hgiven hscoped

/-- Change an order, with its business named twice, once as nothing. -/
def demoSettling : Mutation :=
  { action := .update, table := "booking orders"
    values := some [("Biz-ID", .plain .null), ("status", .plain (.text "paid"))]
    filters := [⟨"id", .eq, some (.text "bo_1")⟩], returning := none }

theorem settling_keeps_tenant_out :
    ∃ plan s, demo.compile demoScope (.mutate demoSettling) = .ok plan ∧
      plan.leaves[0]? = some s ∧ ¬ Sql.Assigns "biz_id" s.sql := by
  obtain ⟨plan, hplan, hleaf⟩ : ∃ plan, demo.compile demoScope (.mutate demoSettling) = .ok plan ∧
      (plan.leaves[0]?.map fun s => (s.action?, s.table.name)) =
        some (some .update, "booking_orders") :=
    toOption_map_eq_some.mp (by decide +kernel)
  obtain ⟨s, hs, hsame⟩ := Option.map_eq_some_iff.mp hleaf
  obtain ⟨haction, hname⟩ := Prod.mk.inj hsame
  obtain ⟨m, t, hm, htable, hassigns⟩ := assigns_tenant_iff hplan hs haction
  cases hm
  rw [hname] at htable
  cases htable
  obtain ⟨tenant, hscope, hiff⟩ := hassigns rfl
  cases hscope
  refine ⟨plan, s, hplan, hs, ?_⟩
  intro hassigned
  obtain ⟨f, hf, -, htext⟩ := hiff.mp hassigned
  have hf : f = ("Biz-ID", .plain .null) ∨ f = ("status", .plain (.text "paid")) := by
    simpa [demoSettling] using hf
  rcases hf with rfl | rfl <;> simp at htext

/-- Change an order and repeat its business with the change. -/
def demoRelabelling : Mutation :=
  { demoSettling with
    values := some [("bizId", .plain (.text "acme")), ("status", .plain (.text "paid"))] }

theorem relabelling_assigns_tenant :
    ∃ plan s t, demo.compile demoScope (.mutate demoRelabelling) = .ok plan ∧
      plan.leaves[0]? = some s ∧ s.action? = some .update ∧
      demo.catalog.table? s.table.name = some t ∧ demo.catalog.isTenantTable t = true ∧
      Sql.Assigns demo.catalog.tenantColumn s.sql := by
  obtain ⟨plan, hplan, hleaf⟩ :
      ∃ plan, demo.compile demoScope (.mutate demoRelabelling) = .ok plan ∧
        (plan.leaves[0]?.map fun s => (s.action?, s.table.name, s.sql)) =
          some (some .update, "booking_orders",
            "UPDATE \"booking_orders\" SET \"biz_id\" = $1, \"status\" = $2 " ++
              "WHERE \"biz_id\" = $3 AND \"id\" = $4 RETURNING \"id\"") :=
    toOption_map_eq_some.mp (by decide +kernel)
  obtain ⟨s, hs, hsame⟩ := Option.map_eq_some_iff.mp hleaf
  obtain ⟨haction, hname, hsql⟩ : s.action? = _ ∧ s.table.name = _ ∧ s.sql = _ := by
    simpa using hsame
  refine ⟨plan, s, _, hplan, hs, haction, by rw [hname]; rfl, rfl, ?_⟩
  rw [hsql]
  exact ⟨[.name "biz_id", .word "=", .word "$1"], by decide, List.mem_cons_self⟩

/-! ## The tenant among the filters of a mutation -/

/-- The condition of a filter is that a column of the given name has a certain value exactly when
the filter means the tenant column, provided that all that mean it ask for the tenant. -/
theorem isPlaceEquality_iff {f : Filter} {condition : Condition}
    (h : k.condition t f = .ok condition)
    (hasks : k.meansTenant t f.column = true → asksFor tenant f = true) (number : Nat) :
    Sql.IsPlaceEquality k.catalog.tenantColumn (Sql.conditionTokens number condition) ↔
      k.meansTenant t f.column = true := by
  constructor
  · rintro ⟨place, hpart⟩
    have hnamed : Sql.Token.name k.catalog.tenantColumn ∈ Sql.conditionTokens number condition := by
      rw [hpart]
      exact List.mem_cons_self
    obtain ⟨i, hi, hname⟩ := Sql.column?_of_name_mem hnamed
    rw [meansTenant_iff, resolveColumn?_of_condition h hi, hname]
  · intro hmeans
    obtain ⟨i, rfl, hresolved⟩ := condition_of_asksFor h (hasks hmeans)
    have hname : i.name = k.catalog.tenantColumn :=
      Option.some.inj (hresolved.symm.trans (meansTenant_iff.mp hmeans))
    exact ⟨number, by rw [← hname]; rfl⟩

/-- Some conjunct of a statement is not just a value of the tenant column exactly when some filter
its conditions come from does not mean that column. -/
theorem restricted_iff_of_conditions {filters : List Filter} {s : Statement}
    (h : k.conditions t filters = .ok s.conditions)
    (hasks : ∀ f ∈ filters, k.meansTenant t f.column = true → asksFor tenant f = true) :
    (∃ conjunct ∈ Sql.conjuncts s.sql,
        ¬ Sql.IsPlaceEquality k.catalog.tenantColumn conjunct) ↔
      ∃ f ∈ filters, k.meansTenant t f.column = false := by
  rw [Sql.conjuncts_sql]
  constructor
  · rintro ⟨conjunct, hconjunct, hother⟩
    obtain ⟨⟨number, condition⟩, hp, rfl⟩ := List.mem_map.mp hconjunct
    obtain ⟨f, hf, hcondition⟩ := exists_of_mem_mapM h (mem_of_mem_numberFrom _ hp)
    rw [isPlaceEquality_iff hcondition (hasks f hf)] at hother
    exact ⟨f, hf, Bool.eq_false_iff.mpr hother⟩
  · rintro ⟨f, hf, hother⟩
    obtain ⟨condition, hmem, hcondition⟩ := exists_mem_of_mapM h hf
    obtain ⟨number, hp⟩ := exists_mem_numberFrom Condition.size hmem (1 + s.assignments.length)
    refine ⟨_, List.mem_map_of_mem hp, ?_⟩
    rw [isPlaceEquality_iff hcondition (hasks f hf), hother]
    exact Bool.false_ne_true

/-- The filter that scoping adds does not count: what is asked besides the tenant, the caller has
asked for. -/
theorem restricted_iff_of_scopeFilters (htenant : k.catalog.isTenantTable t = true)
    {given filters : List Filter} (hgiven : given ≠ []) {s : Statement}
    (hfilters : k.scopeFilters t given scope = .ok filters)
    (hconditions : k.conditions t filters = .ok s.conditions) :
    (∃ conjunct ∈ Sql.conjuncts s.sql,
        ¬ Sql.IsPlaceEquality k.catalog.tenantColumn conjunct) ↔
      ∃ f ∈ given, k.meansTenant t f.column = false := by
  obtain ⟨tenant, -, -, hasks, ⟨rfl, -⟩ | ⟨rfl, hnone⟩⟩ := scopeFilters_cases htenant hfilters
  · exact restricted_iff_of_conditions hconditions hasks
  · have hall : ∀ f ∈ k.tenantFilter tenant :: given,
        k.meansTenant t f.column = true → asksFor tenant f = true := by
      intro f hf hmeans
      rcases List.mem_cons.mp hf with rfl | hf
      · exact asksFor_iff.mpr ⟨rfl, rfl⟩
      · exact hasks f hf hmeans
    rw [restricted_iff_of_conditions hconditions hall]
    obtain ⟨first, hfirst⟩ := List.exists_mem_of_ne_nil _ hgiven
    constructor
    · intro _
      exact ⟨first, hfirst, hnone first hfirst⟩
    · rintro ⟨f, hf, hother⟩
      exact ⟨f, List.mem_cons_of_mem _ hf, hother⟩

/-- An update or a delete on a tenant table comes from a mutation with filters, and is restricted
by more than the tenant exactly when one of these filters is on another column. -/
theorem mutation_restricted_iff {c : Command} {plan : Plan} (h : k.compile scope c = .ok plan)
    {i : Nat} {s : Statement} (hs : plan.leaves[i]? = some s)
    (hmutates : s.action? = some .update ∨ s.action? = some .delete) :
    ∃ m t, c.leaves[i]? = some (.mutate m) ∧ m.filters ≠ [] ∧
      k.catalog.table? s.table.name = some t ∧
      (k.catalog.isTenantTable t = true →
        ((∃ conjunct ∈ Sql.conjuncts s.sql,
            ¬ Sql.IsPlaceEquality k.catalog.tenantColumn conjunct) ↔
          ∃ f ∈ m.filters, k.meansTenant t f.column = false)) := by
  obtain ⟨leaf, t, hleaf, hcompiles⟩ := compiles_of_getElem?_leaves h hs
  obtain ⟨htable, hname⟩ := table?_of_compiles hcompiles
  cases hcompiles with
  | select | insert => rcases hmutates with hmutates | hmutates <;> cases hmutates
  | @update m _ _ _ _ _ _ _ _ _ _ _ _ hguard hfilters _ hconditions _ =>
      exact ⟨m, t, hleaf, hguard, hname ▸ htable, fun htenant =>
        restricted_iff_of_scopeFilters htenant hguard hfilters hconditions⟩
  | @delete m _ _ _ _ _ _ _ _ hguard hfilters hconditions _ =>
      exact ⟨m, t, hleaf, hguard, hname ▸ htable, fun htenant =>
        restricted_iff_of_scopeFilters htenant hguard hfilters hconditions⟩

theorem removal_in_demoBatch_restricted :
    ∃ plan s, demo.compile demoScope demoBatch = .ok plan ∧ plan.leaves[3]? = some s ∧
      s.action? = some .delete ∧
      ∃ conjunct ∈ Sql.conjuncts s.sql, ¬ Sql.IsPlaceEquality "biz_id" conjunct := by
  obtain ⟨plan, hplan, hleaves⟩ := leaves_of_demoBatch
  have hleaf := congrArg (fun leaves => leaves[3]?) hleaves
  rw [List.getElem?_map] at hleaf
  obtain ⟨s, hs, hsame⟩ := Option.map_eq_some_iff.mp hleaf
  obtain ⟨haction, hname⟩ := Prod.mk.inj hsame
  obtain ⟨m, t, hm, -, htable, hiff⟩ := mutation_restricted_iff hplan hs (.inr haction)
  cases hm
  rw [hname] at htable
  cases htable
  exact ⟨plan, s, hplan, hs, haction, (hiff rfl).mpr ⟨_, List.mem_cons_self, by decide +kernel⟩⟩

/-- Remove all payments of a business, with the business named. -/
def demoPurge : Mutation :=
  { action := .delete, table := "payments", values := none
    filters := [⟨"bizId", .eq, some (.text "acme")⟩], returning := none }

theorem purge_restricted_by_tenant_alone :
    ∃ plan s t, demo.compile demoScope (.mutate demoPurge) = .ok plan ∧
      plan.leaves[0]? = some s ∧ s.action? = some .delete ∧
      demo.catalog.table? s.table.name = some t ∧ demo.catalog.isTenantTable t = true ∧
      ∀ conjunct ∈ Sql.conjuncts s.sql,
        Sql.IsPlaceEquality demo.catalog.tenantColumn conjunct := by
  obtain ⟨plan, hplan, hleaf⟩ : ∃ plan, demo.compile demoScope (.mutate demoPurge) = .ok plan ∧
      (plan.leaves[0]?.map fun s => (s.action?, s.table.name, s.sql)) =
        some (some .delete, "payments",
          "DELETE FROM \"payments\" WHERE \"biz_id\" = $1 RETURNING \"id\"") :=
    toOption_map_eq_some.mp (by decide +kernel)
  obtain ⟨s, hs, hsame⟩ := Option.map_eq_some_iff.mp hleaf
  obtain ⟨haction, hname, hsql⟩ : s.action? = _ ∧ s.table.name = _ ∧ s.sql = _ := by
    simpa using hsame
  refine ⟨plan, s, _, hplan, hs, haction, by rw [hname]; rfl, rfl, ?_⟩
  have conjunct : Sql.conjuncts s.sql = [[.name "biz_id", .word "=", .place 1]] := by
    rw [hsql]
    decide
  rw [conjunct]
  intro part hpart
  rw [List.mem_singleton.mp hpart]
  exact ⟨1, rfl⟩

end Compiler

end Tenancy
