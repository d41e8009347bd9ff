/-
# The columns a statement writes

An insert lists the columns it writes and an update assigns to them, one for each value it is
given. Values come under loose names, of which several may mean one column, and none of them is
left out for that, so a column stands twice in a text exactly where two of the names mean it. The
tenant that is added to a new row is different. It is added only where no name means the tenant
column, and so it never makes a column stand twice.
-/

import Tenancy.Proofs.Statement.Clauses
import Tenancy.Proofs.Statement.Names
import Tenancy.Proofs.Statement.Respelling
import Mathlib.Data.Set.Function

namespace Tenancy

/-! ## The columns in a text -/

namespace Sql

/-- The columns that a text writes: those an insert lists, and otherwise those it assigns to. -/
def targets (sql : String) : List String :=
  (if (tokens sql).head? = some (.word "INSERT") then insertedColumns sql
    else assignments sql).filterMap fun part => part.head?.bind Token.name?

/-- The columns that the text of a statement writes are those of its assignments, in order. -/
theorem targets_sql {s : Statement}
    (hwrites : s.action? = some .insert ∨ s.action? = some .update) (hne : s.assignments ≠ []) :
    targets s.sql = s.assignments.map fun a => a.1.name := by
  cases s with
  | select | delete => rcases hwrites with hwrites | hwrites <;> cases hwrites
  | insert table assigned returning =>
      have hne : assigned ≠ [] := hne
      have opened : (tokens (Statement.insert table assigned returning).sql).head? =
          some (.word "INSERT") := congrArg List.head? (tokens_sql _)
      rw [targets, if_pos opened, insertedColumns_sql hne, List.filterMap_map]
      exact congrFun List.filterMap_eq_map assigned
  | update table assigned conditions returning =>
      have hne : assigned ≠ [] := hne
      have opened : (tokens (Statement.update table assigned conditions returning).sql).head? =
          some (.word "UPDATE") := congrArg List.head? (tokens_sql _)
      rw [targets, if_neg (by rw [opened]; decide), assignments_sql hne, setTokens,
        List.filterMap_map]
      calc (numberFrom (fun _ => 1) 1 assigned).filterMap (some ∘ fun p => p.2.1.name)
          = ((numberFrom (fun _ => 1) 1 assigned).map Prod.snd).map fun a => a.1.name := by
            rw [List.filterMap_eq_map, List.map_map]
            rfl
        _ = assigned.map fun a => a.1.name := by rw [map_snd_numberFrom]

end Sql

/-! ## The names under which values are written -/

namespace Compiler

variable (k : Compiler) (t : Table)

/-- The names of the given values that are written: all of them, except that a null is left out
in the tenant column. -/
def keptKeys (given : Named Live) : Set String :=
  {raw | ∃ value, (raw, value) ∈ given ∧
    (k.catalog.isTenantTable t = true → k.meansTenant t raw = true → value.isNull = false)}

/-- Whether the tenant has to be added to the given values when they become a new row. -/
def LacksTenant (given : Named Live) : Prop :=
  k.catalog.isTenantTable t = true ∧ ∀ raw ∈ k.keptKeys t given, k.meansTenant t raw = false

/-- The names under which a mutation writes. -/
def writtenKeys (m : Mutation) : Set String :=
  {raw | raw ∈ k.keptKeys t (m.values.getD []) ∨
    m.action = .insert ∧ k.LacksTenant t (m.values.getD []) ∧ raw = k.catalog.tenantColumn}

variable {k t} {scope : Scope}

theorem mem_keptKeys_of_not_tenant (htenant : k.catalog.isTenantTable t ≠ true)
    {given : Named Live} {raw : String} :
    raw ∈ k.keptKeys t given ↔ raw ∈ given.map Prod.fst := by
  simp [keptKeys, htenant]

/-- What is left of values that were checked for a tenant stands under the names that are kept. -/
theorem mem_keptKeys_iff_of_checkTenantValues (htenant : k.catalog.isTenantTable t = true)
    {tenant : String} {given checked : Named Live}
    (h : k.checkTenantValues t tenant given = .ok checked) {raw : String} :
    raw ∈ k.keptKeys t given ↔ raw ∈ checked.map Prod.fst := by
  rw [(of_checkTenantValues h).1]
  simp [keptKeys, htenant, or_iff_not_imp_left]

/-- Scoped values stand under the names that are kept and, where the tenant is to be added, under
that of the tenant column. -/
theorem mem_scopedKeys_iff {given values : Named Live} {inject : Bool}
    (h : k.scopeValues t given scope inject = .ok values) {raw : String} :
    raw ∈ values.map Prod.fst ↔ raw ∈ k.keptKeys t given ∨
      inject = true ∧ k.LacksTenant t given ∧ raw = k.catalog.tenantColumn := by
  by_cases htenant : k.catalog.isTenantTable t = true
  · obtain ⟨tenant, checked, -, -, hchecked, hcases⟩ := scopeValues_cases htenant h
    have kept (other : String) : other ∈ k.keptKeys t given ↔ other ∈ checked.map Prod.fst :=
      mem_keptKeys_iff_of_checkTenantValues htenant hchecked
    have lacks : k.LacksTenant t given ↔ ∀ f ∈ checked, k.meansTenant t f.1 = false := by
      simp only [LacksTenant, htenant, true_and, kept, List.forall_mem_map]
    rw [kept, lacks]
    rcases hcases with ⟨rfl, hthere⟩ | ⟨rfl, hinject, hnone⟩
    · refine ⟨.inl, ?_⟩
      rintro (hraw | ⟨hinject, hnone, -⟩)
      · exact hraw
      · obtain ⟨f, hf, hmeans⟩ := hthere hinject
        rw [hnone f hf] at hmeans
        cases hmeans
    · rw [Named.mem_map_fst_overlay, or_comm, List.map_singleton, List.mem_singleton]
      exact or_congr_right ⟨fun hraw => ⟨hinject, hnone, hraw⟩, fun hadded => hadded.2.2⟩
  · obtain rfl := eq_of_scopeValues htenant h
    rw [mem_keptKeys_of_not_tenant htenant]
    exact ⟨.inl, fun hraw => hraw.resolve_right fun hadded => htenant hadded.2.1.1⟩

/-- Names that are all different are so among scoped values. -/
theorem nodup_scopedKeys {given values : Named Live} {inject : Bool}
    (h : k.scopeValues t given scope inject = .ok values)
    (hdistinct : (given.map Prod.fst).Nodup) : (values.map Prod.fst).Nodup := by
  by_cases htenant : k.catalog.isTenantTable t = true
  · obtain ⟨tenant, checked, -, -, hchecked, ⟨rfl, -⟩ | ⟨rfl, -⟩⟩ :=
      scopeValues_cases htenant h
    · rw [(of_checkTenantValues hchecked).1]
      exact hdistinct.sublist (List.filter_sublist.map Prod.fst)
    · refine Named.nodup_overlay ?_ checked
      exact List.nodup_singleton k.catalog.tenantColumn
  · obtain rfl := eq_of_scopeValues htenant h
    exact hdistinct

/-- The columns that are assigned to are those that the names of the values mean, in order. -/
theorem map_name_of_assignments {usage : Usage} {values : Named Live}
    {assigned : List (Identifier × Value)} (h : values.mapM (k.assignment t usage) = .ok assigned) :
    (assigned.map fun a => a.1.name).map some =
      (values.map Prod.fst).map (k.catalog.resolveColumn? t.name) := by
  rw [mapM_eq_ok] at h
  induction h with
  | nil => rfl
  | cons hfirst _ ih =>
      rw [List.map_cons, List.map_cons, List.map_cons, List.map_cons, ih, (of_assignment hfirst).1]

/-- A statement that writes values writes those of its mutation, under the names that the
mutation writes under. -/
theorem writes_of_compiles {c : Command} {s : Statement} (h : k.Compiles scope c t s)
    (hwrites : s.action? = some .insert ∨ s.action? = some .update) :
    ∃ m values usage, c = .mutate m ∧ values ≠ [] ∧
      values.mapM (k.assignment t usage) = .ok s.assignments ∧
      (∀ raw, raw ∈ values.map Prod.fst ↔ raw ∈ k.writtenKeys t m) ∧
      (m.DistinctKeys → (values.map Prod.fst).Nodup) := by
  cases h with
  | select | delete => rcases hwrites with hwrites | hwrites <;> cases hwrites
  | @insert m _ _ values _ _ haction _ _ hvalues hne hassigned =>
      refine ⟨m, values, _, rfl, hne, hassigned, ?_, nodup_scopedKeys hvalues⟩
      intro raw
      rw [mem_scopedKeys_iff hvalues]
      simp [writtenKeys, haction]
  | @update m _ _ values _ _ _ _ haction _ _ hvalues hne _ _ hassigned =>
      refine ⟨m, values, _, rfl, hne, hassigned, ?_, nodup_scopedKeys hvalues⟩
      intro raw
      rw [mem_scopedKeys_iff hvalues]
      simp [writtenKeys, haction]

/-- In snake case, the tenant column that is added is none of the columns that are written
otherwise. -/
theorem injOn_writtenKeys_iff (hcolumn : isSnakeCase k.catalog.tenantColumn.toList = true)
    (htable : k.catalog.table? t.name = some t) {m : Mutation} :
    Set.InjOn (k.catalog.resolveColumn? t.name) (k.writtenKeys t m) ↔
      Set.InjOn (k.catalog.resolveColumn? t.name) (k.keptKeys t (m.values.getD [])) := by
  constructor
  · exact fun h => h.mono fun raw hraw => .inl hraw
  · intro h
    -- what is kept does not mean the tenant column, and the name that is added does
    have apart {raw : String} (hkept : raw ∈ k.keptKeys t (m.values.getD []))
        (hlacks : k.LacksTenant t (m.values.getD [])) :
        k.catalog.resolveColumn? t.name raw ≠
          k.catalog.resolveColumn? t.name k.catalog.tenantColumn := by
      intro heq
      have own := meansTenant_iff.mp (meansTenant_tenantColumn hcolumn htable hlacks.1)
      have other := hlacks.2 raw hkept
      rw [meansTenant_iff.mpr (heq.trans own)] at other
      cases other
    rintro raw (hraw | ⟨-, hlacks, rfl⟩) raw' (hraw' | ⟨-, hlacks', rfl⟩) heq
    · exact h hraw hraw' heq
    · exact absurd heq (apart hraw hlacks')
    · exact absurd heq.symm (apart hraw' hlacks)
    · rfl

/-! ## Columns that are written twice -/

/-- The columns that an insert or an update of a plan writes are those that the names of its
mutation mean, and one of them is written twice if and only if two of the names mean it. A tenant
column in snake case that is added to a new row is not written otherwise. -/
theorem columns_written_once_iff {c : Command} {plan : Plan} (h : k.compile scope c = .ok plan)
    {i : Nat} {s : Statement} (hs : plan.leaves[i]? = some s)
    (hwrites : s.action? = some .insert ∨ s.action? = some .update) :
    ∃ m t, c.leaves[i]? = some (.mutate m) ∧ k.catalog.table? s.table.name = some t ∧
      (∀ name, name ∈ Sql.targets s.sql ↔
        ∃ raw ∈ k.writtenKeys t m, k.catalog.resolveColumn? t.name raw = some name) ∧
      (m.DistinctKeys →
        ((Sql.targets s.sql).Nodup ↔
          Set.InjOn (k.catalog.resolveColumn? t.name) (k.writtenKeys t m)) ∧
        (isSnakeCase k.catalog.tenantColumn.toList = true →
          ((Sql.targets s.sql).Nodup ↔
            Set.InjOn (k.catalog.resolveColumn? t.name) (k.keptKeys t (m.values.getD []))))) := by
  obtain ⟨leaf, t, hleaf, hcompiles⟩ := compiles_of_getElem?_leaves h hs
  obtain ⟨htable, hname⟩ := table?_of_compiles hcompiles
  obtain ⟨m, values, usage, rfl, hne, hassigned, hkeys, hdistinct⟩ :=
    writes_of_compiles hcompiles hwrites
  have meant := map_name_of_assignments hassigned
  rw [← Sql.targets_sql hwrites (mapM_ne_nil hassigned hne)] at meant
  refine ⟨m, t, hleaf, hname ▸ htable, ?_, ?_⟩
  · intro name
    rw [← List.mem_map_of_injective (Option.some_injective _), meant, List.mem_map]
    simp only [hkeys]
  · intro hkeysDistinct
    have once : (Sql.targets s.sql).Nodup ↔
        Set.InjOn (k.catalog.resolveColumn? t.name) (k.writtenKeys t m) := by
      rw [← List.nodup_map_iff (Option.some_injective _), meant,
        List.nodup_map_iff_inj_on (hdistinct hkeysDistinct)]
      simp only [hkeys]
      rfl
    exact ⟨once, fun hcolumn => once.trans (injOn_writtenKeys_iff hcolumn htable)⟩

/-- The row that the batch adds is added for the tenant, although the caller gave a null under
another spelling of the tenant column, and no column of it is written twice. -/
theorem columns_of_demoBatch_nodup :
    ∃ plan s, demo.compile demoScope demoBatch = .ok plan ∧ plan.leaves[1]? = some s ∧
      s.action? = some .insert ∧ "biz_id" ∈ Sql.targets s.sql ∧ (Sql.targets s.sql).Nodup := by
  obtain ⟨plan, hplan, hleaves⟩ := leaves_of_demoBatch
  have hleaf := congrArg (fun leaves => leaves[1]?) hleaves
  rw [List.getElem?_map] at hleaf
  obtain ⟨s, hs, hsame⟩ := Option.map_eq_some_iff.mp hleaf
  obtain ⟨haction, hname⟩ := Prod.mk.inj hsame
  obtain ⟨m, t, hm, htable, hwritten, hdistinct⟩ :=
    columns_written_once_iff hplan hs (.inl haction)
  cases hm
  rw [hname] at htable
  have kept : ∀ raw ∈ demo.keptKeys t [("Biz ID", .plain .null), ("status", .plain (.text "open"))],
      raw = "status" := by
    cases htable
    rintro raw ⟨value, hvalue, hnull⟩
    rcases List.mem_cons.mp hvalue with heq | hvalue
    · cases heq
      exact absurd (hnull rfl (by decide +kernel)) (by decide)
    · cases List.mem_singleton.mp hvalue
      rfl
  cases htable
  refine ⟨plan, s, hplan, hs, haction, ?_, ?_⟩
  · refine (hwritten "biz_id").mpr ⟨"biz_id", .inr ⟨rfl, ⟨rfl, ?_⟩, rfl⟩, by decide +kernel⟩
    intro raw hraw
    rw [kept raw hraw]
    decide +kernel
  · refine ((hdistinct (by decide)).2 (by decide)).mpr ?_
    intro raw hraw raw' hraw' _
    rw [kept raw hraw, kept raw' hraw']

/-- Mark an order as paid, twice over. -/
def demoTwice : Mutation :=
  { action := .update, table := "booking_orders"
    values := some [("status", .plain (.text "paid")), ("Status", .plain (.text "paid"))]
    filters := [⟨"id", .eq, some (.text "bo_1")⟩], returning := none }

theorem column_written_twice :
    ∃ plan s, demo.compile demoScope (.mutate demoTwice) = .ok plan ∧ s ∈ plan.leaves ∧
      s.action? = some .update ∧ demoTwice.DistinctKeys ∧ ¬ (Sql.targets s.sql).Nodup := by
  obtain ⟨plan, hplan, hleaf⟩ : ∃ plan, demo.compile demoScope (.mutate demoTwice) = .ok plan ∧
      (plan.leaves.map fun s => (s.action?, s.sql)) =
        [(some .update, "UPDATE \"booking_orders\" SET \"status\" = $1, \"status\" = $2 " ++
          "WHERE \"biz_id\" = $3 AND \"id\" = $4 RETURNING \"id\"")] :=
    toOption_map_eq_some.mp (by decide +kernel)
  obtain ⟨s, hs, hsame⟩ := List.mem_map.mp (hleaf ▸ List.mem_singleton_self _)
  obtain ⟨haction, hsql⟩ := Prod.mk.inj hsame
  refine ⟨plan, s, hplan, hs, haction, by decide, ?_⟩
  have written : Sql.targets s.sql = ["status", "status"] := by
    rw [hsql]
    decide +kernel
  rw [written]
  decide

end Compiler

end Tenancy
