/-
# Names count only for what they mean

Tables and columns may be spelled in many ways, and compiling carries the spellings a long way: they
are the keys of the values that are written, they are compared with the tenant column, and they
stand in the messages of refusals. This module shows that nothing but their meaning gets through.
Two commands that differ only in spellings that mean the same compile to the same plan, or are
refused for the same kind of reason. The messages may differ, because they repeat what was spelled.

Values are kept under their spellings until the end, so it matters that no spelling stands twice
among the values of a command, and that the tenant column, under whose own name the tenant is added,
means itself. The former holds of every payload that is an object, and the latter of every name in
snake case.
-/

import Tenancy.Proofs.Statement.Scoping

namespace Tenancy

/-! ## Chains that refuse alike -/

/-- Two chains come to ends that are related, or both refuse for the same kind of reason. -/
inductive Matched {α β : Type} (related : α → β → Prop) :
    Except Refusal α → Except Refusal β → Prop
  | ok {a : α} {b : β} (h : related a b) : Matched related (.ok a) (.ok b)
  | refused {r r' : Refusal} (h : r.kind = r'.kind) : Matched related (.error r) (.error r')

namespace Matched

variable {α β γ δ : Type} {related : α → β → Prop} {goal : γ → δ → Prop} {x : Except Refusal α}
  {y : Except Refusal β}

theorem refl (x : Except Refusal α) : Matched Eq x x := by
  cases x with
  | ok a => exact .ok rfl
  | error r => exact .refused rfl

theorem bind_of_ok {f : α → Except Refusal γ} {g : β → Except Refusal δ} (h : Matched related x y)
    (hnext : ∀ a b, x = .ok a → y = .ok b → related a b → Matched goal (f a) (g b)) :
    Matched goal (x >>= f) (y >>= g) := by
  cases h with
  | ok hab => exact hnext _ _ rfl rfl hab
  | refused hkind => exact .refused hkind

theorem bind {f : α → Except Refusal γ} {g : β → Except Refusal δ} (h : Matched related x y)
    (hnext : ∀ a b, related a b → Matched goal (f a) (g b)) : Matched goal (x >>= f) (y >>= g) :=
  h.bind_of_ok fun a b _ _ => hnext a b

/-- Where the first steps come to the same end, what follows may start from it. -/
theorem bind_eq {x y : Except Refusal α} {f : α → Except Refusal γ} {g : α → Except Refusal δ}
    (h : Matched Eq x y) (hnext : ∀ a, Matched goal (f a) (g a)) :
    Matched goal (x >>= f) (y >>= g) := by
  apply h.bind
  rintro a _ rfl
  exact hnext a

theorem map {f : α → γ} {g : β → δ} (h : Matched related x y)
    (hnext : ∀ a b, related a b → goal (f a) (g b)) : Matched goal (x.map f) (y.map g) := by
  cases h with
  | ok hab => exact .ok (hnext _ _ hab)
  | refused hkind => exact .refused hkind

/-- Chains that match come to the same end, or refuse for the same kind of reason. -/
theorem same_or_refused {x y : Except Refusal α} (h : Matched Eq x y) :
    (∃ a, x = .ok a ∧ y = .ok a) ∨
      ∃ r r', x = .error r ∧ y = .error r' ∧ r.kind = r'.kind := by
  cases h with
  | @ok a _ hab =>
      subst hab
      exact .inl ⟨a, rfl, rfl⟩
  | @refused r r' hkind => exact .inr ⟨r, r', rfl, rfl, hkind⟩

/-- A step for every element matches where the elements do. -/
theorem mapM {f : α → Except Refusal γ} {g : β → Except Refusal δ} {xs : List α} {ys : List β}
    (h : List.Forall₂ related xs ys) (hstep : ∀ a b, related a b → Matched goal (f a) (g b)) :
    Matched (List.Forall₂ goal) (xs.mapM f) (ys.mapM g) := by
  induction h with
  | nil => exact .ok .nil
  | cons hab _ ih =>
      rw [List.mapM_cons, List.mapM_cons]
      refine (hstep _ _ hab).bind fun c d hcd => ?_
      exact ih.bind fun cs ds hrest => .ok (.cons hcd hrest)

theorem mapM_eq {f : α → Except Refusal γ} {g : β → Except Refusal γ} {xs : List α} {ys : List β}
    (h : List.Forall₂ related xs ys) (hstep : ∀ a b, related a b → Matched Eq (f a) (g b)) :
    Matched Eq (xs.mapM f) (ys.mapM g) := by
  have matched := mapM h hstep
  rwa [List.forall₂_eq_eq_eq] at matched

end Matched

/-! ## Lists -/

/-- Lists that are related element by element are empty together. -/
theorem isEmpty_eq_of_forall₂ {α β : Type} {related : α → β → Prop} {xs : List α} {ys : List β}
    (h : List.Forall₂ related xs ys) : xs.isEmpty = ys.isEmpty := by
  cases h with
  | nil => rfl
  | cons => rfl

/-! ## Spellings -/

/-- The column that a spelling means in the table that another spelling means. -/
def Compiler.columnMeant? (k : Compiler) (table raw : String) : Option String :=
  (k.catalog.findTable? table).bind fun t => k.catalog.resolveColumn? t.name raw

/-- Two spellings of a column mean the same in the table, or both mean nothing. -/
def SameColumn (k : Compiler) (table raw raw' : String) : Prop :=
  k.columnMeant? table raw = k.columnMeant? table raw'

instance (k : Compiler) (table raw raw' : String) : Decidable (SameColumn k table raw raw') :=
  inferInstanceAs (Decidable (k.columnMeant? table raw = k.columnMeant? table raw'))

/-- Filters on a table that differ only in the spelling of the column. -/
structure Filter.Respelled (k : Compiler) (table : String) (f f' : Filter) : Prop where
  column : SameColumn k table f.column f'.column
  op : f.op = f'.op
  operand : f.operand = f'.operand

/-- Orderings that differ only in the spelling of the column. -/
structure SortKey.Respelled (k : Compiler) (table : String) (s s' : SortKey) : Prop where
  column : SameColumn k table s.column s'.column
  direction : s.direction = s'.direction

/-- Values to write that differ only in the spelling of the column. -/
structure ValueRespelled (k : Compiler) (table : String) (f f' : String × Live) : Prop where
  column : SameColumn k table f.1 f'.1
  value : f.2 = f'.2

/-- Queries that differ only in spellings that mean the same. -/
structure Query.Respelled (k : Compiler) (q q' : Query) : Prop where
  table : k.catalog.findTable? q.table = k.catalog.findTable? q'.table
  select : Option.Rel (List.Forall₂ (SameColumn k q.table)) q.select q'.select
  filters : List.Forall₂ (Filter.Respelled k q.table) q.filters q'.filters
  sort : List.Forall₂ (SortKey.Respelled k q.table) q.sort q'.sort
  limit : q.limit = q'.limit
  offset : q.offset = q'.offset

/-- No spelling of a column stands twice among the values of a mutation. -/
def Mutation.DistinctKeys (m : Mutation) : Prop :=
  ((m.values.getD []).map Prod.fst).Nodup

instance (m : Mutation) : Decidable m.DistinctKeys :=
  inferInstanceAs (Decidable ((m.values.getD []).map Prod.fst).Nodup)

/-- Mutations that differ only in spellings that mean the same. -/
structure Mutation.Respelled (k : Compiler) (m m' : Mutation) : Prop where
  action : m.action = m'.action
  table : k.catalog.findTable? m.table = k.catalog.findTable? m'.table
  values : Option.Rel (List.Forall₂ (ValueRespelled k m.table)) m.values m'.values
  distinct : m.DistinctKeys
  distinct' : m'.DistinctKeys
  filters : List.Forall₂ (Filter.Respelled k m.table) m.filters m'.filters
  returning : Option.Rel (List.Forall₂ (SameColumn k m.table)) m.returning m'.returning

/-- The values of mutations correspond, also where there are none. -/
theorem Mutation.Respelled.getD_values {m m' : Mutation} (h : m.Respelled k m') :
    List.Forall₂ (ValueRespelled k m.table) (m.values.getD []) (m'.values.getD []) := by
  have values := h.values
  revert values
  cases m.values <;> cases m'.values <;> rintro ⟨⟩
  · exact .nil
  · assumption

/- Trees of commands that differ only in spellings, by recursion on both at once. -/
mutual

/-- Commands that differ only in spellings that mean the same. -/
def Command.Respelled (k : Compiler) : Command → Command → Prop
  | .query q, .query q' => q.Respelled k q'
  | .mutate m, .mutate m' => m.Respelled k m'
  | .batch steps, .batch steps' => Command.RespelledSteps k steps steps'
  | .other kind, .other kind' => kind = kind'
  | _, _ => False

/-- Steps of batches that differ only in spellings that mean the same. -/
def Command.RespelledSteps (k : Compiler) : List Command → List Command → Prop
  | [], [] => True
  | step :: rest, step' :: rest' => step.Respelled k step' ∧ Command.RespelledSteps k rest rest'
  | _, _ => False

end

namespace Compiler

variable {k : Compiler} {t : Table} {table : String} {scope : Scope} {tenant : String}

/-! ## Names -/

section Named

variable (htable : k.catalog.findTable? table = some t)
include htable

theorem resolveColumn?_eq {raw raw' : String} (h : SameColumn k table raw raw') :
    k.catalog.resolveColumn? t.name raw = k.catalog.resolveColumn? t.name raw' := by
  simpa [SameColumn, columnMeant?, htable] using h

theorem meansTenant_eq {raw raw' : String} (h : SameColumn k table raw raw') :
    k.meansTenant t raw = k.meansTenant t raw' := by
  rw [meansTenant, resolveColumn?_eq htable h, meansTenant]

theorem matched_column (usage : Usage) {raw raw' : String} (h : SameColumn k table raw raw') :
    Matched Eq (k.column t usage raw) (k.column t usage raw') := by
  rw [column, column, resolveColumn?_eq htable h]
  cases k.catalog.resolveColumn? t.name raw' with
  | none => exact .refused rfl
  | some name => exact .ok rfl

theorem matched_columnIdentifier (usage : Usage) {raw raw' : String}
    (h : SameColumn k table raw raw') :
    Matched Eq (k.columnIdentifier t usage raw) (k.columnIdentifier t usage raw') := by
  apply (matched_column htable usage h).bind_eq
  intro name
  exact .refl _

theorem matched_columnsOr (otherwise : List String) {raws raws' : Option (List String)}
    (h : Option.Rel (List.Forall₂ (SameColumn k table)) raws raws') :
    Matched Eq (k.columnsOr t otherwise raws) (k.columnsOr t otherwise raws') := by
  cases h with
  | none => exact .ok rfl
  | some hnames =>
      cases hnames with
      | nil => exact .ok rfl
      | cons hname hrest =>
          exact Matched.mapM_eq (.cons hname hrest) fun _ _ => matched_column htable .plain

theorem matched_returning {raws raws' : Option (List String)}
    (h : Option.Rel (List.Forall₂ (SameColumn k table)) raws raws') :
    Matched Eq (k.returning t raws) (k.returning t raws') := by
  apply (matched_columnsOr htable t.primaryKeys h).bind_eq
  intro names
  exact .refl _

/-! ## Filters -/

omit htable in
theorem asksFor_eq {f f' : Filter} (h : f.Respelled k table f') (tenant : String) :
    asksFor tenant f = asksFor tenant f' := by
  rw [asksFor, asksFor, h.op, h.operand]

/-- The filters that mean the tenant column stand at the same places. -/
theorem filter_meansTenant {filters filters' : List Filter}
    (h : List.Forall₂ (Filter.Respelled k table) filters filters') :
    List.Forall₂ (Filter.Respelled k table) (filters.filter fun f => k.meansTenant t f.column)
      (filters'.filter fun f => k.meansTenant t f.column) := by
  apply List.rel_filter (R := Filter.Respelled k table) _ h
  intro f f' hf
  show k.meansTenant t f.column = true ↔ k.meansTenant t f'.column = true
  rw [meansTenant_eq htable hf.column]

omit htable in
theorem all_asksFor_eq {filters filters' : List Filter}
    (h : List.Forall₂ (Filter.Respelled k table) filters filters') (tenant : String) :
    filters.all (asksFor tenant) = filters'.all (asksFor tenant) := by
  induction h with
  | nil => rfl
  | cons hf _ ih => rw [List.all_cons, List.all_cons, asksFor_eq hf, ih]

theorem matched_scopeFilters {filters filters' : List Filter}
    (h : List.Forall₂ (Filter.Respelled k table) filters filters') (scope : Scope) :
    Matched (List.Forall₂ (Filter.Respelled k table)) (k.scopeFilters t filters scope)
      (k.scopeFilters t filters' scope) := by
  rw [scopeFilters, scopeFilters]
  by_cases htenant : k.catalog.isTenantTable t = true
  · rw [if_pos htenant, if_pos htenant]
    apply (Matched.refl (requireTenant t scope)).bind_eq
    intro tenant
    have own := filter_meansTenant htable h
    dsimp only
    rw [all_asksFor_eq own, isEmpty_eq_of_forall₂ own]
    split
    · split
      · exact .ok (.cons ⟨rfl, rfl, rfl⟩ h)
      · exact .ok h
    · exact .refused rfl
  · rw [if_neg htenant, if_neg htenant]
    exact .ok h

/-- A filter is compiled by the column that is meant, under the name the catalog has for it. -/
theorem matched_condition {f f' : Filter} (h : f.Respelled k table f') :
    Matched Eq (k.condition t f) (k.condition t f') := by
  rw [condition, condition, h.op, h.operand]
  apply (matched_columnIdentifier htable .filter h.column).bind_eq
  intro column
  exact .refl _

/-! ## Values -/

theorem any_meansTenant_eq {values values' : Named Live}
    (h : List.Forall₂ (ValueRespelled k table) values values') :
    (values.any fun f => k.meansTenant t f.1) = values'.any fun f => k.meansTenant t f.1 := by
  induction h with
  | nil => rfl
  | cons hf _ ih => rw [List.any_cons, List.any_cons, meansTenant_eq htable hf.column, ih]

theorem matched_checkTenantValues {values values' : Named Live}
    (h : List.Forall₂ (ValueRespelled k table) values values') (tenant : String) :
    Matched (List.Forall₂ (ValueRespelled k table)) (k.checkTenantValues t tenant values)
      (k.checkTenantValues t tenant values') := by
  induction h with
  | nil => exact .ok .nil
  | @cons f f' rest rest' hf _ ih =>
      obtain ⟨raw, value⟩ := f
      obtain ⟨raw', value'⟩ := f'
      obtain rfl : value = value' := hf.value
      have kept := ih.map (f := ((raw, value) :: ·)) (g := ((raw', value) :: ·))
        fun _ _ hrest => List.Forall₂.cons hf hrest
      rw [checkTenantValues, checkTenantValues, meansTenant_eq htable hf.column]
      split
      · split
        · exact ih
        · split
          · exact kept
          · exact .refused rfl
      · exact kept

/-- The tenant goes in front of the values that passed the check when none of them is of its
column: its name is not among their spellings, because in snake case it means the column. -/
theorem overlay_checked (hcolumn : isSnakeCase k.catalog.tenantColumn.toList = true)
    (htenant : k.catalog.isTenantTable t = true) {values checked : Named Live}
    (hdistinct : (values.map Prod.fst).Nodup)
    (hchecked : k.checkTenantValues t tenant values = .ok checked)
    (hnone : (checked.any fun f => k.meansTenant t f.1) = false) (v : Live) :
    Named.overlay [(k.catalog.tenantColumn, v)] checked =
      (k.catalog.tenantColumn, v) :: checked := by
  apply Named.overlay_of_nodup
  have sublist : checked.Sublist values := by
    rw [(of_checkTenantValues hchecked).1]
    exact List.filter_sublist
  refine List.nodup_cons.mpr ⟨?_, hdistinct.sublist (sublist.map _)⟩
  intro hmem
  obtain ⟨f, hf, hname⟩ := List.mem_map.mp hmem
  rw [List.any_eq_false] at hnone
  apply hnone f hf
  rw [hname]
  exact meansTenant_tenantColumn hcolumn (Catalog.table?_name htable) htenant

theorem matched_scopeValues (hcolumn : isSnakeCase k.catalog.tenantColumn.toList = true)
    {values values' : Named Live} (h : List.Forall₂ (ValueRespelled k table) values values')
    (hdistinct : (values.map Prod.fst).Nodup) (hdistinct' : (values'.map Prod.fst).Nodup)
    (scope : Scope) (inject : Bool) :
    Matched (List.Forall₂ (ValueRespelled k table)) (k.scopeValues t values scope inject)
      (k.scopeValues t values' scope inject) := by
  rw [scopeValues, scopeValues]
  by_cases htenant : k.catalog.isTenantTable t = true
  · rw [if_pos htenant, if_pos htenant]
    apply (Matched.refl (requireTenant t scope)).bind_eq
    intro tenant
    apply (matched_checkTenantValues htable h tenant).bind_of_ok
    intro checked checked' hchecked hchecked' hsame
    have there := any_meansTenant_eq htable hsame
    by_cases hkept : (!inject || checked'.any fun f => k.meansTenant t f.1) = true
    · rw [there, if_pos hkept, if_pos hkept]
      exact .ok hsame
    · -- nothing is of the tenant column, so the tenant is laid under both
      rw [there, if_neg hkept, if_neg hkept]
      rw [Bool.not_eq_true, Bool.or_eq_false_iff] at hkept
      rw [overlay_checked htable hcolumn htenant hdistinct hchecked (there.trans hkept.2),
        overlay_checked htable hcolumn htenant hdistinct' hchecked' hkept.2]
      exact .ok (.cons ⟨rfl, rfl⟩ hsame)
  · rw [if_neg htenant, if_neg htenant]
    exact .ok h

theorem matched_assignment (usage : Usage) {f f' : String × Live}
    (h : ValueRespelled k table f f') :
    Matched Eq (k.assignment t usage f) (k.assignment t usage f') := by
  rw [assignment, assignment, h.value]
  apply (matched_columnIdentifier htable usage h.column).bind_eq
  intro column
  exact .refl _

/-! ## Statements -/

theorem matched_ordering {s s' : SortKey} (h : s.Respelled k table s') :
    Matched Eq (k.ordering t s) (k.ordering t s') := by
  rw [ordering, ordering, h.direction]
  apply (matched_columnIdentifier htable .sort h.column).bind_eq
  intro column
  exact .refl _

/-- Conditions made from filters that were scoped. -/
theorem matched_conditions {filters filters' : List Filter}
    (h : List.Forall₂ (Filter.Respelled k table) filters filters') :
    Matched Eq (k.conditions t filters) (k.conditions t filters') :=
  Matched.mapM_eq h fun _ _ => matched_condition htable

theorem matched_assignments (usage : Usage) {values values' : Named Live}
    (h : List.Forall₂ (ValueRespelled k table) values values') :
    Matched Eq (values.mapM (k.assignment t usage)) (values'.mapM (k.assignment t usage)) :=
  Matched.mapM_eq h fun _ _ => matched_assignment htable usage

end Named

/-- The two tables that commands speak of are one, or neither is there. -/
theorem matched_table {raw raw' : String}
    (h : k.catalog.findTable? raw = k.catalog.findTable? raw') :
    Matched (fun t t' => t = t' ∧ k.catalog.findTable? raw = some t) (k.table raw)
      (k.table raw') := by
  rw [Compiler.table, Compiler.table, h]
  cases k.catalog.findTable? raw' with
  | none => exact .refused rfl
  | some t => exact .ok ⟨rfl, rfl⟩

theorem matched_query {q q' : Query} (h : q.Respelled k q') (scope : Scope) :
    Matched Eq (k.compileQuery q scope) (k.compileQuery q' scope) := by
  apply (matched_table h.table).bind
  rintro t _ ⟨rfl, htable⟩
  apply (matched_columnsOr htable t.columnNames h.select).bind_eq
  intro selected
  apply (matched_scopeFilters htable h.filters scope).bind
  intro filters filters' hfilters
  apply (matched_conditions htable hfilters).bind_eq
  intro conditions
  apply (Matched.mapM_eq h.sort fun _ _ => matched_ordering htable).bind_eq
  intro order
  rw [h.limit, h.offset]
  exact .refl _

section Mutations

variable {m m' : Mutation} (h : m.Respelled k m') (htable : k.catalog.findTable? m.table = some t)
include h htable

theorem matched_insert (hcolumn : isSnakeCase k.catalog.tenantColumn.toList = true)
    (scope : Scope) : Matched Eq (k.compileInsert t m scope) (k.compileInsert t m' scope) := by
  apply (matched_scopeValues htable hcolumn h.getD_values h.distinct h.distinct' scope true).bind
  intro values values' hvalues
  rw [isEmpty_eq_of_forall₂ hvalues]
  apply (Matched.refl _).bind_eq
  intro _
  apply (matched_assignments htable .insert hvalues).bind_eq
  intro assignments
  apply (Matched.refl _).bind_eq
  intro tableName
  apply (matched_returning htable h.returning).bind_eq
  intro returned
  exact .refl _

theorem matched_update (hcolumn : isSnakeCase k.catalog.tenantColumn.toList = true)
    (scope : Scope) : Matched Eq (k.compileUpdate t m scope) (k.compileUpdate t m' scope) := by
  apply (matched_scopeValues htable hcolumn h.getD_values h.distinct h.distinct' scope false).bind
  intro values values' hvalues
  rw [isEmpty_eq_of_forall₂ hvalues, isEmpty_eq_of_forall₂ h.filters]
  apply (Matched.refl _).bind_eq
  intro _
  apply (Matched.refl _).bind_eq
  intro _
  apply (matched_scopeFilters htable h.filters scope).bind
  intro filters filters' hfilters
  apply (matched_assignments htable .update hvalues).bind_eq
  intro assignments
  apply (Matched.refl _).bind_eq
  intro tableName
  apply (matched_conditions htable hfilters).bind_eq
  intro conditions
  apply (matched_returning htable h.returning).bind_eq
  intro returned
  exact .refl _

theorem matched_delete (scope : Scope) :
    Matched Eq (k.compileDelete t m scope) (k.compileDelete t m' scope) := by
  rw [compileDelete, compileDelete, isEmpty_eq_of_forall₂ h.filters]
  apply (Matched.refl _).bind_eq
  intro _
  apply (matched_scopeFilters htable h.filters scope).bind
  intro filters filters' hfilters
  apply (Matched.refl _).bind_eq
  intro tableName
  apply (matched_conditions htable hfilters).bind_eq
  intro conditions
  apply (matched_returning htable h.returning).bind_eq
  intro returned
  exact .refl _

end Mutations

theorem matched_mutation (hcolumn : isSnakeCase k.catalog.tenantColumn.toList = true)
    {m m' : Mutation} (h : m.Respelled k m') (scope : Scope) :
    Matched Eq (k.compileMutation m scope) (k.compileMutation m' scope) := by
  apply (matched_table h.table).bind
  rintro t _ ⟨rfl, htable⟩
  rw [← h.action]
  cases m.action with
  | insert => exact matched_insert h htable hcolumn scope
  | update => exact matched_update h htable hcolumn scope
  | delete => exact matched_delete h htable scope
  | other name => exact .refl _

/-! ## Trees -/

/- Compiling two trees side by side, by recursion on their steps. -/
mutual

theorem matched_compile (hcolumn : isSnakeCase k.catalog.tenantColumn.toList = true)
    (scope : Scope) : {c c' : Command} → c.Respelled k c' →
    Matched Eq (k.compile scope c) (k.compile scope c')
  | .query _, .query _, h => by
      rw [compile, compile]
      exact (matched_query h scope).map fun _ _ => congrArg Plan.leaf
  | .mutate _, .mutate _, h => by
      rw [compile, compile]
      exact (matched_mutation hcolumn h scope).map fun _ _ => congrArg Plan.leaf
  | .batch _, .batch _, h => by
      rw [compile, compile]
      exact (matched_compileSteps hcolumn scope h).map fun _ _ => congrArg Plan.batch
  | .other _, .other _, h => by
      obtain rfl := h
      exact .refl _

theorem matched_compileSteps (hcolumn : isSnakeCase k.catalog.tenantColumn.toList = true)
    (scope : Scope) : {steps steps' : List Command} → Command.RespelledSteps k steps steps' →
    Matched Eq (k.compileSteps scope steps) (k.compileSteps scope steps')
  | [], [], _ => .refl _
  | _ :: _, _ :: _, ⟨hstep, hrest⟩ => by
      rw [compileSteps, compileSteps]
      apply (matched_compile hcolumn scope hstep).bind_eq
      intro plan
      apply (matched_compileSteps hcolumn scope hrest).bind_eq
      intro plans
      exact .refl _

end

/-- **Compiling depends on names only through what they mean.** Where the tenant column is in
snake case, two commands that differ only in spellings that mean the same compile to the same plan
under every scope, or are both refused for the same kind of reason. -/
theorem compile_respelled (hcolumn : isSnakeCase k.catalog.tenantColumn.toList = true)
    {c c' : Command} (h : c.Respelled k c') (scope : Scope) :
    (∃ plan, k.compile scope c = .ok plan ∧ k.compile scope c' = .ok plan) ∨
      ∃ r r', k.compile scope c = .error r ∧ k.compile scope c' = .error r' ∧ r.kind = r'.kind := by
  exact (matched_compile hcolumn scope h).same_or_refused

/-! ## The batch of the booking schema, spelled otherwise -/

/-- The commands of the batch with other spellings of their tables and columns. -/
def demoRespelled : Command :=
  .batch
    [.query
      { table := "location", select := none, filters := [], sort := [⟨"Created At", .desc⟩]
        limit := none, offset := some 3 },
     .batch
      [.mutate
        { action := .insert, table := "bookingorders"
          values := some [("biz_id", .plain .null), ("Status", .plain (.text "open"))]
          filters := [], returning := some ["id"] },
       .mutate
        { action := .update, table := "booking_orders"
          values := some [("Biz-ID", .plain (.text "acme")), (" status ", .plain (.text "paid"))]
          filters := [⟨"partySize", .isIn, some (.list [.int 2, .int 4])⟩,
            ⟨"bizId", .eq, some (.text "acme")⟩]
          returning := none },
       .mutate
        { action := .delete, table := "Payments", values := none
          filters := [⟨"Currency", .isNull, none⟩], returning := none }]]

/-- The tables that the spellings mean are the same. -/
theorem demo_tables :
    demo.catalog.findTable? "Locations" = demo.catalog.findTable? "location" ∧
      demo.catalog.findTable? "booking order" = demo.catalog.findTable? "bookingorders" ∧
      demo.catalog.findTable? "Booking Orders" = demo.catalog.findTable? "booking_orders" ∧
      demo.catalog.findTable? "payments" = demo.catalog.findTable? "Payments" := by
  decide +kernel

/-- The columns that the spellings mean are the same. -/
theorem demo_columns :
    SameColumn demo "Locations" "createdAt" "Created At" ∧
      SameColumn demo "booking order" "Biz ID" "biz_id" ∧
      SameColumn demo "booking order" "status" "Status" ∧
      SameColumn demo "booking order" "ID" "id" ∧
      SameColumn demo "Booking Orders" "bizId" "Biz-ID" ∧
      SameColumn demo "Booking Orders" "status" " status " ∧
      SameColumn demo "Booking Orders" "party size" "partySize" ∧
      SameColumn demo "Booking Orders" "Biz-ID" "bizId" ∧
      SameColumn demo "payments" "currency" "Currency" := by
  decide +kernel

theorem demoBatch_respelled : demoBatch.Respelled demo demoRespelled := by
  obtain ⟨locations, order, orders, payments⟩ := demo_tables
  obtain ⟨created, key, opened, id, tenant, paid, size, owner, currency⟩ := demo_columns
  refine ⟨?query, ⟨?insert, ?update, ?delete, trivial⟩, trivial⟩
  case query => exact ⟨locations, .none, .nil, .cons ⟨created, rfl⟩ .nil, rfl, rfl⟩
  case insert =>
    exact
      { action := rfl
        table := order
        values := .some (.cons ⟨key, rfl⟩ (.cons ⟨opened, rfl⟩ .nil))
        distinct := by decide
        distinct' := by decide
        filters := .nil
        returning := .some (.cons id .nil) }
  case update =>
    exact
      { action := rfl
        table := orders
        values := .some (.cons ⟨tenant, rfl⟩ (.cons ⟨paid, rfl⟩ .nil))
        distinct := by decide
        distinct' := by decide
        filters := .cons ⟨size, rfl, rfl⟩ (.cons ⟨owner, rfl, rfl⟩ .nil)
        returning := .none }
  case delete =>
    exact
      { action := rfl
        table := payments
        values := .none
        distinct := by decide
        distinct' := by decide
        filters := .cons ⟨currency, rfl, rfl⟩ .nil
        returning := .none }

/-- The batch compiles to the same plan with either spelling. -/
theorem compile_demoRespelled :
    isSnakeCase demo.catalog.tenantColumn.toList = true ∧ demoBatch.Respelled demo demoRespelled ∧
      ∃ plan, demo.compile demoScope demoBatch = .ok plan ∧
        demo.compile demoScope demoRespelled = .ok plan := by
  refine ⟨by decide +kernel, demoBatch_respelled, ?_⟩
  rcases compile_respelled (by decide +kernel) demoBatch_respelled demoScope with
    h | ⟨r, _, hr, -, -⟩
  · exact h
  · obtain ⟨plan, hplan, -⟩ := leaves_of_demoBatch
    rw [hplan] at hr
    cases hr

end Compiler

end Tenancy
