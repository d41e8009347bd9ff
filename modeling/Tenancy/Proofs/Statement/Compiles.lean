/-
# How statements come about

Compiling is a chain of steps any of which may refuse. This module says once what a chain that
came to its end went through: for every statement of a plan, the table that was found, the
filters and values after the tenant was taken into account, and the conditions and assignments
made from them. What holds of all statements is proved by looking at the four ways in which
one comes about.
-/

import Tenancy.Catalog.Demo
import Tenancy.Proofs.Chains
import Tenancy.Statement.Compile

namespace Tenancy

/- The commands of a tree, by recursion on its steps. -/
mutual

/-- The commands of a tree that are no batches, in order. -/
def Command.leaves : Command → List Command
  | .query q => [.query q]
  | .mutate m => [.mutate m]
  | .batch steps => Command.leavesOf steps
  | .other kind => [.other kind]

/-- The commands of several trees that are no batches, in order. -/
def Command.leavesOf : List Command → List Command
  | [] => []
  | step :: rest => step.leaves ++ Command.leavesOf rest

end

namespace Compiler

variable (k : Compiler)

/-- The statement that a command compiles to, with the table it is on: one constructor for each
kind of statement, holding what every step of the chain led to. -/
inductive Compiles (scope : Scope) : Command → Table → Statement → Prop
  /-- A query. -/
  | select {q : Query} {t : Table} {selected : List String} {names : List Identifier}
      {tableName : Identifier} {filters : List Filter} {conditions : List Condition}
      {order : List (Identifier × Direction)} (htable : k.table q.table = .ok t)
      (hselected : k.columnsOr t t.columnNames q.select = .ok selected)
      (hnames : selected.mapM Identifier.ofName = .ok names)
      (htableName : Identifier.ofName t.name = .ok tableName)
      (hfilters : k.scopeFilters t q.filters scope = .ok filters)
      (hconditions : k.conditions t filters = .ok conditions)
      (horder : q.sort.mapM (k.ordering t) = .ok order) :
      Compiles scope (.query q) t
        (.select names tableName conditions order (k.limitOf q.limit) (offsetOf q.offset))
  /-- An insert, which writes at least one value. -/
  | insert {m : Mutation} {t : Table} {tableName : Identifier} {values : Named Live}
      {assigned : List (Identifier × Value)} {returned : List Identifier}
      (haction : m.action = .insert) (htable : k.table m.table = .ok t)
      (htableName : Identifier.ofName t.name = .ok tableName)
      (hvalues : k.scopeValues t (m.values.getD []) scope true = .ok values) (hne : values ≠ [])
      (hassigned : values.mapM (k.assignment t .insert) = .ok assigned)
      (hreturned : k.returning t m.returning = .ok returned) :
      Compiles scope (.mutate m) t (.insert tableName assigned returned)
  /-- An update, which writes at least one value and is asked for with at least one filter. -/
  | update {m : Mutation} {t : Table} {tableName : Identifier} {values : Named Live}
      {filters : List Filter} {assigned : List (Identifier × Value)} {conditions : List Condition}
      {returned : List Identifier}
      (haction : m.action = .update) (htable : k.table m.table = .ok t)
      (htableName : Identifier.ofName t.name = .ok tableName)
      (hvalues : k.scopeValues t (m.values.getD []) scope false = .ok values) (hne : values ≠ [])
      (hguard : m.filters ≠ [])
      (hfilters : k.scopeFilters t m.filters scope = .ok filters)
      (hassigned : values.mapM (k.assignment t .update) = .ok assigned)
      (hconditions : k.conditions t filters = .ok conditions)
      (hreturned : k.returning t m.returning = .ok returned) :
      Compiles scope (.mutate m) t (.update tableName assigned conditions returned)
  /-- A delete, which is asked for with at least one filter. -/
  | delete {m : Mutation} {t : Table} {tableName : Identifier} {filters : List Filter}
      {conditions : List Condition} {returned : List Identifier}
      (haction : m.action = .delete) (htable : k.table m.table = .ok t)
      (htableName : Identifier.ofName t.name = .ok tableName) (hguard : m.filters ≠ [])
      (hfilters : k.scopeFilters t m.filters scope = .ok filters)
      (hconditions : k.conditions t filters = .ok conditions)
      (hreturned : k.returning t m.returning = .ok returned) :
      Compiles scope (.mutate m) t (.delete tableName conditions returned)

variable {k} {scope : Scope} {t : Table}

theorem compiles_of_compileQuery {q : Query} {s : Statement} (h : k.compileQuery q scope = .ok s) :
    ∃ t, k.Compiles scope (.query q) t s := by
  obtain ⟨t, htable, h⟩ := bind_eq_ok.mp h
  obtain ⟨selected, hselected, h⟩ := bind_eq_ok.mp h
  obtain ⟨filters, hfilters, h⟩ := bind_eq_ok.mp h
  obtain ⟨conditions, hconditions, h⟩ := bind_eq_ok.mp h
  obtain ⟨order, horder, h⟩ := bind_eq_ok.mp h
  obtain ⟨names, hnames, h⟩ := bind_eq_ok.mp h
  obtain ⟨tableName, htableName, h⟩ := bind_eq_ok.mp h
  obtain rfl := pure_eq_ok.mp h
  exact ⟨t, .select htable hselected hnames htableName hfilters hconditions horder⟩

/-- Nothing is wrong with what was not refused. -/
theorem of_refuseIf {α : Type} {xs : List α} {r : Refusal} {u : Unit}
    (h : refuseIf xs.isEmpty r = .ok u) : xs ≠ [] := by
  rintro rfl
  cases h

theorem compiles_of_compileInsert {m : Mutation} {t : Table} {s : Statement}
    (haction : m.action = .insert) (htable : k.table m.table = .ok t)
    (h : k.compileInsert t m scope = .ok s) : k.Compiles scope (.mutate m) t s := by
  obtain ⟨values, hvalues, h⟩ := bind_eq_ok.mp h
  obtain ⟨_, hne, h⟩ := bind_eq_ok.mp h
  obtain ⟨assigned, hassigned, h⟩ := bind_eq_ok.mp h
  obtain ⟨tableName, htableName, h⟩ := bind_eq_ok.mp h
  obtain ⟨returned, hreturned, h⟩ := bind_eq_ok.mp h
  obtain rfl := pure_eq_ok.mp h
  exact .insert haction htable htableName hvalues (of_refuseIf hne) hassigned
    hreturned

theorem compiles_of_compileUpdate {m : Mutation} {t : Table} {s : Statement}
    (haction : m.action = .update) (htable : k.table m.table = .ok t)
    (h : k.compileUpdate t m scope = .ok s) : k.Compiles scope (.mutate m) t s := by
  obtain ⟨values, hvalues, h⟩ := bind_eq_ok.mp h
  obtain ⟨_, hne, h⟩ := bind_eq_ok.mp h
  obtain ⟨_, hguard, h⟩ := bind_eq_ok.mp h
  obtain ⟨filters, hfilters, h⟩ := bind_eq_ok.mp h
  obtain ⟨assigned, hassigned, h⟩ := bind_eq_ok.mp h
  obtain ⟨tableName, htableName, h⟩ := bind_eq_ok.mp h
  obtain ⟨conditions, hconditions, h⟩ := bind_eq_ok.mp h
  obtain ⟨returned, hreturned, h⟩ := bind_eq_ok.mp h
  obtain rfl := pure_eq_ok.mp h
  exact .update haction htable htableName hvalues (of_refuseIf hne)
    (of_refuseIf hguard) hfilters hassigned hconditions hreturned

theorem compiles_of_compileDelete {m : Mutation} {t : Table} {s : Statement}
    (haction : m.action = .delete) (htable : k.table m.table = .ok t)
    (h : k.compileDelete t m scope = .ok s) : k.Compiles scope (.mutate m) t s := by
  obtain ⟨_, hguard, h⟩ := bind_eq_ok.mp h
  obtain ⟨filters, hfilters, h⟩ := bind_eq_ok.mp h
  obtain ⟨tableName, htableName, h⟩ := bind_eq_ok.mp h
  obtain ⟨conditions, hconditions, h⟩ := bind_eq_ok.mp h
  obtain ⟨returned, hreturned, h⟩ := bind_eq_ok.mp h
  obtain rfl := pure_eq_ok.mp h
  exact .delete haction htable htableName (of_refuseIf hguard) hfilters
    hconditions hreturned

theorem compiles_of_compileMutation {m : Mutation} {s : Statement}
    (h : k.compileMutation m scope = .ok s) : ∃ t, k.Compiles scope (.mutate m) t s := by
  obtain ⟨t, htable, h⟩ := bind_eq_ok.mp h
  refine ⟨t, ?_⟩
  cases haction : m.action with
  | insert => exact compiles_of_compileInsert haction htable (by simpa [haction] using h)
  | update => exact compiles_of_compileUpdate haction htable (by simpa [haction] using h)
  | delete => exact compiles_of_compileDelete haction htable (by simpa [haction] using h)
  | other name =>
      rw [haction] at h
      exact absurd h throw_ne_ok

theorem refuseIf_of_ne_nil {α : Type} {xs : List α} {r : Refusal} (h : xs ≠ []) :
    refuseIf xs.isEmpty r = .ok () :=
  if_neg (mt List.isEmpty_iff.mp h)

/-- What comes about in one of the four ways is what the command compiles to. -/
theorem compile_of_compiles {c : Command} {s : Statement} (h : k.Compiles scope c t s) :
    k.compile scope c = .ok (.leaf s) := by
  cases h with
  | select htable hselected hnames htableName hfilters hconditions horder =>
      rw [compile, compileQuery, htable]
      simp only [bind, Except.bind, hselected, hnames, htableName, hfilters, hconditions, horder]
      rfl
  | insert haction htable htableName hvalues hne hassigned hreturned =>
      rw [compile, compileMutation, htable]
      simp only [bind, Except.bind, haction, compileInsert, htableName, hvalues,
        refuseIf_of_ne_nil hne, hassigned, hreturned]
      rfl
  | update haction htable htableName hvalues hne hguard hfilters hassigned hconditions hreturned =>
      rw [compile, compileMutation, htable]
      simp only [bind, Except.bind, haction, compileUpdate, htableName, hvalues,
        refuseIf_of_ne_nil hne, refuseIf_of_ne_nil hguard, hfilters, hassigned, hconditions,
        hreturned]
      rfl
  | delete haction htable htableName hguard hfilters hconditions hreturned =>
      rw [compile, compileMutation, htable]
      simp only [bind, Except.bind, haction, compileDelete, htableName, refuseIf_of_ne_nil hguard,
        hfilters, hconditions, hreturned]
      rfl

/- Every statement of a plan comes about in one of the four ways, by recursion on the command. -/
mutual

/-- The statements of the plan of a command come from the commands in it, in the same order. -/
theorem forall₂_leaves :
    ∀ (c : Command) {plan : Plan}, k.compile scope c = .ok plan →
      List.Forall₂ (fun leaf s => ∃ t, k.Compiles scope leaf t s) c.leaves plan.leaves
  | .query q, plan, h => by
      obtain ⟨s, hq, rfl⟩ := map_eq_ok.mp h
      rw [Command.leaves, Plan.leaves]
      exact .cons (compiles_of_compileQuery hq) .nil
  | .mutate m, plan, h => by
      obtain ⟨s, hm, rfl⟩ := map_eq_ok.mp h
      rw [Command.leaves, Plan.leaves]
      exact .cons (compiles_of_compileMutation hm) .nil
  | .batch steps, plan, h => by
      obtain ⟨plans, hsteps, rfl⟩ := map_eq_ok.mp h
      rw [Command.leaves, Plan.leaves]
      exact forall₂_leavesOf steps hsteps
  | .other kind, plan, h => by cases h

/-- The statements of the plans of several commands come from the commands in them, in the same
order. -/
theorem forall₂_leavesOf :
    ∀ (steps : List Command) {plans : List Plan}, k.compileSteps scope steps = .ok plans →
      List.Forall₂ (fun leaf s => ∃ t, k.Compiles scope leaf t s) (Command.leavesOf steps)
        (Plan.leavesOf plans)
  | [], plans, h => by
      cases h
      exact .nil
  | step :: rest, plans, h => by
      obtain ⟨plan, hplan, h⟩ := bind_eq_ok.mp h
      obtain ⟨others, hothers, h⟩ := bind_eq_ok.mp h
      obtain rfl := pure_eq_ok.mp h
      rw [Command.leavesOf, Plan.leavesOf]
      exact List.rel_append (forall₂_leaves step hplan) (forall₂_leavesOf rest hothers)

end

/-- A statement comes from the command in the same place. -/
theorem compiles_of_getElem?_leaves {c : Command} {plan : Plan} (h : k.compile scope c = .ok plan)
    {i : Nat} {s : Statement} (hs : plan.leaves[i]? = some s) :
    ∃ leaf t, c.leaves[i]? = some leaf ∧ k.Compiles scope leaf t s := by
  obtain ⟨leaf, hleaf, t, hcompiles⟩ := exists_getElem?_of_forall₂ (forall₂_leaves c h) hs
  exact ⟨leaf, t, hleaf, hcompiles⟩

/-- Every statement of the plan of a command comes from one of the commands in it. -/
theorem compiles_of_mem_leaves (c : Command) {plan : Plan} (h : k.compile scope c = .ok plan) :
    ∀ s ∈ plan.leaves, ∃ leaf t, k.Compiles scope leaf t s := by
  intro s hs
  obtain ⟨i, hi⟩ := List.mem_iff_getElem?.mp hs
  obtain ⟨leaf, t, -, hcompiles⟩ := compiles_of_getElem?_leaves h hi
  exact ⟨leaf, t, hcompiles⟩

/-! ## A batch of the booking schema

One statement of each kind, most of them one batch deeper, with the tenant column left out,
null, and spelled in several ways. -/

/-- A compiler for the booking schema. -/
def demo : Compiler :=
  ofCatalog (Catalog.demo "biz_id") none

/-- On behalf of one business. -/
def demoScope : Scope :=
  { bizId := some "acme", locationId := none, actorUserId := none }

/-- Read the locations, add an order, change orders and remove payments. -/
def demoBatch : Command :=
  .batch
    [.query
      { table := "Locations", select := none, filters := [], sort := [⟨"createdAt", .desc⟩]
        limit := none, offset := some 3 },
     .batch
      [.mutate
        { action := .insert, table := "booking order"
          values := some [("Biz ID", .plain .null), ("status", .plain (.text "open"))]
          filters := [], returning := some ["ID"] },
       .mutate
        { action := .update, table := "Booking Orders"
          values := some [("bizId", .plain (.text "acme")), ("status", .plain (.text "paid"))]
          filters := [⟨"party size", .isIn, some (.list [.int 2, .int 4])⟩,
            ⟨"Biz-ID", .eq, some (.text "acme")⟩]
          returning := none },
       .mutate
        { action := .delete, table := "payments", values := none
          filters := [⟨"currency", .isNull, none⟩], returning := none }]]

/-- Add a location. -/
def demoInsert : Command :=
  .mutate
    { action := .insert, table := "locations", values := some [("name", .plain (.text "Quay"))]
      filters := [], returning := none }

/-- The request to add a location for good. -/
def demoRequest : Request :=
  .ofCommand false demoScope demoInsert

/-- The statements of the batch, by what they do and the table they are on. -/
def demoLeaves : List (Option Action × String) :=
  [(none, "locations"), (some .insert, "booking_orders"), (some .update, "booking_orders"),
    (some .delete, "payments")]

/-- The batch compiles to one statement of each kind. -/
theorem leaves_of_demoBatch :
    ∃ plan, demo.compile demoScope demoBatch = .ok plan ∧
      (plan.leaves.map fun s => (s.action?, s.table.name)) = demoLeaves :=
  toOption_map_eq_some.mp (by decide +kernel)

theorem compile_demoBatch :
    ∃ plan, demo.compile demoScope demoBatch = .ok plan ∧
      ∀ p ∈ demoLeaves, ∃ s ∈ plan.leaves, s.action? = p.1 ∧ s.table.name = p.2 := by
  obtain ⟨plan, hplan, hleaves⟩ := leaves_of_demoBatch
  refine ⟨plan, hplan, ?_⟩
  intro p hp
  rw [← hleaves, List.mem_map] at hp
  obtain ⟨s, hs, rfl⟩ := hp
  exact ⟨s, hs, rfl, rfl⟩

end Compiler

end Tenancy
