/-
# Values that have been put together anew

A value that goes through a payload comes back put together from its parts, and where nothing in it
refers to the variables it shows the same as before. This module shows that compiling does not tell
the two apart: a command with values that stand for themselves compiles to the statements that it
compiles to with the plain values, with the same texts, and with parameters that show the same.
-/

import Tenancy.Proofs.Json.Live
import Tenancy.Proofs.Statement.Scoping

namespace Tenancy

/-! ## Standing values -/

namespace Live

/-- A value as it shows itself, put together no longer. -/
def settled (vars : Bag) (v : Live) : Live :=
  .plain (v.fill vars.outline)

variable {vars : Bag} {v : Live}

theorem isNull_settled (h : v.refers = false) : (v.settled vars).isNull = v.isNull := by
  cases v with
  | bag => cases h
  | plain | list | object => rfl

theorem text?_settled (h : v.refers = false) : (v.settled vars).text? = v.text? := by
  cases v with
  | bag => cases h
  | plain | list | object => rfl

end Live

namespace Value

/-- What a text is converted to is never live. -/
theorem settled_convert? {vars : Bag} {family : TypeFamily} {s : String} {v : Value}
    (h : convert? family s = some v) : v.settled vars = v := by
  cases family with
  | json | other => cases h
  | moment | date | decimal | integer | boolean =>
      obtain ⟨_, -, rfl⟩ := Option.map_eq_some_iff.mp h
      rfl

/-- A plain value is bound to what is live no longer. -/
theorem settled_bind_plain (vars bound : Bag) (sqlType : String) (j : Json) :
    (bind bound sqlType (.plain j)).settled vars = bind bound sqlType (.plain j) := by
  cases j with
  | null => rfl
  | text s =>
      show ((convert? (.ofType sqlType) s).getD (.plain (.text s))).settled vars = _
      cases h : convert? (.ofType sqlType) s with
      | none =>
          simp only [bind, h, Option.getD_none]
          rfl
      | some v => simp only [bind, h, Option.getD_some, settled_convert? h]
  | bool | int | float | list | object =>
      dsimp only [bind]
      split <;> rfl

/-- Binding a value that stands for itself and settling it is binding it settled. -/
theorem bind_settled (vars bound : Bag) (sqlType : String) {v : Live} (h : v.refers = false) :
    bind bound sqlType (v.settled vars) = (bind bound sqlType v).settled vars := by
  have same := Live.fill_of_not_refers bound.outline vars.outline v h
  cases v with
  | bag => cases h
  | plain j => exact (settled_bind_plain vars bound sqlType j).symm
  | list | object =>
      dsimp only [bind]
      rw [same]
      dsimp only [Live.settled, Live.fill]
      split <;> rfl

end Value

/-! ## Settled commands and plans -/

/-- Values by name as they show themselves. -/
def Named.settled (vars : Bag) (values : Named Live) : Named Live :=
  values.map fun f => (f.1, f.2.settled vars)

/-- A mutation with the values as they show themselves. -/
def Mutation.settled (vars : Bag) (m : Mutation) : Mutation :=
  { m with values := m.values.map (Named.settled vars) }

/- Settling a tree of commands, by recursion on its steps. -/
mutual

/-- A command with the values as they show themselves. -/
def Command.settled (vars : Bag) : Command → Command
  | .mutate m => .mutate (m.settled vars)
  | .batch steps => .batch (Command.settledSteps vars steps)
  | .query q => .query q
  | .other kind => .other kind

/-- The steps of a batch with the values as they show themselves. -/
def Command.settledSteps (vars : Bag) : List Command → List Command
  | [] => []
  | step :: rest => step.settled vars :: Command.settledSteps vars rest

end

/-- No value of a mutation refers to the variables. -/
def Mutation.Standing (m : Mutation) : Prop :=
  ∀ f ∈ m.values.getD [], f.2.refers = false

/- Standing trees of commands, by recursion on their steps. -/
mutual

/-- No value in a command refers to the variables. -/
def Command.Standing : Command → Prop
  | .mutate m => m.Standing
  | .batch steps => Command.StandingSteps steps
  | .query _ | .other _ => True

/-- No value in the steps of a batch refers to the variables. -/
def Command.StandingSteps : List Command → Prop
  | [] => True
  | step :: rest => step.Standing ∧ Command.StandingSteps rest

end

/-- A fragment with its value as it shows itself. -/
def Fragment.settled (vars : Bag) : Fragment → Fragment
  | .text s => .text s
  | .slot v => .slot (v.settled vars)

/-- A condition with its values as they show themselves. -/
def Condition.settled (vars : Bag) : Condition → Condition
  | .compare column op v => .compare column op (v.settled vars)
  | .isIn column first rest => .isIn column (first.settled vars) (rest.map (Value.settled vars))
  | c => c

namespace Statement

/-- Assignments with their values as they show themselves. -/
def settledAssignments (vars : Bag) (assignments : List (Identifier × Value)) :
    List (Identifier × Value) :=
  assignments.map fun a => (a.1, a.2.settled vars)

/-- A statement with its values as they show themselves. -/
def settled (vars : Bag) : Statement → Statement
  | .select columns table conditions order limit offset =>
      .select columns table (conditions.map (Condition.settled vars)) order limit offset
  | .insert table assignments returning =>
      .insert table (settledAssignments vars assignments) returning
  | .update table assignments conditions returning =>
      .update table (settledAssignments vars assignments)
        (conditions.map (Condition.settled vars)) returning
  | .delete table conditions returning =>
      .delete table (conditions.map (Condition.settled vars)) returning

end Statement

/- Settling a plan, by recursion on its steps. -/
mutual

/-- A plan with all values as they show themselves. -/
def Plan.settled (vars : Bag) : Plan → Plan
  | .leaf s => .leaf (s.settled vars)
  | .batch steps => .batch (Plan.settledSteps vars steps)

/-- The steps of a plan with all values as they show themselves. -/
def Plan.settledSteps (vars : Bag) : List Plan → List Plan
  | [] => []
  | step :: rest => step.settled vars :: Plan.settledSteps vars rest

end

/-! ## Settled statements are written alike -/

namespace Fragment

variable {vars : Bag}

theorem writeFrom_map_settled (next : Nat) (fragments : List Fragment) :
    writeFrom next (fragments.map (settled vars)) = writeFrom next fragments := by
  induction fragments generalizing next with
  | nil => rfl
  | cons f rest ih => cases f <;> simp [settled, writeFrom, ih]

theorem values_map_settled (fragments : List Fragment) :
    values (fragments.map (settled vars)) = (values fragments).map (Value.settled vars) := by
  induction fragments with
  | nil => rfl
  | cons f rest ih => cases f <;> simp [settled, ih]

theorem map_settled_separated (separator : String) (groups : List (List Fragment)) :
    (separated separator groups).map (settled vars) =
      separated separator (groups.map (List.map (settled vars))) := by
  induction groups with
  | nil => rfl
  | cons group rest ih =>
      cases rest with
      | nil => rfl
      | cons second rest =>
          rw [separated, List.map_append, List.map_cons, ih]
          rfl

end Fragment

theorem Condition.fragments_settled (vars : Bag) (c : Condition) :
    (c.settled vars).fragments = c.fragments.map (Fragment.settled vars) := by
  cases c with
  | isIn column first rest =>
      simp [settled, fragments, Fragment.map_settled_separated, Fragment.settled,
        Function.comp_def]
  | _ => rfl

namespace Statement

variable (vars : Bag)

theorem whereFragments_settled (conditions : List Condition) :
    whereFragments (conditions.map (Condition.settled vars)) =
      (whereFragments conditions).map (Fragment.settled vars) := by
  cases conditions with
  | nil => rfl
  | cons c rest =>
      simp [whereFragments, Fragment.map_settled_separated, Condition.fragments_settled,
        Fragment.settled, Function.comp_def]

theorem fragments_settled (s : Statement) :
    (s.settled vars).fragments = s.fragments.map (Fragment.settled vars) := by
  cases s with
  | select | delete => simp [settled, fragments, whereFragments_settled, Fragment.settled]
  | insert | update =>
      simp [settled, settledAssignments, fragments, whereFragments_settled,
        Fragment.map_settled_separated, Fragment.settled, Function.comp_def]

/-- A settled statement has the text of the statement, and its parameters as they show
themselves. -/
theorem written_settled (s : Statement) :
    (s.settled vars).sql = s.sql ∧ (s.settled vars).params = s.params.map (Value.settled vars) := by
  rw [sql, params, fragments_settled, Fragment.write, Fragment.writeFrom_map_settled,
    Fragment.values_map_settled]
  exact ⟨rfl, rfl⟩

end Statement

/-! ## Compiling -/

theorem Named.settled_overlay {vars : Bag} (lower upper : Named Live) :
    Named.settled vars (lower.overlay upper) =
      (Named.settled vars lower).overlay (Named.settled vars upper) :=
  map_overlay (Live.settled vars) lower upper

namespace Compiler

variable {k : Compiler} {t : Table} {scope : Scope} {tenant : String} (vars : Bag)

/-- No value refers to the variables. -/
def Stand (values : Named Live) : Prop :=
  ∀ f ∈ values, f.2.refers = false

theorem checkTenantValues_settled {values : Named Live} (h : Stand values) :
    k.checkTenantValues t tenant (Named.settled vars values) =
      (k.checkTenantValues t tenant values).map (Named.settled vars) := by
  induction values with
  | nil => rfl
  | cons f rest ih =>
      obtain ⟨hf, hrest⟩ := List.forall_mem_cons.mp h
      have kept : (k.checkTenantValues t tenant (Named.settled vars rest)).map
          ((f.1, f.2.settled vars) :: ·) =
          ((k.checkTenantValues t tenant rest).map (f :: ·)).map (Named.settled vars) := by
        rw [ih hrest]
        cases k.checkTenantValues t tenant rest <;> rfl
      show k.checkTenantValues t tenant ((f.1, f.2.settled vars) :: Named.settled vars rest) = _
      rw [checkTenantValues, Live.isNull_settled hf, Live.text?_settled hf]
      show _ = (k.checkTenantValues t tenant ((f.1, f.2) :: rest)).map _
      rw [checkTenantValues]
      by_cases hmeans : k.meansTenant t f.1 = true
      · rw [if_pos hmeans, if_pos hmeans]
        split
        · exact ih hrest
        · split
          · exact kept
          · rfl
      · rw [if_neg hmeans, if_neg hmeans]
        exact kept

theorem any_meansTenant_settled (values : Named Live) :
    ((Named.settled vars values).any fun f => k.meansTenant t f.1) =
      values.any fun f => k.meansTenant t f.1 := by
  rw [Named.settled, List.any_map]
  rfl

theorem scopeValues_settled {values : Named Live} (h : Stand values) (inject : Bool) :
    k.scopeValues t (Named.settled vars values) scope inject =
      (k.scopeValues t values scope inject).map (Named.settled vars) := by
  rw [scopeValues, scopeValues]
  by_cases htenant : k.catalog.isTenantTable t = true
  · rw [if_pos htenant, if_pos htenant]
    cases requireTenant t scope with
    | error r => rfl
    | ok tenant =>
        show (k.checkTenantValues t tenant (Named.settled vars values) >>= _) =
          (k.checkTenantValues t tenant values >>= _).map _
        rw [checkTenantValues_settled vars h, bind_map_eq]
        cases k.checkTenantValues t tenant values with
        | error r => rfl
        | ok checked =>
            dsimp only [bind, Except.bind]
            rw [any_meansTenant_settled]
            split
            · rfl
            · show Except.ok _ = Except.ok _
              rw [Named.settled_overlay]
              rfl
  · rw [if_neg htenant, if_neg htenant]
    rfl

theorem stand_of_scopeValues {given values : Named Live} (h : Stand given) {inject : Bool}
    (hscoped : k.scopeValues t given scope inject = .ok values) : Stand values := by
  by_cases htenant : k.catalog.isTenantTable t = true
  · obtain ⟨tenant, checked, -, -, hchecked, hcases⟩ := scopeValues_cases htenant hscoped
    have hstand : Stand checked := by
      intro f hf
      rw [(of_checkTenantValues hchecked).1] at hf
      exact h f (List.mem_filter.mp hf).1
    rcases hcases with ⟨rfl, -⟩ | ⟨rfl, -, -⟩
    · exact hstand
    · intro f hf
      rcases Named.mem_overlay hf with hf | hf
      · rw [List.mem_singleton.mp hf]
        rfl
      · exact hstand f hf
  · obtain rfl := eq_of_scopeValues htenant hscoped
    exact h

theorem assignment_settled (usage : Usage) {f : String × Live} (h : f.2.refers = false) :
    k.assignment t usage (f.1, f.2.settled vars) =
      (k.assignment t usage f).map fun a => (a.1, a.2.settled vars) := by
  rw [assignment, assignment]
  cases k.columnIdentifier t usage f.1 with
  | error r => rfl
  | ok column =>
      have bindable : k.isUnbindable t column.name f.2 = false :=
        isUnbindable_of_not_refers column.name h
      have bound : k.bindTo t column.name (f.2.settled vars) =
          (k.bindTo t column.name f.2).settled vars := by
        rw [bindTo, bindTo]
        cases t.column? column.name with
        | none => rfl
        | some c => exact Value.bind_settled vars k.vars c.sqlType h
      show refuseIf (k.isUnbindable t column.name (f.2.settled vars)) .endlessValue >>=
          (fun _ => pure (column, k.bindTo t column.name (f.2.settled vars))) =
        (refuseIf (k.isUnbindable t column.name f.2) .endlessValue >>=
          fun _ => pure (column, k.bindTo t column.name f.2)).map _
      rw [isUnbindable_of_not_refers column.name rfl, bindable, bound]
      rfl

theorem assignments_settled (usage : Usage) {values : Named Live} (h : Stand values) :
    (Named.settled vars values).mapM (k.assignment t usage) =
      (values.mapM (k.assignment t usage)).map (Statement.settledAssignments vars) := by
  induction values with
  | nil => rfl
  | cons f rest ih =>
      obtain ⟨hf, hrest⟩ := List.forall_mem_cons.mp h
      have first := assignment_settled (k := k) (t := t) vars usage hf
      have others := ih hrest
      rw [Named.settled, List.map_cons, List.mapM_cons, List.mapM_cons, first, bind_map_eq]
      cases k.assignment t usage f with
      | error r => rfl
      | ok a =>
          show (Named.settled vars rest).mapM (k.assignment t usage) >>= _ =
            (rest.mapM (k.assignment t usage) >>= _).map _
          rw [others, bind_map_eq]
          cases rest.mapM (k.assignment t usage) <;> rfl

theorem settled_bindTo_plain (name : String) (j : Json) :
    (k.bindTo t name (.plain j)).settled vars = k.bindTo t name (.plain j) := by
  rw [bindTo]
  cases t.column? name with
  | none => rfl
  | some c => exact Value.settled_bind_plain vars k.vars c.sqlType j

/-- Nothing in a condition is live, because operands never are. -/
theorem settled_condition {f : Filter} {c : Condition} (h : k.condition t f = .ok c) :
    c.settled vars = c := by
  obtain ⟨column, -, h⟩ := bind_eq_ok.mp h
  split at h
  · obtain rfl := pure_eq_ok.mp h
    rfl
  · obtain rfl := pure_eq_ok.mp h
    rfl
  · unfold compareCondition at h
    split at h
    · cases h
    · cases h
    · split at h <;> cases h <;> rfl
    · split at h <;> cases h
      · rfl
      · rfl
      · exact congrArg _ (settled_bindTo_plain vars _ _)
  · unfold membershipCondition at h
    split at h
    · cases h
      rfl
    · cases h
      simp only [Condition.settled, settled_bindTo_plain, List.map_map, Function.comp_def]
    · cases h

theorem settled_conditions {filters : List Filter} {conditions : List Condition}
    (h : k.conditions t filters = .ok conditions) :
    conditions.map (Condition.settled vars) = conditions := by
  have fixed : ∀ c ∈ conditions, c.settled vars = c := by
    intro c hc
    obtain ⟨f, -, hf⟩ := exists_of_mem_mapM h hc
    exact settled_condition vars hf
  exact (List.map_congr_left fixed).trans (List.map_id' _)

/-! ## Statements -/

theorem settled_compileQuery {q : Query} {s : Statement} (h : k.compileQuery q scope = .ok s) :
    s.settled vars = s := by
  obtain ⟨t, -, h⟩ := bind_eq_ok.mp h
  obtain ⟨selected, -, h⟩ := bind_eq_ok.mp h
  obtain ⟨filters, -, h⟩ := bind_eq_ok.mp h
  obtain ⟨conditions, hconditions, h⟩ := bind_eq_ok.mp h
  obtain ⟨order, -, h⟩ := bind_eq_ok.mp h
  obtain ⟨names, -, h⟩ := bind_eq_ok.mp h
  obtain ⟨tableName, -, h⟩ := bind_eq_ok.mp h
  obtain rfl := pure_eq_ok.mp h
  rw [Statement.settled, settled_conditions vars hconditions]

theorem settled_compileDelete {m : Mutation} {s : Statement}
    (h : k.compileDelete t m scope = .ok s) : s.settled vars = s := by
  obtain ⟨_, -, h⟩ := bind_eq_ok.mp h
  obtain ⟨filters, -, h⟩ := bind_eq_ok.mp h
  obtain ⟨tableName, -, h⟩ := bind_eq_ok.mp h
  obtain ⟨conditions, hconditions, h⟩ := bind_eq_ok.mp h
  obtain ⟨returned, -, h⟩ := bind_eq_ok.mp h
  obtain rfl := pure_eq_ok.mp h
  rw [Statement.settled, settled_conditions vars hconditions]

theorem Mutation.settled_getD_values (m : Mutation) :
    (m.settled vars).values.getD [] = Named.settled vars (m.values.getD []) := by
  rw [Mutation.settled]
  cases m.values <;> rfl

variable {m : Mutation}

theorem isEmpty_settled (values : Named Live) :
    (Named.settled vars values).isEmpty = values.isEmpty := by
  rw [Named.settled, List.isEmpty_map]

theorem compileInsert_settled (h : m.Standing) :
    k.compileInsert t (m.settled vars) scope =
      (k.compileInsert t m scope).map (Statement.settled vars) := by
  rw [compileInsert, compileInsert, Mutation.settled_getD_values, scopeValues_settled vars h,
    bind_map_eq]
  apply bind_eq_map
  intro values hvalues
  rw [isEmpty_settled, assignments_settled vars .insert (stand_of_scopeValues h hvalues)]
  apply bind_eq_map
  intro _ _
  rw [bind_map_eq]
  apply bind_eq_map
  intro assignments _
  apply bind_eq_map
  intro tableName _
  apply bind_eq_map
  intro returned _
  rfl

theorem compileUpdate_settled (h : m.Standing) :
    k.compileUpdate t (m.settled vars) scope =
      (k.compileUpdate t m scope).map (Statement.settled vars) := by
  rw [compileUpdate, compileUpdate, Mutation.settled_getD_values, scopeValues_settled vars h,
    bind_map_eq]
  apply bind_eq_map
  intro values hvalues
  rw [isEmpty_settled, assignments_settled vars .update (stand_of_scopeValues h hvalues)]
  apply bind_eq_map
  intro _ _
  apply bind_eq_map
  intro _ _
  apply bind_eq_map
  intro filters _
  rw [bind_map_eq]
  apply bind_eq_map
  intro assignments _
  apply bind_eq_map
  intro tableName _
  apply bind_eq_map
  intro conditions hconditions
  apply bind_eq_map
  intro returned _
  show Except.ok _ = Except.ok _
  rw [Statement.settled, settled_conditions vars hconditions]

/-- A mutation with standing values compiles to what it compiles to with the values settled. -/
theorem compileMutation_settled (h : m.Standing) :
    k.compileMutation (m.settled vars) scope =
      (k.compileMutation m scope).map (Statement.settled vars) := by
  apply bind_eq_map
  intro t _
  obtain ⟨action, table, values, filters, returning⟩ := m
  cases action with
  | insert => exact compileInsert_settled vars h
  | update => exact compileUpdate_settled vars h
  | delete =>
      -- the values of a delete are not looked at
      exact (map_eq_self fun s hs => settled_compileDelete vars hs).symm
  | other name => rfl

/-! ## Trees -/

end Compiler

/- Settling the leaves of a plan, by recursion on its steps. -/
mutual

theorem Plan.leaves_settled (vars : Bag) : (plan : Plan) →
    (plan.settled vars).leaves = plan.leaves.map (Statement.settled vars)
  | .leaf _ => rfl
  | .batch steps => Plan.leavesOf_settled vars steps

theorem Plan.leavesOf_settled (vars : Bag) : (steps : List Plan) →
    Plan.leavesOf (Plan.settledSteps vars steps) =
      (Plan.leavesOf steps).map (Statement.settled vars)
  | [] => rfl
  | step :: rest => by
      rw [Plan.settledSteps, Plan.leavesOf, Plan.leavesOf, List.map_append,
        Plan.leaves_settled vars step, Plan.leavesOf_settled vars rest]

end

/-- The leaves of a settled plan have the texts of its leaves, and their parameters as they show
themselves. -/
theorem Plan.written_settled (vars : Bag) (plan : Plan) :
    (plan.settled vars).leaves.map Statement.sql = plan.leaves.map Statement.sql ∧
      (plan.settled vars).leaves.map Statement.params =
        plan.leaves.map fun s => s.params.map (Value.settled vars) := by
  rw [Plan.leaves_settled, List.map_map, List.map_map]
  exact ⟨List.map_congr_left fun s _ => (s.written_settled vars).1,
    List.map_congr_left fun s _ => (s.written_settled vars).2⟩

namespace Compiler

variable {k : Compiler} {scope : Scope} (vars : Bag)

/- Compiling settled trees, by recursion on the command. -/
mutual

/-- **Compiling does not tell values that were put together anew from plain ones.** A command with
standing values compiles settled to what it compiles to, settled, and is refused settled for the
reason for which it is refused. -/
theorem compile_settled : (c : Command) → c.Standing →
    k.compile scope (c.settled vars) = (k.compile scope c).map (Plan.settled vars)
  | .query q, _ => by
      rw [Command.settled, compile]
      symm
      apply map_eq_self
      intro plan hplan
      obtain ⟨s, hs, rfl⟩ := map_eq_ok.mp hplan
      rw [Plan.settled, settled_compileQuery vars hs]
  | .mutate m, h => by
      rw [Command.settled, compile, compile, compileMutation_settled vars h]
      cases k.compileMutation m scope <;> rfl
  | .batch steps, h => by
      rw [Command.settled, compile, compile, compileSteps_settled steps h]
      cases k.compileSteps scope steps <;> rfl
  | .other kind, _ => rfl

theorem compileSteps_settled : (steps : List Command) → Command.StandingSteps steps →
    k.compileSteps scope (Command.settledSteps vars steps) =
      (k.compileSteps scope steps).map (Plan.settledSteps vars)
  | [], _ => rfl
  | step :: rest, ⟨hstep, hrest⟩ => by
      rw [Command.settledSteps, compileSteps, compileSteps, compile_settled step hstep,
        compileSteps_settled rest hrest, bind_map_eq]
      apply bind_eq_map
      intro plan _
      rw [bind_map_eq]
      apply bind_eq_map
      intro plans _
      rfl

end

end Compiler

end Tenancy
