/-
# What compiling breaks down over

Compiling refuses a command for something that is wrong with it, and callers tell the kinds of
refusal apart. It breaks down over one thing only: a value that it would have to write down and that
contains itself. Such a value refers to the variables while these contain themselves, and the
command that has it cannot be written down either.
-/

import Tenancy.Command.Form
import Tenancy.Proofs.Statement.Settling

namespace Tenancy

theorem Refusal.kind_eq_breakdown_iff {r : Refusal} : r.kind = .breakdown ↔ r = .endlessValue := by
  cases r <;> simp [kind]

/-! ## Chains that break down -/

/-- The chain breaks down only if this is so. -/
def BreaksOnlyIf {α : Type} (p : Prop) (x : Except Refusal α) : Prop :=
  x = .error .endlessValue → p

namespace BreaksOnlyIf

variable {α β : Type} {p q : Prop} {x : Except Refusal α}

theorem ok (a : α) : BreaksOnlyIf p (.ok a) := by
  intro h
  cases h

theorem refused {r : Refusal} (hr : r ≠ .endlessValue) :
    BreaksOnlyIf p (.error r : Except Refusal α) := by
  intro h
  exact absurd (Except.error.inj h) hr

theorem imp (h : BreaksOnlyIf p x) (hpq : p → q) : BreaksOnlyIf q x :=
  fun hbreaks => hpq (h hbreaks)

theorem bind {f : α → Except Refusal β} (hx : BreaksOnlyIf p x)
    (hf : ∀ a, x = .ok a → BreaksOnlyIf p (f a)) : BreaksOnlyIf p (x >>= f) := by
  intro h
  rcases bind_eq_error.mp h with h | ⟨a, ha, h⟩
  · exact hx h
  · exact hf a ha h

theorem map (h : BreaksOnlyIf p x) (f : α → β) : BreaksOnlyIf p (x.map f) := by
  cases x with
  | ok a => exact ok (f a)
  | error r => exact fun hbreaks => h (congrArg Except.error (Except.error.inj hbreaks))

theorem mapM {f : α → Except Refusal β} {xs : List α} (h : ∀ a ∈ xs, BreaksOnlyIf p (f a)) :
    BreaksOnlyIf p (xs.mapM f) := by
  intro hbreaks
  obtain ⟨before, a, after, rfl, -, ha⟩ := mapM_eq_error.mp hbreaks
  exact h a (List.mem_append_right before List.mem_cons_self) ha

theorem guarded {wrong : Bool} {r : Refusal} (hr : r ≠ .endlessValue) :
    BreaksOnlyIf p (Compiler.refuseIf wrong r) := by
  cases wrong with
  | false => exact ok ()
  | true => exact refused hr

end BreaksOnlyIf

open BreaksOnlyIf

variable {p : Prop}

theorem Identifier.breaks_ofName (name : String) : BreaksOnlyIf p (Identifier.ofName name) := by
  unfold ofName
  split
  · exact ok _
  · exact refused (by simp)

namespace Compiler

variable (k : Compiler) (t : Table) (scope : Scope)

/-! ## Names, filters and conditions -/

theorem breaks_table (raw : String) : BreaksOnlyIf p (k.table raw) := by
  unfold table
  split
  · exact ok _
  · exact refused (by simp)

theorem breaks_column (usage : Usage) (raw : String) : BreaksOnlyIf p (k.column t usage raw) := by
  unfold column
  split
  · exact ok _
  · exact refused (by simp)

theorem breaks_columnIdentifier (usage : Usage) (raw : String) :
    BreaksOnlyIf p (k.columnIdentifier t usage raw) :=
  (k.breaks_column t usage raw).bind fun name _ => Identifier.breaks_ofName name

theorem breaks_columnsOr (otherwise : List String) (raws : Option (List String)) :
    BreaksOnlyIf p (k.columnsOr t otherwise raws) := by
  unfold columnsOr
  split
  · exact ok _
  · exact ok _
  · exact mapM fun raw _ => k.breaks_column t .plain raw

theorem breaks_returning (raws : Option (List String)) : BreaksOnlyIf p (k.returning t raws) :=
  (k.breaks_columnsOr t t.primaryKeys raws).bind fun _ _ =>
    mapM fun name _ => Identifier.breaks_ofName name

theorem breaks_requireTenant : BreaksOnlyIf p (requireTenant t scope) := by
  unfold requireTenant
  split
  · split
    · exact refused (by simp)
    · exact ok _
  · exact refused (by simp)

theorem breaks_scopeFilters (filters : List Filter) :
    BreaksOnlyIf p (k.scopeFilters t filters scope) := by
  unfold scopeFilters
  split
  · refine (breaks_requireTenant t scope).bind fun tenant _ => ?_
    dsimp only
    split
    · split <;> exact ok _
    · exact refused (by simp)
  · exact ok _

theorem breaks_checkTenantValues (tenant : String) (values : Named Live) :
    BreaksOnlyIf p (k.checkTenantValues t tenant values) := by
  induction values with
  | nil => exact ok _
  | cons f rest ih =>
      obtain ⟨raw, value⟩ := f
      rw [checkTenantValues]
      split
      · split
        · exact ih
        · split
          · exact ih.map _
          · exact refused (by simp)
      · exact ih.map _

theorem breaks_scopeValues (values : Named Live) (inject : Bool) :
    BreaksOnlyIf p (k.scopeValues t values scope inject) := by
  unfold scopeValues
  split
  · refine (breaks_requireTenant t scope).bind fun tenant _ =>
      (k.breaks_checkTenantValues t tenant values).bind fun checked _ => ?_
    split <;> exact ok _
  · exact ok _

theorem breaks_compareCondition (column : Identifier) (op : Operator) (c : Comparison)
    (operand : Option Json) : BreaksOnlyIf p (k.compareCondition t column op c operand) := by
  unfold compareCondition
  split
  · exact refused (by simp)
  · exact refused (by simp)
  · split
    · exact ok _
    · exact ok _
    · exact refused (by simp)
  · split <;> exact ok _

theorem breaks_membershipCondition (column : Identifier) (operand : Option Json) :
    BreaksOnlyIf p (k.membershipCondition t column operand) := by
  unfold membershipCondition
  split
  · exact ok _
  · exact ok _
  · exact refused (by simp)

theorem breaks_conditions (filters : List Filter) : BreaksOnlyIf p (k.conditions t filters) := by
  refine mapM fun f _ => (k.breaks_columnIdentifier t .filter f.column).bind fun column _ => ?_
  split
  · exact ok _
  · exact ok _
  · exact k.breaks_compareCondition t column _ _ _
  · exact k.breaks_membershipCondition t column _

/-! ## Assignments -/

/-- Only assigning a value that refers to variables that contain themselves breaks down. -/
theorem breaks_assignments (usage : Usage) (values : Named Live) :
    BreaksOnlyIf (¬Stand values ∧ k.vars.fields?.isNone = true)
      (values.mapM (k.assignment t usage)) := by
  refine mapM fun f hf => (k.breaks_columnIdentifier t usage f.1).bind fun column _ => ?_
  refine bind (fun hbreaks => ?_) fun _ _ => ok _
  cases hbad : k.isUnbindable t column.name f.2 with
  | false =>
      rw [hbad] at hbreaks
      cases hbreaks
  | true =>
      obtain ⟨hrefers, hvars⟩ := of_isUnbindable hbad
      exact ⟨fun hstand => Bool.false_ne_true ((hstand f hf).symm.trans hrefers), hvars⟩

/-! ## Commands -/

theorem breaks_compileQuery (q : Query) : BreaksOnlyIf p (k.compileQuery q scope) := by
  refine (k.breaks_table q.table).bind fun t _ =>
    (k.breaks_columnsOr t t.columnNames q.select).bind fun selected _ =>
    (k.breaks_scopeFilters t scope q.filters).bind fun filters _ =>
    (k.breaks_conditions t filters).bind fun conditions _ =>
    (mapM fun s _ => ?_).bind fun order _ =>
    (mapM fun name _ => Identifier.breaks_ofName name).bind fun names _ =>
    (Identifier.breaks_ofName t.name).bind fun tableName _ => ok _
  exact (k.breaks_columnIdentifier t .sort s.column).bind fun column _ => ok _

variable (m : Mutation)

theorem breaks_compileInsert :
    BreaksOnlyIf (¬m.Standing ∧ k.vars.fields?.isNone = true) (k.compileInsert t m scope) := by
  refine (k.breaks_scopeValues t scope _ true).bind fun values hvalues =>
    (guarded (by simp)).bind fun _ _ => bind ?_ fun assignments _ =>
    (Identifier.breaks_ofName t.name).bind fun tableName _ =>
    (k.breaks_returning t m.returning).bind fun returned _ => ok _
  exact (k.breaks_assignments t .insert values).imp
    (And.imp_left (mt fun hstand => stand_of_scopeValues hstand hvalues))

theorem breaks_compileUpdate :
    BreaksOnlyIf (¬m.Standing ∧ k.vars.fields?.isNone = true) (k.compileUpdate t m scope) := by
  refine (k.breaks_scopeValues t scope _ false).bind fun values hvalues =>
    (guarded (by simp)).bind fun _ _ => (guarded (by simp)).bind fun _ _ =>
    (k.breaks_scopeFilters t scope m.filters).bind fun filters _ => bind ?_ fun assignments _ =>
    (Identifier.breaks_ofName t.name).bind fun tableName _ =>
    (k.breaks_conditions t filters).bind fun conditions _ =>
    (k.breaks_returning t m.returning).bind fun returned _ => ok _
  exact (k.breaks_assignments t .update values).imp
    (And.imp_left (mt fun hstand => stand_of_scopeValues hstand hvalues))

theorem breaks_compileDelete : BreaksOnlyIf p (k.compileDelete t m scope) :=
  (guarded (by simp)).bind fun _ _ =>
    (k.breaks_scopeFilters t scope m.filters).bind fun filters _ =>
    (Identifier.breaks_ofName t.name).bind fun tableName _ =>
    (k.breaks_conditions t filters).bind fun conditions _ =>
    (k.breaks_returning t m.returning).bind fun returned _ => ok _

theorem breaks_compileMutation :
    BreaksOnlyIf (¬m.Standing ∧ k.vars.fields?.isNone = true) (k.compileMutation m scope) := by
  refine (k.breaks_table m.table).bind fun t _ => ?_
  split
  · exact k.breaks_compileInsert t scope m
  · exact k.breaks_compileUpdate t scope m
  · exact k.breaks_compileDelete t scope m
  · exact refused (by simp)

/- Compiling a tree, by recursion on its steps. -/
mutual

/-- Compiling a command breaks down only if one of its values refers to the variables and these
contain themselves. -/
theorem breaks_compile : (c : Command) →
    BreaksOnlyIf (¬c.Standing ∧ k.vars.fields?.isNone = true) (k.compile scope c)
  | .query q => (k.breaks_compileQuery scope q).map _
  | .mutate m => (k.breaks_compileMutation scope m).map _
  | .batch steps => (breaks_compileSteps steps).map _
  | .other _ => refused (by simp)

theorem breaks_compileSteps : (steps : List Command) →
    BreaksOnlyIf (¬Command.StandingSteps steps ∧ k.vars.fields?.isNone = true)
      (k.compileSteps scope steps)
  | [] => ok _
  | step :: rest => by
      have first := (breaks_compile step).imp
        (And.imp_left (mt fun h : step.Standing ∧ Command.StandingSteps rest => h.1))
      have others := (breaks_compileSteps rest).imp
        (And.imp_left (mt fun h : step.Standing ∧ Command.StandingSteps rest => h.2))
      exact first.bind fun _ _ => others.bind fun _ _ => ok _

end

end Compiler

/-! ## Commands that can be written down -/

namespace Live

theorem refersFields_eq_false_iff {fields : Named Live} :
    refersFields fields = false ↔ ∀ f ∈ fields, f.2.refers = false := by
  induction fields with
  | nil => simp [refersFields]
  | cons f rest ih => rw [refersFields, Bool.or_eq_false_iff, ih, List.forall_mem_cons]

end Live

theorem Form.refers_freeFields (values : Named Live) :
    (freeFields values).refers = Live.refersFields values := by
  rw [freeFields, refers]
  induction values with
  | nil => rfl
  | cons f rest ih =>
      rw [List.map_cons, refersFields, ih]
      rfl

theorem Mutation.standing_of_form {m : Mutation} (h : m.form.refers = false) : m.Standing := by
  rw [form, Form.refers] at h
  simp only [Form.refersFields, Bool.or_eq_false_iff] at h
  obtain ⟨-, -, -, hvalues, -⟩ := h
  unfold Standing
  cases hgiven : m.values with
  | none => exact List.forall_mem_nil _
  | some values =>
      rw [hgiven, Form.ofOption_some, Form.refers_freeFields] at hvalues
      exact Live.refersFields_eq_false_iff.mp hvalues

namespace Command

/- A command that refers to nothing when it is written down, by recursion on its steps. -/
mutual

theorem standing_of_stepForm : (c : Command) → c.stepForm.refers = false → c.Standing
  | .query _, _ => trivial
  | .mutate _, h => Mutation.standing_of_form h
  | .batch steps, h => by
      refine standingSteps_of_stepForms steps ?_
      simpa [stepForm, Form.refers, Form.refersFields, Form.text] using h
  | .other _, _ => trivial

theorem standingSteps_of_stepForms : (steps : List Command) →
    Form.refersItems (stepForms steps) = false → StandingSteps steps
  | [], _ => trivial
  | step :: rest, h => by
      rw [stepForms, Form.refersItems, Bool.or_eq_false_iff] at h
      exact ⟨standing_of_stepForm step h.1, standingSteps_of_stepForms rest h.2⟩

end

theorem standing_of_form {c : Command} (h : c.form.refers = false) : c.Standing := by
  apply standing_of_stepForm
  cases c <;> exact h

end Command

/-- A request that can be written down as the variables are does not break down: it is compiled, or
refused for something that is wrong with it. -/
theorem Compiler.kind_ne_breakdown_of_write {k : Compiler} {r : Request} {j : Json}
    (hwritten : r.form.write k.vars = .ok j) {refusal : Refusal}
    (h : k.compile r.scope r.command = .error refusal) : refusal.kind ≠ .breakdown := by
  intro hkind
  obtain rfl := Refusal.kind_eq_breakdown_iff.mp hkind
  obtain ⟨hrefers, hvars⟩ := k.breaks_compile r.scope r.command h
  obtain ⟨hfinite, -, -⟩ := (Form.write_eq_ok_iff k.vars r.form j).mp hwritten
  apply hrefers
  apply Command.standing_of_form
  cases hform : r.command.form.refers with
  | false => rfl
  | true =>
      have refers : r.form.refers = true := by
        simp [Request.form, Form.refers, Form.refersFields, hform]
      rw [Option.isNone_iff_eq_none.mp hvars] at hfinite
      exact absurd (hfinite refers) Bool.false_ne_true

end Tenancy
