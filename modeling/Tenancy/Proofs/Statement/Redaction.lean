/-
# Values never reach the text

Two commands that differ in nothing but their values are written the same way. The comparison
goes through a third command, in which every value gives way to one that says no more than what
the text may depend on: whether the value is null, and of an array of operands how many there are.
Whatever compiles, compiles in this form as well, on behalf of a tenant that is redacted like the
values, and the two statements differ in their parameters alone.

What is kept of a value that is written is only whether it is null. The tenants of the two commands
are not compared: each has to agree with the values of its own command.
-/

import Tenancy.Proofs.Statement.Scoping
import Tenancy.Proofs.Statement.Written

namespace Tenancy

/-! ## Redaction -/

/-- The text in place of every text. It is not empty, because an empty tenant is none. -/
def redaction : String := "*"

/-- A value without its content: null stays null, and an array keeps its length. -/
def Json.redacted : Json → Json
  | .null => .null
  | .list items => .list (items.map fun _ => .null)
  | _ => .text redaction

/-- A value that is written, without its content. -/
def Live.redacted (v : Live) : Live :=
  if v.isNull then .plain .null else .plain (.text redaction)

/-- Values by name, without their content. -/
def Named.redacted (values : Named Live) : Named Live :=
  values.map fun f => (f.1, f.2.redacted)

/-- A filter that is told the operand only without its content. An absent one stays absent. -/
def Filter.redacted (f : Filter) : Filter :=
  { f with operand := f.operand.map Json.redacted }

/-- A query without the content of its operands. -/
def Query.redacted (q : Query) : Query :=
  { q with filters := q.filters.map Filter.redacted }

/-- A mutation without the content of its values and operands. -/
def Mutation.redacted (m : Mutation) : Mutation :=
  { m with values := m.values.map Named.redacted, filters := m.filters.map Filter.redacted }

/- Redacting a tree of commands, by recursion on its steps. -/
mutual

/-- A command without the content of its values and operands. -/
def Command.redacted : Command → Command
  | .query q => .query q.redacted
  | .mutate m => .mutate m.redacted
  | .batch steps => .batch (Command.redactedSteps steps)
  | .other kind => .other kind

/-- The steps of a batch without the content of their values and operands. -/
def Command.redactedSteps : List Command → List Command
  | [] => []
  | step :: rest => step.redacted :: Command.redactedSteps rest

end

/-- On behalf of a tenant that is redacted. -/
def redactedScope : Scope :=
  { bizId := some redaction, locationId := none, actorUserId := none }

/-- A compiler without variables. -/
def Compiler.redacted (k : Compiler) : Compiler :=
  { k with vars := [] }

/-! ## Blank statements -/

namespace Fragment

/-- A fragment without its value. -/
def blank : Fragment → Fragment
  | .text s => .text s
  | .slot _ => .slot (.plain .null)

/-- The text does not depend on the values. -/
theorem writeFrom_map_blank (next : Nat) (fragments : List Fragment) :
    writeFrom next (fragments.map blank) = writeFrom next fragments := by
  induction fragments generalizing next with
  | nil => rfl
  | cons f rest ih => cases f <;> simp [blank, writeFrom, ih]

theorem length_values_map_blank (fragments : List Fragment) :
    (values (fragments.map blank)).length = (values fragments).length := by
  induction fragments with
  | nil => rfl
  | cons f rest ih => cases f <;> simp [blank, ih]

theorem map_blank_separated (separator : String) (groups : List (List Fragment)) :
    (separated separator groups).map blank = separated separator (groups.map (List.map blank)) := by
  induction groups with
  | nil => rfl
  | cons group rest ih =>
      cases rest with
      | nil => rfl
      | cons second rest =>
          rw [separated, List.map_append, List.map_cons, ih]
          rfl

end Fragment

namespace Condition

/-- A condition without its values. -/
def blank : Condition → Condition
  | .compare column op _ => .compare column op (.plain .null)
  | .isIn column _ rest => .isIn column (.plain .null) (rest.map fun _ => .plain .null)
  | c => c

theorem fragments_blank (c : Condition) : c.blank.fragments = c.fragments.map Fragment.blank := by
  cases c with
  | isIn column first rest =>
      simp [blank, fragments, Fragment.map_blank_separated, Fragment.blank, Function.comp_def]
  | _ => rfl

end Condition

namespace Statement

/-- Assignments without their values. -/
def blankAssignments (assignments : List (Identifier × Value)) : List (Identifier × Value) :=
  assignments.map fun a => (a.1, .plain .null)

/-- A statement without its values. -/
def blank : Statement → Statement
  | .select columns table conditions order limit offset =>
      .select columns table (conditions.map Condition.blank) order limit offset
  | .insert table assignments returning => .insert table (blankAssignments assignments) returning
  | .update table assignments conditions returning =>
      .update table (blankAssignments assignments) (conditions.map Condition.blank) returning
  | .delete table conditions returning => .delete table (conditions.map Condition.blank) returning

theorem whereFragments_blank (conditions : List Condition) :
    whereFragments (conditions.map Condition.blank) =
      (whereFragments conditions).map Fragment.blank := by
  cases conditions with
  | nil => rfl
  | cons c rest =>
      simp [whereFragments, Fragment.map_blank_separated, Condition.fragments_blank, Fragment.blank,
        Function.comp_def]

theorem fragments_blank (s : Statement) : s.blank.fragments = s.fragments.map Fragment.blank := by
  cases s with
  | select | delete => simp [blank, fragments, whereFragments_blank, Fragment.blank]
  | insert | update =>
      simp [blank, blankAssignments, fragments, whereFragments_blank, Fragment.map_blank_separated,
        Fragment.blank, Function.comp_def]

/-- Statements that are the same without their values have the same text, and the same number of
parameters. -/
theorem text_of_blank {s s' : Statement} (h : s.blank = s'.blank) :
    s.sql = s'.sql ∧ s.params.length = s'.params.length := by
  have fragments : s.fragments.map Fragment.blank = s'.fragments.map Fragment.blank := by
    rw [← fragments_blank, ← fragments_blank, h]
  constructor
  · rw [sql, Fragment.write, ← Fragment.writeFrom_map_blank, fragments,
      Fragment.writeFrom_map_blank]
    rfl
  · rw [params, ← Fragment.length_values_map_blank, fragments, Fragment.length_values_map_blank]
    rfl

end Statement

/-! ## The tenant in a redacted command -/

theorem Named.redacted_overlay (lower upper : Named Live) :
    Named.redacted (lower.overlay upper) =
      (Named.redacted lower).overlay (Named.redacted upper) :=
  map_overlay Live.redacted lower upper

theorem Named.redacted_cons (f : String × Live) (rest : Named Live) :
    Named.redacted (f :: rest) = (f.1, f.2.redacted) :: Named.redacted rest := rfl

theorem Live.redacted_of_isNull {v : Live} (h : v.isNull = true) : v.redacted = .plain .null :=
  if_pos h

theorem Live.redacted_of_not_isNull {v : Live} (h : ¬v.isNull = true) :
    v.redacted = .plain (.text redaction) :=
  if_neg h

theorem Live.refers_redacted (v : Live) : v.redacted.refers = false := by
  unfold redacted
  split <;> rfl

theorem Mutation.values_redacted (m : Mutation) :
    Named.redacted (m.values.getD []) = m.redacted.values.getD [] := by
  obtain ⟨action, table, values, filters, returning⟩ := m
  cases values <;> rfl

namespace Compiler

variable {k : Compiler} {t : Table} {scope : Scope} {tenant : String}

theorem meansTenant_redacted (raw : String) : k.redacted.meansTenant t raw = k.meansTenant t raw :=
  rfl

theorem asksFor_redacted {f : Filter} (h : asksFor tenant f = true) :
    asksFor redaction f.redacted = true := by
  obtain ⟨hop, hoperand⟩ := asksFor_iff.mp h
  exact asksFor_iff.mpr ⟨hop, by simp [Filter.redacted, hoperand, Json.redacted]⟩

/-- Filters that ask for nothing but the tenant in scope are scoped. -/
theorem scopeFilters_of_asksFor (htenant : k.catalog.isTenantTable t = true)
    (hrequired : requireTenant t scope = .ok tenant) {given : List Filter}
    (hall : ∀ f ∈ given, k.meansTenant t f.column = true → asksFor tenant f = true) :
    k.scopeFilters t given scope =
      .ok (if given.any fun f => k.meansTenant t f.column then given
        else k.tenantFilter tenant :: given) := by
  have own : (given.filter fun f => k.meansTenant t f.column).all (asksFor tenant) = true := by
    rw [List.all_eq_true]
    intro f hf
    obtain ⟨hf, hmeans⟩ := List.mem_filter.mp hf
    exact hall f hf hmeans
  rw [scopeFilters, if_pos htenant, hrequired]
  change (if _ then _ else _) = _
  rw [if_pos own]
  by_cases hasked : given.any (fun f => k.meansTenant t f.column) = true
  · have hne : ¬(given.filter fun f => k.meansTenant t f.column).isEmpty = true := by
      simpa using hasked
    rw [if_neg hne, if_pos hasked]
    rfl
  · have hnone : (given.filter fun f => k.meansTenant t f.column).isEmpty = true := by
      simpa using hasked
    rw [if_pos hnone, if_neg hasked]
    rfl

theorem scopeFilters_redacted {given filters : List Filter}
    (h : k.scopeFilters t given scope = .ok filters) :
    k.redacted.scopeFilters t (given.map Filter.redacted) redactedScope =
      .ok (filters.map Filter.redacted) := by
  by_cases htenant : k.catalog.isTenantTable t = true
  · obtain ⟨tenant, -, -, hall, hcases⟩ := scopeFilters_cases htenant h
    have agree : ∀ f ∈ given.map Filter.redacted, k.meansTenant t f.column = true →
        asksFor redaction f = true := by
      intro _ hmem hmeans
      obtain ⟨f, hf, rfl⟩ := List.mem_map.mp hmem
      exact asksFor_redacted (hall f hf hmeans)
    have required : requireTenant t redactedScope = .ok redaction := rfl
    rw [scopeFilters_of_asksFor (k := k.redacted) htenant required agree, List.any_map]
    rcases hcases with ⟨rfl, f, hf, hmeans⟩ | ⟨rfl, hnone⟩
    · rw [if_pos (List.any_eq_true.mpr ⟨f, hf, hmeans⟩)]
    · have unasked : ¬given.any ((fun f => k.meansTenant t f.column) ∘ Filter.redacted) = true := by
        rw [List.any_eq_true]
        rintro ⟨f, hf, hmeans⟩
        exact Bool.eq_false_iff.mp (hnone f hf) hmeans
      exact congrArg Except.ok (if_neg unasked)
  · rw [scopeFilters, if_neg htenant] at h
    obtain rfl := pure_eq_ok.mp h
    exact if_neg htenant

theorem checkTenantValues_redacted {values checked : Named Live}
    (h : k.checkTenantValues t tenant values = .ok checked) :
    k.redacted.checkTenantValues t redaction (Named.redacted values) =
      .ok (Named.redacted checked) := by
  induction values generalizing checked with
  | nil =>
      cases h
      rfl
  | cons first rest ih =>
      obtain ⟨raw, value⟩ := first
      rw [checkTenantValues] at h
      rw [Named.redacted_cons, checkTenantValues, meansTenant_redacted]
      split at h
      · rename_i hmeans
        rw [if_pos hmeans]
        split at h
        · rename_i hnull
          rw [Live.redacted_of_isNull hnull]
          exact ih h
        · rename_i hnull
          rw [Live.redacted_of_not_isNull hnull]
          split at h
          · obtain ⟨others, hothers, rfl⟩ := map_eq_ok.mp h
            rw [Named.redacted_cons, Live.redacted_of_not_isNull hnull]
            exact congrArg (Except.map _) (ih hothers)
          · cases h
      · rename_i hother
        obtain ⟨others, hothers, rfl⟩ := map_eq_ok.mp h
        rw [if_neg hother]
        exact congrArg (Except.map _) (ih hothers)

theorem scopeValues_redacted {given values : Named Live} {inject : Bool}
    (h : k.scopeValues t given scope inject = .ok values) :
    k.redacted.scopeValues t (Named.redacted given) redactedScope inject =
      .ok (Named.redacted values) := by
  by_cases htenant : k.catalog.isTenantTable t = true
  · rw [scopeValues, if_pos htenant] at h
    obtain ⟨tenant, -, h⟩ := bind_eq_ok.mp h
    obtain ⟨checked, hchecked, h⟩ := bind_eq_ok.mp h
    refine (if_pos htenant).trans (bind_eq_ok.mpr ⟨redaction, rfl, ?_⟩)
    refine bind_eq_ok.mpr ⟨Named.redacted checked, checkTenantValues_redacted hchecked, ?_⟩
    have named : (Named.redacted checked).any (fun f => k.meansTenant t f.1) =
        checked.any fun f => k.meansTenant t f.1 := List.any_map
    simp only [meansTenant_redacted, named]
    split at h
    · rename_i hthere
      obtain rfl := pure_eq_ok.mp h
      exact if_pos hthere
    · rename_i hmissing
      obtain rfl := pure_eq_ok.mp h
      rw [if_neg hmissing, Named.redacted_overlay]
      rfl
  · obtain rfl := eq_of_scopeValues htenant h
    exact if_neg htenant

/-! ## Redacted commands -/

theorem compareCondition_redacted {column : Identifier} {op : Operator} {comparison : Comparison}
    {operand : Option Json} {c : Condition}
    (h : k.compareCondition t column op comparison operand = .ok c) :
    ∃ c', k.redacted.compareCondition t column op comparison (operand.map Json.redacted) = .ok c' ∧
      c'.blank = c.blank := by
  cases operand with
  | none => cases h
  | some operand =>
      cases operand with
      | list items => cases h
      | null => exact ⟨c, h, rfl⟩
      | bool | int | float | text | object =>
          cases comparison <;> cases h <;> exact ⟨_, rfl, by simp only [Condition.blank]⟩

theorem membershipCondition_redacted {column : Identifier} {operand : Option Json} {c : Condition}
    (h : k.membershipCondition t column operand = .ok c) :
    ∃ c', k.redacted.membershipCondition t column (operand.map Json.redacted) = .ok c' ∧
      c'.blank = c.blank := by
  unfold membershipCondition at h
  split at h
  · exact ⟨c, h, rfl⟩
  · cases h
    exact ⟨_, rfl, by simp [Condition.blank, Function.comp_def]⟩
  · cases h

theorem condition_redacted {f : Filter} {c : Condition} (h : k.condition t f = .ok c) :
    ∃ c', k.redacted.condition t f.redacted = .ok c' ∧ c'.blank = c.blank := by
  obtain ⟨column, hcolumn, h⟩ := bind_eq_ok.mp h
  obtain ⟨raw, op, operand⟩ := f
  cases op with
  | isNull | notNull => exact ⟨c, bind_eq_ok.mpr ⟨column, hcolumn, h⟩, rfl⟩
  | isIn =>
      obtain ⟨c', hc', hblank⟩ := membershipCondition_redacted h
      exact ⟨c', bind_eq_ok.mpr ⟨column, hcolumn, hc'⟩, hblank⟩
  | eq | neq | gt | gte | lt | lte | like | ilike =>
      obtain ⟨c', hc', hblank⟩ := compareCondition_redacted h
      exact ⟨c', bind_eq_ok.mpr ⟨column, hcolumn, hc'⟩, hblank⟩

theorem conditions_redacted {filters : List Filter} {conditions : List Condition}
    (h : k.conditions t filters = .ok conditions) :
    ∃ blanks, k.redacted.conditions t (filters.map Filter.redacted) = .ok blanks ∧
      blanks.map Condition.blank = conditions.map Condition.blank :=
  exists_mapM_map (fun _ _ hf => condition_redacted hf) h

theorem assignments_redacted {usage : Usage} {values : Named Live}
    {assigned : List (Identifier × Value)} (h : values.mapM (k.assignment t usage) = .ok assigned) :
    ∃ blanks, (Named.redacted values).mapM (k.redacted.assignment t usage) = .ok blanks ∧
      Statement.blankAssignments blanks = Statement.blankAssignments assigned := by
  refine exists_mapM_map (fun f a hf => ?_) h
  obtain ⟨column, hcolumn, hf⟩ := bind_eq_ok.mp hf
  obtain ⟨_, -, hf⟩ := bind_eq_ok.mp hf
  obtain rfl := pure_eq_ok.mp hf
  have bindable : k.redacted.isUnbindable t column.name f.2.redacted = false :=
    isUnbindable_of_not_refers column.name f.2.refers_redacted
  exact ⟨_, bind_eq_ok.mpr ⟨column, hcolumn, bind_eq_ok.mpr
    ⟨(), by rw [bindable]; rfl, rfl⟩⟩, rfl⟩

/-- What a command compiles to is, but for the values, what it compiles to in redacted form. -/
theorem compiles_redacted {c : Command} {s : Statement} (h : k.Compiles scope c t s) :
    ∃ s', k.redacted.Compiles redactedScope c.redacted t s' ∧ s'.blank = s.blank := by
  cases h with
  | select htable hselected hnames htableName hfilters hconditions horder =>
      obtain ⟨blanks, hblanks, hsame⟩ := conditions_redacted hconditions
      refine ⟨_, .select htable hselected hnames htableName (scopeFilters_redacted hfilters) hblanks
        horder, ?_⟩
      rw [Statement.blank, hsame]
      rfl
  | insert haction htable htableName hvalues hne hassigned hreturned =>
      obtain ⟨written, hwritten, hsame⟩ := assignments_redacted hassigned
      refine ⟨_, .insert haction htable htableName (Mutation.values_redacted _ ▸
        scopeValues_redacted hvalues) (mt List.map_eq_nil_iff.mp hne) hwritten hreturned, ?_⟩
      rw [Statement.blank, hsame]
      rfl
  | update haction htable htableName hvalues hne hguard hfilters hassigned hconditions hreturned =>
      obtain ⟨written, hwritten, hsame⟩ := assignments_redacted hassigned
      obtain ⟨blanks, hblanks, hsame'⟩ := conditions_redacted hconditions
      refine ⟨_, .update haction htable htableName (Mutation.values_redacted _ ▸
        scopeValues_redacted hvalues) (mt List.map_eq_nil_iff.mp hne)
        (mt List.map_eq_nil_iff.mp hguard) (scopeFilters_redacted hfilters) hwritten hblanks
        hreturned, ?_⟩
      rw [Statement.blank, hsame, hsame']
      rfl
  | delete haction htable htableName hguard hfilters hconditions hreturned =>
      obtain ⟨blanks, hblanks, hsame⟩ := conditions_redacted hconditions
      refine ⟨_, .delete haction htable htableName (mt List.map_eq_nil_iff.mp hguard)
        (scopeFilters_redacted hfilters) hblanks hreturned, ?_⟩
      rw [Statement.blank, hsame]
      rfl

/- Redacted trees compile as the trees do, by recursion on the command. -/
mutual

/-- A command that compiles does so in redacted form, to the same statements but for their
values. -/
theorem compile_redacted : ∀ (c : Command) {plan : Plan}, k.compile scope c = .ok plan →
    ∃ blanks, k.redacted.compile redactedScope c.redacted = .ok blanks ∧
      blanks.leaves.map Statement.blank = plan.leaves.map Statement.blank
  | .query q, plan, h => by
      obtain ⟨s, hq, rfl⟩ := map_eq_ok.mp h
      obtain ⟨t, hcompiles⟩ := compiles_of_compileQuery hq
      obtain ⟨s', hs', hblank⟩ := compiles_redacted hcompiles
      exact ⟨.leaf s', compile_of_compiles hs', congrArg (fun s => [s]) hblank⟩
  | .mutate m, plan, h => by
      obtain ⟨s, hm, rfl⟩ := map_eq_ok.mp h
      obtain ⟨t, hcompiles⟩ := compiles_of_compileMutation hm
      obtain ⟨s', hs', hblank⟩ := compiles_redacted hcompiles
      exact ⟨.leaf s', compile_of_compiles hs', congrArg (fun s => [s]) hblank⟩
  | .batch steps, plan, h => by
      obtain ⟨plans, hsteps, rfl⟩ := map_eq_ok.mp h
      obtain ⟨blanks, hblanks, hsame⟩ := compileSteps_redacted steps hsteps
      exact ⟨.batch blanks, map_eq_ok.mpr ⟨blanks, hblanks, rfl⟩, hsame⟩
  | .other kind, plan, h => by cases h

theorem compileSteps_redacted : ∀ (steps : List Command) {plans : List Plan},
    k.compileSteps scope steps = .ok plans →
      ∃ blanks, k.redacted.compileSteps redactedScope (Command.redactedSteps steps) = .ok blanks ∧
        (Plan.leavesOf blanks).map Statement.blank = (Plan.leavesOf plans).map Statement.blank
  | [], plans, h => by
      cases h
      exact ⟨[], rfl, rfl⟩
  | step :: rest, plans, h => by
      obtain ⟨plan, hplan, h⟩ := bind_eq_ok.mp h
      obtain ⟨others, hothers, h⟩ := bind_eq_ok.mp h
      obtain rfl := pure_eq_ok.mp h
      obtain ⟨blank, hblank, hfirst⟩ := compile_redacted step hplan
      obtain ⟨blanks, hblanks, hrest⟩ := compileSteps_redacted rest hothers
      refine ⟨blank :: blanks, bind_eq_ok.mpr ⟨blank, hblank, bind_eq_ok.mpr ⟨blanks, hblanks, rfl⟩⟩,
        ?_⟩
      rw [Plan.leavesOf, Plan.leavesOf, List.map_append, List.map_append, hfirst, hrest]

end

/-- Values never reach the text. Let two commands be the same but for their values, which agree in
being absent or null, and in the number of elements of every array of operands. If both compile,
each on behalf of a tenant of its own and with variables of its own, then their statements have the
same texts in the same order, and as many parameters each. -/
theorem texts_independent_of_values (k : Compiler) (vars : Bag) {scope scope' : Scope}
    {c c' : Command} (hshape : c.redacted = c'.redacted) {plan plan' : Plan}
    (h : k.compile scope c = .ok plan)
    (h' : Compiler.compile { k with vars := vars } scope' c' = .ok plan') :
    List.Forall₂ (fun s s' => s.sql = s'.sql ∧ s.params.length = s'.params.length)
      plan.leaves plan'.leaves := by
  obtain ⟨blanks, hblanks, hsame⟩ := compile_redacted c h
  obtain ⟨blanks', hblanks', hsame'⟩ := compile_redacted c' h'
  have both : k.redacted.compile redactedScope c'.redacted = .ok blanks' := hblanks'
  obtain rfl : blanks = blanks' := Except.ok.inj (by rw [← hblanks, hshape, both])
  have same : plan.leaves.map Statement.blank = plan'.leaves.map Statement.blank :=
    hsame.symm.trans hsame'
  rw [← List.forall₂_eq_eq_eq, List.forall₂_map_left_iff, List.forall₂_map_right_iff] at same
  exact same.imp fun s s' hblank => Statement.text_of_blank hblank

/-- On behalf of another business. -/
def otherScope : Scope :=
  { bizId := some "globex", locationId := none, actorUserId := none }

/-- A batch of the shape of `demoBatch` with other values. -/
def otherBatch : Command :=
  .batch
    [.query
      { table := "Locations", select := none, filters := [], sort := [⟨"createdAt", .desc⟩]
        limit := none, offset := some 3 },
     .batch
      [.mutate
        { action := .insert, table := "booking order"
          values := some [("Biz ID", .plain .null), ("status", .plain (.text "1; DROP TABLE --"))]
          filters := [], returning := some ["ID"] },
       .mutate
        { action := .update, table := "Booking Orders"
          values := some [("bizId", .plain (.text "globex")), ("status", .plain (.bool true))]
          filters := [⟨"party size", .isIn, some (.list [.text "7", .null])⟩,
            ⟨"Biz-ID", .eq, some (.text "globex")⟩]
          returning := none },
       .mutate
        { action := .delete, table := "payments", values := none
          filters := [⟨"currency", .isNull, none⟩], returning := none }]]

theorem texts_of_otherBatch :
    ∃ plan plan', demoBatch.redacted = otherBatch.redacted ∧
      demo.compile demoScope demoBatch = .ok plan ∧
      demo.compile otherScope otherBatch = .ok plan' ∧
      List.Forall₂ (fun s s' => s.sql = s'.sql ∧ s.params.length = s'.params.length)
        plan.leaves plan'.leaves := by
  obtain ⟨plan, hplan, -⟩ := leaves_of_demoBatch
  obtain ⟨plan', hplan', -⟩ : ∃ plan', demo.compile otherScope otherBatch = .ok plan' ∧
      (plan'.leaves.map fun s => (s.action?, s.table.name)) = demoLeaves :=
    toOption_map_eq_some.mp (by decide +kernel)
  have hshape : demoBatch.redacted = otherBatch.redacted := rfl
  exact ⟨plan, plan', hshape, hplan, hplan',
    texts_independent_of_values demo [] hshape hplan hplan'⟩

end Compiler

end Tenancy
