/-
# Conditions mean the filters

A filter says which values a column may have, and the condition that is written for it says the
same of every row. The meaning of a filter is given here operator by operator, without looking at
the condition: comparisons are with the operand as the type of the column asks, patterns are
taken as they are, null is asked for by name or by equality with null, and a membership asks for
equality with one of the elements. Since conditions are joined by conjunction, the condition part
of a text is true of a row exactly when every filter is.
-/

import Tenancy.Proofs.Statement.Scoping
import Tenancy.Proofs.Statement.Truth

namespace Tenancy

section

variable (holds : Comparison → Value → Value → Bool) (row : String → Value)

/-- What an operator with an operand asks of the value in a column. Operands that are compared are
converted for the column by `bound`; patterns are not. -/
def Operator.Asks (bound : Json → Value) (cell : Value) : Operator → Option Json → Prop
  | .isNull, _ | .eq, some .null => cell.isNull = true
  | .notNull, _ | .neq, some .null => cell.isNull = false
  | .isIn, some (.list elements) => ∃ v ∈ elements, Compares holds .eq cell (bound v)
  | .eq, some v => Compares holds .eq cell (bound v)
  | .neq, some v => Compares holds .ne cell (bound v)
  | .gt, some v => Compares holds .gt cell (bound v)
  | .gte, some v => Compares holds .ge cell (bound v)
  | .lt, some v => Compares holds .lt cell (bound v)
  | .lte, some v => Compares holds .le cell (bound v)
  | .like, some v => Compares holds .like cell (.plain v)
  | .ilike, some v => Compares holds .ilike cell (.plain v)
  | _, _ => False

namespace Compiler

variable {k : Compiler} {t : Table} {scope : Scope}

/-- A filter holds of a row if the column that its name means has a value that the filter asks
for. Operands are converted as the type of that column asks. -/
def Holds (k : Compiler) (t : Table) (f : Filter) : Prop :=
  ∃ name, k.catalog.resolveColumn? t.name f.column = some name ∧
    f.op.Asks holds
      (fun v =>
        match t.column? name with
        | some column => Value.bind k.vars column.sqlType (.plain v)
        | none => .plain v)
      (row name) f.operand

theorem truth_compareCondition_iff {column : Identifier} {op : Operator} {comparison : Comparison}
    {operand : Option Json} {c : Condition} (hop : Compiler.comparison? op = some comparison)
    (h : k.compareCondition t column op comparison operand = .ok c) :
    c.truth holds row = .yes ↔
      op.Asks holds (fun v => k.bindTo t column.name (.plain v)) (row column.name) operand := by
  unfold compareCondition at h
  split at h
  · cases h
  · cases h
  · cases op <;> cases hop <;> cases h <;> simp [Condition.truth, Operator.Asks]
  · cases op <;> cases hop <;> cases h <;>
      simp [Condition.truth, Operator.Asks, compareTruth_eq_yes]

theorem truth_membershipCondition_iff {column : Identifier} {operand : Option Json}
    {c : Condition} (h : k.membershipCondition t column operand = .ok c) :
    c.truth holds row = .yes ↔
      Operator.Asks holds (fun v => k.bindTo t column.name (.plain v)) (row column.name)
        .isIn operand := by
  unfold membershipCondition at h
  split at h
  · cases h
    simp [Condition.truth, Operator.Asks]
  · rename_i first rest
    cases h
    have bound : (k.bindTo t column.name (.plain first) ::
        rest.map fun j => k.bindTo t column.name (.plain j)) =
          (first :: rest).map fun j => k.bindTo t column.name (.plain j) := rfl
    rw [Condition.truth, bound, Truth.any_eq_yes, Operator.Asks]
    simp only [List.mem_map, exists_exists_and_eq_and, compareTruth_eq_yes]
  · cases h

/-- The condition of a filter is true of a row exactly when the filter holds of it. -/
theorem truth_condition_iff {f : Filter} {c : Condition} (h : k.condition t f = .ok c) :
    c.truth holds row = .yes ↔ Holds holds row k t f := by
  obtain ⟨raw, op, operand⟩ := f
  obtain ⟨column, hcolumn, h⟩ := bind_eq_ok.mp h
  have resolved := resolveColumn?_of_columnIdentifier hcolumn
  have only (asks : String → Prop) :
      (∃ name, k.catalog.resolveColumn? t.name raw = some name ∧ asks name) ↔
        asks column.name := by
    simp [resolved]
  rw [Holds, only]
  cases op with
  | isNull | notNull =>
      obtain rfl := pure_eq_ok.mp h
      simp [Condition.truth, Operator.Asks]
  | isIn => exact truth_membershipCondition_iff holds row h
  | eq | neq | gt | gte | lt | lte | like | ilike =>
      exact truth_compareCondition_iff holds row rfl h

/-- The conditions of filters are all true of a row exactly when all filters hold of it. -/
theorem all_truth_iff {filters : List Filter} {conditions : List Condition}
    (h : k.conditions t filters = .ok conditions) :
    Truth.all (conditions.map (Condition.truth holds row)) = .yes ↔
      ∀ f ∈ filters, Holds holds row k t f := by
  rw [Truth.all_eq_yes, List.forall_mem_map]
  constructor
  · intro hall f hf
    obtain ⟨c, hc, hcondition⟩ := exists_mem_of_mapM h hf
    exact (truth_condition_iff holds row hcondition).mp (hall c hc)
  · intro hall c hc
    obtain ⟨f, hf, hcondition⟩ := exists_of_mem_mapM h hc
    exact (truth_condition_iff holds row hcondition).mpr (hall f hf)

/-- The text that conditions add to a statement behind the given parameters. -/
def clauseAfter (before : List Value) (conditions : List Condition) : String :=
  Fragment.writeFrom (before.length + 1) (Statement.whereFragments conditions)

/-- The parameters of a statement when conditions have been added behind the given ones. -/
def paramsAfter (before : List Value) (conditions : List Condition) : List Value :=
  before ++ Fragment.values (Statement.whereFragments conditions)

/-- Filters that can be scoped and turned into conditions are written as a text that can be read,
and that is true of a row exactly when every one of the scoped filters holds of it. This does not
depend on the parameters that stand before those of the filters, nor on how values compare. Where
there is no filter there is no text, and every row is meant. -/
theorem clause_true_iff_filters_hold {given : List Filter} {conditions : List Condition}
    (h : (k.scopeFilters t given scope >>= k.conditions t) = .ok conditions)
    (before : List Value) :
    ∃ filters, k.scopeFilters t given scope = .ok filters ∧
      (∃ truth,
        Sql.whereTruth? holds row (paramsAfter before conditions)
          (clauseAfter before conditions) = some truth ∧
        (truth = .yes ↔ ∀ f ∈ filters, Holds holds row k t f)) ∧
      (filters = [] → clauseAfter before conditions = "") := by
  obtain ⟨filters, hfilters, hconditions⟩ := bind_eq_ok.mp h
  have written : clauseAfter before conditions =
      Statement.whereText (before.length + 1) conditions :=
    Statement.writeFrom_whereFragments (before.length + 1) conditions
  refine ⟨filters, hfilters, ⟨_, ?_, all_truth_iff holds row hconditions⟩, ?_⟩
  · rw [written, paramsAfter, Statement.values_whereFragments]
    exact Sql.whereTruth?_whereText holds row before conditions
  · rintro rfl
    obtain rfl : conditions = [] :=
      List.length_eq_zero_iff.mp (length_of_mapM hconditions).symm
    rfl

end Compiler

end

namespace Compiler

/-- Orders of certain sizes that have no start and are not lost. -/
def demoFilters : List Filter :=
  [⟨"partySize", .isIn, some (.list [.int 2, .null])⟩, ⟨"starts at", .eq, some .null⟩,
    ⟨"Status", .neq, some (.text "lost")⟩]

/-- An order without a start. -/
def demoRow (name : String) : Value :=
  if name = "starts_at" then .plain .null else .plain (.text "x")

theorem clause_true_of_demoRow :
    ∃ t conditions, demo.catalog.table? "booking_orders" = some t ∧
      (demo.scopeFilters t demoFilters demoScope >>= demo.conditions t) = .ok conditions ∧
      Sql.whereTruth? (fun _ _ _ => true) demoRow
        (paramsAfter [.plain (.int 1), .plain (.int 2)] conditions)
        (clauseAfter [.plain (.int 1), .plain (.int 2)] conditions) = some .yes := by
  have htable : demo.catalog.table? "booking_orders" = some Catalog.demoTables[1] := rfl
  have compiled : ((demo.scopeFilters Catalog.demoTables[1] demoFilters demoScope >>=
      demo.conditions Catalog.demoTables[1]).toOption.map List.length) = some 4 := by
    decide +kernel
  obtain ⟨conditions, hconditions, -⟩ := toOption_map_eq_some.mp compiled
  obtain ⟨filters, hfilters, ⟨truth, hread, htrue⟩, -⟩ :=
    clause_true_iff_filters_hold (fun _ _ _ => true) demoRow hconditions
      [.plain (.int 1), .plain (.int 2)]
  refine ⟨_, conditions, htable, hconditions, ?_⟩
  rw [hread, htrue.mpr]
  obtain ⟨tenant, hscope, -, -, hscoped⟩ := scopeFilters_cases rfl hfilters
  cases hscope
  have hsub : ∀ f ∈ filters, f = demo.tenantFilter "acme" ∨ f ∈ demoFilters := by
    rcases hscoped with ⟨rfl, -⟩ | ⟨rfl, -⟩
    · exact fun f hf => .inr hf
    · exact fun f hf => List.mem_cons.mp hf
  intro f hf
  rcases hsub f hf with rfl | hf
  · exact ⟨"biz_id", by decide +kernel, rfl, rfl, rfl⟩
  · simp only [demoFilters, List.mem_cons, List.not_mem_nil, or_false] at hf
    rcases hf with rfl | rfl | rfl
    · exact ⟨"party_size", by decide +kernel, .int 2, List.mem_cons_self, rfl, rfl, rfl⟩
    · exact ⟨"starts_at", by decide +kernel, rfl⟩
    · exact ⟨"status", by decide +kernel, rfl, rfl, rfl⟩

end Compiler

end Tenancy
