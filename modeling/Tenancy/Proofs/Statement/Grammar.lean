/-
# The language of statements

The text of a statement belongs to a language that is fixed once the table is: its words are
those of the grammar below, its names are the name of the table and the names of the columns of
the table, each in double quotes and without a double quote inside, and everything else is a
decimal numeral. Whatever a caller wrote for a table, for a column or for a value has no other
way into the text.

The grammar is built from languages over characters. A production that may be missing is a sum
with the empty text, and a list is one element followed by any number of separated ones.
-/

import Tenancy.Proofs.Statement.Scoping
import Tenancy.Proofs.Statement.Written
import Mathlib.Computability.Language

namespace Tenancy

namespace Grammar

open Computability

/-! ## Productions -/

/-- A fixed text. -/
def text (s : String) : Language Char :=
  ({s.toList} : Set (List Char))

/-- Decimal digits, at least one. -/
def digits : Language Char :=
  {cs : List Char | cs ≠ [] ∧ ∀ c ∈ cs, c.isDigit = true}

/-- A decimal integer. -/
def integer : Language Char :=
  digits + text "-" * digits

/-- The place of a parameter. -/
def place : Language Char :=
  text "$" * digits

/-- One of several names in double quotes, without a double quote inside. -/
def quoted (names : List String) : Language Char :=
  {cs : List Char | ∃ name ∈ names, '"' ∉ name.toList ∧ cs = ['"'] ++ name.toList ++ ['"']}

/-- Something that may be missing. -/
def optional (l : Language Char) : Language Char :=
  1 + l

/-- One or more elements with a text between neighbours. -/
def listOf (separator : String) (l : Language Char) : Language Char :=
  l * (text separator * l)∗

/-- One of several fixed texts. -/
def oneOf (words : List String) : Language Char :=
  {cs : List Char | ∃ s ∈ words, cs = s.toList}

/-- A comparison with one value. -/
def comparison : Language Char :=
  oneOf ["=", "!=", ">", ">=", "<", "<=", "LIKE", "ILIKE"]

section

variable (t : Table)

/-- The name of the table. -/
def tableName : Language Char :=
  quoted [t.name]

/-- The name of a column. -/
def column : Language Char :=
  quoted t.columnNames

/-- Names of columns. -/
def columns : Language Char :=
  listOf ", " (column t)

/-- The columns a query reads: none only where the table has none. -/
def selected : Language Char :=
  if t.columns = [] then 1 else columns t

/-- One condition. -/
def condition : Language Char :=
  column t * text " " * comparison * text " " * place +
    column t * text " IN (" * listOf ", " place * text ")" +
    column t * text " IS NULL" + column t * text " IS NOT NULL" + text "1 = 0"

/-- Conditions, of which there is at least one. -/
def conditions : Language Char :=
  text " WHERE " * listOf " AND " (condition t)

/-- One assignment. -/
def assignment : Language Char :=
  column t * text " = " * place

/-- The ordering of one column. -/
def ordering : Language Char :=
  column t * text " " * oneOf ["ASC", "DESC"]

/-- The columns that are read back. -/
def returning : Language Char :=
  optional (text " RETURNING " * columns t)

/-- Queries. -/
def select : Language Char :=
  text "SELECT " * selected t * text " FROM " * tableName t * optional (conditions t) *
    optional (text " ORDER BY " * listOf ", " (ordering t)) * text " LIMIT " * integer *
    optional (text " OFFSET " * integer)

/-- Inserts. -/
def insert : Language Char :=
  text "INSERT INTO " * tableName t * text " (" * columns t * text ") VALUES (" *
    listOf ", " place * text ")" * returning t

/-- Updates, which are never without a condition. -/
def update : Language Char :=
  text "UPDATE " * tableName t * text " SET " * listOf ", " (assignment t) * conditions t *
    returning t

/-- Deletes, which are never without a condition. -/
def delete : Language Char :=
  text "DELETE FROM " * tableName t * conditions t * returning t

/-- Statements on a table. -/
def statement : Language Char :=
  select t + insert t + update t + delete t

end

/-! ## Membership -/

theorem mem_text (s : String) : s.toList ∈ text s :=
  Set.mem_singleton s.toList

theorem mem_add_left {l m : Language Char} {cs : List Char} (h : cs ∈ l) : cs ∈ l + m :=
  (Language.mem_add l m cs).mpr (.inl h)

theorem mem_add_right {l m : Language Char} {cs : List Char} (h : cs ∈ m) : cs ∈ l + m :=
  (Language.mem_add l m cs).mpr (.inr h)

/-- Two texts, one after the other. -/
theorem mem_append {l m : Language Char} {a b : String} (ha : a.toList ∈ l) (hb : b.toList ∈ m) :
    (a ++ b).toList ∈ l * m := by
  rw [String.toList_append]
  exact Language.append_mem_mul ha hb

theorem empty_mem_optional (l : Language Char) : "".toList ∈ optional l :=
  mem_add_left Language.nil_mem_one

theorem mem_optional {l : Language Char} {cs : List Char} (h : cs ∈ l) : cs ∈ optional l :=
  mem_add_right h

theorem mem_listOf {l : Language Char} {a : String} (separator : String) (h : a.toList ∈ l) :
    a.toList ∈ listOf separator l := by
  rw [listOf, ← List.append_nil a.toList]
  exact Language.append_mem_mul h (Language.nil_mem_kstar _)

/-- One more element in front of a list. -/
theorem cons_mem_listOf {l : Language Char} {a rest separator : String} (ha : a.toList ∈ l)
    (hrest : rest.toList ∈ listOf separator l) :
    (a ++ separator ++ rest).toList ∈ listOf separator l := by
  obtain ⟨first, hfirst, others, hothers, heq⟩ := Language.mem_mul.mp hrest
  obtain ⟨parts, rfl, hparts⟩ := Language.mem_kstar.mp hothers
  have extended : ((separator.toList ++ first) :: parts).flatten ∈ (text separator * l)∗ := by
    apply Language.join_mem_kstar
    intro cs hcs
    rcases List.mem_cons.mp hcs with rfl | hcs
    · exact Language.append_mem_mul (mem_text separator) hfirst
    · exact hparts cs hcs
  have whole := Language.append_mem_mul ha extended
  rw [String.toList_append, String.toList_append, ← heq, listOf]
  simpa [List.append_assoc] using whole

/-- Elements with a text between neighbours form a list, if there is at least one. -/
theorem intercalate_mem_listOf {separator : String} {l : Language Char} {parts : List String}
    (hne : parts ≠ []) (h : ∀ part ∈ parts, part.toList ∈ l) :
    (separator.intercalate parts).toList ∈ listOf separator l := by
  induction parts with
  | nil => exact absurd rfl hne
  | cons first rest ih =>
      have hfirst := h first (by simp)
      cases rest with
      | nil =>
          rw [String.intercalate_singleton]
          exact mem_listOf separator hfirst
      | cons second rest =>
          rw [String.intercalate_cons_cons]
          exact cons_mem_listOf hfirst (ih (by simp) fun part hpart => h part (by simp [hpart]))

/-- The decimal digits of a number. -/
theorem repr_mem_digits (n : Nat) : (Nat.repr n).toList ∈ digits := by
  refine ⟨?_, ?_⟩
  · intro hempty
    exact Nat.repr_ne_empty (String.toList_eq_nil_iff.mp hempty)
  · intro c hc
    rw [Nat.toList_repr] at hc
    exact Nat.isDigit_of_mem_toDigits (by decide) (by decide) hc

theorem toString_mem_integer (n : Int) : (toString n).toList ∈ integer := by
  cases n with
  | ofNat n => exact mem_add_left (repr_mem_digits n)
  | negSucc n => exact mem_add_right (mem_append (mem_text "-") (repr_mem_digits (n + 1)))

theorem placeText_mem_place (number : Nat) : (placeText number).toList ∈ place :=
  mem_append (mem_text "$") (repr_mem_digits number)

/-- Places of numbered items. -/
theorem places_mem_listOf {α : Type} {items : List α} (hne : items ≠ []) (next : Nat) :
    (", ".intercalate ((numberFrom (fun _ => 1) next items).map fun p => placeText p.1)).toList ∈
      listOf ", " place := by
  apply intercalate_mem_listOf
  · cases items with
    | nil => exact absurd rfl hne
    | cons item rest => simp
  · intro part hpart
    obtain ⟨p, -, rfl⟩ := List.mem_map.mp hpart
    exact placeText_mem_place p.1

/-- An identifier is written in double quotes and holds none. -/
theorem quoted_mem_quoted {names : List String} {i : Identifier} (h : i.name ∈ names) :
    i.quoted.toList ∈ quoted names :=
  ⟨i.name, h, i.quote_not_mem, by simp [Identifier.quoted]⟩

theorem symbol_mem_comparison (op : Comparison) : op.symbol.toList ∈ comparison := by
  refine ⟨op.symbol, ?_, rfl⟩
  cases op <;> decide

theorem directionText_mem (d : Direction) :
    (Statement.directionText d).toList ∈ oneOf ["ASC", "DESC"] := by
  refine ⟨Statement.directionText d, ?_, rfl⟩
  cases d <;> decide

/-! ## The parts of a statement -/

section

variable {t : Table}

/-- Whether all identifiers are columns of a table. -/
def AllColumns (t : Table) (names : List Identifier) : Prop :=
  ∀ i ∈ names, i.name ∈ t.columnNames

theorem nameList_mem_columns {names : List Identifier} (h : AllColumns t names)
    (hne : names ≠ []) : (Statement.nameList names).toList ∈ columns t := by
  apply intercalate_mem_listOf
  · simpa using hne
  · intro part hpart
    obtain ⟨i, hi, rfl⟩ := List.mem_map.mp hpart
    exact quoted_mem_quoted (h i hi)

theorem nameList_mem_selected {names : List Identifier} (h : AllColumns t names)
    (hall : names = [] → t.columns = []) : (Statement.nameList names).toList ∈ selected t := by
  unfold selected
  split
  · rename_i hnone
    have : names = [] := by
      apply List.eq_nil_iff_forall_not_mem.mpr
      intro i hi
      have := h i hi
      simp [Table.columnNames, hnone] at this
    subst this
    rfl
  · rename_i hsome
    exact nameList_mem_columns h fun hempty => hsome (hall hempty)

theorem condition_mem_condition (number : Nat) {c : Condition}
    (h : ∀ i, c.column? = some i → i.name ∈ t.columnNames) :
    (c.text number).toList ∈ condition t := by
  cases c with
  | compare i op value =>
      have hi := quoted_mem_quoted (h i rfl)
      rw [Condition.text_compare]
      exact mem_add_left (mem_add_left (mem_add_left (mem_add_left (mem_append (mem_append
        (mem_append (mem_append hi (mem_text " ")) (symbol_mem_comparison op)) (mem_text " "))
        (placeText_mem_place number)))))
  | isIn i first rest =>
      have hi := quoted_mem_quoted (h i rfl)
      have places := places_mem_listOf (List.cons_ne_nil first rest) number
      rw [Condition.text_isIn]
      exact mem_add_left (mem_add_left (mem_add_left (mem_add_right (mem_append
        (mem_append (mem_append hi (mem_text " IN (")) places) (mem_text ")")))))
  | isNull i =>
      have hi := quoted_mem_quoted (h i rfl)
      have written : Condition.text number (.isNull i) = i.quoted ++ " IS NULL" := by
        simp [Condition.text, Condition.fragments, Fragment.writeFrom]
      rw [written]
      exact mem_add_left (mem_add_left (mem_add_right (mem_append hi (mem_text " IS NULL"))))
  | notNull i =>
      have hi := quoted_mem_quoted (h i rfl)
      have written : Condition.text number (.notNull i) = i.quoted ++ " IS NOT NULL" := by
        simp [Condition.text, Condition.fragments, Fragment.writeFrom]
      rw [written]
      exact mem_add_left (mem_add_right (mem_append hi (mem_text " IS NOT NULL")))
  | never => exact mem_add_right (mem_text "1 = 0")

/-- Conditions that are all on columns of a table. -/
def AllOnColumns (t : Table) (conditions : List Condition) : Prop :=
  ∀ c ∈ conditions, ∀ i, c.column? = some i → i.name ∈ t.columnNames

theorem whereText_mem_conditions (next : Nat) {cs : List Condition} (h : AllOnColumns t cs)
    (hne : cs ≠ []) : (Statement.whereText next cs).toList ∈ conditions t := by
  rw [Statement.whereText, if_neg (by simpa using hne)]
  refine mem_append (mem_text " WHERE ") (intercalate_mem_listOf ?_ ?_)
  · cases cs with
    | nil => exact absurd rfl hne
    | cons c rest => simp [Statement.numbered]
  · intro part hpart
    obtain ⟨p, hp, rfl⟩ := List.mem_map.mp hpart
    exact condition_mem_condition p.1 (h p.2 (mem_of_mem_numberFrom _ hp))

theorem whereText_mem_optional (next : Nat) {cs : List Condition} (h : AllOnColumns t cs) :
    (Statement.whereText next cs).toList ∈ optional (conditions t) := by
  by_cases hne : cs = []
  · subst hne
    exact empty_mem_optional _
  · exact mem_optional (whereText_mem_conditions next h hne)

theorem orderText_mem_optional {order : List (Identifier × Direction)}
    (h : AllColumns t (order.map Prod.fst)) : (Statement.orderText order).toList ∈
      optional (text " ORDER BY " * listOf ", " (ordering t)) := by
  by_cases hne : order = []
  · subst hne
    exact empty_mem_optional _
  · rw [Statement.orderText, if_neg (by simpa using hne)]
    refine mem_optional (mem_append (mem_text " ORDER BY ") (intercalate_mem_listOf ?_ ?_))
    · simpa using hne
    · intro part hpart
      obtain ⟨o, ho, rfl⟩ := List.mem_map.mp hpart
      have hcolumn := quoted_mem_quoted (h o.1 (List.mem_map_of_mem ho))
      exact mem_append (mem_append hcolumn (mem_text " ")) (directionText_mem o.2)

theorem offsetText_mem_optional (offset : Option Int) :
    (Statement.offsetText offset).toList ∈ optional (text " OFFSET " * integer) := by
  cases offset with
  | none => exact empty_mem_optional _
  | some n => exact mem_optional (mem_append (mem_text " OFFSET ") (toString_mem_integer n))

theorem returningText_mem_returning {names : List Identifier} (h : AllColumns t names) :
    (Statement.returningText names).toList ∈ returning t := by
  by_cases hne : names = []
  · subst hne
    exact empty_mem_optional _
  · rw [Statement.returningText, if_neg (by simpa using hne)]
    exact mem_optional (mem_append (mem_text " RETURNING ") (nameList_mem_columns h hne))

theorem assignments_mem_listOf {assigned : List (Identifier × Value)}
    (h : AllColumns t (assigned.map Prod.fst)) (hne : assigned ≠ []) :
    (", ".intercalate ((numberFrom (fun _ => 1) 1 assigned).map fun p =>
      p.2.1.quoted ++ " = " ++ placeText p.1)).toList ∈ listOf ", " (assignment t) := by
  apply intercalate_mem_listOf
  · cases assigned with
    | nil => exact absurd rfl hne
    | cons a rest => simp
  · intro part hpart
    obtain ⟨p, hp, rfl⟩ := List.mem_map.mp hpart
    have hcolumn := quoted_mem_quoted
      (h p.2.1 (List.mem_map_of_mem (mem_of_mem_numberFrom _ hp)))
    exact mem_append (mem_append hcolumn (mem_text " = ")) (placeText_mem_place p.1)

theorem quoted_mem_tableName {i : Identifier} (h : i.name = t.name) :
    i.quoted.toList ∈ tableName t :=
  quoted_mem_quoted (by simp [h])

/-! ## Statements -/

/-- A statement that speaks of nothing but one table and its columns, and is never an update or
a delete without a condition. -/
inductive IsOn (t : Table) : Statement → Prop
  | select {names : List Identifier} {table : Identifier} {conditions : List Condition}
      {order : List (Identifier × Direction)} {limit : Int} {offset : Option Int}
      (htable : table.name = t.name) (hnames : AllColumns t names)
      (hall : names = [] → t.columns = []) (hconditions : AllOnColumns t conditions)
      (horder : AllColumns t (order.map Prod.fst)) :
      IsOn t (.select names table conditions order limit offset)
  | insert {table : Identifier} {assigned : List (Identifier × Value)}
      {returned : List Identifier} (htable : table.name = t.name) (hne : assigned ≠ [])
      (hassigned : AllColumns t (assigned.map Prod.fst)) (hreturned : AllColumns t returned) :
      IsOn t (.insert table assigned returned)
  | update {table : Identifier} {assigned : List (Identifier × Value)}
      {conditions : List Condition} {returned : List Identifier} (htable : table.name = t.name)
      (hne : assigned ≠ []) (hassigned : AllColumns t (assigned.map Prod.fst))
      (hguard : conditions ≠ []) (hconditions : AllOnColumns t conditions)
      (hreturned : AllColumns t returned) :
      IsOn t (.update table assigned conditions returned)
  | delete {table : Identifier} {conditions : List Condition} {returned : List Identifier}
      (htable : table.name = t.name) (hguard : conditions ≠ [])
      (hconditions : AllOnColumns t conditions) (hreturned : AllColumns t returned) :
      IsOn t (.delete table conditions returned)

/-- What is written for a statement on a table is in the language of statements on it. -/
theorem sql_mem_statement {s : Statement} (h : IsOn t s) : s.sql.toList ∈ statement t := by
  cases h with
  | @select names table conditions order limit offset htable hnames hall hconditions horder =>
      have names := mem_append (mem_text "SELECT ") (nameList_mem_selected hnames hall)
      have source := mem_append (mem_append names (mem_text " FROM "))
        (quoted_mem_tableName htable)
      have filtered := mem_append source (whereText_mem_optional 1 hconditions)
      have ordered := mem_append filtered (orderText_mem_optional horder)
      have limited := mem_append (mem_append ordered (mem_text " LIMIT "))
        (toString_mem_integer limit)
      have whole := mem_append limited (offsetText_mem_optional offset)
      rw [Statement.sql_select]
      exact mem_add_left (mem_add_left (mem_add_left whole))
  | insert htable hne hassigned hreturned =>
      have target := mem_append (mem_text "INSERT INTO ") (quoted_mem_tableName htable)
      have names := mem_append (mem_append target (mem_text " ("))
        (nameList_mem_columns hassigned (by simpa using hne))
      have values := mem_append (mem_append names (mem_text ") VALUES ("))
        (places_mem_listOf hne 1)
      have whole := mem_append (mem_append values (mem_text ")"))
        (returningText_mem_returning hreturned)
      rw [Statement.sql_insert]
      exact mem_add_left (mem_add_left (mem_add_right whole))
  | @update table assigned conditions returned htable hne hassigned hguard hconditions hreturned =>
      have target := mem_append (mem_text "UPDATE ") (quoted_mem_tableName htable)
      have written := mem_append (mem_append target (mem_text " SET "))
        (assignments_mem_listOf hassigned hne)
      have filtered := mem_append written
        (whereText_mem_conditions (1 + assigned.length) hconditions hguard)
      have whole := mem_append filtered (returningText_mem_returning hreturned)
      rw [Statement.sql_update]
      exact mem_add_left (mem_add_right whole)
  | delete htable hguard hconditions hreturned =>
      have target := mem_append (mem_text "DELETE FROM ") (quoted_mem_tableName htable)
      have filtered := mem_append target (whereText_mem_conditions 1 hconditions hguard)
      have whole := mem_append filtered (returningText_mem_returning hreturned)
      rw [Statement.sql_delete]
      exact mem_add_right whole

end

end Grammar

/-! ## What is compiled -/

namespace Compiler

variable {k : Compiler} {t : Table} {scope : Scope}

theorem mem_columnNames_of_resolveColumn? (htable : k.catalog.table? t.name = some t)
    {raw name : String} (h : k.catalog.resolveColumn? t.name raw = some name) :
    name ∈ t.columnNames := by
  rw [Catalog.resolveColumn?_of_table? htable] at h
  simpa [Table.hasColumn] using Table.hasColumn_of_resolve? h

/-- The columns a list of loose names asks for are columns of the table. -/
theorem mem_columnNames_of_columnsOr (htable : k.catalog.table? t.name = some t)
    {otherwise names : List String} (hotherwise : ∀ name ∈ otherwise, name ∈ t.columnNames)
    {raws : Option (List String)} (h : k.columnsOr t otherwise raws = .ok names) :
    ∀ name ∈ names, name ∈ t.columnNames := by
  unfold columnsOr at h
  split at h
  · cases h
    exact hotherwise
  · cases h
    exact hotherwise
  · intro name hname
    obtain ⟨raw, -, hraw⟩ := exists_of_mem_mapM h hname
    exact mem_columnNames_of_resolveColumn? htable (column_eq_ok.mp hraw)

theorem allColumns_of_ofName {names : List String} {ids : List Identifier}
    (h : names.mapM Identifier.ofName = .ok ids) (hnames : ∀ name ∈ names, name ∈ t.columnNames) :
    Grammar.AllColumns t ids := by
  intro i hi
  obtain ⟨name, hname, hof⟩ := exists_of_mem_mapM h hi
  rw [Identifier.name_of_ofName hof]
  exact hnames name hname

/-- A query reads nothing only from a table without columns. -/
theorem columns_eq_nil_of_columnsOr {raws : Option (List String)}
    (h : k.columnsOr t t.columnNames raws = .ok []) : t.columns = [] := by
  unfold columnsOr at h
  split at h
  · simpa [Table.columnNames] using h
  · simpa [Table.columnNames] using h
  · rename_i given hne
    exact absurd rfl (mapM_ne_nil h (by simpa using hne))

theorem allColumns_of_returning (htable : k.catalog.table? t.name = some t)
    {raws : Option (List String)} {ids : List Identifier} (h : k.returning t raws = .ok ids) :
    Grammar.AllColumns t ids := by
  obtain ⟨names, hnames, hids⟩ := bind_eq_ok.mp h
  refine allColumns_of_ofName hids (mem_columnNames_of_columnsOr htable ?_ hnames)
  intro name hname
  obtain ⟨c, hc, rfl⟩ := List.mem_map.mp hname
  exact List.mem_map_of_mem (List.mem_of_mem_filter hc)

theorem allOnColumns_of_conditions (htable : k.catalog.table? t.name = some t)
    {filters : List Filter} {conditions : List Condition}
    (h : k.conditions t filters = .ok conditions) : Grammar.AllOnColumns t conditions := by
  intro c hc i hi
  obtain ⟨f, -, hf⟩ := exists_of_mem_mapM h hc
  exact mem_columnNames_of_resolveColumn? htable (resolveColumn?_of_condition hf hi)

theorem allColumns_of_ordering (htable : k.catalog.table? t.name = some t)
    {keys : List SortKey} {order : List (Identifier × Direction)}
    (h : keys.mapM (k.ordering t) = .ok order) : Grammar.AllColumns t (order.map Prod.fst) := by
  intro i hi
  obtain ⟨o, ho, rfl⟩ := List.mem_map.mp hi
  obtain ⟨key, -, hkey⟩ := exists_of_mem_mapM h ho
  obtain ⟨column, hcolumn, hpair⟩ := bind_eq_ok.mp hkey
  obtain rfl := pure_eq_ok.mp hpair
  exact mem_columnNames_of_resolveColumn? htable (resolveColumn?_of_columnIdentifier hcolumn)

theorem allColumns_of_assignments (htable : k.catalog.table? t.name = some t) {usage : Usage}
    {values : Named Live} {assigned : List (Identifier × Value)}
    (h : values.mapM (k.assignment t usage) = .ok assigned) :
    Grammar.AllColumns t (assigned.map Prod.fst) := by
  intro i hi
  obtain ⟨a, ha, rfl⟩ := List.mem_map.mp hi
  obtain ⟨f, -, hf⟩ := exists_of_mem_mapM h ha
  exact mem_columnNames_of_resolveColumn? htable (of_assignment hf).1

/-- Filters that are there are still there under a scope. -/
theorem scopeFilters_ne_nil {given filters : List Filter} (hne : given ≠ [])
    (h : k.scopeFilters t given scope = .ok filters) : filters ≠ [] := by
  by_cases htenant : k.catalog.isTenantTable t = true
  · obtain ⟨tenant, -, -, -, ⟨rfl, -⟩ | ⟨rfl, -⟩⟩ := scopeFilters_cases htenant h
    · exact hne
    · exact List.cons_ne_nil _ _
  · rw [scopeFilters, if_neg htenant] at h
    obtain rfl := pure_eq_ok.mp h
    exact hne

/-- A compiled statement speaks of nothing but its table. -/
theorem isOn_of_compiles {c : Command} {s : Statement} (h : k.Compiles scope c t s) :
    Grammar.IsOn t s := by
  cases h with
  | select htable hselected hnames htableName _ hconditions horder =>
      have hfound := table?_of_table htable
      refine .select (Identifier.name_of_ofName htableName)
        (allColumns_of_ofName hnames
          (mem_columnNames_of_columnsOr hfound (fun _ hname => hname) hselected)) ?_
        (allOnColumns_of_conditions hfound hconditions) (allColumns_of_ordering hfound horder)
      rintro rfl
      have hnone := List.length_eq_zero_iff.mp (length_of_mapM hnames)
      exact columns_eq_nil_of_columnsOr (hnone ▸ hselected)
  | insert _ htable htableName _ hne hassigned hreturned =>
      have hfound := table?_of_table htable
      exact .insert (Identifier.name_of_ofName htableName) (mapM_ne_nil hassigned hne)
        (allColumns_of_assignments hfound hassigned) (allColumns_of_returning hfound hreturned)
  | update _ htable htableName _ hne hguard hfilters hassigned hconditions hreturned =>
      have hfound := table?_of_table htable
      exact .update (Identifier.name_of_ofName htableName) (mapM_ne_nil hassigned hne)
        (allColumns_of_assignments hfound hassigned)
        (mapM_ne_nil hconditions (scopeFilters_ne_nil hguard hfilters))
        (allOnColumns_of_conditions hfound hconditions) (allColumns_of_returning hfound hreturned)
  | delete _ htable htableName hguard hfilters hconditions hreturned =>
      have hfound := table?_of_table htable
      exact .delete (Identifier.name_of_ofName htableName)
        (mapM_ne_nil hconditions (scopeFilters_ne_nil hguard hfilters))
        (allOnColumns_of_conditions hfound hconditions) (allColumns_of_returning hfound hreturned)

/-- Every statement of a plan is on a table of the catalog, and its text is in the language of
statements on that table. -/
theorem sql_of_leaf_mem_statement {c : Command} {plan : Plan} (h : k.compile scope c = .ok plan)
    {s : Statement} (hs : s ∈ plan.leaves) :
    ∃ t, k.catalog.table? s.table.name = some t ∧ s.sql.toList ∈ Grammar.statement t := by
  obtain ⟨leaf, t, hleaf⟩ := compiles_of_mem_leaves c h s hs
  obtain ⟨htable, hname⟩ := table?_of_compiles hleaf
  exact ⟨t, hname ▸ htable, Grammar.sql_mem_statement (isOn_of_compiles hleaf)⟩

theorem sql_of_demoBatch_mem_statement :
    ∃ plan s t, demo.compile demoScope demoBatch = .ok plan ∧ s ∈ plan.leaves ∧
      s.action? = some .update ∧ demo.catalog.table? "booking_orders" = some t ∧
      s.sql.toList ∈ Grammar.statement t := by
  obtain ⟨plan, hplan, hleaves⟩ := compile_demoBatch
  obtain ⟨s, hs, haction, hname⟩ := hleaves (some .update, "booking_orders") (by decide)
  obtain ⟨t, htable, hsql⟩ := sql_of_leaf_mem_statement hplan hs
  rw [hname] at htable
  exact ⟨plan, s, t, hplan, hs, haction, htable, hsql⟩

end Compiler

end Tenancy
