/-
# The names in statements

What stands between double quotes in the text of a statement are the names of its identifiers, in
the order in which they are written. An identifier has passed the gate, so each of these names is in
the language of the gate: a lowercase letter, then lowercase letters, digits and underscores, and
then one line feed or nothing. The line feed is all that the gate lets through besides snake case.
It gets into a text only with a name of the catalog that has one, since every name in a text is the
name of a table of the catalog or of one of the columns of that table.
-/

import Tenancy.Proofs.Statement.Grammar
import Tenancy.Proofs.Statement.Reading

namespace Tenancy

/-! ## The language of the gate -/

namespace Grammar

open Computability

/-- One character of a class. -/
def oneChar (p : Char → Bool) : Language Char :=
  {cs : List Char | ∃ c, p c = true ∧ cs = [c]}

/-- Lowercase snake case: a lowercase letter, then lowercase letters, digits and underscores. -/
def snakeCase : Language Char :=
  oneChar isNameStart * (oneChar isNamePart)∗

/-- What the gate lets through: snake case, and then one line feed or nothing. -/
def gate : Language Char :=
  snakeCase * optional (text "\n")

theorem mem_kstar_oneChar_iff {p : Char → Bool} {cs : List Char} :
    cs ∈ (oneChar p)∗ ↔ ∀ c ∈ cs, p c = true := by
  constructor
  · intro h c hc
    obtain ⟨parts, rfl, hparts⟩ := Language.mem_kstar.mp h
    obtain ⟨part, hpart, hc⟩ := List.mem_flatten.mp hc
    obtain ⟨d, hd, rfl⟩ := hparts part hpart
    rwa [List.mem_singleton.mp hc]
  · intro h
    refine Language.mem_kstar.mpr ⟨cs.map fun c => [c], ?_, ?_⟩
    · rw [← List.flatMap_def, List.flatMap_singleton']
    · intro part hpart
      obtain ⟨c, hc, rfl⟩ := List.mem_map.mp hpart
      exact ⟨c, h c hc, rfl⟩

theorem mem_snakeCase_iff {cs : List Char} : cs ∈ snakeCase ↔ isSnakeCase cs = true := by
  rw [snakeCase, Language.mem_mul]
  constructor
  · rintro ⟨_, ⟨c, hc, rfl⟩, rest, hrest, rfl⟩
    rw [List.singleton_append, isSnakeCase, hc, Bool.true_and, List.all_eq_true]
    exact mem_kstar_oneChar_iff.mp hrest
  · cases cs with
    | nil => exact fun h => absurd h (by decide)
    | cons c rest =>
        intro h
        rw [isSnakeCase, Bool.and_eq_true, List.all_eq_true] at h
        exact ⟨[c], ⟨c, h.1, rfl⟩, rest, mem_kstar_oneChar_iff.mpr h.2, rfl⟩

/-- There is no line feed in snake case. -/
theorem lineFeed_not_mem {cs : List Char} (h : isSnakeCase cs = true) : '\n' ∉ cs :=
  fun hmem => absurd (isNamePart_of_isSnakeCase h '\n' hmem) (by decide)

theorem mem_gate_iff {name : String} : name.toList ∈ gate ↔ admits name = true := by
  rw [gate, Language.mem_mul, admits]
  constructor
  · rintro ⟨cs, hcs, ending, hending, heq⟩
    have snake := mem_snakeCase_iff.mp hcs
    rw [← heq, dropFinalNewline]
    rcases (Language.mem_add _ _ ending).mp hending with rfl | rfl
    · have last : cs.getLast? ≠ some '\n' :=
        fun hlast => lineFeed_not_mem snake (List.mem_of_getLast? hlast)
      rwa [List.append_nil, if_neg last]
    · have last : (cs ++ ['\n']).getLast? = some '\n' := List.getLast?_concat
      rwa [show "\n".toList = ['\n'] from rfl, if_pos last, List.dropLast_concat]
  · intro h
    unfold dropFinalNewline at h
    split at h
    · rename_i hlast
      obtain ⟨front, hfront⟩ := List.getLast?_eq_some_iff.mp hlast
      rw [hfront, List.dropLast_concat] at h
      exact ⟨front, mem_snakeCase_iff.mpr h, ['\n'], mem_optional (mem_text "\n"), hfront.symm⟩
    · exact ⟨_, mem_snakeCase_iff.mpr h, [], empty_mem_optional _, List.append_nil _⟩

/-- What has passed the gate is in snake case unless there is a line feed in it. -/
theorem mem_snakeCase_iff_of_mem_gate {cs : List Char} (h : cs ∈ gate) :
    cs ∈ snakeCase ↔ '\n' ∉ cs := by
  refine ⟨fun hcs => lineFeed_not_mem (mem_snakeCase_iff.mp hcs), fun hnone => ?_⟩
  obtain ⟨front, hfront, ending, hending, rfl⟩ := Language.mem_mul.mp h
  rcases (Language.mem_add _ _ ending).mp hending with rfl | rfl
  · rwa [List.append_nil]
  · exact absurd (List.mem_append_right front (by decide)) hnone

end Grammar

/-! ## The names in a text -/

namespace Sql

/-- The name that a token is, if it is one. -/
def Token.name? : Token → Option String
  | .name text => some text
  | _ => none

/-- What stands between double quotes in a text, in order. -/
def names (sql : String) : List String :=
  (tokens sql).filterMap Token.name?

end Sql

/-- The identifiers of a statement in the order in which they are written. -/
def Statement.identifiers : Statement → List Identifier
  | .select columns table conditions order _ _ =>
      columns ++ table :: (conditions.filterMap Condition.column? ++ order.map Prod.fst)
  | .insert table assignments returning => table :: (assignments.map Prod.fst ++ returning)
  | .update table assignments conditions returning =>
      table :: (assignments.map Prod.fst ++ conditions.filterMap Condition.column? ++ returning)
  | .delete table conditions returning =>
      table :: (conditions.filterMap Condition.column? ++ returning)

namespace Sql

@[simp] theorem filterMap_name?_name (text : String) (ts : List Token) :
    (Token.name text :: ts).filterMap Token.name? = text :: ts.filterMap Token.name? := rfl

@[simp] theorem filterMap_name?_word (text : String) (ts : List Token) :
    (Token.word text :: ts).filterMap Token.name? = ts.filterMap Token.name? := rfl

@[simp] theorem filterMap_name?_mark (c : Char) (ts : List Token) :
    (Token.mark c :: ts).filterMap Token.name? = ts.filterMap Token.name? := rfl

/-- Separators that are no names add none. -/
theorem filterMap_name?_intercalate {separator : Token} (h : separator.name? = none)
    (parts : List (List Token)) : ([separator].intercalate parts).filterMap Token.name? =
      parts.flatMap fun part => part.filterMap Token.name? := by
  induction parts with
  | nil => rfl
  | cons part rest ih =>
      cases rest with
      | nil => simp
      | cons second rest =>
          rw [List.intercalate_cons_cons, List.filterMap_append, List.filterMap_append, ih]
          simp [h]

@[simp] theorem filterMap_name?_nameTokens (ids : List Identifier) :
    (nameTokens ids).filterMap Token.name? = ids.map Identifier.name := by
  rw [nameTokens, filterMap_name?_intercalate rfl, List.flatMap_map, List.map_eq_flatMap]
  rfl

@[simp] theorem filterMap_name?_placeTokens {α : Type} (next : Nat) (items : List α) :
    (placeTokens next items).filterMap Token.name? = [] := by
  rw [placeTokens, filterMap_name?_intercalate rfl, List.flatMap_map, List.flatMap_eq_nil_iff]
  exact fun _ _ => rfl

theorem filterMap_name?_conditionTokens (number : Nat) (c : Condition) :
    (conditionTokens number c).filterMap Token.name? = c.column?.toList.map Identifier.name := by
  cases c with
  | isIn column first rest =>
      simp [conditionTokens, Condition.column?]
  | _ => rfl

/-- The numbers of the places have no part in the names. -/
theorem flatMap_name?_numberFrom {α : Type} {size : α → Nat} {part : Nat → α → List Token}
    {found : α → List String}
    (h : ∀ number item, (part number item).filterMap Token.name? = found item) (next : Nat)
    (items : List α) :
    ((numberFrom size next items).flatMap fun p => (part p.1 p.2).filterMap Token.name?) =
      items.flatMap found := by
  simp only [h]
  rw [← List.flatMap_map (f := Prod.snd), map_snd_numberFrom]

@[simp] theorem filterMap_name?_whereTokens (next : Nat) (conditions : List Condition) :
    (whereTokens next conditions).filterMap Token.name? =
      (conditions.filterMap Condition.column?).map Identifier.name := by
  unfold whereTokens
  split
  · rename_i hnone
    rw [List.isEmpty_iff.mp hnone]
    rfl
  · rw [filterMap_name?_word, filterMap_name?_intercalate rfl, conjunctTokens, List.flatMap_map,
      Statement.numbered, flatMap_name?_numberFrom filterMap_name?_conditionTokens,
      ← List.map_flatMap, List.filterMap_eq_flatMap_toList]

@[simp] theorem filterMap_name?_setTokens (assigned : List (Identifier × Value)) :
    ([Token.comma].intercalate (setTokens assigned)).filterMap Token.name? =
      (assigned.map Prod.fst).map Identifier.name := by
  have part (number : Nat) (a : Identifier × Value) :
      (assignmentTokens number a.1).filterMap Token.name? = [a.1.name] := rfl
  rw [filterMap_name?_intercalate rfl, setTokens, List.flatMap_map, flatMap_name?_numberFrom part,
    List.map_map, List.map_eq_flatMap]
  rfl

@[simp] theorem filterMap_name?_orderTokens (order : List (Identifier × Direction)) :
    (orderTokens order).filterMap Token.name? = (order.map Prod.fst).map Identifier.name := by
  unfold orderTokens
  split
  · rename_i hnone
    rw [List.isEmpty_iff.mp hnone]
    rfl
  · rw [List.filterMap_append, filterMap_name?_intercalate rfl, List.flatMap_map, List.map_map,
      List.map_eq_flatMap]
    rfl

@[simp] theorem filterMap_name?_offsetTokens (offset : Option Int) :
    (offsetTokens offset).filterMap Token.name? = [] := by
  cases offset <;> rfl

@[simp] theorem filterMap_name?_returningTokens (ids : List Identifier) :
    (returningTokens ids).filterMap Token.name? = ids.map Identifier.name := by
  unfold returningTokens
  split
  · rename_i hnone
    rw [List.isEmpty_iff.mp hnone]
    rfl
  · simp

/-- The names in the text of a statement are those of its identifiers. -/
theorem names_sql (s : Statement) : names s.sql = s.identifiers.map Identifier.name := by
  rw [names, tokens_sql]
  cases s <;> simp [statementTokens, Statement.identifiers]

end Sql

/-! ## The names in what is compiled -/

namespace Statement

variable {t : Table}

theorem name_of_mem_conditions {conditions : List Condition} {i : Identifier}
    (h : Grammar.AllOnColumns t conditions) (hi : i ∈ conditions.filterMap Condition.column?) :
    i.name ∈ t.columnNames := by
  obtain ⟨c, hc, hcolumn⟩ := List.mem_filterMap.mp hi
  exact h c hc i hcolumn

/-- The identifiers of a statement on a table are the table and columns of the table. -/
theorem name_of_mem_identifiers {s : Statement} (h : Grammar.IsOn t s) {i : Identifier}
    (hi : i ∈ s.identifiers) : i.name = t.name ∨ i.name ∈ t.columnNames := by
  cases h with
  | select htable hnames _ hconditions horder =>
      simp only [identifiers, List.mem_append, List.mem_cons] at hi
      rcases hi with hi | rfl | hi | hi
      · exact .inr (hnames i hi)
      · exact .inl htable
      · exact .inr (name_of_mem_conditions hconditions hi)
      · exact .inr (horder i hi)
  | insert htable _ hassigned hreturned =>
      simp only [identifiers, List.mem_append, List.mem_cons] at hi
      rcases hi with rfl | hi | hi
      · exact .inl htable
      · exact .inr (hassigned i hi)
      · exact .inr (hreturned i hi)
  | update htable _ hassigned _ hconditions hreturned =>
      simp only [identifiers, List.mem_append, List.mem_cons] at hi
      rcases hi with rfl | (hi | hi) | hi
      · exact .inl htable
      · exact .inr (hassigned i hi)
      · exact .inr (name_of_mem_conditions hconditions hi)
      · exact .inr (hreturned i hi)
  | delete htable _ hconditions hreturned =>
      simp only [identifiers, List.mem_append, List.mem_cons] at hi
      rcases hi with rfl | hi | hi
      · exact .inl htable
      · exact .inr (name_of_mem_conditions hconditions hi)
      · exact .inr (hreturned i hi)

theorem table_mem_identifiers (s : Statement) : s.table ∈ s.identifiers := by
  cases s <;> simp [identifiers, table]

end Statement

namespace Compiler

variable {k : Compiler} {scope : Scope}

/-- Every name in double quotes in a statement of a plan is that of the table, which is among
them, or of one of its columns. It has passed the gate, so it is in snake case unless there is
a line feed in it. -/
theorem quoted_names_pass_gate {c : Command} {plan : Plan} (h : k.compile scope c = .ok plan)
    {s : Statement} (hs : s ∈ plan.leaves) :
    ∃ t, k.catalog.table? s.table.name = some t ∧ t.name ∈ Sql.names s.sql ∧
      ∀ name ∈ Sql.names s.sql, (name = t.name ∨ name ∈ t.columnNames) ∧
        name.toList ∈ Grammar.gate ∧
        (name.toList ∈ Grammar.snakeCase ↔ '\n' ∉ name.toList) := by
  obtain ⟨leaf, t, hleaf⟩ := compiles_of_mem_leaves c h s hs
  obtain ⟨htable, hname⟩ := table?_of_compiles hleaf
  refine ⟨t, hname ▸ htable, ?_, ?_⟩
  · rw [Sql.names_sql, ← hname]
    exact List.mem_map_of_mem s.table_mem_identifiers
  · intro name hmem
    rw [Sql.names_sql] at hmem
    obtain ⟨i, hi, rfl⟩ := List.mem_map.mp hmem
    have hgate := Grammar.mem_gate_iff.mpr i.admitted
    exact ⟨Statement.name_of_mem_identifiers (isOn_of_compiles hleaf) hi, hgate,
      Grammar.mem_snakeCase_iff_of_mem_gate hgate⟩

theorem names_of_demoBatch_snakeCase :
    ∃ plan s, demo.compile demoScope demoBatch = .ok plan ∧ s ∈ plan.leaves ∧
      s.action? = some .update ∧ ∀ name ∈ Sql.names s.sql, name.toList ∈ Grammar.snakeCase := by
  obtain ⟨plan, hplan, hleaves⟩ := compile_demoBatch
  obtain ⟨s, hs, haction, hname⟩ := hleaves (some .update, "booking_orders") (by decide)
  obtain ⟨t, htable, -, hnames⟩ := quoted_names_pass_gate hplan hs
  rw [hname] at htable
  cases htable
  refine ⟨plan, s, hplan, hs, haction, ?_⟩
  intro name hmem
  obtain ⟨hof, -, hiff⟩ := hnames name hmem
  refine hiff.mpr ?_
  rcases hof with rfl | hcolumn
  · decide +kernel
  · exact (by decide +kernel : ∀ name ∈ _, '\n' ∉ name.toList) name hcolumn

/-- Notes with a column whose name ends with a line feed. -/
def ofNotes : Compiler :=
  ofCatalog (Catalog.build
    [⟨"notes", [Catalog.key "id" "VARCHAR", Catalog.nullable "body\n" "VARCHAR"]⟩] "biz_id") none

/-- Read the notes. -/
def notesQuery : Query :=
  { table := "notes", select := none, filters := [], sort := [], limit := none, offset := none }

theorem lineFeed_passes_gate :
    ∃ plan s name, ofNotes.compile demoScope (.query notesQuery) = .ok plan ∧ s ∈ plan.leaves ∧
      name ∈ Sql.names s.sql ∧ name.toList ∉ Grammar.snakeCase := by
  obtain ⟨plan, hplan, hsql⟩ : ∃ plan,
      ofNotes.compile demoScope (.query notesQuery) = .ok plan ∧
        plan.leaves.map Statement.sql = ["SELECT \"id\", \"body\n\" FROM \"notes\" LIMIT 100"] :=
    toOption_map_eq_some.mp (by decide +kernel)
  obtain ⟨s, hs, hsame⟩ := List.mem_map.mp (hsql ▸ List.mem_singleton_self _)
  refine ⟨plan, s, "body\n", hplan, hs, ?_, ?_⟩
  · rw [hsame]
    decide +kernel
  · rw [Grammar.mem_snakeCase_iff]
    decide

end Compiler

end Tenancy
