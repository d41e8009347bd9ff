/-
# Places and their parameters

A statement is carried out with its text and its parameters, and what holds the two together is
nothing but the order of the places. This module reads the places out of a text, wherever a dollar
sign is, and finds the numbers from one to the number of parameters, each of them once and in
order. It then says what the parameters are: one for each value of the command under its scope,
those that are written before those of the filters, each bound to the column it is for.

The places are read from the tokens of a text, without regard to how the text was put together.
-/

import Tenancy.Proofs.Statement.Reading
import Tenancy.Proofs.Statement.Scoping

namespace Tenancy

namespace Sql

/-- Whether there is a dollar sign in a token. -/
def Token.hasDollar : Token → Bool
  | .name text | .word text => text.toList.contains '$'
  | .mark c => c == '$'

/-- What a text has in the way of places: every token with a dollar sign in it. -/
def places (ts : List Token) : List Token :=
  ts.filter Token.hasDollar

/-- The given number of places, numbered on from `next`. -/
def placesFrom (next count : Nat) : List Token :=
  (List.range' next count).map Token.place

@[simp] theorem places_nil : places [] = [] := rfl

@[simp] theorem places_append (ts us : List Token) : places (ts ++ us) = places ts ++ places us :=
  List.filter_append ts us

theorem places_cons_of_hasDollar {t : Token} (h : t.hasDollar = true) (ts : List Token) :
    places (t :: ts) = t :: places ts :=
  List.filter_cons_of_pos h

theorem places_cons_of_not {t : Token} (h : t.hasDollar = false) (ts : List Token) :
    places (t :: ts) = places ts :=
  List.filter_cons_of_neg (by simp [h])

theorem placesFrom_append (next m n : Nat) :
    placesFrom next m ++ placesFrom (next + m) n = placesFrom next (m + n) := by
  rw [placesFrom, placesFrom, ← List.map_append, List.range'_append_1, placesFrom]

/-! ## Tokens with and without a place -/

theorem hasDollar_place (number : Nat) : (Token.place number).hasDollar = true := by
  simp [Token.place, Token.hasDollar, placeText]

theorem hasDollar_name (i : Identifier) : (Token.name i.name).hasDollar = false := by
  rw [Token.hasDollar, Bool.eq_false_iff, ne_eq, List.contains_iff_mem]
  intro h
  rcases i.isNamePart_of_mem h with part | newline
  · exact absurd part (by decide)
  · exact absurd newline (by decide)

theorem dollar_not_mem_repr (n : Nat) : '$' ∉ (Nat.repr n).toList := by
  intro h
  rw [Nat.toList_repr] at h
  exact absurd (Nat.isDigit_of_mem_toDigits (by decide) (by decide) h) (by decide)

theorem hasDollar_int (n : Int) : (Token.word (toString n)).hasDollar = false := by
  rw [Token.hasDollar, Bool.eq_false_iff, ne_eq, List.contains_iff_mem]
  intro h
  cases n with
  | ofNat n => exact dollar_not_mem_repr n h
  | negSucc n =>
      have h : '$' ∈ ("-" ++ Nat.repr (n + 1)).toList := h
      rw [String.toList_append, List.mem_append] at h
      rcases h with h | h
      · exact absurd h (by decide)
      · exact dollar_not_mem_repr (n + 1) h

theorem hasDollar_symbol (op : Comparison) : (Token.word op.symbol).hasDollar = false := by
  cases op <;> rfl

theorem hasDollar_direction (d : Direction) :
    (Token.word (Statement.directionText d)).hasDollar = false := by
  cases d <;> rfl

/-! ## The places of a statement -/

theorem places_intercalate {separator : Token} (h : separator.hasDollar = false)
    (parts : List (List Token)) : places ([separator].intercalate parts) = parts.flatMap places := by
  induction parts with
  | nil => rfl
  | cons part rest ih =>
      cases rest with
      | nil => simp
      | cons second rest =>
          rw [List.intercalate_cons_cons, places_append, places_append, ih,
            places_cons_of_not h, places_nil, List.append_nil]
          rfl

/-- Parts that have one place for each of their values, each part numbered from its own first place,
have places that are numbered without a gap. -/
theorem flatMap_numberFrom {α β : Type} (values : α → List β) (next : Nat) (items : List α) :
    (numberFrom (fun item => (values item).length) next items).flatMap
        (fun p => placesFrom p.1 (values p.2).length) =
      placesFrom next (items.flatMap values).length := by
  induction items generalizing next with
  | nil => rfl
  | cons item rest ih =>
      rw [numberFrom_cons, List.flatMap_cons, ih, placesFrom_append, List.flatMap_cons,
        List.length_append]

theorem places_nameTokens (names : List Identifier) : places (nameTokens names) = [] := by
  rw [nameTokens, places_intercalate rfl, List.flatMap_map, List.flatMap_eq_nil_iff]
  intro i _
  rw [places_cons_of_not (hasDollar_name i), places_nil]

theorem places_place (number : Nat) : places [.place number] = placesFrom number 1 := by
  rw [places_cons_of_hasDollar (hasDollar_place number)]
  rfl

theorem places_placeTokens {α : Type} (next : Nat) (items : List α) :
    places (placeTokens next items) = placesFrom next items.length := by
  have numbered := flatMap_numberFrom (fun item : α => [item]) next items
  rw [placeTokens, places_intercalate rfl, List.flatMap_map]
  simpa [places_place] using numbered

theorem places_conditionTokens (number : Nat) (c : Condition) :
    places (conditionTokens number c) = placesFrom number c.size := by
  cases c with
  | compare column op value =>
      rw [conditionTokens, places_cons_of_not (hasDollar_name column),
        places_cons_of_not (hasDollar_symbol op), places_place]
      rfl
  | isIn column first rest =>
      rw [conditionTokens, places_append, places_append, places_placeTokens,
        places_cons_of_not (hasDollar_name column)]
      exact List.append_nil _
  | isNull column | notNull column =>
      rw [conditionTokens, places_cons_of_not (hasDollar_name column)]
      rfl
  | never => rfl

theorem places_whereTokens (next : Nat) (conditions : List Condition) :
    places (whereTokens next conditions) =
      placesFrom next (conditions.flatMap Condition.values).length := by
  unfold whereTokens
  split
  · rename_i hempty
    rw [List.isEmpty_iff.mp hempty]
    rfl
  · rw [places_cons_of_not rfl, places_intercalate rfl, conjunctTokens, List.flatMap_map,
      ← flatMap_numberFrom]
    simp only [places_conditionTokens]
    rfl

theorem places_assignmentTokens (number : Nat) (column : Identifier) :
    places (assignmentTokens number column) = placesFrom number 1 := by
  rw [assignmentTokens, places_cons_of_not (hasDollar_name column), places_cons_of_not rfl,
    places_place]

theorem places_setTokens (assignments : List (Identifier × Value)) :
    places ([Token.comma].intercalate (setTokens assignments)) =
      placesFrom 1 assignments.length := by
  have numbered := flatMap_numberFrom (fun a : Identifier × Value => [a]) 1 assignments
  rw [places_intercalate rfl, setTokens, List.flatMap_map]
  simpa [places_assignmentTokens] using numbered

theorem places_orderTokens (order : List (Identifier × Direction)) :
    places (orderTokens order) = [] := by
  unfold orderTokens
  split
  · rfl
  · rw [places_append, places_intercalate rfl, List.flatMap_map, List.append_eq_nil_iff,
      List.flatMap_eq_nil_iff]
    refine ⟨rfl, fun o _ => ?_⟩
    rw [places_cons_of_not (hasDollar_name o.1), places_cons_of_not (hasDollar_direction o.2),
      places_nil]

theorem places_offsetTokens (offset : Option Int) : places (offsetTokens offset) = [] := by
  cases offset with
  | none => rfl
  | some n => rw [offsetTokens, places_cons_of_not rfl, places_cons_of_not (hasDollar_int n),
      places_nil]

theorem places_returningTokens (names : List Identifier) : places (returningTokens names) = [] := by
  unfold returningTokens
  split
  · rfl
  · rw [places_cons_of_not rfl, places_nameTokens]

/-- The places of a statement are numbered from one, and there is one for each parameter. -/
theorem places_sql (s : Statement) : places (tokens s.sql) = placesFrom 1 s.params.length := by
  have count : s.params.length =
      s.assignments.length + (s.conditions.flatMap Condition.values).length := by
    rw [Statement.params_eq, List.length_append, List.length_map]
  rw [tokens_sql, count]
  cases s with
  | select columns table conditions order limit offset =>
      have selected : places [.word "SELECT"] = [] := rfl
      have source : places [.word "FROM", .name table.name] = [] :=
        places_cons_of_not (hasDollar_name table) []
      have limited : places [.word "LIMIT", .word (toString limit)] = [] :=
        places_cons_of_not (hasDollar_int limit) []
      simp only [statementTokens, places_append, selected, source, limited, places_nameTokens,
        places_whereTokens, places_orderTokens, places_offsetTokens, List.nil_append,
        List.append_nil, Statement.assignments, Statement.conditions, List.length_nil, Nat.zero_add]
  | insert table assignments returning =>
      have target : places [.word "INSERT", .word "INTO", .name table.name, .mark '('] = [] :=
        places_cons_of_not (hasDollar_name table) [.mark '(']
      have given : places [.mark ')', .word "VALUES", .mark '('] = [] := rfl
      have closed : places [.mark ')'] = [] := rfl
      simp only [statementTokens, places_append, target, given, closed, places_nameTokens,
        places_placeTokens, places_returningTokens, List.nil_append, List.append_nil,
        Statement.assignments, Statement.conditions, List.flatMap_nil, List.length_nil,
        Nat.add_zero]
  | update table assignments conditions returning =>
      have target : places [.word "UPDATE", .name table.name, .word "SET"] = [] :=
        places_cons_of_not (hasDollar_name table) [.word "SET"]
      simp only [statementTokens, places_append, target, places_setTokens, places_whereTokens,
        places_returningTokens, List.nil_append, List.append_nil, placesFrom_append,
        Statement.assignments, Statement.conditions]
  | delete table conditions returning =>
      have target : places [.word "DELETE", .word "FROM", .name table.name] = [] :=
        places_cons_of_not (hasDollar_name table) []
      simp only [statementTokens, places_append, target, places_whereTokens,
        places_returningTokens, List.nil_append, List.append_nil, Statement.assignments,
        Statement.conditions, List.length_nil, Nat.zero_add]

end Sql

/-! ## The values of a command -/

/-- The values a filter hands over, in order: the elements of an array that is asked for membership
in, and otherwise what is compared with, unless that is null. -/
def Filter.carried (f : Filter) : List Json :=
  match f.op, f.operand with
  | .isNull, _ | .notNull, _ => []
  | .isIn, some (.list items) => items
  | _, none | _, some .null => []
  | _, some operand => [operand]

namespace Compiler

section Spec

variable (k : Compiler) (t : Table)

/-- The values that a command writes, under a scope. -/
def writtenValues (scope : Scope) : Command → Except Refusal (Named Live)
  | .mutate m =>
      match m.action with
      | .insert => k.scopeValues t (m.values.getD []) scope true
      | .update => k.scopeValues t (m.values.getD []) scope false
      | _ => .ok []
  | _ => .ok []

/-- The filters of a command, under a scope. -/
def appliedFilters (scope : Scope) : Command → Except Refusal (List Filter)
  | .query q => k.scopeFilters t q.filters scope
  | .mutate m =>
      match m.action with
      | .insert => .ok []
      | _ => k.scopeFilters t m.filters scope
  | _ => .ok []

/-- A value bound to the type of the column that a loose name means, if there is such a column. -/
def boundFor? (raw : String) (v : Live) : Option Value := do
  let name ← k.catalog.resolveColumn? t.name raw
  let column ← t.column? name
  some (Value.bind k.vars column.sqlType v)

/-- The parameter for a value that a filter hands over. A pattern is taken as it is, and every
other value is bound to the column of the filter. -/
def filterParameter? (f : Filter) (v : Json) : Option Value :=
  match f.op with
  | .like | .ilike => some (.plain v)
  | _ => k.boundFor? t f.column (.plain v)

end Spec

variable {k : Compiler} {t : Table} {scope : Scope}

theorem boundFor?_of_resolveColumn? (htable : k.catalog.table? t.name = some t)
    {raw name : String} (h : k.catalog.resolveColumn? t.name raw = some name) (v : Live) :
    k.boundFor? t raw v = some (k.bindTo t name v) := by
  have resolved : t.resolve? raw = some name := by
    rwa [← Catalog.resolveColumn?_of_table? htable]
  obtain ⟨column, hcolumn⟩ := Table.hasColumn_iff.mp (Table.hasColumn_of_resolve? resolved)
  simp [boundFor?, bindTo, h, hcolumn]

/-- The values of a condition are the parameters for what its filter hands over. -/
theorem values_of_condition (htable : k.catalog.table? t.name = some t) {f : Filter}
    {c : Condition} (h : k.condition t f = .ok c) :
    c.values.map some = f.carried.map (k.filterParameter? t f) := by
  obtain ⟨column, hcolumn, h⟩ := bind_eq_ok.mp h
  have bound := boundFor?_of_resolveColumn? htable (resolveColumn?_of_columnIdentifier hcolumn)
  obtain ⟨raw, op, operand⟩ := f
  cases op with
  | isNull | notNull =>
      cases h
      rfl
  | isIn =>
      cases operand with
      | none => cases h
      | some operand =>
          cases operand with
          | list items =>
              cases items with
              | nil =>
                  cases h
                  rfl
              | cons first rest =>
                  cases h
                  simp [Condition.values, Filter.carried, filterParameter?, bound]
          | _ => cases h
  | like | ilike =>
      cases operand with
      | none => cases h
      | some operand =>
          cases operand <;> cases h <;> rfl
  | eq | neq | gt | gte | lt | lte =>
      cases operand with
      | none => cases h
      | some operand =>
          cases operand <;> cases h <;>
            simp [Condition.values, Filter.carried, filterParameter?, bound]

theorem values_of_conditions (htable : k.catalog.table? t.name = some t) {filters : List Filter}
    {conditions : List Condition} (h : k.conditions t filters = .ok conditions) :
    (conditions.flatMap Condition.values).map some =
      filters.flatMap fun f => f.carried.map (k.filterParameter? t f) := by
  rw [Compiler.conditions, mapM_eq_ok] at h
  induction h with
  | nil => rfl
  | cons hf _ ih =>
      rw [List.flatMap_cons, List.map_append, List.flatMap_cons, values_of_condition htable hf, ih]

theorem values_of_assignments (htable : k.catalog.table? t.name = some t) {usage : Usage}
    {values : Named Live} {assigned : List (Identifier × Value)}
    (h : values.mapM (k.assignment t usage) = .ok assigned) :
    (assigned.map Prod.snd).map some = values.map fun f => k.boundFor? t f.1 f.2 := by
  rw [mapM_eq_ok] at h
  induction h with
  | nil => rfl
  | cons hf _ ih =>
      obtain ⟨hresolved, hvalue⟩ := of_assignment hf
      rw [List.map_cons, List.map_cons, List.map_cons, hvalue,
        boundFor?_of_resolveColumn? htable hresolved, ih]

/-- The assignments and conditions of a statement come from the values and filters of its command
under the scope. -/
theorem supplies_of_compiles {c : Command} {s : Statement} (h : k.Compiles scope c t s) :
    ∃ usage values filters, k.writtenValues t scope c = .ok values ∧
      k.appliedFilters t scope c = .ok filters ∧
      values.mapM (k.assignment t usage) = .ok s.assignments ∧
      k.conditions t filters = .ok s.conditions := by
  cases h with
  | select _ _ _ _ hfilters hconditions => exact ⟨.plain, [], _, rfl, hfilters, rfl, hconditions⟩
  | insert haction _ _ hvalues _ hassigned =>
      refine ⟨_, _, [], ?_, ?_, hassigned, rfl⟩
      · rw [writtenValues, haction, hvalues]
      · rw [appliedFilters, haction]
  | update haction _ _ hvalues _ _ hfilters hassigned hconditions =>
      refine ⟨_, _, _, ?_, ?_, hassigned, hconditions⟩
      · rw [writtenValues, haction, hvalues]
      · rw [appliedFilters, haction, hfilters]
  | delete haction _ _ _ hfilters hconditions =>
      refine ⟨.plain, [], _, ?_, ?_, rfl, hconditions⟩
      · rw [writtenValues, haction]
      · rw [appliedFilters, haction, hfilters]

/-- The places of a statement are numbered from one in the order in which they are read, one for
each parameter. The parameters are the values that its command writes under the scope, bound to
their columns, and then those that the filters under the scope hand over, element by element, each
of them bound to its column unless it is a pattern. -/
theorem parameters_in_order_of_places {c : Command} {plan : Plan}
    (h : k.compile scope c = .ok plan) {i : Nat} {s : Statement} (hs : plan.leaves[i]? = some s) :
    Sql.places (Sql.tokens s.sql) = (List.range' 1 s.params.length).map Sql.Token.place ∧
      ∃ leaf t values filters, c.leaves[i]? = some leaf ∧
        k.catalog.table? s.table.name = some t ∧
        k.writtenValues t scope leaf = .ok values ∧ k.appliedFilters t scope leaf = .ok filters ∧
        s.params.map some = (values.map fun f => k.boundFor? t f.1 f.2) ++
          filters.flatMap fun f => f.carried.map (k.filterParameter? t f) := by
  obtain ⟨leaf, t, hleaf, hcompiles⟩ := compiles_of_getElem?_leaves h hs
  obtain ⟨htable, hname⟩ := table?_of_compiles hcompiles
  obtain ⟨usage, values, filters, hvalues, hfilters, hassigned, hconditions⟩ :=
    supplies_of_compiles hcompiles
  refine ⟨Sql.places_sql s, leaf, t, values, filters, hleaf, hname ▸ htable, hvalues, hfilters, ?_⟩
  rw [Statement.params_eq, List.map_append, values_of_assignments htable hassigned,
    values_of_conditions htable hconditions]

theorem parameters_of_demoBatch :
    ∃ plan s, demo.compile demoScope demoBatch = .ok plan ∧ plan.leaves[2]? = some s ∧
      Sql.places (Sql.tokens s.sql) = ["$1", "$2", "$3", "$4", "$5"].map .word ∧
      s.params = [.plain (.text "acme"), .plain (.text "paid"), .plain (.int 2), .plain (.int 4),
        .plain (.text "acme")] := by
  obtain ⟨plan, hplan, hleaves⟩ := leaves_of_demoBatch
  have hlength : plan.leaves.length = 4 := by simpa [demoLeaves] using congrArg List.length hleaves
  obtain ⟨s, hs⟩ : ∃ s, plan.leaves[2]? = some s := ⟨plan.leaves[2], by simp [hlength]⟩
  obtain ⟨hplaces, leaf, t, values, filters, hleaf, htable, hvalues, hfilters, hparams⟩ :=
    parameters_in_order_of_places hplan hs
  have hname : s.table.name = "booking_orders" := by
    have := congrArg (fun leaves => leaves[2]?.map Prod.snd) hleaves
    simpa [hs, demoLeaves] using this
  rw [hname] at htable
  cases hleaf
  cases htable
  cases hvalues
  cases hfilters
  have params : s.params.map some = [.plain (.text "acme"), .plain (.text "paid"),
      .plain (.int 2), .plain (.int 4), .plain (.text "acme")].map some := hparams
  have params := List.map_injective_iff.mpr (fun _ _ => Option.some.inj) params
  refine ⟨plan, s, hplan, hs, ?_, params⟩
  rw [hplaces, params]
  rfl

end Compiler

end Tenancy
