/-
# The clauses of a statement, read off its text

The conditions, the assignments and the inserted columns of a statement can be found in its
text by keywords and marks alone. This works because names are quoted and values are not
there: no part of a clause holds a word that ends the clause or separates its parts. What is
found is, part by part, what the statement was built from, and the place in each part points
at the parameter that belongs to it.
-/

import Tenancy.Proofs.Statement.Reading
import Mathlib.Data.List.TakeWhile

namespace Tenancy.Sql

/-- The parts of a clause: what stands between the first token that opens it and the next one
that closes it, cut at the separators. There is nothing where nothing opens. -/
def clause (opens closes : Token → Bool) (separator : Token) (ts : List Token) :
    List (List Token) :=
  match ts.dropWhile fun t => !opens t with
  | [] => []
  | _ :: rest => (rest.takeWhile fun t => !closes t).splitOn separator

/-- The conjuncts of the condition part of a text. -/
def conjuncts (sql : String) : List (List Token) :=
  clause (· == .word "WHERE")
    (fun t => t == .word "ORDER" || t == .word "LIMIT" || t == .word "RETURNING")
    (.word "AND") (tokens sql)

/-- The assignments of an update. -/
def assignments (sql : String) : List (List Token) :=
  clause (· == .word "SET") (fun t => t == .word "WHERE" || t == .word "RETURNING")
    Token.comma (tokens sql)

/-- The columns of an insert. -/
def insertedColumns (sql : String) : List (List Token) :=
  clause (· == .mark '(') (· == .mark ')') Token.comma (tokens sql)

/-- The values of an insert. -/
def insertedValues (sql : String) : List (List Token) :=
  clause (· == .mark '(') (· == .mark ')') Token.comma
    ((tokens sql).dropWhile fun t => t != .word "VALUES")

/-! ## Cutting out a clause -/

/-- What stands in separated parts is the separator or stands in one of the parts. -/
theorem mem_intercalate {separator t : Token} {parts : List (List Token)}
    (h : t ∈ [separator].intercalate parts) : t = separator ∨ ∃ part ∈ parts, t ∈ part := by
  induction parts with
  | nil => simp at h
  | cons part rest ih =>
      cases rest with
      | nil => exact .inr ⟨part, by simp, by simpa using h⟩
      | cons second rest =>
          rw [List.intercalate_cons_cons, List.mem_append, List.mem_append,
            List.mem_singleton] at h
          rcases h with (h | h) | h
          · exact .inr ⟨part, by simp, h⟩
          · exact .inl h
          · rcases ih h with h | ⟨found, hfound, h⟩
            · exact .inl h
            · exact .inr ⟨found, List.mem_cons_of_mem part hfound, h⟩

/-- A clause is found where it opens, up to where it closes, if neither word nor separator is
among its parts. -/
theorem clause_eq {opens closes : Token → Bool} {separator opener : Token}
    {front rest : List Token} {parts : List (List Token)}
    (hfront : ∀ t ∈ front, opens t = false) (hopener : opens opener = true)
    (hne : parts ≠ []) (hseparator : closes separator = false)
    (hparts : ∀ part ∈ parts, ∀ t ∈ part, t ≠ separator ∧ closes t = false)
    (hrest : ∀ t ∈ rest.head?, closes t = true) :
    clause opens closes separator
      (front ++ opener :: ([separator].intercalate parts ++ rest)) = parts := by
  have inside : ∀ t ∈ [separator].intercalate parts, (!closes t) = true := by
    intro t ht
    rcases mem_intercalate ht with rfl | ⟨part, hpart, ht⟩
    · simp [hseparator]
    · simp [(hparts part hpart t ht).2]
  have stop : rest.takeWhile (fun t => !closes t) = [] := by
    cases rest with
    | nil => rfl
    | cons t rest => simp [hrest t rfl]
  have found : (front ++ opener :: ([separator].intercalate parts ++ rest)).dropWhile
      (fun t => !opens t) = opener :: ([separator].intercalate parts ++ rest) := by
    rw [List.dropWhile_append_of_pos (by simpa using hfront)]
    simp [hopener]
  rw [clause, found]
  simp only
  rw [List.takeWhile_append_of_pos inside, stop, List.append_nil]
  exact List.splitOn_intercalate separator (fun part hpart hmem =>
    (hparts part hpart separator hmem).1 rfl) hne

/-- There is no clause where nothing opens one. -/
theorem clause_eq_nil {opens closes : Token → Bool} {separator : Token} {ts : List Token}
    (h : ∀ t ∈ ts, opens t = false) : clause opens closes separator ts = [] := by
  have : ts.dropWhile (fun t => !opens t) = [] := by
    rw [List.dropWhile_eq_nil_iff]
    simpa using h
  rw [clause, this]

/-! ## The tokens inside clauses -/

/-- The words that open, join or close clauses. -/
def clauseWords : List String :=
  ["AND", "OR", "WHERE", "SET", "VALUES", "ORDER", "LIMIT", "RETURNING"]

/-- Whether a token is one of the words that open, join or close clauses. -/
def Token.isClauseWord : Token → Bool
  | .word w => clauseWords.contains w
  | _ => false

/-- A text of number parts alone is no clause word. -/
theorem isClauseWord_of_numberParts {w : String}
    (h : ∀ c ∈ w.toList, isNumberPart c = true) : Token.isClauseWord (.word w) = false := by
  have letters : ∀ v ∈ clauseWords, v.toList.all isNumberPart = false := by decide
  rw [Token.isClauseWord, Bool.eq_false_iff]
  intro found
  have numeral : w.toList.all isNumberPart = true := List.all_eq_true.mpr h
  rw [letters w (by simpa using found)] at numeral
  cases numeral

@[simp] theorem isClauseWord_name (text : String) : (Token.name text).isClauseWord = false := rfl

@[simp] theorem isClauseWord_mark (c : Char) : (Token.mark c).isClauseWord = false := rfl

@[simp] theorem isClauseWord_comma : Token.comma.isClauseWord = false := rfl

@[simp] theorem isClauseWord_place (number : Nat) : (Token.place number).isClauseWord = false :=
  isClauseWord_of_numberParts fun _ => isNumberPart_of_mem_placeText

@[simp] theorem isClauseWord_int (n : Int) : (Token.word (toString n)).isClauseWord = false :=
  isClauseWord_of_numberParts fun _ => isNumberPart_of_mem_int

/-- A token that is no clause word is none of those words. -/
theorem ne_of_isClauseWord {t : Token} (h : t.isClauseWord = false) {w : String}
    (hw : w ∈ clauseWords) : t ≠ .word w := by
  rintro rfl
  simp [Token.isClauseWord, hw] at h

/-- Tokens without a clause word among them. -/
def Plain (ts : List Token) : Prop :=
  ∀ t ∈ ts, t.isClauseWord = false

namespace Plain

variable {ts : List Token}

theorem ne (h : Plain ts) {t : Token} (ht : t ∈ ts) {w : String} (hw : w ∈ clauseWords) :
    t ≠ .word w :=
  ne_of_isClauseWord (h t ht) hw

theorem not_mem (h : Plain ts) {w : String} (hw : w ∈ clauseWords) : Token.word w ∉ ts :=
  fun ht => h.ne ht hw rfl

/-- Commas between parts add no clause word. -/
theorem intercalate {parts : List (List Token)} (h : ∀ part ∈ parts, Plain part) :
    Plain ([Token.comma].intercalate parts) := by
  intro t ht
  rcases mem_intercalate ht with rfl | ⟨part, hpart, ht⟩
  · rfl
  · exact h part hpart t ht

end Plain

theorem plain_nameTokens (names : List Identifier) : Plain (nameTokens names) := by
  apply Plain.intercalate
  intro part hpart
  obtain ⟨i, -, rfl⟩ := List.mem_map.mp hpart
  simp [Plain]

theorem plain_placeTokens {α : Type} (next : Nat) (items : List α) :
    Plain (placeTokens next items) := by
  apply Plain.intercalate
  intro part hpart
  obtain ⟨p, -, rfl⟩ := List.mem_map.mp hpart
  simp [Plain]

theorem plain_conditionTokens (number : Nat) (c : Condition) :
    Plain (conditionTokens number c) := by
  intro t h
  cases c with
  | compare column op value =>
      have symbol : (Token.word op.symbol).isClauseWord = false := by cases op <;> decide
      simp only [conditionTokens, List.mem_cons, List.not_mem_nil, or_false] at h
      rcases h with rfl | rfl | rfl
      · rfl
      · exact symbol
      · exact isClauseWord_place number
  | isIn column first rest =>
      simp only [conditionTokens, List.mem_append, List.mem_cons, List.not_mem_nil,
        or_false] at h
      rcases h with ((rfl | rfl | rfl) | h) | rfl
      · rfl
      · decide
      · rfl
      · exact plain_placeTokens number (first :: rest) t h
      · rfl
  | isNull column =>
      simp only [conditionTokens, List.mem_cons, List.not_mem_nil, or_false] at h
      rcases h with rfl | rfl | rfl <;> rfl
  | notNull column =>
      simp only [conditionTokens, List.mem_cons, List.not_mem_nil, or_false] at h
      rcases h with rfl | rfl | rfl | rfl <;> rfl
  | never =>
      simp only [conditionTokens, List.mem_cons, List.not_mem_nil, or_false] at h
      rcases h with rfl | rfl | rfl <;> rfl

theorem plain_of_mem_conjunctTokens {next : Nat} {conditions : List Condition}
    {part : List Token} (h : part ∈ conjunctTokens next conditions) : Plain part := by
  obtain ⟨p, -, rfl⟩ := List.mem_map.mp h
  exact plain_conditionTokens p.1 p.2

theorem plain_of_mem_setTokens {assigned : List (Identifier × Value)} {part : List Token}
    (h : part ∈ setTokens assigned) : Plain part := by
  obtain ⟨p, -, rfl⟩ := List.mem_map.mp h
  intro t ht
  simp only [assignmentTokens, List.mem_cons, List.not_mem_nil, or_false] at ht
  rcases ht with rfl | rfl | rfl
  · rfl
  · decide
  · exact isClauseWord_place p.1

/-! The optional clauses are opened by clause words of their own, and none of them is the one
that opens the conditions. -/

theorem where_not_mem_orderTokens (order : List (Identifier × Direction)) :
    Token.word "WHERE" ∉ orderTokens order := by
  unfold orderTokens
  split
  · simp
  · intro h
    rcases List.mem_append.mp h with h | h
    · exact absurd h (by decide)
    · rcases mem_intercalate h with h | ⟨part, hpart, h⟩
      · cases h
      · obtain ⟨o, -, rfl⟩ := List.mem_map.mp hpart
        obtain ⟨column, direction⟩ := o
        cases direction <;> simp [Statement.directionText] at h

theorem where_not_mem_offsetTokens (offset : Option Int) :
    Token.word "WHERE" ∉ offsetTokens offset := by
  cases offset with
  | none => simp [offsetTokens]
  | some n =>
      have numeral := ne_of_isClauseWord (isClauseWord_int n) (w := "WHERE") (by decide)
      simpa [offsetTokens] using numeral.symm

theorem where_not_mem_returningTokens (names : List Identifier) :
    Token.word "WHERE" ∉ returningTokens names := by
  unfold returningTokens
  split
  · simp
  · simpa using (plain_nameTokens names).not_mem (w := "WHERE") (by decide)

/-! ## The conditions -/

/-- The conjuncts of a text in which conditions stand between tokens that have nothing to do
with them. -/
theorem conjuncts_of_tokens {sql : String} (front rest : List Token) {next : Nat}
    {conditions : List Condition}
    (htokens : tokens sql = front ++ whereTokens next conditions ++ rest)
    (hfront : Token.word "WHERE" ∉ front) (hnone : Token.word "WHERE" ∉ rest)
    (hrest : ∀ t ∈ rest.head?, t = .word "ORDER" ∨ t = .word "LIMIT" ∨ t = .word "RETURNING") :
    conjuncts sql = conjunctTokens next conditions := by
  rw [conjuncts, htokens]
  cases conditions with
  | nil =>
      refine clause_eq_nil fun t ht => ?_
      rw [beq_eq_false_iff_ne]
      rintro rfl
      simp [whereTokens, hfront, hnone] at ht
  | cons c conditions =>
      have shape : front ++ whereTokens next (c :: conditions) ++ rest =
          front ++ .word "WHERE" ::
            ([Token.word "AND"].intercalate (conjunctTokens next (c :: conditions)) ++ rest) := by
        simp [whereTokens]
      rw [shape]
      apply clause_eq
      · intro t ht
        rw [beq_eq_false_iff_ne]
        exact fun h => hfront (h ▸ ht)
      · rfl
      · simp [conjunctTokens, Statement.numbered]
      · rfl
      · intro part hpart t ht
        have plain := plain_of_mem_conjunctTokens hpart
        refine ⟨plain.ne ht (by decide), ?_⟩
        simp [plain.ne ht (w := "ORDER") (by decide), plain.ne ht (w := "LIMIT") (by decide),
          plain.ne ht (w := "RETURNING") (by decide)]
      · intro t ht
        rcases hrest t ht with rfl | rfl | rfl <;> rfl

/-- The conjuncts in the text of a statement are its conditions, in order. -/
theorem conjuncts_sql (s : Statement) :
    conjuncts s.sql = s.numberedConditions.map fun p => conditionTokens p.1 p.2 := by
  have written := tokens_sql s
  have returned (names : List Identifier) :
      ∀ t ∈ (returningTokens names).head?,
        t = .word "ORDER" ∨ t = .word "LIMIT" ∨ t = .word "RETURNING" := by
    unfold returningTokens
    split <;> simp
  cases s with
  | select columns table conditions order limit offset =>
      have numeral : ¬ "WHERE" = limit.repr := fun h =>
        ne_of_isClauseWord (isClauseWord_int limit) (w := "WHERE") (by decide)
          (congrArg Token.word h.symm)
      refine conjuncts_of_tokens
        ([.word "SELECT"] ++ nameTokens columns ++ [.word "FROM", .name table.name])
        (orderTokens order ++ [.word "LIMIT", .word (toString limit)] ++ offsetTokens offset)
        ?_ ?_ ?_ ?_
      · simpa [statementTokens, Statement.assignments, Statement.conditions] using written
      · simp [(plain_nameTokens columns).not_mem (w := "WHERE") (by decide)]
      · simp [where_not_mem_orderTokens, where_not_mem_offsetTokens, numeral]
      · unfold orderTokens
        split <;> simp
  | insert table assigned returning =>
      rw [conjuncts, written]
      refine clause_eq_nil fun t ht => ?_
      rw [beq_eq_false_iff_ne]
      rintro rfl
      have names := (plain_nameTokens (assigned.map Prod.fst)).not_mem (w := "WHERE") (by decide)
      have places := (plain_placeTokens 1 assigned).not_mem (w := "WHERE") (by decide)
      simp [statementTokens, names, places, where_not_mem_returningTokens] at ht
  | update table assigned conditions returning =>
      refine conjuncts_of_tokens
        ([.word "UPDATE", .name table.name, .word "SET"] ++
          [Token.comma].intercalate (setTokens assigned))
        (returningTokens returning) ?_ ?_ (where_not_mem_returningTokens returning)
        (returned returning)
      · simpa [statementTokens, Statement.assignments, Statement.conditions] using written
      · have plain : Plain ([Token.comma].intercalate (setTokens assigned)) :=
          Plain.intercalate fun part => plain_of_mem_setTokens
        simp [plain.not_mem (w := "WHERE") (by decide)]
  | delete table conditions returning =>
      refine conjuncts_of_tokens [.word "DELETE", .word "FROM", .name table.name]
        (returningTokens returning) ?_ (by simp) (where_not_mem_returningTokens returning)
        (returned returning)
      simpa [statementTokens, Statement.assignments, Statement.conditions] using written

example : conjuncts "DELETE FROM \"t\" WHERE \"a AND b\" = $1 AND \"c\" IS NULL RETURNING \"d\"" =
    [[.name "a AND b", .word "=", .word "$1"], [.name "c", .word "IS", .word "NULL"]] := rfl

/-! ## What is written -/

/-- The assignments in the text of an update are those it was built from, in order. -/
theorem assignments_sql {assigned : List (Identifier × Value)} (hne : assigned ≠ [])
    (table : Identifier) (conditions : List Condition) (returning : List Identifier) :
    assignments (Statement.update table assigned conditions returning).sql =
      setTokens assigned := by
  have written := tokens_sql (.update table assigned conditions returning)
  have shape : statementTokens (.update table assigned conditions returning) =
      [.word "UPDATE", .name table.name] ++ .word "SET" ::
        ([Token.comma].intercalate (setTokens assigned) ++
          (whereTokens (1 + assigned.length) conditions ++ returningTokens returning)) := by
    simp [statementTokens]
  rw [assignments, written, shape]
  apply clause_eq
  · intro t ht
    rw [List.mem_cons, List.mem_singleton] at ht
    rcases ht with rfl | rfl <;> rfl
  · rfl
  · cases assigned with
    | nil => exact absurd rfl hne
    | cons a assigned => simp [setTokens]
  · rfl
  · intro part hpart t ht
    have plain := plain_of_mem_setTokens hpart
    refine ⟨?_, ?_⟩
    · obtain ⟨p, -, rfl⟩ := List.mem_map.mp hpart
      rintro rfl
      simp [assignmentTokens, Token.comma, Token.place] at ht
    · simp [plain.ne ht (w := "WHERE") (by decide), plain.ne ht (w := "RETURNING") (by decide)]
  · intro t ht
    unfold whereTokens returningTokens at ht
    split at ht
    · split at ht
      · simp at ht
      · cases ht
        rfl
    · cases ht
      rfl

/-- A parenthesis ends a list of single tokens none of which is a mark. -/
theorem clause_parenthesised {front rest items : List Token} (hfront : .mark '(' ∉ front)
    (hne : items ≠ []) (hitems : ∀ t ∈ items, ∀ c, t ≠ .mark c) :
    clause (· == .mark '(') (· == .mark ')') Token.comma
      (front ++ .mark '(' :: ([Token.comma].intercalate (items.map fun t => [t]) ++
        .mark ')' :: rest)) = items.map fun t => [t] := by
  apply clause_eq
  · intro t ht
    rw [beq_eq_false_iff_ne]
    exact fun h => hfront (h ▸ ht)
  · rfl
  · simpa using hne
  · rfl
  · intro part hpart t ht
    obtain ⟨item, hitem, rfl⟩ := List.mem_map.mp hpart
    rw [List.mem_singleton.mp ht, beq_eq_false_iff_ne]
    exact ⟨hitems item hitem ',', hitems item hitem ')'⟩
  · intro t ht
    cases ht
    rfl

theorem insertedColumns_sql {assigned : List (Identifier × Value)} (hne : assigned ≠ [])
    (table : Identifier) (returning : List Identifier) :
    insertedColumns (Statement.insert table assigned returning).sql =
      assigned.map fun a => [.name a.1.name] := by
  have written := tokens_sql (.insert table assigned returning)
  have shape : statementTokens (.insert table assigned returning) =
      [.word "INSERT", .word "INTO", .name table.name] ++ .mark '(' ::
        ([Token.comma].intercalate ((assigned.map fun a => Token.name a.1.name).map fun t => [t]) ++
          .mark ')' :: ([.word "VALUES", .mark '('] ++ placeTokens 1 assigned ++ [.mark ')'] ++
            returningTokens returning)) := by
    simp [statementTokens, nameTokens, Function.comp_def]
  rw [insertedColumns, written, shape, clause_parenthesised (by simp) (by simpa using hne)]
  · simp
  · intro t ht c
    obtain ⟨a, -, rfl⟩ := List.mem_map.mp ht
    simp

theorem insertedValues_sql {assigned : List (Identifier × Value)} (hne : assigned ≠ [])
    (table : Identifier) (returning : List Identifier) :
    insertedValues (Statement.insert table assigned returning).sql =
      (numberFrom (fun _ => 1) 1 assigned).map fun p => [.place p.1] := by
  have written := tokens_sql (.insert table assigned returning)
  have before : ∀ t ∈ [.word "INSERT", .word "INTO", .name table.name, .mark '('] ++
      nameTokens (assigned.map Prod.fst) ++ [.mark ')'], (t != .word "VALUES") = true := by
    intro t ht
    rw [bne_iff_ne]
    rintro rfl
    have names := (plain_nameTokens (assigned.map Prod.fst)).not_mem (w := "VALUES") (by decide)
    simp [names] at ht
  have shape : statementTokens (.insert table assigned returning) =
      ([.word "INSERT", .word "INTO", .name table.name, .mark '('] ++
        nameTokens (assigned.map Prod.fst) ++ [.mark ')']) ++
      ([.word "VALUES"] ++ .mark '(' ::
        ([Token.comma].intercalate (((numberFrom (fun _ => 1) 1 assigned).map fun p =>
            Token.place p.1).map fun t => [t]) ++
          .mark ')' :: returningTokens returning)) := by
    simp [statementTokens, placeTokens, Function.comp_def]
  rw [insertedValues, written, shape, List.dropWhile_append_of_pos before,
    List.dropWhile_eq_self_iff.mpr (by simp)]
  rw [clause_parenthesised (by simp)]
  · simp
  · cases assigned with
    | nil => exact absurd rfl hne
    | cons a assigned => simp
  · intro t ht c
    obtain ⟨p, -, rfl⟩ := List.mem_map.mp ht
    simp [Token.place]

end Tenancy.Sql
