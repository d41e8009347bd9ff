/-
# Reading statements back

Every statement is written so that it reads back as what it was meant to say: its keywords as
words, its identifiers as names, and its places as words that start with a dollar sign. No
value is among the tokens, and the tokens of a condition do not depend on what stands around
it, apart from the number of its first place.
-/

import Tenancy.Proofs.Statement.Tokens
import Tenancy.Proofs.Statement.Written

namespace Tenancy.Sql

/-- The place of a value. -/
def Token.place (number : Nat) : Token :=
  .word (placeText number)

/-- The mark between the elements of a list. -/
def Token.comma : Token :=
  .mark ','

/-- Names with commas between them. -/
def nameTokens (names : List Identifier) : List Token :=
  [Token.comma].intercalate (names.map fun i => [.name i.name])

/-- Places with commas between them, numbered from the given number, one for each item. -/
def placeTokens {α : Type} (next : Nat) (items : List α) : List Token :=
  [Token.comma].intercalate ((numberFrom (fun _ => 1) next items).map fun p => [.place p.1])

/-- A condition whose first place has the given number. -/
def conditionTokens (number : Nat) : Condition → List Token
  | .compare column op _ => [.name column.name, .word op.symbol, .place number]
  | .isIn column first rest =>
      [.name column.name, .word "IN", .mark '('] ++ placeTokens number (first :: rest) ++ [.mark ')']
  | .isNull column => [.name column.name, .word "IS", .word "NULL"]
  | .notNull column => [.name column.name, .word "IS", .word "NOT", .word "NULL"]
  | .never => [.word "1", .word "=", .word "0"]

/-- Conditions, each with the words between it and the next one left out. -/
def conjunctTokens (next : Nat) (conditions : List Condition) : List (List Token) :=
  (Statement.numbered next conditions).map fun p => conditionTokens p.1 p.2

/-- The conditions of a statement; nothing when there is no condition. -/
def whereTokens (next : Nat) (conditions : List Condition) : List Token :=
  if conditions.isEmpty then []
  else .word "WHERE" :: [.word "AND"].intercalate (conjunctTokens next conditions)

/-- An assignment whose place has the given number. -/
def assignmentTokens (number : Nat) (column : Identifier) : List Token :=
  [.name column.name, .word "=", .place number]

/-- The assignments of an update. -/
def setTokens (assignments : List (Identifier × Value)) : List (List Token) :=
  (numberFrom (fun _ => 1) 1 assignments).map fun p => assignmentTokens p.1 p.2.1

/-- The ordering of a query; nothing when there is no ordering. -/
def orderTokens (order : List (Identifier × Direction)) : List Token :=
  if order.isEmpty then []
  else [.word "ORDER", .word "BY"] ++ [Token.comma].intercalate
    (order.map fun o => [.name o.1.name, .word (Statement.directionText o.2)])

/-- The offset of a query, if it has one. -/
def offsetTokens : Option Int → List Token
  | some n => [.word "OFFSET", .word (toString n)]
  | none => []

/-- The columns that are read back; nothing when there is no such column. -/
def returningTokens (names : List Identifier) : List Token :=
  if names.isEmpty then [] else .word "RETURNING" :: nameTokens names

/-- A statement. -/
def statementTokens : Statement → List Token
  | .select columns table conditions order limit offset =>
      [.word "SELECT"] ++ nameTokens columns ++ [.word "FROM", .name table.name] ++
        whereTokens 1 conditions ++ orderTokens order ++
        [.word "LIMIT", .word (toString limit)] ++ offsetTokens offset
  | .insert table assignments returning =>
      [.word "INSERT", .word "INTO", .name table.name, .mark '('] ++
        nameTokens (assignments.map Prod.fst) ++ [.mark ')', .word "VALUES", .mark '('] ++
        placeTokens 1 assignments ++ [.mark ')'] ++ returningTokens returning
  | .update table assignments conditions returning =>
      [.word "UPDATE", .name table.name, .word "SET"] ++
        [Token.comma].intercalate (setTokens assignments) ++
        whereTokens (1 + assignments.length) conditions ++ returningTokens returning
  | .delete table conditions returning =>
      [.word "DELETE", .word "FROM", .name table.name] ++ whereTokens 1 conditions ++
        returningTokens returning

/-! ## Numerals and places -/

/-- The characters of numerals and places. -/
def isNumberPart (c : Char) : Bool :=
  c.isDigit || c == '-' || c == '$'

/-- No part of a number ends a word. -/
theorem isBreak_of_isNumberPart {c : Char} (h : isNumberPart c = true) : isBreak c = false := by
  have hne (d : Char) (hd : isNumberPart d = false) : (c == d) = false := by
    rw [beq_eq_false_iff_ne]
    rintro rfl
    simp [hd] at h
  simp [isBreak, isMark, hne '"' rfl, hne ' ' rfl, hne ',' rfl, hne '(' rfl, hne ')' rfl]

theorem isNumberPart_of_mem_repr {n : Nat} {c : Char} (h : c ∈ (Nat.repr n).toList) :
    isNumberPart c = true := by
  rw [Nat.toList_repr] at h
  simp [isNumberPart, Nat.isDigit_of_mem_toDigits (by decide) (by decide) h]

theorem isNumberPart_of_mem_placeText {n : Nat} {c : Char} (h : c ∈ (placeText n).toList) :
    isNumberPart c = true := by
  rw [placeText, String.toList_append, List.mem_append] at h
  rcases h with h | h
  · have : c = '$' := by simpa using h
    subst this
    rfl
  · exact isNumberPart_of_mem_repr h

theorem isNumberPart_of_mem_int {n : Int} {c : Char} (h : c ∈ (toString n).toList) :
    isNumberPart c = true := by
  cases n with
  | ofNat n => exact isNumberPart_of_mem_repr h
  | negSucc n =>
      have h : c ∈ ("-" ++ Nat.repr (n + 1)).toList := h
      rw [String.toList_append, List.mem_append] at h
      rcases h with h | h
      · have : c = '-' := by simpa using h
        subst this
        rfl
      · exact isNumberPart_of_mem_repr h

theorem placeText_ne_empty (n : Nat) : placeText n ≠ "" := by
  intro h
  have := congrArg String.toList h
  simp [placeText] at this

theorem toString_int_ne_empty (n : Int) : toString n ≠ "" := by
  cases n with
  | ofNat n => exact Nat.repr_ne_empty
  | negSucc n =>
      intro h
      have := congrArg String.toList h
      simp [toString, Int.repr] at this

theorem reads_place (number : Nat) : Reads (placeText number) [.place number] :=
  reads_word (placeText_ne_empty number) fun _ hc =>
    isBreak_of_isNumberPart (isNumberPart_of_mem_placeText hc)

theorem reads_int (n : Int) : Reads (toString n) [.word (toString n)] :=
  reads_word (toString_int_ne_empty n) fun _ hc =>
    isBreak_of_isNumberPart (isNumberPart_of_mem_int hc)

/-! ## Lists -/

/-- A comma with the blank after it. -/
theorem complete_comma : Complete ", " [Token.comma] := fun _ => rfl

/-- Parts with commas between them. -/
theorem reads_separated {parts : List String} {tss : List (List Token)}
    (h : List.Forall₂ Reads parts tss) :
    Reads (", ".intercalate parts) ([Token.comma].intercalate tss) :=
  .intercalate complete_comma (by rintro c ⟨⟩; rfl) (by decide) h

/-- What is read part by part from the same items. -/
theorem forall₂_reads {α : Type} {text : α → String} {read : α → List Token} (items : List α)
    (h : ∀ item ∈ items, Reads (text item) (read item)) :
    List.Forall₂ Reads (items.map text) (items.map read) := by
  induction items with
  | nil => exact .nil
  | cons item rest ih =>
      exact .cons (h item (by simp)) (ih fun other hother => h other (by simp [hother]))

theorem reads_nameList (names : List Identifier) :
    Reads (Statement.nameList names) (nameTokens names) :=
  reads_separated (forall₂_reads names fun i _ => (complete_quoted i).reads)

theorem reads_places {α : Type} (next : Nat) (items : List α) :
    Reads (", ".intercalate ((numberFrom (fun _ => 1) next items).map fun p => placeText p.1))
      (placeTokens next items) :=
  reads_separated (forall₂_reads _ fun p _ => reads_place p.1)

/-! ## Clauses -/

theorem reads_symbol (op : Comparison) : Complete (" " ++ op.symbol ++ " ") [.word op.symbol] := by
  cases op <;> exact fun _ => rfl

theorem reads_condition (number : Nat) (c : Condition) :
    Reads (c.text number) (conditionTokens number c) := by
  cases c with
  | compare column op value =>
      have front := (complete_quoted column).append (reads_symbol op)
      have whole := front.append_reads (reads_place number)
      rw [Condition.text_compare]
      simpa [conditionTokens, String.append_assoc] using whole
  | isIn column first rest =>
      have opening : Complete " IN (" [.word "IN", .mark '('] := fun _ => rfl
      have closing : Complete ")" [.mark ')'] := fun _ => rfl
      have front := (complete_quoted column).append opening
      have places := front.append_reads (reads_places number (first :: rest))
      rw [Condition.text_isIn]
      exact (places.append_complete closing (by rintro c ⟨⟩; rfl) (by decide)).reads
  | isNull column =>
      have null : Reads "NULL" [.word "NULL"] := reads_keyword (by decide) rfl
      have front : Complete " IS " [.word "IS"] := fun _ => rfl
      simpa [Condition.text, Condition.fragments, Fragment.writeFrom, conditionTokens,
        String.append_assoc] using ((complete_quoted column).append front).append_reads null
  | notNull column =>
      have null : Reads "NULL" [.word "NULL"] := reads_keyword (by decide) rfl
      have front : Complete " IS NOT " [.word "IS", .word "NOT"] := fun _ => rfl
      simpa [Condition.text, Condition.fragments, Fragment.writeFrom, conditionTokens,
        String.append_assoc] using ((complete_quoted column).append front).append_reads null
  | never =>
      have zero : Reads "0" [.word "0"] := reads_keyword (by decide) rfl
      have front : Complete "1 = " [.word "1", .word "="] := fun _ => rfl
      simpa [Condition.text, Condition.fragments, Fragment.writeFrom, conditionTokens]
        using front.append_reads zero

theorem reads_whereText (next : Nat) (conditions : List Condition) :
    Reads (Statement.whereText next conditions) (whereTokens next conditions) := by
  unfold Statement.whereText whereTokens
  split
  · exact Complete.empty.reads
  · have opening : Complete " WHERE " [.word "WHERE"] := fun _ => rfl
    have conjunction : Complete " AND " [.word "AND"] := fun _ => rfl
    exact opening.append_reads (.intercalate conjunction (by rintro c ⟨⟩; rfl) (by decide)
      (forall₂_reads _ fun p _ => reads_condition p.1 p.2))

theorem reads_orderText (order : List (Identifier × Direction)) :
    Reads (Statement.orderText order) (orderTokens order) := by
  unfold Statement.orderText orderTokens
  split
  · exact Complete.empty.reads
  · have opening : Complete " ORDER BY " [.word "ORDER", .word "BY"] := fun _ => rfl
    have direction (d : Direction) : Reads (Statement.directionText d)
        [.word (Statement.directionText d)] := by
      cases d <;> exact reads_keyword (by decide) rfl
    have blank : Complete " " [] := fun _ => rfl
    refine opening.append_reads (reads_separated (forall₂_reads _ fun o _ => ?_))
    exact ((complete_quoted o.1).append blank).append_reads (direction o.2)

theorem reads_offsetText (offset : Option Int) :
    Reads (Statement.offsetText offset) (offsetTokens offset) := by
  cases offset with
  | none => exact Complete.empty.reads
  | some n =>
      have opening : Complete " OFFSET " [.word "OFFSET"] := fun _ => rfl
      exact opening.append_reads (reads_int n)

theorem reads_returningText (names : List Identifier) :
    Reads (Statement.returningText names) (returningTokens names) := by
  unfold Statement.returningText returningTokens
  split
  · exact Complete.empty.reads
  · have opening : Complete " RETURNING " [.word "RETURNING"] := fun _ => rfl
    exact opening.append_reads (reads_nameList names)

/-! ## Where clauses start

Every clause that may be missing starts with a blank, so that the word before it ends. -/

theorem atBreak_blank (s : String) : AtBreak (" " ++ s).toList := by
  rw [String.toList_append]
  exact AtBreak.append_left (by rintro c ⟨⟩; rfl) (by decide) _

theorem atBreak_whereText (next : Nat) (conditions : List Condition) :
    AtBreak (Statement.whereText next conditions).toList := by
  unfold Statement.whereText
  split
  · exact AtBreak.nil
  · rw [show " WHERE " = " " ++ "WHERE " from rfl, String.append_assoc]
    exact atBreak_blank _

theorem atBreak_orderText (order : List (Identifier × Direction)) :
    AtBreak (Statement.orderText order).toList := by
  unfold Statement.orderText
  split
  · exact AtBreak.nil
  · rw [show " ORDER BY " = " " ++ "ORDER BY " from rfl, String.append_assoc]
    exact atBreak_blank _

theorem atBreak_offsetText (offset : Option Int) :
    AtBreak (Statement.offsetText offset).toList := by
  cases offset with
  | none => exact AtBreak.nil
  | some n =>
      rw [Statement.offsetText, show " OFFSET " = " " ++ "OFFSET " from rfl, String.append_assoc]
      exact atBreak_blank _

theorem atBreak_returningText (names : List Identifier) :
    AtBreak (Statement.returningText names).toList := by
  unfold Statement.returningText
  split
  · exact AtBreak.nil
  · rw [show " RETURNING " = " " ++ "RETURNING " from rfl, String.append_assoc]
    exact atBreak_blank _

/-! ## Statements -/

/-- A statement reads back as what it was meant to say. -/
theorem tokens_sql (s : Statement) : tokens s.sql = statementTokens s := by
  apply Reads.tokens_eq
  cases s with
  | select columns table conditions order limit offset =>
      have selected : Complete "SELECT " [.word "SELECT"] := fun _ => rfl
      have from_ : Complete " FROM " [.word "FROM"] := fun _ => rfl
      have limited : Complete " LIMIT " [.word "LIMIT"] := fun _ => rfl
      have names := selected.append_reads (reads_nameList columns)
      have source := (names.append_complete from_ (by rintro c ⟨⟩; rfl) (by decide)).append
        (complete_quoted table)
      have conditions := source.append_reads (reads_whereText 1 conditions)
      have ordered := conditions.append (reads_orderText order) (atBreak_orderText order)
      have limit := (ordered.append_complete limited (by rintro c ⟨⟩; rfl) (by decide)).append_reads
        (reads_int limit)
      have whole := limit.append (reads_offsetText offset) (atBreak_offsetText offset)
      rw [Statement.sql_select]
      simpa [statementTokens] using whole
  | insert table assignments returning =>
      have inserted : Complete "INSERT INTO " [.word "INSERT", .word "INTO"] := fun _ => rfl
      have opened : Complete " (" [.mark '('] := fun _ => rfl
      have given : Complete ") VALUES (" [.mark ')', .word "VALUES", .mark '('] := fun _ => rfl
      have closed : Complete ")" [.mark ')'] := fun _ => rfl
      have target := (inserted.append (complete_quoted table)).append opened
      have columns := target.append_reads (reads_nameList (assignments.map Prod.fst))
      have values := (columns.append_complete given (by rintro c ⟨⟩; rfl) (by decide)).append_reads
        (reads_places 1 assignments)
      have whole := (values.append_complete closed (by rintro c ⟨⟩; rfl) (by decide)).append_reads
        (reads_returningText returning)
      rw [Statement.sql_insert]
      simpa [statementTokens] using whole
  | update table assignments conditions returning =>
      have updated : Complete "UPDATE " [.word "UPDATE"] := fun _ => rfl
      have set : Complete " SET " [.word "SET"] := fun _ => rfl
      have equals : Complete " = " [.word "="] := fun _ => rfl
      have target := (updated.append (complete_quoted table)).append set
      have assigned := target.append_reads (reads_separated
        (forall₂_reads (numberFrom (fun _ => 1) 1 assignments) fun p _ =>
          ((complete_quoted p.2.1).append equals).append_reads (reads_place p.1)))
      have conditions := assigned.append (reads_whereText (1 + assignments.length) conditions)
        (atBreak_whereText _ _)
      have whole := conditions.append (reads_returningText returning)
        (atBreak_returningText returning)
      rw [Statement.sql_update]
      simpa [statementTokens, setTokens, assignmentTokens] using whole
  | delete table conditions returning =>
      have deleted : Complete "DELETE FROM " [.word "DELETE", .word "FROM"] := fun _ => rfl
      have conditions := (deleted.append (complete_quoted table)).append_reads
        (reads_whereText 1 conditions)
      have whole := conditions.append (reads_returningText returning)
        (atBreak_returningText returning)
      rw [Statement.sql_delete]
      simpa [statementTokens] using whole

end Tenancy.Sql
