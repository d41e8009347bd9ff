/-
# The text of statements

A statement is written by numbering the places of its fragments from left to right. Here the
numbering is pushed down to the parts a reader of the text cares about: the text of a
statement is fixed keywords around comma-separated names, numbered assignments and numbered
conditions, and the number of every part is one more than the number of values before it.
-/

import Tenancy.Statement.Basic

namespace Tenancy

/-- Items with the number of their first place, when the first item starts at `next` and every
item takes as many places as `size` says. -/
def numberFrom {α : Type} (size : α → Nat) (next : Nat) : List α → List (Nat × α)
  | [] => []
  | item :: rest => (next, item) :: numberFrom size (next + size item) rest

section Numbering

variable {α : Type} (size : α → Nat)

@[simp] theorem numberFrom_nil (next : Nat) : numberFrom size next [] = [] := rfl

@[simp] theorem numberFrom_cons (next : Nat) (item : α) (rest : List α) :
    numberFrom size next (item :: rest) =
      (next, item) :: numberFrom size (next + size item) rest := rfl

/-- Numbering keeps the items and their order. -/
@[simp] theorem map_snd_numberFrom (next : Nat) (items : List α) :
    (numberFrom size next items).map Prod.snd = items := by
  induction items generalizing next with
  | nil => rfl
  | cons item rest ih => simp [ih]

/-- A numbered item is one of the items. -/
theorem mem_of_mem_numberFrom {next : Nat} {items : List α} {p : Nat × α}
    (h : p ∈ numberFrom size next items) : p.2 ∈ items := by
  have := List.mem_map_of_mem (f := Prod.snd) h
  rwa [map_snd_numberFrom] at this

/-- Every item is numbered. -/
theorem exists_mem_numberFrom {items : List α} {item : α} (h : item ∈ items) (next : Nat) :
    ∃ number, (number, item) ∈ numberFrom size next items := by
  rw [← map_snd_numberFrom size next items] at h
  obtain ⟨⟨number, found⟩, hp, rfl⟩ := List.mem_map.mp h
  exact ⟨number, hp⟩

/-- When every item takes one place, numbers count the items. -/
theorem getElem?_numberFrom_one (next : Nat) (items : List α) (i : Nat) :
    (numberFrom (fun _ => 1) next items)[i]? = items[i]?.map fun item => (next + i, item) := by
  induction items generalizing next i with
  | nil => simp
  | cons item rest ih =>
      cases i with
      | zero => simp
      | succ i => simp [ih, Nat.add_assoc, Nat.add_comm 1 i]

/-- The values of a numbered item stand among the values of all items, after as many values as
its number has moved on from the first one. -/
theorem values_of_mem_numberFrom {β : Type} (values : α → List β) {next : Nat} {items : List α}
    {p : Nat × α} (h : p ∈ numberFrom (fun item => (values item).length) next items) :
    ∃ before after, items.flatMap values = before ++ (values p.2 ++ after) ∧
      p.1 = next + before.length := by
  induction items generalizing next with
  | nil => simp at h
  | cons item rest ih =>
      rcases List.mem_cons.mp h with rfl | h
      · exact ⟨[], rest.flatMap values, by simp, by simp⟩
      · obtain ⟨before, after, hvalues, hnumber⟩ := ih h
        refine ⟨values item ++ before, after, ?_, ?_⟩
        · simp [hvalues]
        · rw [hnumber, List.length_append, Nat.add_assoc]

end Numbering

namespace Fragment

variable {α : Type}

/-- Separated groups are written with the separator between them, each group numbered from its
own first place. -/
theorem writeFrom_separated (separator : String) (f : α → List Fragment) (next : Nat)
    (items : List α) :
    writeFrom next (separated separator (items.map f)) =
      separator.intercalate
        ((numberFrom (fun item => (values (f item)).length) next items).map fun p =>
          writeFrom p.1 (f p.2)) := by
  induction items generalizing next with
  | nil => rfl
  | cons item rest ih =>
      cases rest with
      | nil => simp [separated]
      | cons second rest =>
          have tail := ih (next + (values (f item)).length)
          simp only [List.map_cons, numberFrom_cons] at tail ⊢
          rw [separated, writeFrom_append, String.intercalate_cons_cons, writeFrom, tail,
            String.append_assoc]

/-- Separated groups carry the values of the groups. -/
theorem values_separated (separator : String) (f : α → List Fragment) (items : List α) :
    values (separated separator (items.map f)) = items.flatMap fun item => values (f item) := by
  induction items with
  | nil => rfl
  | cons item rest ih =>
      cases rest with
      | nil => simp [separated]
      | cons second rest =>
          simp only [List.map_cons, List.flatMap_cons] at ih ⊢
          rw [separated, values_append, values_cons_text, ih]

end Fragment

/-- The text of the place of a value. -/
def placeText (number : Nat) : String :=
  "$" ++ toString number

namespace Condition

/-- A condition carries the values of its fragments. -/
theorem values_fragments (c : Condition) : Fragment.values c.fragments = c.values := by
  cases c with
  | isIn column first rest =>
      have slots := Fragment.values_separated ", " (fun v => [.slot v]) (first :: rest)
      rw [fragments, values, Fragment.values_cons_text, Fragment.values_append, slots]
      simp [Fragment.values]
  | _ => rfl

/-- The text of a condition whose first place has the given number. -/
def text (number : Nat) (c : Condition) : String :=
  Fragment.writeFrom number c.fragments

/-- The number of places a condition takes. -/
def size (c : Condition) : Nat :=
  c.values.length

theorem text_compare (number : Nat) (column : Identifier) (op : Comparison) (value : Value) :
    text number (.compare column op value) =
      column.quoted ++ " " ++ op.symbol ++ " " ++ placeText number := by
  simp [text, fragments, Fragment.writeFrom, placeText]

theorem text_isIn (number : Nat) (column : Identifier) (first : Value) (rest : List Value) :
    text number (.isIn column first rest) =
      column.quoted ++ " IN (" ++
        ", ".intercalate ((numberFrom (fun _ => 1) number (first :: rest)).map fun p =>
          placeText p.1) ++ ")" := by
  have slots := Fragment.writeFrom_separated ", " (fun v => [.slot v]) number (first :: rest)
  rw [text, fragments, Fragment.writeFrom, Fragment.writeFrom_append, slots]
  simp [Fragment.writeFrom, Fragment.values, placeText, String.append_assoc]

end Condition

namespace Statement

/-- Conditions with the numbers of their first places. -/
def numbered (next : Nat) (conditions : List Condition) : List (Nat × Condition) :=
  numberFrom Condition.size next conditions

/-- The text of conditions whose first place has the given number; nothing when there is no
condition. -/
def whereText (next : Nat) (conditions : List Condition) : String :=
  if conditions.isEmpty then ""
  else " WHERE " ++ " AND ".intercalate ((numbered next conditions).map fun p => p.2.text p.1)

theorem writeFrom_whereFragments (next : Nat) (conditions : List Condition) :
    Fragment.writeFrom next (whereFragments conditions) = whereText next conditions := by
  unfold whereFragments whereText
  split
  · rfl
  · rw [Fragment.writeFrom, Fragment.writeFrom_separated]
    simp only [numbered, Condition.values_fragments, Condition.text]
    rfl

theorem values_whereFragments (conditions : List Condition) :
    Fragment.values (whereFragments conditions) = conditions.flatMap Condition.values := by
  unfold whereFragments
  split
  · rename_i h
    simp [List.isEmpty_iff.mp h, Fragment.values]
  · rw [Fragment.values_cons_text, Fragment.values_separated]
    simp only [Condition.values_fragments]

/-! ## What is written, kind by kind -/

theorem sql_select (columns : List Identifier) (table : Identifier) (conditions : List Condition)
    (order : List (Identifier × Direction)) (limit : Int) (offset : Option Int) :
    sql (.select columns table conditions order limit offset) =
      "SELECT " ++ nameList columns ++ " FROM " ++ table.quoted ++ whereText 1 conditions ++
        orderText order ++ " LIMIT " ++ toString limit ++ offsetText offset := by
  rw [sql, Fragment.write, fragments, Fragment.writeFrom, Fragment.writeFrom_append,
    writeFrom_whereFragments]
  simp [Fragment.writeFrom, String.append_assoc]

theorem sql_insert (table : Identifier) (assignments : List (Identifier × Value))
    (returning : List Identifier) :
    sql (.insert table assignments returning) =
      "INSERT INTO " ++ table.quoted ++ " (" ++ nameList (assignments.map Prod.fst) ++
        ") VALUES (" ++
        ", ".intercalate ((numberFrom (fun _ => 1) 1 assignments).map fun p => placeText p.1) ++
        ")" ++ returningText returning := by
  have slots := Fragment.writeFrom_separated ", "
    (fun a : Identifier × Value => [.slot a.2]) 1 assignments
  rw [sql, Fragment.write, fragments, Fragment.writeFrom, Fragment.writeFrom_append, slots]
  simp [Fragment.writeFrom, Fragment.values, placeText, String.append_assoc]

theorem sql_update (table : Identifier) (assignments : List (Identifier × Value))
    (conditions : List Condition) (returning : List Identifier) :
    sql (.update table assignments conditions returning) =
      "UPDATE " ++ table.quoted ++ " SET " ++
        ", ".intercalate ((numberFrom (fun _ => 1) 1 assignments).map fun p =>
          p.2.1.quoted ++ " = " ++ placeText p.1) ++
        whereText (1 + assignments.length) conditions ++ returningText returning := by
  have slots := Fragment.writeFrom_separated ", "
    (fun a : Identifier × Value => [.text (a.1.quoted ++ " = "), .slot a.2]) 1 assignments
  have carried := Fragment.values_separated ", "
    (fun a : Identifier × Value => [.text (a.1.quoted ++ " = "), .slot a.2]) assignments
  rw [sql, Fragment.write, fragments, Fragment.writeFrom, Fragment.writeFrom_append,
    Fragment.writeFrom_append, writeFrom_whereFragments, slots, carried]
  simp [Fragment.writeFrom, Fragment.values, placeText, String.append_assoc,
    ← List.map_eq_flatMap]

theorem sql_delete (table : Identifier) (conditions : List Condition)
    (returning : List Identifier) :
    sql (.delete table conditions returning) =
      "DELETE FROM " ++ table.quoted ++ whereText 1 conditions ++ returningText returning := by
  rw [sql, Fragment.write, fragments, Fragment.writeFrom, Fragment.writeFrom_append,
    writeFrom_whereFragments]
  simp [Fragment.writeFrom, String.append_assoc]

/-! ## The parameters -/

/-- The values that a statement writes, by column. -/
def assignments : Statement → List (Identifier × Value)
  | .insert _ assignments _ => assignments
  | .update _ assignments .. => assignments
  | _ => []

/-- The conditions of a statement. -/
def conditions : Statement → List Condition
  | .select _ _ conditions .. => conditions
  | .update _ _ conditions _ => conditions
  | .delete _ conditions _ => conditions
  | .insert .. => []

/-- The conditions of a statement with the numbers of their first places, which come after the
places of the values it writes. -/
def numberedConditions (s : Statement) : List (Nat × Condition) :=
  numbered (1 + s.assignments.length) s.conditions

/-- The parameters are the values that are written, and then those of the conditions. -/
theorem params_eq (s : Statement) :
    s.params = s.assignments.map Prod.snd ++ s.conditions.flatMap Condition.values := by
  cases s with
  | select | delete =>
      simp [params, fragments, values_whereFragments, Fragment.values, assignments, conditions]
  | insert table assigned returning =>
      rw [params, fragments, Fragment.values_cons_text, Fragment.values_append,
        Fragment.values_separated]
      simp [Fragment.values, ← List.map_eq_flatMap, assignments, conditions]
  | update table assigned conditions returning =>
      rw [params, fragments, Fragment.values_cons_text, Fragment.values_append,
        Fragment.values_append, values_whereFragments, Fragment.values_separated]
      simp [Fragment.values, ← List.map_eq_flatMap, assignments, Statement.conditions]

/-- The place of a value that is written is the place of its parameter. -/
theorem getElem?_params_of_assignment {s : Statement} {i : Nat} {a : Identifier × Value}
    (h : s.assignments[i]? = some a) : s.params[i]? = some a.2 := by
  have bound : i < (s.assignments.map Prod.snd).length := by
    simpa using (List.getElem?_eq_some_iff.mp h).1
  rw [params_eq, List.getElem?_append_left bound, List.getElem?_map, h]
  rfl

/-- The values of a condition are the parameters that its number points at. -/
theorem params_of_numbered {s : Statement} {p : Nat × Condition}
    (h : p ∈ s.numberedConditions) :
    ∃ before after, s.params = before ++ (p.2.values ++ after) ∧ p.1 = before.length + 1 := by
  obtain ⟨before, after, hvalues, hnumber⟩ := values_of_mem_numberFrom Condition.values h
  refine ⟨s.assignments.map Prod.snd ++ before, after, ?_, ?_⟩
  · rw [params_eq, hvalues, List.append_assoc]
  · rw [hnumber, List.length_append, List.length_map]
    omega

/-- The one value of a condition is the parameter that its number points at. -/
theorem getElem?_params_of_numbered {s : Statement} {number : Nat} {c : Condition} {v : Value}
    (h : (number, c) ∈ s.numberedConditions) (hv : c.values = [v]) :
    0 < number ∧ s.params[number - 1]? = some v := by
  obtain ⟨before, after, hparams, hnumber⟩ := params_of_numbered h
  have hnumber : number = before.length + 1 := hnumber
  rw [hparams, hnumber, hv]
  simp

end Statement

end Tenancy
