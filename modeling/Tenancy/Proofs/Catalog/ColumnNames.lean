/-
# Loose names of columns

The name of a column is made of words with underscores between them. It may be spelled loosely, with
blanks or hyphens for the underscores, or as one word with capitals where the words begin. A loose
spelling is the name again once it is read as an identifier. A spelling with capitals is read as an
identifier first, which joins the words without underscores, so it means the column of the joined
name if there is one. Only then are its words taken apart at the capitals.
-/

import Tenancy.Catalog.Demo
import Tenancy.Proofs.Catalog.Spelling
import Mathlib.Data.Bool.AllAny

namespace Tenancy

namespace Name

open Text

/-- A word of a name: a lowercase letter, then lowercase letters and digits. -/
structure Word where
  initial : Char
  rest : List Char
  initial_isNameStart : isNameStart initial = true
  rest_isNamePart : ∀ c ∈ rest, isNamePart c = true ∧ c ≠ '_'

namespace Word

/-- A word as it is. -/
def letters (w : Word) : List Char := w.initial :: w.rest

/-- A word with a capital. -/
def capitalised (w : Word) : List Char := w.initial.toUpper :: w.rest

/-- Words with underscores between them. -/
def snake (first : Word) (others : List Word) : String :=
  String.ofList (first.letters ++ others.flatMap fun w => '_' :: w.letters)

/-- Words without anything between them. -/
def joined (first : Word) (others : List Word) : String :=
  String.ofList (first.letters ++ others.flatMap letters)

/-- Words with capitals, the first excepted. -/
def camel (first : Word) (others : List Word) : String :=
  String.ofList (first.letters ++ others.flatMap capitalised)

/-- Words with capitals. -/
def pascal (first : Word) (others : List Word) : String :=
  String.ofList (first.capitalised ++ others.flatMap capitalised)

variable (w first : Word) (others : List Word)

theorem isNamePart_initial : isNamePart w.initial = true := by
  simp [isNamePart, w.initial_isNameStart]

theorem initial_ne : w.initial ≠ '_' := by
  intro h
  exact absurd (h ▸ w.initial_isNameStart) (by decide)

theorem isNamePart_of_mem {c : Char} (h : c ∈ w.letters) : isNamePart c = true ∧ c ≠ '_' := by
  rcases List.mem_cons.mp h with rfl | h
  · exact ⟨w.isNamePart_initial, w.initial_ne⟩
  · exact w.rest_isNamePart c h

theorem isNamePart_of_mem_joined {c : Char} (h : c ∈ (joined first others).toList) :
    isNamePart c = true ∧ c ≠ '_' := by
  rw [joined, String.toList_ofList] at h
  rcases List.mem_append.mp h with h | h
  · exact first.isNamePart_of_mem h
  · obtain ⟨w, -, hc⟩ := List.mem_flatMap.mp h
    exact w.isNamePart_of_mem hc

theorem parted_of_forall {cs : List Char} (h : ∀ c ∈ cs, isNamePart c = true ∧ c ≠ '_') :
    Parted cs where
  parts c hc := (h c hc).1
  first c hc := (h c (List.mem_of_mem_head? hc)).2
  last c hc := (h c (List.mem_of_mem_getLast? hc)).2
  single := by
    induction cs with
    | nil => exact .nil
    | cons c rest ih =>
        refine List.isChain_cons.mpr ⟨fun _ _ both => (h c (by simp)).2 both.1, ?_⟩
        exact ih fun d hd => h d (by simp [hd])

theorem parted_letters : Parted w.letters :=
  parted_of_forall fun _ h => w.isNamePart_of_mem h

theorem parted_joined : Parted (joined first others).toList :=
  parted_of_forall fun _ h => isNamePart_of_mem_joined first others h

/-- One more word, with an underscore before it. -/
theorem parted_append {cs : List Char} (h : Parted cs) (nonempty : cs ≠ []) :
    Parted (cs ++ '_' :: w.letters) where
  parts c hc := by
    rcases List.mem_append.mp hc with hc | hc
    · exact h.parts c hc
    · rcases List.mem_cons.mp hc with rfl | hc
      · decide
      · exact (w.isNamePart_of_mem hc).1
  first c hc := by
    cases cs with
    | nil => exact absurd rfl nonempty
    | cons d rest => exact h.first c hc
  last c hc := by
    rw [List.getLast?_append, letters, List.getLast?_cons_cons] at hc
    apply w.parted_letters.last
    rw [letters]
    simpa using hc
  single := by
    refine List.isChain_append.mpr ⟨h.single, List.isChain_cons.mpr ⟨?_, w.parted_letters.single⟩, ?_⟩
    · rintro c hc ⟨-, rfl⟩
      exact w.parted_letters.first _ hc rfl
    · rintro c hc d - ⟨rfl, -⟩
      exact h.last _ hc rfl

/-- Words with underscores between them are a name in parts. -/
theorem parted_snake : Parted (snake first others).toList := by
  rw [snake, String.toList_ofList]
  induction others using List.reverseRecOn with
  | nil => simpa using first.parted_letters
  | append_singleton others w ih =>
      have parted := w.parted_append ih (by simp [letters])
      simpa using parted

/-! ## Capitals -/

/-- The capital of a first letter is a capital, and that of no other letter. -/
theorem capital_of_isNameStart {c : Char} (h : isNameStart c = true) :
    c.toUpper.isUpper = true ∧ c.toUpper.toLower = c := by
  have part : isNamePart c = true := by simp [isNamePart, h]
  exact ascii_forall (P := fun c => isNameStart c = true →
    c.toUpper.isUpper = true ∧ c.toUpper.toLower = c) (by decide +kernel)
    (ascii_of_isNamePart part) h

theorem isUpper_of_isNamePart {c : Char} (h : isNamePart c = true) : c.isUpper = false :=
  ascii_forall (P := fun c => isNamePart c = true → c.isUpper = false) (by decide +kernel)
    (ascii_of_isNamePart h) h

theorem map_toLower_letters : w.letters.map Char.toLower = w.letters := by
  rw [List.map_congr_left fun c hc => toLower_of_isNamePart (w.isNamePart_of_mem hc).1, List.map_id']

theorem map_toLower_capitalised : w.capitalised.map Char.toLower = w.letters := by
  rw [← w.map_toLower_letters, capitalised, letters, List.map_cons, List.map_cons,
    (capital_of_isNameStart w.initial_isNameStart).2, toLower_of_isNamePart w.isNamePart_initial]

theorem map_toLower_camel :
    (camel first others).toList.map Char.toLower = (joined first others).toList := by
  simp [camel, joined, map_toLower_letters, map_toLower_capitalised, List.map_flatMap]

theorem map_toLower_pascal :
    (pascal first others).toList.map Char.toLower = (joined first others).toList := by
  simp [pascal, joined, map_toLower_capitalised, List.map_flatMap]

theorem splitCapitals_append (xs ys : List Char) :
    splitCapitals (xs ++ ys) = splitCapitals xs ++ splitCapitals ys := by
  induction xs with
  | nil => rfl
  | cons c rest ih =>
      rw [List.cons_append, splitCapitals, splitCapitals]
      split <;> simp [ih]

theorem splitCapitals_of_nameParts {cs : List Char} (h : ∀ c ∈ cs, isNamePart c = true) :
    splitCapitals cs = cs := by
  induction cs with
  | nil => rfl
  | cons c rest ih =>
      rw [splitCapitals, isUpper_of_isNamePart (h c (by simp)), if_neg Bool.false_ne_true,
        ih fun d hd => h d (by simp [hd])]

theorem splitCapitals_capitalised : splitCapitals w.capitalised = '_' :: w.letters := by
  obtain ⟨upper, lowered⟩ := capital_of_isNameStart w.initial_isNameStart
  rw [capitalised, splitCapitals, upper, if_pos rfl, lowered,
    splitCapitals_of_nameParts fun c hc => (w.rest_isNamePart c hc).1]
  rfl

theorem splitCapitals_flatMap :
    splitCapitals (others.flatMap capitalised) = others.flatMap fun w => '_' :: w.letters := by
  induction others with
  | nil => rfl
  | cons w rest ih =>
      rw [List.flatMap_cons, List.flatMap_cons, splitCapitals_append, splitCapitals_capitalised, ih]

/-! ## Readings of words with capitals -/

/-- As an identifier, words with capitals are joined. -/
theorem identifier_of_map_toLower {raw : String}
    (same : raw.toList.map Char.toLower = (joined first others).toList) :
    identifier raw = joined first others := by
  have lowered : (joined first others).toList.map Char.toLower = (joined first others).toList := by
    rw [List.map_congr_left, List.map_id']
    exact fun c hc => toLower_of_isNamePart (isNamePart_of_mem_joined first others hc).1
  apply identifier_of_spells (parted_joined first others)
  exact ⟨[], raw.toList, [], (joined first others).toList, .refl _, by rw [same, lowered],
    List.forall_mem_nil _, by simp⟩

/-- The reading with underscores for blanks joins them as well, there being no blanks. -/
theorem spaced_of_map_toLower {raw : String}
    (same : raw.toList.map Char.toLower = (joined first others).toList) :
    spaced raw = joined first others := by
  have parts : ∀ c ∈ (joined first others).toList, isNamePart c = true :=
    fun c hc => (isNamePart_of_mem_joined first others hc).1
  have ascii : ∀ c ∈ raw.toList, c.toNat < 128 := fun c hc =>
    ascii_of_toLower (ascii_of_isNamePart (parts _ (same ▸ List.mem_map_of_mem hc)))
  have squeezed : squeeze isBlank '_' (joined first others).toList = (joined first others).toList :=
    squeezeFrom_of_forall_not _ _ _ _ fun c hc => isBlank_of_isNamePart (parts c hc)
  rw [spaced, onText, lower_of_ascii ascii, same, squeezed, String.ofList_toList]

theorem lower_snake : lower (snake first others).toList = (snake first others).toList :=
  lowerFrom_of_nameParts (parted_snake first others).parts []

theorem dropWhile_snake :
    (snake first others).toList.dropWhile (· == '_') = (snake first others).toList :=
  dropWhile_of_head? fun c hc => by simpa using (parted_snake first others).first c hc

/-- Taken apart at its capitals, a spelling with capitals has underscores between its words. -/
theorem uncamel_camel : uncamel (camel first others) = snake first others := by
  have split : splitCapitals (camel first others).toList = (snake first others).toList := by
    rw [camel, snake, String.toList_ofList, String.toList_ofList, splitCapitals_append,
      splitCapitals_flatMap, splitCapitals_of_nameParts fun c hc => (first.isNamePart_of_mem hc).1]
  rw [uncamel, onText, split, dropWhile_snake, lower_snake, String.ofList_toList]

/-- The underscore before the first word is dropped. -/
theorem uncamel_pascal : uncamel (pascal first others) = snake first others := by
  have split : splitCapitals (pascal first others).toList = '_' :: (snake first others).toList := by
    rw [pascal, snake, String.toList_ofList, String.toList_ofList, splitCapitals_append,
      splitCapitals_flatMap, splitCapitals_capitalised, List.cons_append]
  rw [uncamel, onText, split, List.dropWhile_cons, if_pos (by rfl), dropWhile_snake, lower_snake,
    String.ofList_toList]

end Word

end Name

/-! ## Columns -/

namespace Table

open Name Word

variable {t : Table} {first : Word} {others : List Word} {raw : String}

/-- A loose spelling of the name of a column means the column. -/
theorem resolve?_of_spells {name : String} (parted : Parted name.toList)
    (hcolumn : t.hasColumn name = true) (spells : Spells raw name) : t.resolve? raw = some name := by
  rw [resolve?, identifier_of_spells parted spells, List.find?_cons_of_pos hcolumn]

/-- A spelling with capitals means the column of the joined name before it means that of the words
with underscores. -/
theorem resolve?_of_capitals (hcolumn : t.hasColumn (snake first others) = true)
    (same : raw.toList.map Char.toLower = (joined first others).toList)
    (apart : uncamel raw = snake first others) :
    t.resolve? raw =
      some (if t.hasColumn (joined first others) then joined first others
        else snake first others) := by
  rw [resolve?, identifier_of_map_toLower first others same, spaced_of_map_toLower first others same,
    apart]
  split
  case isTrue hjoined => rw [List.find?_cons_of_pos hjoined]
  case isFalse hjoined =>
    rw [List.find?_cons_of_neg hjoined, List.find?_cons_of_neg hjoined,
      List.find?_cons_of_pos hcolumn]

end Table

namespace Catalog

open Name Word

/-- **Loose spellings of a column mean the column.** In a table of a catalog, whatever is written
for the underscores of a column, with capitals or with blanks around it, means the column. Written
as one word with capitals it means the column too, unless there is a column of the joined name.
And nothing that is written means anything but a column of the table. -/
theorem loose_column_names_resolve {c : Catalog} {table : String} {t : Table}
    (found : c.table? table = some t) :
    (∀ first others, t.hasColumn (snake first others) = true →
      (∀ raw, Spells raw (snake first others) →
        c.resolveColumn? table raw = some (snake first others)) ∧
      ∀ raw, raw = camel first others ∨ raw = pascal first others →
        c.resolveColumn? table raw =
          some (if t.hasColumn (joined first others) then joined first others
            else snake first others)) ∧
      ∀ raw name, c.resolveColumn? table raw = some name →
        ∃ column ∈ t.columns, column.name = name := by
  have resolves (raw : String) : c.resolveColumn? table raw = t.resolve? raw := by
    rw [resolveColumn?, found, Option.bind_some]
  refine ⟨fun first others hcolumn => ⟨?spelled, ?capitals⟩, ?columns⟩
  case spelled =>
    intro raw spells
    rw [resolves]
    exact Table.resolve?_of_spells (parted_snake first others) hcolumn spells
  case capitals =>
    intro raw capitals
    rw [resolves]
    rcases capitals with rfl | rfl
    · exact Table.resolve?_of_capitals hcolumn (map_toLower_camel first others)
        (uncamel_camel first others)
    · exact Table.resolve?_of_capitals hcolumn (map_toLower_pascal first others)
        (uncamel_pascal first others)
  case columns =>
    intro raw name h
    rw [resolves] at h
    have hcolumn := Table.hasColumn_of_resolve? h
    simpa [Table.hasColumn, Table.columnNames] using hcolumn

/-- The words of the name of a column of the demo schema. -/
def customerWord : Word :=
  ⟨'c', "ustomer".toList, by decide, List.all_iff_forall_prop.mp (by decide)⟩

/-- The second of them. -/
def nameWord : Word :=
  ⟨'n', "ame".toList, by decide, List.all_iff_forall_prop.mp (by decide)⟩

theorem spells_customer_name : Spells "\tCustomer - NAME" (snake customerWord [nameWord]) := by
  have spaced : Spaced ("customer".toList ++ '_' :: "name".toList)
      ("customer".toList ++ (" - ".toList ++ "name".toList)) :=
    (Spaced.refl _).append
      (.gap (by decide) (List.all_iff_forall_prop.mp (by decide)) (.refl _))
  exact ⟨['\t'], "Customer - NAME".toList, [], _, spaced, by decide,
    List.all_eq_true.mp (by decide), by decide⟩

theorem loose_customer_name_resolves :
    ∃ t, (build demoTables "").table? "booking_orders" = some t ∧
      t.hasColumn (snake customerWord [nameWord]) = true ∧
      Spells "\tCustomer - NAME" (snake customerWord [nameWord]) ∧
      (build demoTables "").resolveColumn? "booking_orders" "\tCustomer - NAME" =
        some "customer_name" ∧
      (build demoTables "").resolveColumn? "booking_orders" "customerName" = some "customer_name" ∧
      (build demoTables "").resolveColumn? "booking_orders" "CustomerName" =
        some "customer_name" := by
  have columns : ((build demoTables "").table? "booking_orders").any fun t =>
      t.hasColumn (snake customerWord [nameWord]) && !t.hasColumn (joined customerWord [nameWord]) :=
    by decide +kernel
  obtain ⟨t, found, hcolumns⟩ := Option.any_eq_true _ _ |>.mp columns
  obtain ⟨hsnake, hjoined⟩ := Bool.and_eq_true_iff.mp hcolumns
  rw [Bool.not_eq_true'] at hjoined
  obtain ⟨spelled, capitals⟩ := (loose_column_names_resolve found).1 customerWord [nameWord] hsnake
  have name : snake customerWord [nameWord] = "customer_name" := by decide
  have camelled := capitals "customerName" (.inl (by decide))
  have pascalled := capitals "CustomerName" (.inr (by decide))
  rw [hjoined, if_neg Bool.false_ne_true, name] at camelled pascalled
  have loose := spelled _ spells_customer_name
  rw [name] at loose
  exact ⟨t, found, hsnake, spells_customer_name, loose, camelled, pascalled⟩

end Catalog

end Tenancy
