/-
# The index of a catalog

A catalog is built by registering tables one after the other, and every table enters several
spellings of its name into the index. The spellings of different tables may coincide in any way: the
singular of one may be the name of another. This module shows that the index is nothing but the list
of the tables, searched from the front: a phrase means the first table that goes by it. So a phrase
never leads out of the catalog, and tables that are registered later never take a phrase over.

The list of tables is what was to be registered without the tables that have no name and without
those whose name was taken.
-/

import Tenancy.Catalog.Basic
import Tenancy.Proofs.Named
import Mathlib.Data.List.Basic

namespace Tenancy

/-- Whether a phrase is one under which a table is entered into an index. -/
def Table.goesBy (t : Table) (phrase : String) : Bool :=
  (Catalog.spellings t.name).any fun s => Name.phrase s == phrase

theorem Table.goesBy_iff {t : Table} {phrase : String} :
    t.goesBy phrase = true ↔ ∃ s ∈ Catalog.spellings t.name, Name.phrase s = phrase := by
  simp [goesBy]

/-- The five spellings of the name of a table, as phrases: the name, the name with spaces for its
underscores, its singular, that with spaces, and the name without underscores. -/
def Table.Spelled (t : Table) (phrase : String) : Prop :=
  phrase = Name.phrase t.name ∨ phrase = Name.phrase (Name.unscored t.name) ∨
    phrase = Name.phrase (Name.singular t.name) ∨
    phrase = Name.phrase (Name.unscored (Name.singular t.name)) ∨
    phrase = Name.phrase (Name.squashed t.name)

/-- A table is entered under its five spellings and under nothing else. -/
theorem Table.goesBy_iff_spelled {t : Table} {phrase : String} :
    t.goesBy phrase = true ↔ t.Spelled phrase := by
  simp [goesBy_iff, Spelled, Catalog.spellings, eq_comm (a := phrase)]

/-- A table goes by its own name. -/
theorem Table.goesBy_name (t : Table) : t.goesBy (Name.phrase t.name) = true :=
  goesBy_iff.mpr ⟨t.name, by simp [Catalog.spellings], rfl⟩

namespace Catalog

variable {c : Catalog} {aliases : List (String × String)}

theorem alias?_eq_get? (c : Catalog) (phrase : String) :
    c.alias? phrase = Named.get? c.aliases phrase := rfl

theorem resolveTable?_eq (c : Catalog) (raw : String) :
    c.resolveTable? raw =
      if Name.phrase raw = "" then none
      else (c.alias? (Name.phrase raw)).or (c.alias? (Name.phrase (Name.identifier raw))) := by
  have first : (c.alias? (Name.phrase raw) <|> c.alias? (Name.phrase (Name.identifier raw))) =
      (c.alias? (Name.phrase raw)).or (c.alias? (Name.phrase (Name.identifier raw))) := by
    cases c.alias? (Name.phrase raw) <;> rfl
  simp only [resolveTable?, first, String.isEmpty_iff]

/-! ## Entering phrases -/

theorem addAlias_eq (aliases : List (String × String)) (spelling table : String) :
    addAlias aliases spelling table =
      if Name.phrase spelling = "" ∨ Name.phrase spelling ∈ aliases.map Prod.fst then aliases
      else aliases ++ [(Name.phrase spelling, table)] := by
  have taken : ((Name.phrase spelling).isEmpty || aliases.any fun a => a.1 == Name.phrase spelling) =
      true ↔ Name.phrase spelling = "" ∨ Name.phrase spelling ∈ aliases.map Prod.fst := by
    simp
  simp only [addAlias, taken]

/-- An entry means the table unless the phrase meant something before. -/
theorem get?_addAlias (aliases : List (String × String)) (spelling table phrase : String) :
    Named.get? (addAlias aliases spelling table) phrase =
      (Named.get? aliases phrase).or
        (if phrase ≠ "" ∧ Name.phrase spelling = phrase then some table else none) := by
  rw [addAlias_eq]
  split
  case isTrue h =>
    split
    case isFalse => rw [Option.or_none]
    case isTrue entered =>
      -- The phrase is not blank, so it was taken and keeps its meaning.
      obtain ⟨nonempty, rfl⟩ := entered
      obtain ⟨name, taken⟩ := Named.exists_get?_of_mem (h.resolve_left nonempty)
      rw [taken, Option.some_or]
  case isFalse h =>
    rw [Named.get?_append, Named.get?_cons]
    by_cases entered : Name.phrase spelling = phrase
    · subst entered
      simp [not_or.mp h]
    · simp [entered, Named.get?]

theorem nodup_addAlias (h : (aliases.map Prod.fst).Nodup) (spelling table : String) :
    ((addAlias aliases spelling table).map Prod.fst).Nodup := by
  rw [addAlias_eq]
  split
  case isTrue => exact h
  case isFalse fresh =>
    rw [List.map_append]
    refine List.nodup_append.mpr ⟨h, List.nodup_cons.mpr ⟨List.not_mem_nil, List.nodup_nil⟩, ?_⟩
    rintro phrase hphrase other hother rfl
    obtain rfl : phrase = Name.phrase spelling := List.mem_singleton.mp hother
    exact fresh (.inr hphrase)

theorem get?_addAliases (spellings : List String) (aliases : List (String × String))
    (table phrase : String) :
    Named.get? (spellings.foldl (fun aliases s => addAlias aliases s table) aliases) phrase =
      (Named.get? aliases phrase).or
        (if phrase ≠ "" ∧ (spellings.any fun s => Name.phrase s == phrase) = true then some table
          else none) := by
  induction spellings generalizing aliases with
  | nil => simp
  | cons s rest ih =>
      rw [List.foldl_cons, ih, get?_addAlias, Option.or_assoc]
      congr 1
      by_cases nonempty : phrase = "" <;> by_cases entered : Name.phrase s = phrase <;>
        simp [nonempty, entered]

theorem nodup_addAliases (spellings : List String) (h : (aliases.map Prod.fst).Nodup)
    (table : String) :
    ((spellings.foldl (fun aliases s => addAlias aliases s table) aliases).map Prod.fst).Nodup := by
  induction spellings generalizing aliases with
  | nil => exact h
  | cons s rest ih =>
      rw [List.foldl_cons]
      exact ih (nodup_addAlias h s table)

/-! ## Registering tables -/

/-- Whether a catalog takes a table when it is registered. -/
def takes (c : Catalog) (t : Table) : Prop :=
  t.name ≠ "" ∧ ∀ u ∈ c.tables, u.name ≠ t.name

theorem register_of_takes {t : Table} (h : c.takes t) :
    c.register t =
      { c with
        tables := c.tables ++ [t]
        aliases := (spellings t.name).foldl (fun aliases s => addAlias aliases s t.name)
          c.aliases } := by
  have fresh : (t.name.isEmpty || c.tables.any fun u => u.name == t.name) = false := by
    simpa [takes] using h
  rw [register, fresh]
  rfl

theorem tables_register {t : Table} (h : c.takes t) :
    (c.register t).tables = c.tables ++ [t] := by
  rw [register_of_takes h]

theorem aliases_register {t : Table} (h : c.takes t) :
    (c.register t).aliases =
      (spellings t.name).foldl (fun aliases s => addAlias aliases s t.name) c.aliases := by
  rw [register_of_takes h]

theorem register_of_not_takes {t : Table} (h : ¬ c.takes t) : c.register t = c := by
  have taken : (t.name.isEmpty || c.tables.any fun u => u.name == t.name) = true := by
    rw [← Bool.not_eq_false]
    exact fun fresh => h (by simpa [takes] using fresh)
  rw [register, taken]
  rfl

/-- A table that is taken adds the phrases that meant nothing before. -/
theorem alias?_register {t : Table} (h : c.takes t) (phrase : String) :
    (c.register t).alias? phrase =
      (c.alias? phrase).or (if phrase ≠ "" ∧ t.goesBy phrase then some t.name else none) := by
  rw [alias?_eq_get?, aliases_register h, get?_addAliases]
  rfl

/-- Registering a table leaves alone what every phrase means. -/
theorem alias?_register_of_eq_some {phrase name : String} (h : c.alias? phrase = some name)
    (t : Table) : (c.register t).alias? phrase = some name := by
  by_cases taken : c.takes t
  · rw [alias?_register taken, h, Option.some_or]
  · rwa [register_of_not_takes taken]

/-! ## The index -/

/-- The first table that goes by a phrase is the one before which no table is spelled so. -/
theorem find?_goesBy_eq_some_iff {tables : List Table} {phrase : String} {t : Table} :
    tables.find? (Table.goesBy · phrase) = some t ↔
      ∃ earlier later, tables = earlier ++ t :: later ∧ (∀ u ∈ earlier, ¬ u.Spelled phrase) ∧
        t.Spelled phrase := by
  rw [List.find?_eq_some_iff_append, Table.goesBy_iff_spelled]
  simp only [Bool.not_eq_true', ← Bool.not_eq_true, Table.goesBy_iff_spelled]
  constructor
  · rintro ⟨spelled, earlier, later, htables, hearlier⟩
    exact ⟨earlier, later, htables, hearlier, spelled⟩
  · rintro ⟨earlier, later, htables, hearlier, spelled⟩
    exact ⟨spelled, earlier, later, htables, hearlier⟩

/-- A catalog whose index is the list of its tables, searched from the front. No phrase stands in it
twice. -/
structure Indexed (c : Catalog) : Prop where
  alias?_eq : ∀ phrase, c.alias? phrase =
    if phrase = "" then none else (c.tables.find? (Table.goesBy · phrase)).map Table.name
  nodup : (c.aliases.map Prod.fst).Nodup

namespace Indexed

theorem empty (tenantColumn : String) : (Catalog.empty tenantColumn).Indexed where
  alias?_eq phrase := by simp [Catalog.empty, alias?]
  nodup := List.nodup_nil

theorem register (h : c.Indexed) (t : Table) : (c.register t).Indexed := by
  by_cases taken : c.takes t
  case neg => rwa [register_of_not_takes taken]
  case pos =>
    constructor
    case alias?_eq =>
      intro phrase
      rw [alias?_register taken, h.alias?_eq, tables_register taken, List.find?_append]
      by_cases nonempty : phrase = ""
      · simp [nonempty]
      · cases c.tables.find? (Table.goesBy · phrase) <;>
          by_cases goes : t.goesBy phrase <;> simp [nonempty, goes]
    case nodup =>
      rw [aliases_register taken]
      exact nodup_addAliases (spellings t.name) h.nodup t.name

/-- A phrase that is entered means the table it is entered for. -/
theorem mem_aliases_iff (h : c.Indexed) {phrase name : String} :
    (phrase, name) ∈ c.aliases ↔ c.alias? phrase = some name :=
  Named.mem_iff_get? h.nodup

/-- A phrase means the first table that goes by it. -/
theorem alias?_eq_some_iff (h : c.Indexed) {phrase name : String} :
    c.alias? phrase = some name ↔
      phrase ≠ "" ∧ ∃ t, c.tables.find? (Table.goesBy · phrase) = some t ∧ t.name = name := by
  rw [h.alias?_eq]
  split <;> simp_all

/-- A phrase means something when some table goes by it. -/
theorem mem_phrases_iff (h : c.Indexed) {phrase : String} :
    phrase ∈ c.aliases.map Prod.fst ↔
      phrase ≠ "" ∧ ∃ t ∈ c.tables, t.goesBy phrase := by
  rw [List.mem_map]
  constructor
  · rintro ⟨⟨_, name⟩, hmem, rfl⟩
    obtain ⟨nonempty, t, found, -⟩ := h.alias?_eq_some_iff.mp (h.mem_aliases_iff.mp hmem)
    exact ⟨nonempty, t, List.mem_of_find?_eq_some found, by simpa using List.find?_some found⟩
  · rintro ⟨nonempty, t, ht, goes⟩
    cases hfound : c.tables.find? (Table.goesBy · phrase) with
    | none => exact absurd goes (List.find?_eq_none.mp hfound t ht)
    | some u =>
        have means := h.alias?_eq_some_iff.mpr ⟨nonempty, u, hfound, rfl⟩
        exact ⟨(phrase, u.name), h.mem_aliases_iff.mpr means, rfl⟩

/-- A phrase that means something means a table of the catalog. -/
theorem exists_of_alias? (h : c.Indexed) {phrase name : String}
    (halias : c.alias? phrase = some name) : ∃ t ∈ c.tables, t.name = name := by
  obtain ⟨-, t, found, hname⟩ := h.alias?_eq_some_iff.mp halias
  exact ⟨t, List.mem_of_find?_eq_some found, hname⟩

/-- A loose name that means something means a table of the catalog. -/
theorem exists_of_resolveTable? (h : c.Indexed) {raw name : String}
    (hresolve : c.resolveTable? raw = some name) : ∃ t ∈ c.tables, t.name = name := by
  rw [resolveTable?_eq] at hresolve
  split at hresolve
  · cases hresolve
  · rcases Option.or_eq_some_iff.mp hresolve with first | ⟨-, second⟩
    · exact h.exists_of_alias? first
    · exact h.exists_of_alias? second

/-- A table is reached under its own name, though it may be another table that is reached. -/
theorem exists_resolveTable?_name (h : c.Indexed) {t : Table} (ht : t ∈ c.tables)
    (nonblank : Name.phrase t.name ≠ "") :
    ∃ name, c.resolveTable? t.name = some name := by
  have entered := h.mem_phrases_iff.mpr ⟨nonblank, t, ht, t.goesBy_name⟩
  obtain ⟨⟨phrase, name⟩, hmem, hphrase⟩ := List.mem_map.mp entered
  have means : c.alias? (Name.phrase t.name) = some name := by
    rw [← hphrase]
    exact h.mem_aliases_iff.mp hmem
  exact ⟨name, by rw [resolveTable?_eq, if_neg nonblank, means, Option.some_or]⟩

end Indexed

/-! ## Building -/

theorem indexed_build (tables : List Table) (tenantColumn : String) :
    (build tables tenantColumn).Indexed :=
  List.foldlRecOn tables _ (.empty tenantColumn) fun _ h t _ => h.register t

/-- The tables with a name, the first of each name, in order. -/
def firsts (tables : List Table) : List Table :=
  (tables.filter fun t => t.name ≠ "").eraseDupsBy fun t u => t.name == u.name

theorem firsts_cons_of_nameless {t : Table} (h : t.name = "") (tables : List Table) :
    firsts (t :: tables) = firsts tables := by
  simp [firsts, h]

theorem firsts_cons {t : Table} (h : t.name ≠ "") (tables : List Table) :
    firsts (t :: tables) = t :: firsts (tables.filter fun u => t.name ≠ u.name) := by
  simp [firsts, h, List.eraseDupsBy_cons, Bool.and_comm, eq_comm (a := t.name)]

/-- Induction along the tables that are taken: a table without a name is passed over, and behind one
that is taken all others of its name are. -/
theorem firsts_induction {motive : List Table → Prop} (nil : motive [])
    (nameless : ∀ t rest, t.name = "" → motive rest → motive (t :: rest))
    (named : ∀ t rest, t.name ≠ "" → motive (rest.filter fun u => t.name ≠ u.name) →
      motive (t :: rest)) :
    ∀ tables, motive tables
  | [] => nil
  | t :: rest =>
      if h : t.name = "" then nameless t rest h (firsts_induction nil nameless named rest)
      else named t rest h (firsts_induction nil nameless named _)
termination_by tables => tables.length
decreasing_by
  · exact Nat.lt_succ_self _
  · exact Nat.lt_succ_of_le (List.length_filter_le _ _)

theorem mem_of_mem_firsts {tables : List Table} {t : Table} (h : t ∈ firsts tables) :
    t ∈ tables ∧ t.name ≠ "" := by
  induction tables using firsts_induction with
  | nil => cases h
  | nameless u rest hu ih =>
      rw [firsts_cons_of_nameless hu] at h
      exact (ih h).imp_left (List.mem_cons_of_mem _)
  | named u rest hu ih =>
      rw [firsts_cons hu] at h
      rcases List.mem_cons.mp h with rfl | h
      · exact ⟨List.mem_cons_self, hu⟩
      · exact (ih h).imp_left fun h => List.mem_cons_of_mem _ (List.mem_filter.mp h).1

/-- Every name that is not empty is among those that are taken. -/
theorem exists_mem_firsts {tables : List Table} {t : Table} (h : t ∈ tables) (ht : t.name ≠ "") :
    ∃ u ∈ firsts tables, u.name = t.name := by
  induction tables using firsts_induction with
  | nil => cases h
  | nameless u rest hu ih =>
      rw [firsts_cons_of_nameless hu]
      rcases List.mem_cons.mp h with rfl | h
      · exact absurd hu ht
      · exact ih h
  | named u rest hu ih =>
      rw [firsts_cons hu]
      by_cases same : u.name = t.name
      · exact ⟨u, List.mem_cons_self, same⟩
      · have later : t ∈ rest := (List.mem_cons.mp h).resolve_left fun heq => same (heq ▸ rfl)
        obtain ⟨v, hv, hname⟩ := ih (List.mem_filter.mpr ⟨later, by simpa using same⟩)
        exact ⟨v, List.mem_cons_of_mem _ hv, hname⟩

/-- The tables that are taken stand in their order, under different names. -/
theorem pairwise_firsts {tables : List Table} {related : Table → Table → Prop}
    (h : tables.Pairwise related) :
    (firsts tables).Pairwise fun t u => related t u ∧ t.name ≠ u.name := by
  induction tables using firsts_induction with
  | nil => exact .nil
  | nameless t rest ht ih =>
      rw [firsts_cons_of_nameless ht]
      exact ih (List.pairwise_cons.mp h).2
  | named t rest ht ih =>
      obtain ⟨first, later⟩ := List.pairwise_cons.mp h
      rw [firsts_cons ht]
      refine List.pairwise_cons.mpr ⟨fun u hu => ?_, ih (later.filter _)⟩
      obtain ⟨hmem, hname⟩ := List.mem_filter.mp (mem_of_mem_firsts hu).1
      exact ⟨first u hmem, by simpa using hname⟩

/-- Registering tables adds the first of each name that is not taken. -/
theorem tables_foldl_register (tables : List Table) (c : Catalog) :
    (tables.foldl register c).tables =
      c.tables ++ firsts (tables.filter fun t => c.tables.all fun u => u.name ≠ t.name) := by
  induction tables generalizing c with
  | nil => simp [firsts]
  | cons t rest ih =>
      rw [List.foldl_cons, ih, List.filter_cons]
      by_cases named : t.name = ""
      case pos =>
        rw [register_of_not_takes fun taken => taken.1 named]
        split
        · rw [firsts_cons_of_nameless named]
        · rfl
      case neg =>
        split
        case isTrue fresh =>
          have taken : c.takes t := ⟨named, by simpa using fresh⟩
          rw [firsts_cons named, tables_register taken, List.append_assoc, List.singleton_append,
            List.filter_filter]
          simp [Bool.and_comm]
        case isFalse stale =>
          rw [register_of_not_takes fun taken => stale (by simpa using taken.2)]

theorem tables_build (tables : List Table) (tenantColumn : String) :
    (build tables tenantColumn).tables = firsts tables := by
  rw [build, tables_foldl_register]
  simp [empty]

theorem build_append (tables more : List Table) (tenantColumn : String) :
    build (tables ++ more) tenantColumn = more.foldl register (build tables tenantColumn) := by
  rw [build, build, List.foldl_append]

/-- Whatever is registered later, a phrase that means something keeps its meaning. -/
theorem alias?_foldl_register {phrase name : String} (h : c.alias? phrase = some name)
    (more : List Table) : (more.foldl register c).alias? phrase = some name :=
  List.foldlRecOn (motive := fun c : Catalog => c.alias? phrase = some name) more _ h
    fun _ h t _ => alias?_register_of_eq_some h t

/-- What a catalog that was built from a list of tables knows, told by that list. -/
structure KnowsFirsts (tables : List Table) (c : Catalog) : Prop where
  tables_eq : c.tables = firsts tables
  nodup : (c.aliases.map Prod.fst).Nodup
  /-- The phrases of the index are the spellings of the tables. -/
  phrases : ∀ phrase, phrase ∈ c.aliases.map Prod.fst ↔
    phrase ≠ "" ∧ ∃ t ∈ c.tables, t.Spelled phrase
  /-- A phrase means the first table that is spelled so. -/
  means : ∀ phrase name, (phrase, name) ∈ c.aliases ↔
    phrase ≠ "" ∧ ∃ earlier t later, c.tables = earlier ++ t :: later ∧
      (∀ u ∈ earlier, ¬ u.Spelled phrase) ∧ t.Spelled phrase ∧ t.name = name
  aliases_registered : ∀ phrase name, (phrase, name) ∈ c.aliases → ∃ t ∈ c.tables, t.name = name
  resolved_registered : ∀ raw name, c.resolveTable? raw = some name → ∃ t ∈ c.tables, t.name = name
  /-- The name of a table leads to a table, unless it is blank. -/
  resolves : ∀ t ∈ c.tables, Name.phrase t.name ≠ "" →
    ∃ u ∈ c.tables, c.resolveTable? t.name = some u.name

/-- **The first writer of a phrase keeps it, and nothing else decides what a phrase means.** The
tables are the first of each name; a phrase means the first of them that has it among its five
spellings, so no loose name leads out of the catalog; and what is registered later leaves every
phrase as it is. -/
theorem phrases_belong_to_first_writer (tables : List Table) (tenantColumn : String) :
    KnowsFirsts tables (build tables tenantColumn) ∧
      ∀ more phrase name, (phrase, name) ∈ (build tables tenantColumn).aliases →
        (phrase, name) ∈ (build (tables ++ more) tenantColumn).aliases := by
  have indexed := indexed_build tables tenantColumn
  refine ⟨?knows, ?keeps⟩
  case knows =>
    exact
      { tables_eq := tables_build tables tenantColumn
        nodup := indexed.nodup
        phrases := fun phrase => by
          simp only [indexed.mem_phrases_iff, Table.goesBy_iff_spelled]
        means := fun phrase name => by
          rw [indexed.mem_aliases_iff, indexed.alias?_eq_some_iff]
          simp only [find?_goesBy_eq_some_iff]
          refine and_congr_right fun _ => ⟨?_, ?_⟩
          · rintro ⟨t, ⟨earlier, later, htables, hearlier, spelled⟩, hname⟩
            exact ⟨earlier, t, later, htables, hearlier, spelled, hname⟩
          · rintro ⟨earlier, t, later, htables, hearlier, spelled, hname⟩
            exact ⟨t, ⟨earlier, later, htables, hearlier, spelled⟩, hname⟩
        aliases_registered := fun phrase name h =>
          indexed.exists_of_alias? (indexed.mem_aliases_iff.mp h)
        resolved_registered := fun raw name h => indexed.exists_of_resolveTable? h
        resolves := fun t ht nonblank => by
          obtain ⟨name, hname⟩ := indexed.exists_resolveTable?_name ht nonblank
          obtain ⟨u, hu, rfl⟩ := indexed.exists_of_resolveTable? hname
          exact ⟨u, hu, hname⟩ }
  case keeps =>
    intro more phrase name h
    have longer := indexed_build (tables ++ more) tenantColumn
    have means := indexed.mem_aliases_iff.mp h
    rw [longer.mem_aliases_iff, build_append]
    exact alias?_foldl_register means more

/-- The singular of a name belongs to the plural when that is registered first. -/
example : (build [⟨"categories", []⟩, ⟨"category", []⟩] "").resolveTable? "category" =
    some "categories" := by
  decide +kernel

end Catalog

end Tenancy
