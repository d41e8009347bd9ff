/-
# Loose names of tables

A loose name of a table is looked up as a phrase and, where that fails, as the phrase of its
identifier. The two may lead to different tables: nothing keeps one table from being entered under
the name of another with its underscores, and a third from being entered under the same name with
spaces. For plain names this cannot happen. The spellings under which a plain name is entered come in
pairs, with underscores and with spaces, so whoever has the one has the other, and both belong to
the table that came first. So every loose spelling of the name of a table leads where the name
leads.

A name that ends in an underscore and an `s` is not plain, because its singular ends in an
underscore and loses it as a phrase.
-/

import Tenancy.Catalog.Demo
import Tenancy.Proofs.Catalog.Index
import Tenancy.Proofs.Catalog.Spelling
import Mathlib.Data.Bool.AllAny
import Mathlib.Data.List.Find
import Mathlib.Data.List.Infix

namespace Tenancy

namespace Name

/-- Snake case with single underscores, not ending in an underscore, with or without an `s` after
it. -/
structure IsPlain (name : String) : Prop where
  snake : isSnakeCase name.toList = true
  single : name.toList.IsChain fun c d => ¬ (c = '_' ∧ d = '_')
  closed : ¬ ['_'] <:+ name.toList
  closed_singular : ¬ ['_', 's'] <:+ name.toList

instance (name : String) : Decidable (IsPlain name) :=
  decidable_of_iff
    (isSnakeCase name.toList = true ∧ (name.toList.IsChain fun c d => ¬ (c = '_' ∧ d = '_')) ∧
      ¬ ['_'] <:+ name.toList ∧ ¬ ['_', 's'] <:+ name.toList)
    ⟨fun ⟨snake, single, closed, closed_singular⟩ => ⟨snake, single, closed, closed_singular⟩,
      fun h => ⟨h.snake, h.single, h.closed, h.closed_singular⟩⟩

variable {name other : String}

/-! ## The spellings of a plain name -/

theorem first_of_isSnakeCase {cs : List Char} (h : isSnakeCase cs = true) :
    ∀ c ∈ cs.head?, c ≠ '_' := by
  rintro c hc rfl
  cases cs with
  | nil => cases hc
  | cons d rest =>
      obtain rfl : d = '_' := by simpa using hc
      simp [isSnakeCase, isNameStart] at h

theorem last_of_not_suffix {cs : List Char} {d : Char} (h : ¬ [d] <:+ cs) :
    ∀ c ∈ cs.getLast?, c ≠ d := by
  rintro c hc rfl
  obtain ⟨front, rfl⟩ := List.getLast?_eq_some_iff.mp hc
  exact h (List.suffix_append front [c])

/-- The beginning of a name in parts, up to a part. -/
theorem Parted.front {front rest : List Char} (h : Parted (front ++ rest))
    (closed : ¬ ['_'] <:+ front) : Parted front where
  parts c hc := h.parts c (List.mem_append_left _ hc)
  first c hc := h.first c (by rw [List.head?_append, Option.mem_def.mp hc]; rfl)
  last := last_of_not_suffix closed
  single := (List.isChain_append.mp h.single).1

/-- The beginning of a name in parts, with a part behind it. -/
theorem Parted.concat {front rest : List Char} {d : Char} (h : Parted (front ++ rest))
    (part : isNamePart d = true) (hd : d ≠ '_') : Parted (front ++ [d]) where
  parts := by
    simp only [List.mem_append, List.mem_singleton]
    rintro c (hc | rfl)
    · exact h.parts c (List.mem_append_left _ hc)
    · exact part
  first := by
    cases front with
    | nil => simpa using hd
    | cons c _ => simpa using h.first c rfl
  last := by simpa using hd
  single := by
    refine List.isChain_append.mpr ⟨(List.isChain_append.mp h.single).1, List.isChain_singleton d, ?_⟩
    rintro c - e he ⟨-, rfl⟩
    exact hd (by simpa using he)

theorem mem_squashed {c : Char} : c ∈ (squashed name).toList ↔ c ∈ name.toList ∧ c ≠ '_' := by
  simp [squashed, onText]

theorem not_mem_of_nameParts (parts : ∀ c ∈ name.toList, isNamePart c = true) :
    '-' ∉ name.toList ∧ ' ' ∉ name.toList :=
  ⟨fun h => absurd (parts _ h) (by decide), fun h => absurd (parts _ h) (by decide)⟩

theorem hyphen_not_mem_unscored (parts : ∀ c ∈ name.toList, isNamePart c = true) :
    '-' ∉ (unscored name).toList := by
  intro h
  rcases mem_unscored h with h | h
  · cases h
  · exact (not_mem_of_nameParts parts).1 h.1

theorem space_mem_unscored (h : '_' ∈ name.toList) : ' ' ∈ (unscored name).toList := by
  rw [toList_unscored]
  exact List.mem_map.mpr ⟨'_', h, rfl⟩

theorem unscored_of_not_mem (h : '_' ∉ name.toList) : unscored name = name := by
  rw [← String.toList_inj, toList_unscored, List.map_congr_left, List.map_id']
  intro c hc
  have : c ≠ '_' := fun underscore => h (underscore ▸ hc)
  exact if_neg this

theorem unscored_ne_empty (h : name ≠ "") : unscored name ≠ "" := by
  intro hempty
  apply h
  rw [← String.toList_eq_nil_iff] at hempty ⊢
  rwa [toList_unscored, List.map_eq_nil_iff] at hempty

theorem phrase_ne_empty_of_spells (parted : Parted other.toList) (nonempty : other ≠ "")
    (h : Spells name other) : phrase name ≠ "" := by
  intro hempty
  have hnil : (phrase name).toList = [] := by rw [hempty]; rfl
  rcases phrase_of_spells parted h with hphrase | hphrase | hyphen | ⟨underscore, -⟩
  · exact nonempty (hphrase ▸ hempty)
  · exact unscored_ne_empty nonempty (hphrase ▸ hempty)
  · rw [hnil] at hyphen
    cases hyphen
  · rw [hnil] at underscore
    cases underscore

/-- Names without spaces are told apart with spaces for their underscores. -/
theorem unscored_inj (h : ' ' ∉ name.toList) (h' : ' ' ∉ other.toList)
    (same : unscored name = unscored other) : name = other := by
  have undo {n : String} (hn : ' ' ∉ n.toList) :
      ((unscored n).toList.map fun c => if c = ' ' then '_' else c) = n.toList := by
    rw [toList_unscored, List.map_map, List.map_congr_left, List.map_id']
    intro c hc
    have : c ≠ ' ' := fun space => hn (space ▸ hc)
    by_cases underscore : c = '_' <;> simp [underscore, this]
  rw [← String.toList_inj, ← undo h, ← undo h', same]

namespace IsPlain

theorem parted (h : IsPlain name) : Parted name.toList where
  parts := isNamePart_of_isSnakeCase h.snake
  first := first_of_isSnakeCase h.snake
  last := last_of_not_suffix h.closed
  single := h.single

theorem ne_empty (h : IsPlain name) : name ≠ "" := by
  rintro rfl
  exact absurd h.snake (by decide)

/-- The singular of a plain name has single underscores as well. -/
theorem parted_singular (h : IsPlain name) : Parted (singular name).toList := by
  have parted := h.parted
  unfold singular
  dsimp only
  split
  case isTrue plural =>
    simp only [Bool.and_eq_true, List.isSuffixOf_iff_suffix] at plural
    obtain ⟨⟨front, hfront⟩, -⟩ := plural
    rw [← hfront] at parted ⊢
    have cut : (front ++ ['i', 'e', 's']).take ((front ++ ['i', 'e', 's']).length - 3) = front := by
      simp
    rw [String.toList_ofList, cut]
    exact parted.concat (by decide) (by decide)
  case isFalse =>
    split
    case isTrue plural =>
      simp only [Bool.and_eq_true, List.isSuffixOf_iff_suffix] at plural
      obtain ⟨⟨front, hfront⟩, -⟩ := plural
      have closed := h.closed_singular
      rw [← hfront] at parted closed ⊢
      have cut : (front ++ ['s']).take ((front ++ ['s']).length - 1) = front := by simp
      rw [String.toList_ofList, cut]
      apply parted.front
      rintro ⟨before, rfl⟩
      exact closed ⟨before, by simp⟩
    case isFalse => exact parted

theorem squashed_parts (h : IsPlain name) : ∀ c ∈ (squashed name).toList, isNamePart c = true :=
  fun c hc => h.parted.parts c (mem_squashed.mp hc).1

/-- A plain name is entered under texts that are phrases already. -/
theorem phrase_of_mem_spellings (h : IsPlain name) {s : String}
    (hs : s ∈ Catalog.spellings name) : phrase s = s := by
  simp only [Catalog.spellings, List.mem_cons, List.not_mem_nil, or_false] at hs
  rcases hs with rfl | rfl | rfl | rfl | rfl
  · exact phrase_of_nameParts h.parted.parts
  · exact phrase_unscored h.parted
  · exact phrase_of_nameParts h.parted_singular.parts
  · exact phrase_unscored h.parted_singular
  · exact phrase_of_nameParts h.squashed_parts

/-- No spelling of a plain name has a hyphen, or both an underscore and a space. -/
theorem of_mem_spellings (h : IsPlain name) {s : String} (hs : s ∈ Catalog.spellings name) :
    '-' ∉ s.toList ∧ ('_' ∉ s.toList ∨ ' ' ∉ s.toList) := by
  have bare {n : String} (parts : ∀ c ∈ n.toList, isNamePart c = true) :
      '-' ∉ n.toList ∧ ('_' ∉ n.toList ∨ ' ' ∉ n.toList) :=
    ⟨(not_mem_of_nameParts parts).1, .inr (not_mem_of_nameParts parts).2⟩
  have spaced {n : String} (parts : ∀ c ∈ n.toList, isNamePart c = true) :
      '-' ∉ (unscored n).toList ∧ ('_' ∉ (unscored n).toList ∨ ' ' ∉ (unscored n).toList) :=
    ⟨hyphen_not_mem_unscored parts, .inl (underscore_not_mem_unscored n)⟩
  simp only [Catalog.spellings, List.mem_cons, List.not_mem_nil, or_false] at hs
  rcases hs with rfl | rfl | rfl | rfl | rfl
  · exact bare h.parted.parts
  · exact spaced h.parted.parts
  · exact bare h.parted_singular.parts
  · exact spaced h.parted_singular.parts
  · exact bare h.squashed_parts

/-- With an underscore in it, a text is a spelling when it is the name or its singular. -/
theorem mem_spellings_of_underscore {s : String} (underscore : '_' ∈ s.toList) :
    s ∈ Catalog.spellings name ↔ s = name ∨ s = singular name := by
  have spaced (n : String) : s ≠ unscored n := by
    rintro rfl
    exact underscore_not_mem_unscored n underscore
  have squashed : s ≠ squashed name := by
    rintro rfl
    exact (mem_squashed.mp underscore).2 rfl
  simp [Catalog.spellings, spaced, squashed]

/-- With a space in it, a text is a spelling when it is the name or its singular with spaces. -/
theorem mem_spellings_of_space (h : IsPlain name) {s : String} (space : ' ' ∈ s.toList) :
    s ∈ Catalog.spellings name ↔ s = unscored name ∨ s = unscored (singular name) := by
  have bare {n : String} (parts : ∀ c ∈ n.toList, isNamePart c = true) : s ≠ n := by
    rintro rfl
    exact (not_mem_of_nameParts parts).2 space
  simp [Catalog.spellings, bare h.parted.parts, bare h.parted_singular.parts, bare h.squashed_parts]

/-- Whether its underscores are written as spaces or not, a name in parts is a spelling of the same
plain names. -/
theorem unscored_mem_spellings_iff (h : IsPlain name) (parted : Parted other.toList) :
    unscored other ∈ Catalog.spellings name ↔ other ∈ Catalog.spellings name := by
  by_cases underscore : '_' ∈ other.toList
  case neg => rw [unscored_of_not_mem underscore]
  case pos =>
    have bare := (not_mem_of_nameParts parted.parts).2
    have same {n : String} (parts : ∀ c ∈ n.toList, isNamePart c = true) :
        unscored other = unscored n ↔ other = n :=
      ⟨unscored_inj bare (not_mem_of_nameParts parts).2, fun heq => by rw [heq]⟩
    rw [h.mem_spellings_of_space (space_mem_unscored underscore),
      mem_spellings_of_underscore underscore, same h.parted.parts, same h.parted_singular.parts]

end IsPlain

end Name

/-! ## Looking up loose names -/

theorem Table.goesBy_iff_mem {t : Table} (plain : Name.IsPlain t.name) {phrase : String} :
    t.goesBy phrase = true ↔ phrase ∈ Catalog.spellings t.name := by
  rw [goesBy_iff]
  constructor
  · rintro ⟨s, hs, rfl⟩
    rwa [plain.phrase_of_mem_spellings hs]
  · exact fun h => ⟨phrase, h, plain.phrase_of_mem_spellings h⟩

namespace Catalog

open Name

variable {c : Catalog} {name raw : String}

namespace Indexed

/-- A name means the same table with spaces for its underscores. -/
theorem alias?_unscored (h : c.Indexed) (plain : ∀ t ∈ c.tables, IsPlain t.name)
    (parted : Parted name.toList) (nonempty : name ≠ "") :
    c.alias? (unscored name) = c.alias? name := by
  have same : ∀ t ∈ c.tables, t.goesBy (unscored name) = t.goesBy name := by
    intro t ht
    rw [Bool.eq_iff_iff, Table.goesBy_iff_mem (plain t ht), Table.goesBy_iff_mem (plain t ht)]
    exact (plain t ht).unscored_mem_spellings_iff parted
  rw [h.alias?_eq, h.alias?_eq, if_neg nonempty, if_neg (unscored_ne_empty nonempty),
    List.find?_congr same]

/-- As a phrase, a loose spelling of a name means nothing or what the name means. -/
theorem alias?_of_spells (h : c.Indexed) (plain : ∀ t ∈ c.tables, IsPlain t.name)
    (parted : Parted name.toList) (nonempty : name ≠ "") (spells : Spells raw name) :
    c.alias? (phrase raw) = none ∨ c.alias? (phrase raw) = c.alias? name := by
  rcases phrase_of_spells parted spells with hphrase | hphrase | mixed
  · exact .inr (by rw [hphrase])
  · exact .inr (by rw [hphrase, h.alias?_unscored plain parted nonempty])
  · refine .inl (Option.eq_none_iff_forall_ne_some.mpr fun found halias => ?_)
    obtain ⟨-, t, hfound, -⟩ := h.alias?_eq_some_iff.mp halias
    have goes : t.goesBy (phrase raw) = true := by simpa using List.find?_some hfound
    have ht := plain t (List.mem_of_find?_eq_some hfound)
    obtain ⟨hyphen, apart⟩ := ht.of_mem_spellings ((Table.goesBy_iff_mem ht).mp goes)
    rcases mixed with left | ⟨underscore, space⟩
    · exact hyphen left
    · exact apart.elim (· underscore) (· space)

/-- A loose spelling of a name leads where the name leads as a phrase. -/
theorem resolveTable?_of_spells (h : c.Indexed) (plain : ∀ t ∈ c.tables, IsPlain t.name)
    (parted : Parted name.toList) (nonempty : name ≠ "") (spells : Spells raw name) :
    c.resolveTable? raw = c.alias? name := by
  rw [resolveTable?_eq, if_neg (phrase_ne_empty_of_spells parted nonempty spells),
    identifier_of_spells parted spells, phrase_of_nameParts parted.parts]
  rcases h.alias?_of_spells plain parted nonempty spells with hnone | hsame
  · rw [hnone, Option.none_or]
  · rw [hsame, Option.or_self]

end Indexed

/-- **Loose spellings of a table lead where its name leads.** Where all tables have plain names, every
loose spelling of the name of a table means what the name means, and that is a table of the
catalog. -/
theorem loose_table_names_resolve_alike {tables : List Table} {tenantColumn : String} {t : Table}
    {raw : String} (plain : ∀ u ∈ (build tables tenantColumn).tables, IsPlain u.name)
    (registered : t ∈ (build tables tenantColumn).tables) (spells : Spells raw t.name) :
    (build tables tenantColumn).resolveTable? raw =
        (build tables tenantColumn).resolveTable? t.name ∧
      ∃ u ∈ (build tables tenantColumn).tables,
        (build tables tenantColumn).resolveTable? raw = some u.name := by
  have indexed := indexed_build tables tenantColumn
  have ht := plain t registered
  have hraw := indexed.resolveTable?_of_spells plain ht.parted ht.ne_empty spells
  have hname := indexed.resolveTable?_of_spells plain ht.parted ht.ne_empty (.refl t.name)
  have nonblank : phrase t.name ≠ "" := phrase_ne_empty_of_spells ht.parted ht.ne_empty (.refl _)
  obtain ⟨found, hfound⟩ := indexed.exists_resolveTable?_name registered nonblank
  obtain ⟨u, hu, rfl⟩ := indexed.exists_of_resolveTable? hfound
  exact ⟨by rw [hraw, hname], u, hu, by rw [hraw, ← hname, hfound]⟩

/-- The booking orders of the demo schema, shouted and with a dash. -/
theorem spells_booking_orders : Spells " Booking -\tORDERS\n" "booking_orders" := by
  have spaced : Spaced ("booking".toList ++ '_' :: "orders".toList)
      ("booking".toList ++ (" -\t".toList ++ "orders".toList)) :=
    (Spaced.refl _).append
      (.gap (by decide) (List.all_iff_forall_prop.mp (by decide)) (.refl _))
  exact ⟨[' '], "Booking -\tORDERS".toList, ['\n'], _, spaced, by decide,
    List.all_eq_true.mp (by decide), by decide⟩

theorem loose_booking_orders_resolve :
    (∀ u ∈ (build demoTables "").tables, IsPlain u.name) ∧
      ∃ t ∈ (build demoTables "").tables, Spells " Booking -\tORDERS\n" t.name ∧
        (build demoTables "").resolveTable? " Booking -\tORDERS\n" =
          (build demoTables "").resolveTable? t.name ∧
        ∃ u ∈ (build demoTables "").tables,
          (build demoTables "").resolveTable? " Booking -\tORDERS\n" = some u.name := by
  have plain : ∀ u ∈ (build demoTables "").tables, IsPlain u.name := by decide +kernel
  have named : ∃ t ∈ (build demoTables "").tables, t.name = "booking_orders" := by decide +kernel
  obtain ⟨t, registered, hname⟩ := named
  have spells : Spells " Booking -\tORDERS\n" t.name := hname ▸ spells_booking_orders
  exact ⟨plain, t, registered, spells, loose_table_names_resolve_alike plain registered spells⟩

end Catalog

end Tenancy
