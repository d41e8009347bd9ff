/-
# Refreshing a catalog

A catalog that is read off a live database is kept, and what is kept is given out until it is read
again. Reading it may fail at any point: the connection may fail to open or to close, the tables may
fail to be listed, and any one of them may fail to be described. This module follows a source of
catalogs through all that can happen to it, tables that change and calls for the catalog, in any
order. What is kept at any time is the catalog of the latest call that read it successfully. A call
that does not insist on a new catalog gets that one without a word to the database, and a call that
fails leaves it as it was.

The catalog of a successful reading lists the tables that are there at that moment, those left out
that have no name or cannot be described.
-/

import Tenancy.Catalog.Live
import Tenancy.Execution.Scripted
import Tenancy.Proofs.Catalog.Index
import Tenancy.Proofs.Chains
import Tenancy.Proofs.Execution.Conversation
import Mathlib.Data.List.Nodup

namespace Tenancy

open Session

/-! ## What a catalog lists -/

/-- A column of a catalog is as the database describes it, given the primary key of its table. -/
structure Column.Describes (primaryKey : List String) (v : LiveColumn) (c : Column) : Prop where
  name : c.name = v.name
  sqlType : v.sqlType = some c.sqlType
  notNull : c.notNull = !v.nullable
  key : c.primaryKey = true ↔ v.name ∈ primaryKey

/-- A table of a catalog is as the database describes it, column by column. -/
structure Table.Describes (t : Table) (v : LiveTable) : Prop where
  name : t.name = v.name
  columns : ∃ primaryKey columns, v.primaryKey = some primaryKey ∧ v.columns = some columns ∧
    List.Forall₂ (Column.Describes primaryKey) columns t.columns

/-- All that a catalog wants to know of a table can be told: its primary key, its columns and the
types of these. -/
def LiveTable.Told (v : LiveTable) : Prop :=
  v.primaryKey.isSome = true ∧ ∃ columns, v.columns = some columns ∧
    ∀ c ∈ columns, c.sqlType.isSome = true

namespace LiveTable

theorem column?_eq_some_iff {primaryKey : List String} {v : LiveColumn} {c : Column} :
    column? primaryKey v = some c ↔ c.Describes primaryKey v := by
  obtain ⟨name, sqlType, notNull, isKey⟩ := c
  rw [column?, Option.map_eq_some_iff]
  constructor
  · rintro ⟨found, hfound, hc⟩
    cases hc
    exact ⟨rfl, hfound, rfl, by simp⟩
  · rintro ⟨rfl, hsqlType, rfl, hkey⟩
    refine ⟨sqlType, hsqlType, ?_⟩
    have same : primaryKey.contains v.name = isKey := by
      rw [Bool.eq_iff_iff, List.contains_iff_mem]
      exact hkey.symm
    rw [same]

/-- A table is described as it is, where all about it can be told. -/
theorem table?_eq_some_iff {v : LiveTable} {t : Table} : v.table? = some t ↔ t.Describes v := by
  simp only [table?, Option.bind_eq_bind, Option.bind_eq_some_iff, mapM_eq_some,
    column?_eq_some_iff]
  constructor
  · rintro ⟨primaryKey, hkey, columns, hcolumns, described, hdescribed, ht⟩
    cases ht
    exact ⟨rfl, primaryKey, columns, hkey, hcolumns, hdescribed⟩
  · rintro ⟨hname, primaryKey, columns, hkey, hcolumns, hdescribed⟩
    exact ⟨primaryKey, hkey, columns, hcolumns, t.columns, hdescribed, by rw [← hname]⟩

theorem isSome_table?_iff {v : LiveTable} : v.table?.isSome = true ↔ v.Told := by
  have typed (primaryKey : List String) (c : LiveColumn) :
      (∃ column, column? primaryKey c = some column) ↔ c.sqlType.isSome = true := by
    rw [← Option.isSome_iff_exists, column?, Option.isSome_map]
  simp only [Option.isSome_iff_exists, table?, Option.bind_eq_bind, Option.bind_eq_some_iff, Told]
  constructor
  · rintro ⟨_, primaryKey, hkey, columns, hcolumns, described, hdescribed, -⟩
    refine ⟨⟨primaryKey, hkey⟩, columns, hcolumns, fun c hc => ?_⟩
    exact Option.isSome_iff_exists.mp
      ((typed primaryKey c).mp (exists_mapM_eq_some.mp ⟨described, hdescribed⟩ c hc))
  · rintro ⟨⟨primaryKey, hkey⟩, columns, hcolumns, htyped⟩
    obtain ⟨described, hdescribed⟩ := exists_mapM_eq_some.mpr fun c hc =>
      (typed primaryKey c).mpr (Option.isSome_iff_exists.mpr (htyped c hc))
    exact ⟨_, primaryKey, hkey, columns, hcolumns, described, hdescribed, rfl⟩

theorem name_of_table? {v : LiveTable} {t : Table} (h : v.table? = some t) : t.name = v.name :=
  (table?_eq_some_iff.mp h).name

theorem mem_describe {tables : List LiveTable} {t : Table} :
    t ∈ describe tables ↔ ∃ v ∈ tables, v.table? = some t := by
  simp [describe]

/-- Tables are described in ascending order of their names. -/
theorem pairwise_describe (tables : List LiveTable) :
    (describe tables).Pairwise fun t u => t.name ≤ u.name := by
  have sorted : (tables.mergeSort fun v w => decide (v.name ≤ w.name)).Pairwise
      fun v w => decide (v.name ≤ w.name) = true := by
    apply List.pairwise_mergeSort
    · intro u v w huv hvw
      rw [decide_eq_true_eq] at huv hvw ⊢
      exact String.le_trans huv hvw
    · intro v w
      simpa using String.le_total v.name w.name
  refine sorted.filterMap _ fun v w hvw t ht u hu => ?_
  rw [name_of_table? ht, name_of_table? hu]
  simpa using hvw

end LiveTable

/-- A catalog lists the tables of a database about which all can be told, in ascending order. -/
structure Catalog.Lists (c : Catalog) (tables : List LiveTable) : Prop where
  ascending : c.tables.Pairwise fun t u => t.name < u.name
  /-- The names are those of the tables about which all can be told, the empty one left out. -/
  names : ∀ name, (∃ t ∈ c.tables, t.name = name) ↔
    name ≠ "" ∧ ∃ v ∈ tables, v.name = name ∧ v.Told
  described : ∀ t ∈ c.tables, ∃ v ∈ tables, t.Describes v
  /-- Where no name is given to two tables, every table with a name about which all can be told is
  listed as it is. -/
  all : (tables.map LiveTable.name).Nodup →
    ∀ t, t ∈ c.tables ↔ t.name ≠ "" ∧ ∃ v ∈ tables, t.Describes v

/-- What is built from the descriptions of tables lists these tables. -/
theorem Catalog.lists_build (tables : List LiveTable) (tenantColumn : String) :
    (build (LiveTable.describe tables) tenantColumn).Lists tables := by
  have described {t : Table} (ht : t ∈ firsts (LiveTable.describe tables)) :
      t.name ≠ "" ∧ ∃ v ∈ tables, v.table? = some t :=
    (mem_of_mem_firsts ht).symm.imp_right LiveTable.mem_describe.mp
  have reached {v : LiveTable} {t : Table} (hv : v ∈ tables) (ht : v.table? = some t)
      (named : t.name ≠ "") : ∃ u ∈ firsts (LiveTable.describe tables), u.name = t.name :=
    exists_mem_firsts (LiveTable.mem_describe.mpr ⟨v, hv, ht⟩) named
  constructor
  all_goals rw [tables_build]
  case ascending =>
    refine (pairwise_firsts (LiveTable.pairwise_describe tables)).imp ?_
    rintro t u ⟨hle, hne⟩
    exact String.not_le.mp fun hge => hne (String.le_antisymm hle hge)
  case names =>
    intro name
    simp only [← LiveTable.isSome_table?_iff]
    constructor
    · rintro ⟨t, ht, rfl⟩
      obtain ⟨named, v, hv, hvt⟩ := described ht
      exact ⟨named, v, hv, (LiveTable.name_of_table? hvt).symm, by rw [hvt]; rfl⟩
    · rintro ⟨named, v, hv, rfl, hdescribed⟩
      obtain ⟨t, hvt⟩ := Option.isSome_iff_exists.mp hdescribed
      rw [← LiveTable.name_of_table? hvt] at named ⊢
      exact reached hv hvt named
  case described =>
    simp only [← LiveTable.table?_eq_some_iff]
    exact fun t ht => (described ht).2
  case all =>
    intro distinct t
    simp only [← LiveTable.table?_eq_some_iff]
    refine ⟨described, ?_⟩
    rintro ⟨named, v, hv, hvt⟩
    obtain ⟨u, hu, hname⟩ := reached hv hvt named
    obtain ⟨-, w, hw, hwu⟩ := described hu
    have same : w.name = v.name := by
      rw [← LiveTable.name_of_table? hwu, ← LiveTable.name_of_table? hvt, hname]
    obtain rfl : w = v := List.inj_on_of_nodup_map distinct hw hv same
    obtain rfl : u = t := Option.some.inj (hwu.symm.trans hvt)
    exact hu

/-! ## One reading -/

namespace CatalogSource

variable {σ : Type} (source : CatalogSource σ)

/-- How a reading goes: what is sent and how it ends, given what comes of listing the tables. -/
inductive Reads (listing : Listing) : Transcript → Ending Catalog → Prop
  | unconnected {f : Fault} : Reads listing [(.connect, .failed f)] (.raised f)
  | unanswered : Reads listing [(.connect, .silent)] .hung
  | listless {c : Rowset} (h : listing = .hung) : Reads listing [(.connect, .done c)] .hung
  | unclosed {c : Rowset} {f : Fault} (h : listing ≠ .hung) :
      Reads listing [(.connect, .done c), (.close, .failed f)] (.raised f)
  | unending {c : Rowset} (h : listing ≠ .hung) :
      Reads listing [(.connect, .done c), (.close, .silent)] .hung
  | unlisted {c r : Rowset} {f : Fault} (h : listing = .raised f) :
      Reads listing [(.connect, .done c), (.close, .done r)] (.raised f)
  | listed {c r : Rowset} {tables : List LiveTable} {catalog : Catalog}
      (h : listing = .returned tables) (lists : catalog.Lists tables) :
      Reads listing [(.connect, .done c), (.close, .done r)] (.returned catalog)

/-- What a reading ends with is kept, if it ends with a catalog. -/
def keeping (kept : Option Catalog) : Ending Catalog → Option Catalog
  | .returned catalog => some catalog
  | _ => kept

theorem keeping_eq_or (kept : Option Catalog) (ending : Ending Catalog) :
    keeping kept ending = (keeping none ending).or kept := by
  cases ending <;> rfl

theorem keeping_of_ne_returned (kept : Option Catalog) {ending : Ending Catalog}
    (h : ∀ catalog, ending ≠ .returned catalog) : keeping kept ending = kept := by
  cases ending with
  | returned catalog => exact absurd rfl (h catalog)
  | raised f => rfl
  | hung => rfl

theorem exchanges_perform_cache (db : Database σ) (cache : CatalogCache σ) (e : Event) :
    ∃ reply cache', cache.perform db e = (reply.ending, cache') ∧ cache'.kept = cache.kept ∧
      cache.session.Exchanges db [(e, reply)] cache'.session := by
  obtain ⟨reply, session, hperform, exchanged⟩ := exchanges_perform db cache.session e
  exact ⟨reply, { cache with session }, by rw [CatalogCache.perform, hperform], rfl, exchanged⟩

/-- A reading, whatever the database does. -/
theorem reads_load (listing : Listing) (cache : CatalogCache σ) :
    ∃ transcript,
      cache.session.Exchanges source.database transcript (source.load listing cache).2.session ∧
      Reads listing transcript (source.load listing cache).1 ∧
      (source.load listing cache).2.kept = keeping cache.kept (source.load listing cache).1 := by
  obtain ⟨reply, opened, hconnect, hkept, connected⟩ :=
    exchanges_perform_cache source.database cache .connect
  unfold load
  rw [hconnect]
  cases reply with
  | failed f => exact ⟨_, connected, .unconnected, hkept⟩
  | silent => exact ⟨_, connected, .unanswered, hkept⟩
  | done c =>
      obtain ⟨reply, closed, hclose, hkept', parted⟩ :=
        exchanges_perform_cache source.database
          { opened with listings := opened.listings ++ [source.schema] } .close
      have talked := connected.trans parted
      have kept : closed.kept = cache.kept := hkept'.trans hkept
      dsimp only [Reply.ending]
      rw [hclose]
      cases listing with
      | hung => exact ⟨_, connected, .listless rfl, hkept⟩
      | raised f =>
          cases reply with
          | failed g => exact ⟨_, talked, .unclosed (fun h => nomatch h), kept⟩
          | silent => exact ⟨_, talked, .unending (fun h => nomatch h), kept⟩
          | done r => exact ⟨_, talked, .unlisted rfl, kept⟩
      | returned tables =>
          cases reply with
          | failed g => exact ⟨_, talked, .unclosed (fun h => nomatch h), kept⟩
          | silent => exact ⟨_, talked, .unending (fun h => nomatch h), kept⟩
          | done r => exact ⟨_, talked, .listed rfl (Catalog.lists_build _ _), rfl⟩

/-- A reading has a word with the database, whatever comes of it. -/
theorem Reads.ne_nil {listing : Listing} {transcript : Transcript} {ending : Ending Catalog}
    (h : Reads listing transcript ending) : transcript ≠ [] := by
  cases h <;> exact List.cons_ne_nil _ _

end CatalogSource

/-! ## Histories -/

/-- What happens to a source of catalogs. -/
inductive CatalogAction where
  /-- The tables that are there change. -/
  | change (tables : List LiveTable)
  /-- The catalog is asked for, to be read anew or not. This is how listing the tables ends, should
  they be listed now. -/
  | ask (force : Bool) (listing : Ending Unit)

/-- The tables that are there after a history. -/
def CatalogAction.standing : List LiveTable → List CatalogAction → List LiveTable
  | tables, [] => tables
  | _, .change tables :: rest => standing tables rest
  | tables, .ask _ _ :: rest => standing tables rest

/-- Nothing has been kept yet, and nothing listed. -/
def CatalogCache.fresh {σ : Type} (session : Session σ) : CatalogCache σ :=
  { kept := none, listings := [], session }

/-- A call for the catalog. -/
structure CatalogCall (σ : Type) where
  /-- Whether the catalog was to be read anew. -/
  force : Bool
  /-- What would come of listing the tables at that moment. -/
  listing : Listing
  before : CatalogCache σ
  ending : Ending Catalog
  after : CatalogCache σ

namespace CatalogCall

variable {σ : Type}

/-- The catalog that a call came back with, having had a word with the database. -/
def built? (call : CatalogCall σ) : Option Catalog :=
  if call.before.session.log.length < call.after.session.log.length then
    CatalogSource.keeping none call.ending
  else none

/-- The catalog of the latest call that has built one. -/
def latestBuilt? (calls : List (CatalogCall σ)) : Option Catalog :=
  (calls.filterMap built?).getLast?

theorem latestBuilt?_append (earlier : List (CatalogCall σ)) (call : CatalogCall σ) :
    latestBuilt? (earlier ++ [call]) = call.built?.or (latestBuilt? earlier) := by
  rw [latestBuilt?, List.filterMap_append, List.getLast?_append, latestBuilt?]
  congr 1
  cases h : call.built? <;> simp [h]

end CatalogCall

namespace CatalogSource

variable {σ : Type} (source : CatalogSource σ)

/-- Ask for the catalog while certain tables are there. -/
def call (tables : List LiveTable) (cache : CatalogCache σ) (force : Bool) (listing : Ending Unit) :
    CatalogCall σ :=
  let listing := listing.map fun _ => tables
  let (ending, after) := source.serve listing force cache
  { force, listing, before := cache, ending, after }

/-- The calls of a history, from the tables that are there and the catalog kept so far. -/
def follow : List LiveTable → CatalogCache σ → List CatalogAction → List (CatalogCall σ)
  | _, _, [] => []
  | _, cache, .change tables :: rest => follow tables cache rest
  | tables, cache, .ask force listing :: rest =>
      let call := source.call tables cache force listing
      call :: follow tables call.after rest

open CatalogCall

/-- What a call does, given the calls before it. -/
structure Keeps (earlier : List (CatalogCall σ)) (call : CatalogCall σ) : Prop where
  /-- What was built last is given out without a word to the database, unless it is not wanted. -/
  served : call.force = false → ∀ catalog, latestBuilt? earlier = some catalog →
    call.ending = .returned catalog ∧ call.after = call.before
  /-- Otherwise the catalog is read. -/
  reads : call.force = true ∨ latestBuilt? earlier = none →
    ∃ transcript,
      call.before.session.Exchanges source.database transcript call.after.session ∧
      Reads call.listing transcript call.ending
  /-- A call that does not come back with a catalog leaves the one that is kept. -/
  untouched : (∀ catalog, call.ending ≠ .returned catalog) →
    call.after.kept = call.before.kept ∧ latestBuilt? (earlier ++ [call]) = latestBuilt? earlier
  kept : call.after.kept = latestBuilt? (earlier ++ [call])

variable {source} {earlier : List (CatalogCall σ)} {tables : List LiveTable}
  {cache : CatalogCache σ} {force : Bool} {listing : Ending Unit}

theorem call_of_serve {ending : Ending Catalog} {after : CatalogCache σ}
    (h : source.serve (listing.map fun _ => tables) force cache = (ending, after)) :
    source.call tables cache force listing =
      ⟨force, listing.map fun _ => tables, cache, ending, after⟩ := by
  rw [call, h]

/-- A call that has no word with the database gives out what was built last. -/
theorem keeps_call_of_kept (hkept : cache.kept = latestBuilt? earlier) {catalog : Catalog}
    (h : cache.kept = some catalog) :
    source.Keeps earlier (source.call tables cache false listing) := by
  rw [call_of_serve (source.serve_of_kept _ h)]
  have latest : latestBuilt? (earlier ++
      [⟨false, listing.map fun _ => tables, cache, .returned catalog, cache⟩]) =
        latestBuilt? earlier := by
    simp [latestBuilt?_append, built?]
  constructor
  case served =>
    intro _ other hother
    rw [← hkept, h] at hother
    obtain rfl := Option.some.inj hother
    exact ⟨rfl, rfl⟩
  case reads =>
    rintro (hforce | hnone)
    · cases hforce
    · rw [← hkept, h] at hnone
      cases hnone
  case untouched => exact fun hno => absurd rfl (hno catalog)
  case kept => rw [latest, ← hkept]

/-- A call that reads the catalog keeps what it comes back with. -/
theorem keeps_call_of_wanted (hkept : cache.kept = latestBuilt? earlier)
    (wanted : force = true ∨ cache.kept = none) :
    source.Keeps earlier (source.call tables cache force listing) := by
  have hserve := source.serve_of_not_kept (listing.map fun _ => tables) wanted
  obtain ⟨transcript, exchanged, reads, kept⟩ :=
    source.reads_load (listing.map fun _ => tables) cache
  rcases hload : source.load (listing.map fun _ => tables) cache with ⟨ending, after⟩
  rw [hload] at hserve exchanged reads kept
  rw [call_of_serve hserve]
  have longer : cache.session.log.length < after.session.log.length := by
    rw [exchanged.log_eq, List.length_append, List.length_map]
    have := List.length_pos_of_ne_nil reads.ne_nil
    omega
  have latest : latestBuilt? (earlier ++
      [⟨force, listing.map fun _ => tables, cache, ending, after⟩]) =
        (keeping none ending).or (latestBuilt? earlier) := by
    rw [latestBuilt?_append, built?, if_pos longer]
  constructor
  case served =>
    intro hforce catalog hlatest
    rw [← hkept, wanted.resolve_left (by simpa using hforce)] at hlatest
    cases hlatest
  case reads => exact fun _ => ⟨transcript, exchanged, reads⟩
  case untouched =>
    intro hno
    rw [latest, kept, keeping_of_ne_returned _ hno, keeping_of_ne_returned _ hno]
    exact ⟨rfl, rfl⟩
  case kept => rw [latest, kept, keeping_eq_or, hkept]

theorem keeps_call (hkept : cache.kept = latestBuilt? earlier) :
    source.Keeps earlier (source.call tables cache force listing) := by
  by_cases wanted : force = true ∨ cache.kept = none
  case pos => exact keeps_call_of_wanted hkept wanted
  case neg =>
    obtain ⟨unforced, some⟩ := not_or.mp wanted
    obtain ⟨catalog, hcatalog⟩ := Option.ne_none_iff_exists'.mp some
    rw [Bool.not_eq_true] at unforced
    subst unforced
    exact keeps_call_of_kept hkept hcatalog

/-- Each call of a history keeps what was built last. -/
theorem keeps_follow (hkept : cache.kept = latestBuilt? earlier)
    (before later : List CatalogAction) :
    ∃ call rest,
      source.follow tables cache (before ++ .ask force listing :: later) =
        source.follow tables cache before ++ call :: rest ∧
      call.force = force ∧
      call.listing = listing.map (fun _ => CatalogAction.standing tables before) ∧
      source.Keeps (earlier ++ source.follow tables cache before) call := by
  -- Each call moves over to the earlier ones, and what is kept stays what the latest of them built.
  induction before generalizing tables cache earlier with
  | nil =>
      refine ⟨source.call tables cache force listing, _, rfl, rfl, rfl, ?_⟩
      rw [follow, List.append_nil]
      exact keeps_call hkept
  | cons action before ih =>
      cases action with
      | change other => exact ih hkept
      | ask force' listing' =>
          have first : source.Keeps earlier (source.call tables cache force' listing') :=
            keeps_call hkept
          obtain ⟨call, rest, hfollow, hforce, hlisting, keeps⟩ := ih first.kept
          refine ⟨call, rest, ?_, hforce, hlisting, ?_⟩
          · rw [List.cons_append, follow, hfollow]
            rfl
          · rwa [List.append_assoc, List.singleton_append] at keeps

/-- **A catalog is kept until the next one has been built.** Take any history of a source that has
kept nothing yet, with tables that change and calls for the catalog in any order, and any failures
of connecting, of closing, of listing the tables and of describing them. Each call in it gives out
what the latest successful call before it built, without a word to the database, unless there is
nothing to give out or the call insists on a new catalog. Then it connects, lists the tables that
are there at that moment and closes. It comes back with a catalog of these tables and keeps it if
all this succeeds. Otherwise it raises what has failed, or waits for ever, and what was kept
stays. -/
theorem catalog_kept_until_next_build (source : CatalogSource σ) (session : Session σ)
    (tables : List LiveTable) (before later : List CatalogAction) (force : Bool)
    (listing : Ending Unit) :
    ∃ call rest,
      source.follow tables (.fresh session) (before ++ .ask force listing :: later) =
        source.follow tables (.fresh session) before ++ call :: rest ∧
      call.force = force ∧
      call.listing = listing.map (fun _ => CatalogAction.standing tables before) ∧
      source.Keeps (source.follow tables (.fresh session) before) call := by
  have nothing : (CatalogCache.fresh session).kept = latestBuilt? ([] : List (CatalogCall σ)) := rfl
  exact keeps_follow nothing before later

/-- A table as a database describes it. -/
def liveRooms : LiveTable :=
  { name := "rooms", primaryKey := some ["id"], columns := some [⟨"id", some "TEXT", false⟩] }

/-- A script that refuses the second connection. -/
def refusing : Script :=
  { Script.empty with failures := [⟨"connect", 2, .other "refused"⟩] }

-- A catalog that cannot be read anew is still given out, also when its tables are gone.
open CatalogAction in
example :
    ((follow ⟨Script.database, none, "tenant_id"⟩ [liveRooms] (.fresh ⟨refusing, []⟩)
        [ask false (.returned ()), change [], ask true (.returned ()), ask false (.returned ())]).map
      fun call => (call.after.session.log.length, call.after.kept.map (·.tables.map Table.name))) =
      [(2, some ["rooms"]), (3, some ["rooms"]), (3, some ["rooms"])] := by
  decide +kernel

end CatalogSource

end Tenancy
