/-
# Commands are read again as they were

What was given of a command is a payload of the same command, at any depth of batches: the reader of
commands says of itself what it tells apart. A batch is read by the reader of its steps, so the law
goes up the number of batches that are still allowed.
-/

import Tenancy.Command.Reading
import Tenancy.Proofs.Validation.Rereading

namespace Tenancy

open Validation

/-! ## Tags -/

namespace Validation

variable {α β : Type} {word : String}

/-- What the reader accepts is tagged with a word. -/
def FieldReader.Tagged (word : String) (fr : FieldReader α) : Prop :=
  ∀ fs taken, fr fs = .ok taken → Named.get? fs "kind" = some (.text word)

/-- What the reader accepts is an object that is tagged with a word. -/
def Reader.Tagged (word : String) (r : Reader α) : Prop :=
  ∀ j a, r j = .ok a → ∃ fs, j = .object fs ∧ Named.get? fs "kind" = some (.text word)

theorem FieldReader.tagged_need (word : String) :
    FieldReader.Tagged word (need "kind" (.oneOf [(word, ())])) := by
  intro fs taken h
  obtain ⟨j, a, hj, ha, -⟩ := need_eq_ok rfl h
  rw [hj, Reader.eq_text_of_oneOf ha]

theorem FieldReader.Tagged.map {fr : FieldReader α} (h : fr.Tagged word) (f : α → β) :
    FieldReader.Tagged word (f <$> fr) := by
  intro fs taken htaken
  obtain ⟨tx, hx, -⟩ := FieldReader.map_eq_ok.mp htaken
  exact h fs tx hx

theorem FieldReader.Tagged.seq {f : FieldReader (α → β)} (h : f.Tagged word) (x : FieldReader α) :
    FieldReader.Tagged word (f <*> x) := by
  intro fs taken htaken
  obtain ⟨tf, _, hf, -, -⟩ := FieldReader.seq_eq_ok.mp htaken
  exact h fs tf hf

theorem Reader.tagged_object {fields : FieldReader α} (h : fields.Tagged word) (title : String) :
    (Reader.object title fields).Tagged word := by
  intro j a ha
  obtain ⟨fs, taken, hj, htaken, -, -⟩ := Reader.record_eq_ok ha
  exact ⟨fs, hj, h fs taken htaken⟩

theorem Reader.Tagged.map {r : Reader α} (h : r.Tagged word) (f : α → β) :
    (r.map f).Tagged word := by
  intro j b hb
  obtain ⟨a, ha, -⟩ := map_eq_ok.mp hb
  exact h j a ha

theorem Reader.Tagged.level {r : Reader α} (h : r.Tagged word) : r.level.Tagged word := by
  intro j b hb
  obtain ⟨a, ha, -⟩ := map_eq_ok.mp hb
  exact h j a ha

end Validation

/-! ## Commands on one table -/

theorem Filter.rereads_reader : Filter.reader.Rereads := by
  rw [Filter.reader, Reader.object]
  apply Reader.rereads_record
  have column := (rereads_need "column" Reader.rereads_word).map Filter.mk
  have op := rereads_need "op" (Reader.rereads_member (Operator.all.map fun op => (op.word, op)))
  have operand := rereads_stated "value" Reader.rereads_operand Reader.solid_operand
  exact (column.seq op (by decide)).seq operand (by decide)

theorem SortKey.rereads_reader : SortKey.reader.Rereads := by
  rw [SortKey.reader, Reader.object]
  apply Reader.rereads_record
  have column := (rereads_need "column" Reader.rereads_word).map SortKey.mk
  have direction := (FieldName.camel "direction").rereads_orElse
    (Reader.rereads_oneOf [("asc", Direction.asc), ("desc", Direction.desc)]) .asc (.text "asc")
  exact column.seq direction (by decide)

theorem Query.rereads_reader : Query.reader.Rereads := by
  rw [Query.reader, Reader.object]
  apply Reader.rereads_record
  have kind := rereads_need "kind" (Reader.rereads_oneOf [("query", ())])
  have table := rereads_need "table" Reader.rereads_word
  have select := rereads_maybe "select" Reader.rereads_text.list Reader.solid_list
  have filters := rereads_many "filters" Filter.rereads_reader
  have sort := rereads_many "sort" SortKey.rereads_reader
  have limit := rereads_maybe "limit" (Reader.rereads_intBetween 1 maxLimit)
    (Reader.solid_intBetween 1 maxLimit)
  have offset := rereads_maybe "offset" (Reader.rereads_intFrom 0) (Reader.solid_intFrom 0)
  exact ((((((kind.map _).seq table (by decide)).seq select (by decide)).seq filters
    (by decide)).seq sort (by decide)).seq limit (by decide)).seq offset
    (by decide)

theorem Mutation.rereads_reader : Mutation.reader.Rereads := by
  rw [Mutation.reader, Reader.object]
  apply Reader.rereads_record
  have kind := rereads_need "kind" (Reader.rereads_oneOf [("mutate", ())])
  have action := rereads_need "action" (Reader.rereads_oneOf [("insert", Action.insert),
    ("update", Action.update), ("delete", Action.delete)])
  have table := rereads_need "table" Reader.rereads_word
  have values := rereads_maybe "values" Reader.rereads_openFields Reader.solid_openFields
  have filters := rereads_many "filters" Filter.rereads_reader
  have returning := rereads_maybe "returning" Reader.rereads_text.list Reader.solid_list
  exact (((((kind.map _).seq action (by decide)).seq table (by decide)).seq values
    (by decide)).seq filters (by decide)).seq returning (by decide)

theorem Query.tagged_reader : Query.reader.Tagged "query" := by
  apply Reader.tagged_object
  iterate 6 apply FieldReader.Tagged.seq
  exact (FieldReader.tagged_need "query").map _

theorem Mutation.tagged_reader : Mutation.reader.Tagged "mutate" := by
  apply Reader.tagged_object
  iterate 5 apply FieldReader.Tagged.seq
  exact (FieldReader.tagged_need "mutate").map _

/-! ## Trees of commands -/

namespace Command

variable {batch step : Reader Command}

theorem tagged_batchReader : (batchReader step).Tagged "batch" :=
  (Reader.tagged_object (((FieldReader.tagged_need "batch").map _).seq _) _).level

theorem rereads_batchReader (h : step.Rereads) : (batchReader step).Rereads := by
  apply Reader.Rereads.level
  rw [Reader.object]
  apply Reader.rereads_record
  have kind := rereads_need "kind" (Reader.rereads_oneOf [("batch", ())])
  have steps := rereads_need "steps" h.nonemptyList
  exact (kind.map _).seq steps (by decide)

/-- What is accepted as a command is accepted as one of the three kinds. -/
theorem readerWith_eq_ok (hbatch : batch.Tagged "batch") {j : Json} {a : Accepted Command} :
    readerWith batch j = .ok a ↔ Query.reader.map Command.query j = .ok a ∨
      Mutation.reader.map Command.mutate j = .ok a ∨ batch j = .ok a := by
  constructor
  · intro h
    cases j with
    | object fs =>
        rw [readerWith] at h
        split at h
        · cases h
        · exact .inl (Outcome.under_eq_ok.mp h)
        · exact .inr (.inl (Outcome.under_eq_ok.mp h))
        · exact .inr (.inr (Outcome.under_eq_ok.mp h))
        · cases h
    | _ => cases h
  · rintro (h | h | h)
    · obtain ⟨fs, rfl, htag⟩ := (Query.tagged_reader.map Command.query) j a h
      rw [readerWith, htag]
      exact Outcome.under_eq_ok.mpr h
    · obtain ⟨fs, rfl, htag⟩ := (Mutation.tagged_reader.map Command.mutate) j a h
      rw [readerWith, htag]
      exact Outcome.under_eq_ok.mpr h
    · obtain ⟨fs, rfl, htag⟩ := hbatch j a h
      rw [readerWith, htag]
      exact Outcome.under_eq_ok.mpr h

theorem rereads_readerWith (hbatch : batch.Tagged "batch") (h : batch.Rereads) :
    (readerWith batch).Rereads := by
  intro j a ha
  rcases (readerWith_eq_ok hbatch).mp ha with ha | ha | ha
  · obtain ⟨a', ha', hvalue⟩ := Query.rereads_reader.map Command.query j a ha
    exact ⟨a', (readerWith_eq_ok hbatch).mpr (.inl ha'), hvalue⟩
  · obtain ⟨a', ha', hvalue⟩ := Mutation.rereads_reader.map Command.mutate j a ha
    exact ⟨a', (readerWith_eq_ok hbatch).mpr (.inr (.inl ha')), hvalue⟩
  · obtain ⟨a', ha', hvalue⟩ := h j a ha
    exact ⟨a', (readerWith_eq_ok hbatch).mpr (.inr (.inr ha')), hvalue⟩

theorem rereads_stepReader (batches : Nat) : (stepReader batches).Rereads := by
  induction batches with
  | zero =>
      apply rereads_readerWith
      · intro j a h
        cases h
      · intro j a h
        cases h
  | succ batches ih => exact rereads_readerWith tagged_batchReader (rereads_batchReader ih)

/-- What was given of the command of a request is read again as the same command. -/
theorem rereads_partReader : partReader.Rereads :=
  rereads_readerWith tagged_batchReader.level (rereads_batchReader (rereads_stepReader _)).level

end Command

/-! ## Requests -/

theorem Scope.rereads_reader : Scope.reader.Rereads := by
  rw [Scope.reader, Reader.object]
  apply Reader.rereads_record
  have bizId := rereads_maybe "bizId" Reader.rereads_word Reader.solid_word
  have locationId := rereads_maybe "locationId" Reader.rereads_word Reader.solid_word
  have actorUserId := rereads_maybe "actorUserId" Reader.rereads_word Reader.solid_word
  exact ((bizId.map _).seq locationId (by decide)).seq actorUserId (by decide)

namespace Request

/-- The names under which the ids of a request are found. -/
def idNames : List String :=
  (FieldName.camel "requestId").names ++ (FieldName.camel "idempotencyKey").names

theorem idNames_apart : ∀ n ∈ idNames, n ≠ "dryRun" ∧ n ≠ "scope" ∧
    n ∉ (FieldName.camel "dryRun").names ∧ n ∉ (FieldName.camel "scope").names ∧
    n ∉ (FieldName.camel "command").names ∧ n ∉ (FieldName.camel "metadata").names := by
  decide

theorem commandNames_apart : ∀ n ∈ (FieldName.camel "command").names, n ≠ "dryRun" ∧ n ≠ "scope" ∧
    n ∉ idNames ++ (FieldName.camel "dryRun").names ++ (FieldName.camel "scope").names ∧
    n ∉ (FieldName.camel "metadata").names := by
  decide

theorem metadataNames_apart : ∀ n ∈ (FieldName.camel "metadata").names,
    n ≠ "dryRun" ∧ n ≠ "scope" ∧
    n ∉ idNames ++ (FieldName.camel "dryRun").names ++ (FieldName.camel "scope").names ++
      (FieldName.camel "command").names := by
  decide

/-- A request is read again as it was from what was given of it, but for the scope and for whether
it is a dry run, which may be replaced. -/
theorem reread {j : Json} {a : Accepted Request} (h : reader j = .ok a) {gs : Fields}
    (hdryRun : Named.get? gs "dryRun" = some (.bool false)) {scope : Json} {s : Accepted Scope}
    (hscope : Named.get? gs "scope" = some scope) (hvalid : Scope.reader scope = .ok s)
    (hrest : ∀ n, n ≠ "dryRun" → n ≠ "scope" → (a.written.field? n) = Named.get? gs n) :
    ∃ a', reader (.object gs) = .ok a' ∧
      a'.value = { a.value with dryRun := some false, scope := s.value } := by
  rw [reader, Reader.object] at h ⊢
  obtain ⟨fs, taken, -, htaken, -, rfl⟩ := Reader.record_eq_ok h
  obtain ⟨t₅, metadata, h₅, hmetadata, rfl⟩ := FieldReader.seq_eq_ok.mp htaken
  obtain ⟨t₄, command, h₄, hcommand, rfl⟩ := FieldReader.seq_eq_ok.mp h₅
  obtain ⟨t₃, oldScope, h₃, holdScope, rfl⟩ := FieldReader.seq_eq_ok.mp h₄
  obtain ⟨ids, oldDryRun, hids, holdDryRun, rfl⟩ := FieldReader.seq_eq_ok.mp h₃
  have rereadsIds : FieldReader.Rereads idNames _ :=
    ((rereads_maybe "requestId" Reader.rereads_word Reader.solid_word).map Request.mk).seq
      (rereads_maybe "idempotencyKey" Reader.rereads_word Reader.solid_word) (by decide)
  have rereadsDryRun := (FieldName.camel "dryRun").rereads_orElse (Reader.rereads_bool.map some)
    none (.bool true)
  have rereadsScope : Scope.field.Rereads (FieldName.camel "scope").names :=
    FieldName.rereads_orElse Scope.rereads_reader _ _
  have rereadsCommand := rereads_need "command" Command.rereads_partReader
  have rereadsMetadata := rereads_maybe "metadata" Reader.rereads_openFields Reader.solid_openFields
  have rereads₃ := rereadsIds.seq rereadsDryRun (by decide)
  have rereads₄ := rereads₃.seq rereadsScope (by decide)
  have rereads₅ := rereads₄.seq rereadsCommand (by decide)
  have kept (n : String) (hne : n ≠ "dryRun") (hne' : n ≠ "scope") :
      Named.get? gs n = Named.get?
        ((((ids.apply oldDryRun).apply oldScope).apply command).apply metadata).written n :=
    (hrest n hne hne').symm
  -- each reader finds in the replaced payload what it has written itself
  obtain ⟨ids', hids', hidsValue⟩ := rereadsIds.again fs ids hids gs fun n hn => by
    obtain ⟨hne, hne', hdryRun, hscope, hcommand', hmetadata'⟩ := idNames_apart n hn
    rw [kept n hne hne', rereadsMetadata.get?_apply_left hmetadata hmetadata',
      rereadsCommand.get?_apply_left hcommand hcommand',
      rereadsScope.get?_apply_left holdScope hscope,
      rereadsDryRun.get?_apply_left holdDryRun hdryRun]
  obtain ⟨command', hcommand', hcommandValue⟩ :=
    rereadsCommand.again fs command hcommand gs fun n hn => by
      obtain ⟨hne, hne', hbefore, hafter⟩ := commandNames_apart n hn
      rw [kept n hne hne', rereadsMetadata.get?_apply_left hmetadata hafter,
        rereads₄.get?_apply_right h₄ hbefore]
  obtain ⟨metadata', hmetadata', hmetadataValue⟩ :=
    rereadsMetadata.again fs metadata hmetadata gs fun n hn => by
      obtain ⟨hne, hne', hbefore⟩ := metadataNames_apart n hn
      rw [kept n hne hne', rereads₅.get?_apply_right h₅ hbefore]
  have dryRun := FieldName.orElse_of_get? (n := .camel "dryRun") hdryRun
    (r := Reader.bool.map some) (a := ⟨some false, .bool false, .bool false⟩) rfl none (.bool true)
  have field := FieldName.orElse_of_get? (n := .camel "scope") hscope hvalid Scope.none
    (.object [("bizId", .null), ("locationId", .null), ("actorUserId", .null)])
  refine ⟨_, Reader.record_of_eq_ok (FieldReader.seq_eq_ok.mpr ⟨_, metadata',
    FieldReader.seq_eq_ok.mpr ⟨_, command', FieldReader.seq_eq_ok.mpr ⟨_, _,
    FieldReader.seq_eq_ok.mpr ⟨ids', _, hids', dryRun, rfl⟩, field, rfl⟩, hcommand', rfl⟩,
    hmetadata', rfl⟩) rfl, ?_⟩
  simp only [Taken.object, Taken.apply, hidsValue, hcommandValue, hmetadataValue]
  obtain ⟨_, _, hfirst, -, rfl⟩ := FieldReader.seq_eq_ok.mp hids
  obtain ⟨_, -, rfl⟩ := FieldReader.map_eq_ok.mp hfirst
  rfl

end Request

end Tenancy
