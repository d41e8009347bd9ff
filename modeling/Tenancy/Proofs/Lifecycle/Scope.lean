/-
# Scopes of literal requests

A literal request is carried out under three scopes, that of the defaults, its own, and that of the
scenario or of the step it belongs to. Scenarios lay one scope over another. Scripted runs go
through payloads: the scopes are written down without what they leave open, searched for tokens,
laid over one another as objects, and read again as one scope, and the request's own scope is taken
from what was given of it, with the nulls left out. This module shows that both come to the same,
which is field by field the last that says something, where no scope holds a token.

Nothing is asked of the rest of the request. If it holds a token that cannot be resolved, or cannot
be read again, the step carries nothing out, and whatever it does carry out is under that scope.
-/

import Tenancy.Proofs.Lifecycle.Conversation
import Tenancy.Proofs.Lifecycle.Literal
import Tenancy.Proofs.Scenario.DryRun

namespace Tenancy

open Validation Template

/-! ## Texts without tokens -/

namespace Template

/-- Whether no piece of a text is a token. -/
def isTokenFree (cs : List Char) : Bool :=
  (pieces 0 cs).all fun p =>
    match p with
    | .char _ => true
    | .token _ => false

/-- A text without tokens consists of characters. -/
theorem pieces_of_isTokenFree {cs : List Char} (h : isTokenFree cs = true) :
    pieces 0 cs = cs.map .char := by
  induction cs with
  | nil => rfl
  | cons c rest ih =>
      have front : pieces 0 (c :: rest) = .char c :: pieces 0 rest := by
        rw [isTokenFree, pieces] at h
        rw [pieces]
        split
        · cases hahead : tokenAhead? rest with
          | none => rfl
          | some body => simp_all
        · rfl
      rw [isTokenFree, front, List.all_cons] at h
      rw [front, ih (by simpa [isTokenFree] using h), List.map_cons]

namespace Interpreter

variable (ids : IdSource)

/-- Null, or a text without tokens. -/
def Inert (j : Json) : Prop :=
  j = .null ∨ ∃ text, j = .text text ∧ isTokenFree text.toList = true

theorem interpolateWithin_of_inert (t : Interpreter) (levels : Nat) {j : Json} (h : Inert j) :
    interpolateWithin ids levels j t = (.ok (.plain j), t) := by
  rcases h with rfl | ⟨text, rfl, h⟩
  · rw [interpolateWithin]
    all_goals exact fun _ h => nomatch h
  · rw [interpolateWithin]
    exact interpolateText_of_chars ids levels t (pieces_of_isTokenFree h)

/-- Fields without tokens come out as they are. -/
theorem fieldsWithin_of_inert (t : Interpreter) (levels : Nat) {fields : Fields}
    (h : ∀ f ∈ fields, Inert f.2) :
    fieldsWithin ids levels fields t = (.ok (Live.ofFields fields), t) := by
  induction fields with
  | nil => rfl
  | cons f rest ih =>
      rw [fieldsWithin, interpolateWithin_of_inert ids t levels (h f List.mem_cons_self)]
      dsimp only
      rw [ih fun f hf => h f (List.mem_cons_of_mem _ hf)]
      rfl

theorem interpolateFields_of_inert (t : Interpreter) {fields : Fields}
    (h : ∀ f ∈ fields, Inert f.2) : interpolateFields ids fields t =
      (if t.stack.search = 0 then .error .tooDeep else .ok (Live.ofFields fields), t) := by
  unfold interpolateFields
  cases hsearch : t.stack.search with
  | zero => rfl
  | succ levels => exact fieldsWithin_of_inert ids t levels h

/-- An object comes out as one, with what came out of its fields. -/
theorem fields_of_interpolateWithin {levels : Nat} {fields : Fields} {t t' : Interpreter} {v : Live}
    (h : interpolateWithin ids levels (.object fields) t = (.ok v, t')) :
    ∃ inner resolved, fieldsWithin ids inner fields t = (.ok resolved, t') ∧
      v = .object resolved := by
  cases levels with
  | zero => cases h
  | succ levels =>
      rw [interpolateWithin] at h
      rcases hfields : fieldsWithin ids levels fields t with ⟨_ | resolved, mid⟩
      · rw [hfields] at h
        cases h
      · rw [hfields] at h
        cases h
        exact ⟨levels, resolved, hfields, rfl⟩

/-- What comes out under a name came out of what stood there. -/
theorem get?_fieldsWithin {levels : Nat} {fields : Fields} {t t' : Interpreter}
    {resolved : Named Live} (h : fieldsWithin ids levels fields t = (.ok resolved, t'))
    (name : String) :
    (Named.get? fields name = none ∧ resolved.get? name = none) ∨
      ∃ j before v after, Named.get? fields name = some j ∧
        interpolateWithin ids levels j before = (.ok v, after) ∧
        resolved.get? name = some v := by
  induction fields generalizing t resolved with
  | nil =>
      cases h
      exact .inl ⟨rfl, rfl⟩
  | cons f rest ih =>
      rw [fieldsWithin] at h
      rcases hfirst : interpolateWithin ids levels f.2 t with ⟨_ | v, mid⟩
      · rw [hfirst] at h
        cases h
      · rw [hfirst] at h
        dsimp only at h
        rcases hrest : fieldsWithin ids levels rest mid with ⟨_ | vs, last⟩
        · rw [hrest] at h
          cases h
        · rw [hrest] at h
          cases h
          rw [Named.get?_cons, Named.get?_cons]
          by_cases hname : f.1 = name
          · rw [if_pos hname, if_pos hname]
            exact .inr ⟨f.2, t, v, mid, rfl, hfirst, rfl⟩
          · rw [if_neg hname, if_neg hname]
            exact ih hrest

end Interpreter

end Template

/-- Plain fields hold nothing to be filled in. -/
theorem Live.fillFields_ofFields (bag : Json) (fields : Fields) :
    fillFields bag (ofFields fields) = fields := by
  induction fields with
  | nil => rfl
  | cons f rest ih =>
      show (f.1, f.2) :: fillFields bag (ofFields rest) = _
      rw [ih]

/-! ## Scopes as layers -/

namespace Scope

/-- The texts of the fields that say something. -/
def texts (s : Scope) : List String :=
  [s.bizId, s.locationId, s.actorUserId].filterMap id

/-- Each field of the scope is left open or says something in a text without tokens. A scope that
is read from a payload has no empty texts. -/
def Plain (s : Scope) : Prop :=
  ∀ text ∈ s.texts, text ≠ "" ∧ isTokenFree text.toList = true

instance (s : Scope) : Decidable s.Plain :=
  inferInstanceAs (Decidable (∀ text ∈ s.texts, text ≠ "" ∧ isTokenFree text.toList = true))

/-- Field by field, the last of some scopes that says something. -/
def merged (layers : List Scope) : Scope :=
  ⟨(layers.filterMap bizId).getLast?, (layers.filterMap locationId).getLast?,
    (layers.filterMap actorUserId).getLast?⟩

/-- What a layer says stands where the layers after it leave the field open. -/
theorem getLast?_filterMap_of_last {field : Scope → Option String} {earlier later : List Scope}
    {layer : Scope} {text : String} (hstates : field layer = some text)
    (hopen : ∀ s ∈ later, field s = Option.none) :
    ((earlier ++ layer :: later).filterMap field).getLast? = some text := by
  have rest : later.filterMap field = [] := List.filterMap_eq_nil_iff.mpr hopen
  rw [List.filterMap_append, List.filterMap_cons_some hstates, rest, List.getLast?_append]
  rfl

theorem getLast?_filterMap_three (field : Scope → Option String) (d r s : Scope) :
    ([d, r, s].filterMap field).getLast? = (field s).or ((field r).or (field d)) := by
  simp only [List.filterMap_cons, List.filterMap_nil]
  cases field d <;> cases field r <;> cases field s <;> rfl

theorem merged_three (d r s : Scope) :
    merged [d, r, s] =
      ⟨s.bizId.or (r.bizId.or d.bizId), s.locationId.or (r.locationId.or d.locationId),
        s.actorUserId.or (r.actorUserId.or d.actorUserId)⟩ := by
  rw [merged, getLast?_filterMap_three, getLast?_filterMap_three, getLast?_filterMap_three]

/-- Laying scopes over one another merges them. -/
theorem laidOver_laidOver (d r s : Scope) : s.laidOver (r.laidOver d) = merged [d, r, s] := by
  simp only [merged_three, laidOver, Option.orElse_eq_orElse, Option.orElse_eq_or]

/-- A text of a merged scope is a text of one of its layers. -/
theorem exists_mem_texts_of_merged {layers : List Scope} {text : String}
    (h : text ∈ (merged layers).texts) : ∃ s ∈ layers, text ∈ s.texts := by
  have layer {field : Scope → Option String}
      (hfield : (layers.filterMap field).getLast? = some text) :
      ∃ s ∈ layers, field s = some text :=
    List.mem_filterMap.mp (List.mem_of_getLast? hfield)
  simp only [texts, List.mem_filterMap, List.mem_cons, List.not_mem_nil, or_false, id_eq,
    exists_eq_or_imp, exists_eq_left] at h ⊢
  rcases h with h | h | h
  · obtain ⟨s, hs, htext⟩ := layer h
    exact ⟨s, hs, .inl htext⟩
  · obtain ⟨s, hs, htext⟩ := layer h
    exact ⟨s, hs, .inr (.inl htext)⟩
  · obtain ⟨s, hs, htext⟩ := layer h
    exact ⟨s, hs, .inr (.inr htext)⟩

/-! ## Scopes in payloads -/

theorem nodup_stated (s : Scope) : (s.stated.map Prod.fst).Nodup := by
  obtain ⟨b, l, a⟩ := s
  cases b <;> cases l <;> cases a <;> simp [stated]

theorem inert_of_mem_stated {s : Scope} (h : s.Plain) :
    ∀ f ∈ s.stated, Interpreter.Inert f.2 := by
  intro f hf
  obtain ⟨⟨name, field⟩, hfield, hf⟩ := List.mem_filterMap.mp hf
  obtain ⟨text, rfl, rfl⟩ := Option.map_eq_some_iff.mp hf
  refine .inr ⟨text, rfl, (h text ?_).2⟩
  simp only [List.mem_cons, Prod.mk.injEq, List.not_mem_nil, or_false] at hfield
  simp only [texts, List.mem_filterMap, List.mem_cons, List.not_mem_nil, or_false, id_eq,
    exists_eq_or_imp, exists_eq_left]
  rcases hfield with ⟨-, h⟩ | ⟨-, h⟩ | ⟨-, h⟩
  · exact .inl h.symm
  · exact .inr (.inl h.symm)
  · exact .inr (.inr h.symm)

/-- What a scope without tokens says comes out as it is, if the stack reaches it. -/
theorem interpolateFields_stated (ids : IdSource) {s : Scope} (h : s.Plain) (t : Interpreter) :
    Interpreter.interpolateFields ids s.stated t =
      (if t.stack.search = 0 then .error .tooDeep else .ok (Live.ofFields s.stated), t) :=
  Interpreter.interpolateFields_of_inert ids t (inert_of_mem_stated h)

theorem stated_getD (s : Option Scope) :
    (s.map stated).getD [] = (s.getD Scope.none).stated := by
  cases s <;> rfl

/-- The names under which a field of a scope may be found, with what the scope says there. -/
theorem get?_stated (s : Scope) :
    Named.get? s.stated "bizId" = s.bizId.map Json.text ∧
      Named.get? s.stated "locationId" = s.locationId.map Json.text ∧
      Named.get? s.stated "actorUserId" = s.actorUserId.map Json.text ∧
      ∀ name ∈ ["biz_id", "location_id", "actor_user_id"],
        Named.get? s.stated name = Option.none := by
  obtain ⟨b, l, a⟩ := s
  cases b <;> cases l <;> cases a <;> simp [stated, Named.get?]

/-- Three scopes in one payload, the later ones winning. -/
def layered (d r s : Scope) : Fields :=
  (Named.overlay d.stated r.stated).overlay s.stated

theorem get?_layered (d r s : Scope) (name : String) :
    Named.get? (layered d r s) name =
      (Named.get? s.stated name).or
        ((Named.get? r.stated name).or (Named.get? d.stated name)) := by
  rw [layered, Named.get?_overlay s.nodup_stated, Named.get?_overlay r.nodup_stated]

/-- Texts under one name of three scopes: the last that is there. -/
theorem get?_layered_text {d r s : Scope} {name : String} {x y z : Option String}
    (hd : Named.get? d.stated name = x.map Json.text)
    (hr : Named.get? r.stated name = y.map Json.text)
    (hs : Named.get? s.stated name = z.map Json.text) :
    Named.get? (layered d r s) name = (z.or (y.or x)).map Json.text := by
  rw [get?_layered, hd, hr, hs, Option.map_or, Option.map_or]

end Scope

/-! ## Reading scopes -/

namespace Validation

/-- What a run of a reader accepts is what the reader accepts. -/
theorem Reader.of_run {α : Type} {r : Reader α} {title : String} {j : Json} {a : Accepted α}
    (h : r.run title j = .ok a) : r j = .ok a := by
  rw [Reader.run] at h
  split at h
  · rename_i found hfound
    cases h
    exact hfound
  · cases h

/-- A word is read from a nonempty text. -/
theorem word_eq_ok {j : Json} {a : Accepted String} (h : Reader.word j = .ok a) :
    ∃ text, text ≠ "" ∧ j = .text text ∧ a = .plain text (.text text) := by
  obtain ⟨hread, hcheck⟩ := Reader.guarded_eq_ok.mp h
  cases j with
  | text s =>
      cases hread
      refine ⟨s, ?_, rfl, rfl⟩
      rintro rfl
      cases hcheck
  | _ => cases hread

theorem word_of_ne {text : String} (h : text ≠ "") :
    Reader.word (.text text) = .ok (.plain text (.text text)) := by
  refine Reader.guarded_eq_ok.mpr ⟨rfl, ?_⟩
  simpa [Accepted.plain, Accepted.uniform] using h

/-- A word that may be absent is read where the field has it, or where the field is not there. -/
theorem exists_maybe_word {name : String} {fs : Fields} {value : Option String}
    (hvalue : fs.get? name = value.map Json.text)
    (hother : fs.get? (FieldName.camel name).other = none)
    (hne : ∀ text, value = some text → text ≠ "") :
    ∃ taken, maybe name Reader.word fs = .ok taken ∧ taken.value = value := by
  cases value with
  | none =>
      have absent : (FieldName.camel name).find? fs = none := by
        rw [FieldName.find?, hother, show fs.get? (FieldName.camel name).name = none from hvalue]
        rfl
      exact ⟨_, by rw [maybe, FieldName.orElse, absent], rfl⟩
  | some text =>
      have read : Reader.word.nullable (.text text) = .ok _ :=
        map_eq_ok.mpr ⟨_, word_of_ne (hne text rfl), rfl⟩
      exact ⟨_, FieldName.orElse_of_get? (n := .camel name) hvalue read _ _, rfl⟩

/-- Of a word that may be absent nothing was given, or null, or the word. -/
theorem of_maybe_word {name : String} {fs : Fields} {taken : Taken (Option String)}
    (h : maybe name Reader.word fs = .ok taken) :
    (∀ f ∈ taken.written, f.2 = .null ∨ ∃ text, taken.value = some text ∧ f.2 = .text text) ∧
      Prepared.withoutNulls (Live.ofFields taken.written) =
        Live.ofFields (taken.value.map fun text => (name, Json.text text)).toList := by
  rw [maybe, FieldName.orElse] at h
  split at h
  · obtain ⟨a, ha, hvalue, hwritten⟩ := FieldName.take_eq_ok h
    rw [hvalue, hwritten]
    rename_i found _
    by_cases hnull : found.2 = .null
    · rw [hnull] at ha
      cases ha
      exact ⟨fun f hf => .inl (by rw [List.mem_singleton.mp hf]; rfl), rfl⟩
    · rw [Reader.nullable_of_ne_null hnull] at ha
      obtain ⟨b, hb, rfl⟩ := map_eq_ok.mp ha
      obtain ⟨text, -, -, rfl⟩ := word_eq_ok hb
      exact ⟨fun f hf => .inr ⟨text, rfl, by rw [List.mem_singleton.mp hf]; rfl⟩, rfl⟩
  · cases h
    exact ⟨fun f hf => absurd hf List.not_mem_nil, rfl⟩

end Validation

namespace Scope

/-- A payload whose fields say what a scope says is read as that scope. -/
theorem exists_reader {fs : Fields} {s : Scope} (hne : ∀ text ∈ s.texts, text ≠ "")
    (hbiz : Named.get? fs "bizId" = s.bizId.map Json.text)
    (hlocation : Named.get? fs "locationId" = s.locationId.map Json.text)
    (hactor : Named.get? fs "actorUserId" = s.actorUserId.map Json.text)
    (hothers : ∀ name ∈ ["biz_id", "location_id", "actor_user_id"],
      Named.get? fs name = Option.none) :
    ∃ a, Scope.reader (.object fs) = .ok a ∧ a.value = s := by
  obtain ⟨biz, hbiz, hbizValue⟩ := exists_maybe_word hbiz
    (hothers "biz_id" (by decide)) fun text h => hne text (by simp [texts, h])
  obtain ⟨location, hlocation, hlocationValue⟩ := exists_maybe_word hlocation
    (hothers "location_id" (by decide)) fun text h => hne text (by simp [texts, h])
  obtain ⟨actor, hactor, hactorValue⟩ := exists_maybe_word hactor
    (hothers "actor_user_id" (by decide)) fun text h => hne text (by simp [texts, h])
  rw [reader, Reader.object]
  refine ⟨_, Reader.record_of_eq_ok (FieldReader.seq_eq_ok.mpr ⟨_, actor, FieldReader.seq_eq_ok.mpr
    ⟨_, location, FieldReader.map_eq_ok.mpr ⟨biz, hbiz, rfl⟩, hlocation, rfl⟩, hactor, rfl⟩) rfl,
    ?_⟩
  show Scope.mk biz.value location.value actor.value = s
  rw [hbizValue, hlocationValue, hactorValue]

theorem stated_eq (s : Scope) : s.stated =
    (s.bizId.map fun text => ("bizId", Json.text text)).toList ++
      (s.locationId.map fun text => ("locationId", Json.text text)).toList ++
      (s.actorUserId.map fun text => ("actorUserId", Json.text text)).toList := by
  obtain ⟨b, l, a⟩ := s
  cases b <;> cases l <;> cases a <;> rfl

theorem withoutNulls_ofFields_append (fs gs : Fields) :
    Prepared.withoutNulls (Live.ofFields (fs ++ gs)) =
      Prepared.withoutNulls (Live.ofFields fs) ++ Prepared.withoutNulls (Live.ofFields gs) := by
  rw [Live.ofFields, List.map_append, Prepared.withoutNulls, List.filter_append]
  rfl

/-- What was given of a scope that was read: nulls, and the texts of the scope. Without the nulls
it is what the scope says. -/
theorem of_reader {j : Json} {a : Accepted Scope} (h : Scope.reader j = .ok a) :
    ∃ fs, a.written = .object fs ∧
      (∀ f ∈ fs, f.2 = .null ∨ ∃ text ∈ a.value.texts, f.2 = .text text) ∧
      Prepared.withoutNulls (Live.ofFields fs) = Live.ofFields a.value.stated := by
  rw [reader, Reader.object] at h
  obtain ⟨_, taken, rfl, htaken, -, rfl⟩ := Reader.record_eq_ok h
  obtain ⟨t₂, actor, h₂, hactor, rfl⟩ := FieldReader.seq_eq_ok.mp htaken
  obtain ⟨t₁, location, h₁, hlocation, rfl⟩ := FieldReader.seq_eq_ok.mp h₂
  obtain ⟨biz, hbiz, rfl⟩ := FieldReader.map_eq_ok.mp h₁
  obtain ⟨bizLeaves, bizStated⟩ := of_maybe_word hbiz
  obtain ⟨locationLeaves, locationStated⟩ := of_maybe_word hlocation
  obtain ⟨actorLeaves, actorStated⟩ := of_maybe_word hactor
  have written : (Taken.object ((Taken.apply ⟨Scope.mk biz.value, biz.full, biz.given⟩
      location).apply actor)).written =
        .object (biz.written ++ location.written ++ actor.written) := by
    show Json.object (Taken.written _) = _
    rw [FieldReader.written_apply, FieldReader.written_apply]
    rfl
  have value : (Taken.object ((Taken.apply ⟨Scope.mk biz.value, biz.full, biz.given⟩
      location).apply actor)).value = ⟨biz.value, location.value, actor.value⟩ := rfl
  rw [value]
  refine ⟨_, written, ?_, ?_⟩
  · have mem {field : Option String} (hfield : field ∈ [biz.value, location.value, actor.value])
        {f : String × Json} (h : f.2 = .null ∨ ∃ text, field = some text ∧ f.2 = .text text) :
        f.2 = .null ∨
          ∃ text ∈ texts ⟨biz.value, location.value, actor.value⟩, f.2 = .text text := by
      rcases h with h | ⟨text, rfl, h⟩
      · exact .inl h
      · exact .inr ⟨text, List.mem_filterMap.mpr ⟨some text, hfield, rfl⟩, h⟩
    intro f hf
    rcases List.mem_append.mp hf with hf | hf
    · rcases List.mem_append.mp hf with hf | hf
      · exact mem (by simp) (bizLeaves f hf)
      · exact mem (by simp) (locationLeaves f hf)
    · exact mem (by simp) (actorLeaves f hf)
  · rw [withoutNulls_ofFields_append, withoutNulls_ofFields_append, bizStated, locationStated,
      actorStated, stated_eq, Live.ofFields, Live.ofFields, Live.ofFields, Live.ofFields,
      List.map_append, List.map_append]

end Scope

/-! ## The scope of a request -/

namespace Request

/-- The scope of a request is read from its own field, and what was given of it is kept there. -/
theorem of_reader {payload : Json} {a : Accepted Request} (h : Request.reader payload = .ok a) :
    ∃ fs taken, payload = .object fs ∧ Scope.field fs = .ok taken ∧
      taken.value = a.value.scope ∧
      a.written.field? "scope" = Named.get? taken.written "scope" := by
  rw [Request.reader, Reader.object] at h
  obtain ⟨fs, taken, rfl, htaken, -, rfl⟩ := Reader.record_eq_ok h
  obtain ⟨t₅, metadata, h₅, hmetadata, rfl⟩ := FieldReader.seq_eq_ok.mp htaken
  obtain ⟨t₄, command, h₄, hcommand, rfl⟩ := FieldReader.seq_eq_ok.mp h₅
  obtain ⟨t₃, scope, h₃, hscope, rfl⟩ := FieldReader.seq_eq_ok.mp h₄
  obtain ⟨before, dryRun, hbefore, hdryRun, rfl⟩ := FieldReader.seq_eq_ok.mp h₃
  have rereadsIds : FieldReader.Rereads idNames _ :=
    ((rereads_maybe "requestId" Reader.rereads_word Reader.solid_word).map Request.mk).seq
      (rereads_maybe "idempotencyKey" Reader.rereads_word Reader.solid_word) (by decide)
  have rereadsBefore := rereadsIds.seq ((FieldName.camel "dryRun").rereads_orElse
    (Reader.rereads_bool.map some) none (.bool true)) (by decide)
  have rereadsCommand := rereads_need "command" Command.rereads_partReader
  have rereadsMetadata := rereads_maybe "metadata" Reader.rereads_openFields Reader.solid_openFields
  refine ⟨fs, scope, rfl, hscope, ?value, ?field⟩
  case value =>
    obtain ⟨_, _, hfirst, -, rfl⟩ := FieldReader.seq_eq_ok.mp hbefore
    obtain ⟨_, -, rfl⟩ := FieldReader.map_eq_ok.mp hfirst
    rfl
  case field =>
    show Named.get? (Taken.written _) "scope" = _
    rw [rereadsMetadata.get?_apply_left hmetadata (by decide),
      rereadsCommand.get?_apply_left hcommand (by decide),
      rereadsBefore.get?_apply_right h₃ (by decide)]

/-- The scope that was given with a request is absent, and says nothing then, or is what was given
of a scope that was read. -/
theorem scope_written {payload : Json} {a : Accepted Request} (h : Request.reader payload = .ok a) :
    (a.written.field? "scope" = none ∧ a.value.scope = Scope.none) ∨
      ∃ j b, Scope.reader j = .ok b ∧ b.value = a.value.scope ∧
        a.written.field? "scope" = some b.written := by
  obtain ⟨fs, taken, -, htaken, hvalue, hwritten⟩ := of_reader h
  rw [hwritten, ← hvalue]
  rw [Scope.field, FieldName.orElse] at htaken
  split at htaken
  · obtain ⟨b, hb, hsame, hgiven⟩ := FieldName.take_eq_ok htaken
    exact .inr ⟨_, b, hb, hsame.symm, by rw [hgiven]; rfl⟩
  · cases htaken
    exact .inl ⟨rfl, rfl⟩

/-- A request whose scope stands under its own name is read under that scope. -/
theorem scope_read {fs : Fields} {a : Accepted Request} (h : Request.reader (.object fs) = .ok a)
    {j : Json} (hj : Named.get? fs "scope" = some j) {b : Accepted Scope}
    (hb : Scope.reader j = .ok b) : a.value.scope = b.value := by
  obtain ⟨_, taken, hfs, htaken, hvalue, -⟩ := of_reader h
  cases hfs
  have field := FieldName.orElse_of_get? (n := .camel "scope") hj hb Scope.none
    (.object [("bizId", .null), ("locationId", .null), ("actorUserId", .null)])
  rw [Scope.field, field] at htaken
  cases htaken
  exact hvalue.symm

end Request

/-! ## Literal steps -/

namespace Prepared

section Steps

variable {ids : IdSource} {translator : Translator} {d own step : Scope} {payload : Json}
  {submitted : Accepted Request}

/-- What is searched for tokens in the payload of a request leaves its scope as it was, but for the
nulls. -/
theorem scope_of_interpolated (hread : Request.reader payload = .ok submitted)
    (hplain : submitted.value.scope.Plain) {t t' : Interpreter} {resolved : Live}
    (h : t.interpolate ids submitted.written = (.ok resolved, t')) :
    withoutNulls (((resolved.fields.get? "scope").map Live.fields).getD []) =
      Live.ofFields submitted.value.scope.stated := by
  obtain ⟨given, hgiven⟩ := Request.written_eq_object hread
  have scope := Request.scope_written hread
  rw [hgiven] at h scope
  obtain ⟨_, fs, hfields, rfl⟩ := Interpreter.fields_of_interpolateWithin ids h
  have found := Interpreter.get?_fieldsWithin ids hfields "scope"
  rw [Live.fields]
  rcases scope with ⟨habsent, hopen⟩ | ⟨_, b, hb, hsame, hwritten⟩
  · rcases found with ⟨-, hnone⟩ | ⟨j, _, _, _, hj, -⟩
    · rw [hnone, hopen]
      rfl
    · cases habsent.symm.trans hj
  · obtain ⟨own, hown, leaves, stated⟩ := Scope.of_reader hb
    rcases found with ⟨hnone, -⟩ | ⟨j, before, v, after, hj, hv, hsome⟩
    · cases hwritten.symm.trans hnone
    · obtain rfl : b.written = j := Option.some.inj (hwritten.symm.trans hj)
      have inert : ∀ f ∈ own, Interpreter.Inert f.2 := by
        intro f hf
        rcases leaves f hf with leaf | ⟨text, htext, hf⟩
        · exact .inl leaf
        · exact .inr ⟨text, hf, (hplain text (hsame ▸ htext)).2⟩
      rw [hown] at hv
      obtain ⟨inner, _, hinner, rfl⟩ := Interpreter.fields_of_interpolateWithin ids hv
      rw [Interpreter.fieldsWithin_of_inert ids before inner inert] at hinner
      cases hinner
      rw [hsome, ← hsame]
      exact stated

/-- The scope in the payload of a literal request: what the three scopes say, laid over one
another. -/
theorem get?_literalPayload_scope (d step : Scope) {resolved : Named Live}
    (h : withoutNulls (((resolved.get? "scope").map Live.fields).getD []) =
      Live.ofFields own.stated) :
    Named.get? (literalPayload (Live.ofFields d.stated) (Live.ofFields step.stated) resolved).fields
      "scope" = some (.object (Live.ofFields (Scope.layered d own step))) := by
  rw [literalPayload, Live.fields, Named.get?_put_self, h, Scope.layered, Live.ofFields,
    Live.ofFields, Live.ofFields, Live.ofFields, Named.map_overlay, Named.map_overlay]

/-- Three scopes laid over one another are read as their merger. -/
theorem exists_reader_layered (hd : d.Plain) (hown : own.Plain) (hstep : step.Plain) :
    ∃ a, Scope.reader (.object (Scope.layered d own step)) = .ok a ∧
      a.value = Scope.merged [d, own, step] := by
  obtain ⟨dBiz, dLocation, dActor, dOthers⟩ := d.get?_stated
  obtain ⟨ownBiz, ownLocation, ownActor, ownOthers⟩ := own.get?_stated
  obtain ⟨stepBiz, stepLocation, stepActor, stepOthers⟩ := step.get?_stated
  have plain : ∀ s ∈ [d, own, step], s.Plain := by simp [hd, hown, hstep]
  apply Scope.exists_reader
  · intro text htext
    obtain ⟨s, hs, htext⟩ := Scope.exists_mem_texts_of_merged htext
    exact (plain s hs text htext).1
  · rw [Scope.get?_layered_text dBiz ownBiz stepBiz, Scope.merged_three]
  · rw [Scope.get?_layered_text dLocation ownLocation stepLocation, Scope.merged_three]
  · rw [Scope.get?_layered_text dActor ownActor stepActor, Scope.merged_three]
  · intro name hname
    rw [Scope.get?_layered, dOthers name hname, ownOthers name hname, stepOthers name hname]
    rfl

/-- Whatever comes of a literal request, it comes under the merger of the three scopes. -/
theorem scope_of_literal (hread : Request.reader payload = .ok submitted) (hd : d.Plain)
    (hown : submitted.value.scope.Plain) (hstep : step.Plain) {t t' : Interpreter} {p : Prepared}
    (h : literal ids (Live.ofFields d.stated) (Live.ofFields step.stated) submitted.written t =
      (p, t'))
    {r : Request} (hr : p.request = some r) :
    r.scope = Scope.merged [d, submitted.value.scope, step] := by
  rw [literal] at h
  rcases hresolved : t.interpolate ids submitted.written with ⟨_ | resolved, mid⟩
  · rw [hresolved] at h
    cases h
    cases hr
  · rw [hresolved] at h
    dsimp only at h
    split at h
    · cases h
      cases hr
    · rename_i accepted haccepted
      cases h
      cases hr
      obtain ⟨merged, hmerged, hvalue⟩ := exists_reader_layered hd hown hstep
      have field := get?_literalPayload_scope d step (scope_of_interpolated hread hown hresolved)
      obtain ⟨fields, hfields⟩ : ∃ fields, literalPayload (Live.ofFields d.stated)
          (Live.ofFields step.stated) resolved.fields = .object fields := ⟨_, rfl⟩
      rw [hfields] at haccepted field
      have scope : Named.get? (Live.fillFields t'.vars.outline fields) "scope" =
          some (.object (Scope.layered d submitted.value.scope step)) := by
        rw [get?_fillFields, show Named.get? fields "scope" = _ from field, Option.map_some,
          Live.fill, Live.fillFields_ofFields]
      show accepted.value.scope = _
      rw [← hvalue]
      exact Request.scope_read (Reader.of_run haccepted) scope hmerged

variable {defaultScope : Named Live} {s : LifecycleStep}

/-- A literal step under a scope without tokens goes on with what that scope says, if the stack
reaches it. -/
theorem step_eq_literal (hs : s.Submits submitted) (hstep : (s.scope.getD Scope.none).Plain)
    (t : Interpreter) :
    Prepared.step ids translator defaultScope s t =
      if t.stack.search = 0 then (failed Failure.tooDeep.message, t)
      else literal ids defaultScope (Live.ofFields (s.scope.getD Scope.none).stated)
        submitted.written t := by
  rw [Prepared.step, Scope.stated_getD, Scope.interpolateFields_stated ids hstep, hs.literal]
  by_cases hsearch : t.stack.search = 0
  · rw [if_pos hsearch, if_pos hsearch]
  · rw [if_neg hsearch, if_neg hsearch]
    rfl

/-- A request without tokens that is not nested too deeply does come of a literal step. -/
theorem exists_request_of_step (hs : s.Submits submitted) (hd : d.Plain)
    (hown : submitted.value.scope.Plain) (hstep : (s.scope.getD Scope.none).Plain)
    (hplain : submitted.written.Unbraced) {t : Interpreter}
    (hlevels : submitted.written.levels ≤ t.stack.search) :
    ∃ r, (Prepared.step ids translator (Live.ofFields d.stated) s t).1.request = some r := by
  obtain ⟨payload, hread⟩ := hs.read
  have whole : t.interpolate ids submitted.written = (.ok submitted.written.reassembled, t) :=
    Interpreter.interpolateWithin_of_unbraced ids t _ _ hplain hlevels
  obtain ⟨merged, hmerged, -⟩ := exists_reader_layered hd hown hstep
  have filled : (mergedScope (Live.ofFields d.stated)
      (Live.ofFields (s.scope.getD Scope.none).stated) submitted.written).fill t.vars.outline =
        .object (Scope.layered d submitted.value.scope (s.scope.getD Scope.none)) := by
    rw [mergedScope, Live.part, plainPayload,
      get?_literalPayload_scope _ _ (scope_of_interpolated hread hown whole), Option.getD_some,
      Live.fill, Live.fillFields_ofFields]
  have reached : t.stack.search ≠ 0 := by
    obtain ⟨given, hgiven⟩ := Request.written_eq_object hread
    rw [hgiven, Json.levels] at hlevels
    exact Nat.ne_zero_of_lt hlevels
  have searched : Interpreter.interpolateFields ids ((s.scope.map Scope.stated).getD []) t =
      (.ok (Live.ofFields (s.scope.getD Scope.none).stated), t) := by
    rw [Scope.stated_getD, Scope.interpolateFields_stated ids hstep, if_neg reached]
  rw [← filled] at hmerged
  obtain ⟨r, hr, -⟩ := literal_as_submitted _ _ hs hplain hlevels searched hmerged
  exact ⟨r, by rw [hr]⟩

end Steps

end Prepared

/-! ## Both -/

/-- A run that could be seeded under a scope without tokens has that scope. -/
theorem Lifecycle.defaultScope_of_seed {σ : Type} {l : Lifecycle σ} {request : LifecycleRequest}
    {state seeded : RunState σ} (h : l.seed request state = (.ok (), seeded))
    (hplain : request.defaults.scope.Plain) :
    seeded.defaultScope = Live.ofFields request.defaults.scope.stated := by
  rw [Lifecycle.seed] at h
  split at h
  · cases h
  · rename_i vars interpreter _
    dsimp only at h
    rw [Scope.interpolateFields_stated l.ids hplain] at h
    split at h
    · cases h
    · rename_i hscope
      cases h
      split at hscope <;> cases hscope
      rfl

/-- A literal step of a scripted run and a literal scenario have the same three scopes. -/
structure Counterparts (request : LifecycleRequest) (s : LifecycleStep)
    (submitted : Accepted Request) (d : ScenarioDefaults) (c : Scenario) (given : Request) :
    Prop where
  submits : s.Submits submitted
  literal : c.request = some given
  defaults : d.scope = request.defaults.scope
  requests : given.scope = submitted.value.scope
  own : c.scope.getD Scope.none = s.scope.getD Scope.none

/-- The three scopes of a literal step, each of which wins over those before it. -/
def LifecycleStep.layers (request : LifecycleRequest) (s : LifecycleStep)
    (submitted : Accepted Request) : List Scope :=
  [request.defaults.scope, submitted.value.scope, s.scope.getD Scope.none]

/-- The fields of a scope. -/
def Scope.fields : List (Scope → Option String) :=
  [Scope.bizId, Scope.locationId, Scope.actorUserId]

theorem Scope.field_merged {field : Scope → Option String} (h : field ∈ Scope.fields)
    (layers : List Scope) : field (Scope.merged layers) = (layers.filterMap field).getLast? := by
  simp only [Scope.fields, List.mem_cons, List.not_mem_nil, or_false] at h
  rcases h with rfl | rfl | rfl <;> rfl

section Both

variable {σ τ : Type} {l : Lifecycle σ} {request : LifecycleRequest} {session : Session σ}
  {seeded : RunState σ} {s : LifecycleStep} {submitted : Accepted Request}
  (runner : ScenarioRunner τ) {d : ScenarioDefaults} {c : Scenario} {given : Request}

theorem scope_of_step (hseed : l.seed request (l.initial session) = (.ok (), seeded))
    (hs : s.Submits submitted) (hplain : ∀ layer ∈ s.layers request submitted, layer.Plain)
    {before after : Interpreter} {p : Prepared} {r : Request}
    (hstep : Prepared.step l.ids l.translator seeded.defaultScope s before = (p, after))
    (hr : p.request = some r) : r.scope = Scope.merged (s.layers request submitted) := by
  obtain ⟨payload, hread⟩ := hs.read
  have defaults : request.defaults.scope.Plain := hplain _ (by simp [LifecycleStep.layers])
  have requests : submitted.value.scope.Plain := hplain _ (by simp [LifecycleStep.layers])
  have own : (s.scope.getD Scope.none).Plain := hplain _ (by simp [LifecycleStep.layers])
  rw [Lifecycle.defaultScope_of_seed hseed defaults, Prepared.step_eq_literal hs own] at hstep
  split at hstep
  · cases hstep
    cases hr
  · exact Prepared.scope_of_literal hread defaults requests own hstep hr

theorem exists_plan (h : Counterparts request s submitted d c given) :
    ∃ r, runner.plan d c = .request none r ∧
      r.scope = Scope.merged (s.layers request submitted) := by
  refine ⟨{ given with dryRun := some (ScenarioRunner.literalDryRun d c given)
                       scope := ScenarioRunner.literalScope d c given }, ?_, ?_⟩
  · rw [ScenarioRunner.plan, h.literal]
  · show ScenarioRunner.literalScope d c given = _
    rw [ScenarioRunner.literalScope, h.own, h.requests, h.defaults, Scope.laidOver_laidOver]
    rfl

/-- **The two ways of running merge scopes alike.** A literal step of a scripted run and a literal
scenario that have the same three scopes, none of which holds a token, are carried out under one and
the same scope: whatever is prepared for the step, in whatever state of the run, and what the
scenario asks for. Field by field that scope is the last of the three that says something, so what
an earlier one says is not erased by later ones that leave the field open. A request without tokens
that is not nested too deeply does come of the step, and every statement that is sent for the step
or for the scenario is compiled under that scope. -/
theorem literal_scopes_merge_alike (hseed : l.seed request (l.initial session) = (.ok (), seeded))
    (h : Counterparts request s submitted d c given)
    (hplain : ∀ layer ∈ s.layers request submitted, layer.Plain) :
    ∃ scope, (∀ field ∈ Scope.fields,
        field scope = ((s.layers request submitted).filterMap field).getLast? ∧
        ∀ earlier layer later text, s.layers request submitted = earlier ++ layer :: later →
          field layer = some text → (∀ other ∈ later, field other = none) →
            field scope = some text) ∧
      (∃ r, runner.plan d c = .request none r ∧ r.scope = scope) ∧
      (∀ before p after r,
        Prepared.step l.ids l.translator seeded.defaultScope s before = (p, after) →
          p.request = some r → r.scope = scope) ∧
      (submitted.written.Unbraced → ∀ before : Interpreter,
        submitted.written.levels ≤ before.stack.search →
          ∃ r, (Prepared.step l.ids l.translator seeded.defaultScope s before).1.request =
            some r) ∧
      (∀ e, e.IsStatement → l.ServesStep seeded.defaultScope s e →
        ∃ vars r, r.scope = scope ∧ Execution.Sends { l.compiler with vars } r e) ∧
      (∀ e, e.IsStatement → runner.Serves d c e →
        ∃ r, r.scope = scope ∧ Execution.Sends runner.compiler r e) := by
  obtain ⟨r, hplan, hscope⟩ := exists_plan runner h
  refine ⟨Scope.merged (s.layers request submitted), ?_, ⟨r, hplan, hscope⟩, ?_, ?_, ?_, ?_⟩
  · intro field hfield
    refine ⟨Scope.field_merged hfield _, ?_⟩
    intro earlier layer later text hlayers hstates hopen
    rw [Scope.field_merged hfield, hlayers, Scope.getLast?_filterMap_of_last hstates hopen]
  · intro before p after r hstep hr
    exact scope_of_step hseed h.submits hplain hstep hr
  · intro hbraces before hlevels
    rw [Lifecycle.defaultScope_of_seed hseed (hplain _ (by simp [LifecycleStep.layers]))]
    exact Prepared.exists_request_of_step h.submits (hplain _ (by simp [LifecycleStep.layers]))
      (hplain _ (by simp [LifecycleStep.layers])) (hplain _ (by simp [LifecycleStep.layers]))
      hbraces hlevels
  · rintro e he ⟨before, p, after, hstep, r, hr, serves⟩
    exact ⟨after.vars, r, scope_of_step hseed h.submits hplain hstep hr, serves.sends he⟩
  · rintro e he ⟨translation, r', hplan', -, sends⟩
    cases hplan.symm.trans hplan'
    exact ⟨_, hscope, sends he⟩

end Both

/-! ## A tenant of the defaults under a null -/

/-- A request with a scope whose tenant is null and whose place is absent. -/
def scopedSubmission : Fields :=
  [("scope", .object [("bizId", .null), ("actorUserId", .text "amy")]),
    ("command", .object [("kind", .text "query"), ("table", .text "locations")])]

/-- A run on behalf of a business and one of its places. -/
def scopedRun : LifecycleRequest :=
  { defaults :=
      { dryRun := true, scope := ⟨some "acme", some "north", none⟩, continueOnFailure := true }
    vars := [], phases := []
    options :=
      { rollbackOnFailure := false, includeStepTrace := false, stepSavepoints := true
        timeoutMs := none } }

/-- The parts of the run. -/
def scopedLifecycle : Lifecycle Script :=
  ⟨Script.database, Compiler.demo, .unavailable, .counting, ⟨0⟩⟩

/-- A step with a request, at another place. -/
def scopedStep (submitted : Accepted Request) : LifecycleStep :=
  { id := none, name := "look", description := none, prompt := none, request := some submitted
    execute := true, scope := some ⟨none, some "south", none⟩, expect := none, captures := []
    tags := [] }

/-- A scenario with a request, at the same place. -/
def scopedScenario (given : Request) : Scenario :=
  { id := none, name := "look", prompt := none, request := some given, execute := true
    dryRun := none, scope := some ⟨none, some "south", none⟩ }

/-- The null and the absent field leave the tenant of the defaults, the step and the scenario move
to their place, and the user of the request stays. -/
theorem scopedSubmission_merged : ∃ (submitted : Accepted Request) (seeded : RunState Script),
    Request.reader (.object scopedSubmission) = .ok submitted ∧
      scopedLifecycle.seed scopedRun (scopedLifecycle.initial plainSession) = (.ok (), seeded) ∧
      Counterparts scopedRun (scopedStep submitted) submitted ⟨true, scopedRun.defaults.scope⟩
        (scopedScenario submitted.value) submitted.value ∧
      (∀ layer ∈ (scopedStep submitted).layers scopedRun submitted, layer.Plain) ∧
      (∃ r, (scriptedRunner .unavailable).plan ⟨true, scopedRun.defaults.scope⟩
          (scopedScenario submitted.value) = .request none r ∧
        r.scope = ⟨some "acme", some "south", some "amy"⟩) ∧
      ∃ r, (Prepared.step scopedLifecycle.ids scopedLifecycle.translator seeded.defaultScope
          (scopedStep submitted) seeded.interpreter).1.request = some r ∧
        r.scope = ⟨some "acme", some "south", some "amy"⟩ := by
  obtain ⟨submitted, hread, hwritten, hscope⟩ : ∃ submitted,
      Request.reader (.object scopedSubmission) = .ok submitted ∧
        submitted.written = .object scopedSubmission ∧
        submitted.value.scope = ⟨none, none, some "amy"⟩ := ⟨_, rfl, rfl, rfl⟩
  obtain ⟨seeded, hseed, hstack⟩ : ∃ seeded, scopedLifecycle.seed scopedRun
      (scopedLifecycle.initial plainSession) = (.ok (), seeded) ∧
        seeded.interpreter.stack = .standard := ⟨_, rfl, rfl⟩
  have counterparts : Counterparts scopedRun (scopedStep submitted) submitted
      ⟨true, scopedRun.defaults.scope⟩ (scopedScenario submitted.value) submitted.value :=
    ⟨⟨rfl, _, hread⟩, rfl, rfl, rfl, rfl⟩
  have layers : (scopedStep submitted).layers scopedRun submitted =
      [⟨some "acme", some "north", none⟩, ⟨none, none, some "amy"⟩,
        ⟨none, some "south", none⟩] := by
    rw [LifecycleStep.layers, hscope]
    rfl
  have plain : ∀ layer ∈ (scopedStep submitted).layers scopedRun submitted, layer.Plain := by
    rw [layers]
    decide +kernel
  obtain ⟨scope, fields, ⟨asked, hplan, hasked⟩, same, prepared, -⟩ :=
    literal_scopes_merge_alike (scriptedRunner .unavailable) hseed counterparts plain
  obtain rfl : scope = ⟨some "acme", some "south", some "amy"⟩ := by
    rw [layers] at fields
    have biz := (fields Scope.bizId (by simp [Scope.fields])).1
    have location := (fields Scope.locationId (by simp [Scope.fields])).1
    have actor := (fields Scope.actorUserId (by simp [Scope.fields])).1
    obtain ⟨b, l, a⟩ := scope
    exact congr (congrArg₂ Scope.mk biz location) actor
  have reached : submitted.written.levels ≤ seeded.interpreter.stack.search := by
    rw [hwritten, hstack]
    decide +kernel
  obtain ⟨r, hr⟩ := prepared (by rw [hwritten]; decide +kernel) seeded.interpreter reached
  exact ⟨submitted, seeded, hread, hseed, counterparts, plain, ⟨asked, hplan, hasked⟩, r, hr,
    same _ _ _ r rfl hr⟩

end Tenancy
