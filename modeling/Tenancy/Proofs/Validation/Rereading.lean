/-
# Reading again what was given

A reader makes two forms of what it accepts, and the one with the fields that were given is read
again where a payload is passed on. This module shows that nothing is lost on the way: the reader
accepts that form and finds the same value in it. In particular an absent field stays absent and a
null stays null, so a reader that tells them apart goes on telling them apart.

The law goes through the combinators. For a reader of fields it says of which names the reader takes
notice: fields of other names may come and go, and that is why readers of different fields do not
disturb each other. A reader under which null has a meaning of its own must not write null itself.
-/

import Tenancy.Proofs.Chains
import Tenancy.Proofs.Named
import Tenancy.Validation.Reader

namespace Tenancy.Validation

variable {α β : Type}

/-- What was given of an accepted value, as it is written without any variables. -/
def Accepted.written (a : Accepted α) : Json :=
  a.given.value .null

/-- The fields that were given, as they are written without any variables. -/
def Taken.written (t : Taken α) : Fields :=
  Form.valueFields .null t.given

/-- What two readers of fields have taken, one applied to the other. -/
def Taken.apply (tf : Taken (α → β)) (tx : Taken α) : Taken β :=
  ⟨tf.value tx.value, tf.full ++ tx.full, tf.given ++ tx.given⟩

/-- What has been taken of an object, as the object. -/
def Taken.object (t : Taken α) : Accepted α :=
  ⟨t.value, .object t.full, .object t.given⟩

/-! ## Outcomes -/

namespace Outcome

theorem both_eq_ok {γ : Type} {f : α → β → γ} {x : Outcome α} {y : Outcome β} {c : γ} :
    both f x y = .ok c ↔ ∃ a b, x = .ok a ∧ y = .ok b ∧ f a b = c := by
  cases x <;> cases y <;> simp [both]

theorem under_eq_ok {s : Step} {x : Outcome α} {a : α} : under s x = .ok a ↔ x = .ok a := by
  cases x <;> simp [under]

end Outcome

namespace Reader

variable {r : Reader α}

/-! ## Readers of one value -/

/-- A reader reads what it has accepted once more, from what was given of it. -/
def Rereads (r : Reader α) : Prop :=
  ∀ j a, r j = .ok a → ∃ a', r a.written = .ok a' ∧ a'.value = a.value

/-- What a reader has accepted is never written as null. -/
def Solid (r : Reader α) : Prop :=
  ∀ j a, r j = .ok a → a.written ≠ .null

theorem guarded_eq_ok {check : α → Option Complaint} {j : Json} {a : Accepted α} :
    r.guarded check j = .ok a ↔ r j = .ok a ∧ check a.value = none := by
  rw [guarded, bind_eq_ok]
  constructor
  · rintro ⟨b, hb, h⟩
    cases hcheck : check b.value with
    | none =>
        rw [hcheck] at h
        cases h
        exact ⟨hb, hcheck⟩
    | some c =>
        rw [hcheck] at h
        cases h
  · rintro ⟨ha, hcheck⟩
    exact ⟨a, ha, by rw [hcheck]⟩

theorem Rereads.guarded (h : r.Rereads) (check : α → Option Complaint) :
    (r.guarded check).Rereads := by
  intro j a ha
  obtain ⟨hread, hcheck⟩ := guarded_eq_ok.mp ha
  obtain ⟨a', ha', hvalue⟩ := h j a hread
  exact ⟨a', guarded_eq_ok.mpr ⟨ha', by rw [hvalue, hcheck]⟩, hvalue⟩

theorem Solid.guarded (h : r.Solid) (check : α → Option Complaint) : (r.guarded check).Solid :=
  fun j a ha => h j a (guarded_eq_ok.mp ha).1

theorem Rereads.map (h : r.Rereads) (f : α → β) : (r.map f).Rereads := by
  intro j b hb
  obtain ⟨a, ha, rfl⟩ := map_eq_ok.mp hb
  obtain ⟨a', ha', hvalue⟩ := h j a ha
  exact ⟨a'.map f, map_eq_ok.mpr ⟨a', ha', rfl⟩, congrArg f hvalue⟩

theorem Solid.map (h : r.Solid) (f : α → β) : (r.map f).Solid := by
  intro j b hb
  obtain ⟨a, ha, rfl⟩ := map_eq_ok.mp hb
  exact h j a ha

theorem Rereads.level (h : r.Rereads) : r.level.Rereads := by
  intro j b hb
  obtain ⟨a, ha, rfl⟩ := map_eq_ok.mp hb
  obtain ⟨a', ha', hvalue⟩ := h j a ha
  exact ⟨a'.level, map_eq_ok.mpr ⟨a', ha', rfl⟩, hvalue⟩

theorem nullable_of_ne_null {j : Json} (h : j ≠ .null) : r.nullable j = r.map some j := by
  cases j with
  | null => exact absurd rfl h
  | _ => rfl

theorem Rereads.nullable (h : r.Rereads) (hsolid : r.Solid) : r.nullable.Rereads := by
  intro j b hb
  by_cases hnull : j = .null
  · subst hnull
    cases hb
    exact ⟨_, rfl, rfl⟩
  · rw [nullable_of_ne_null hnull] at hb
    obtain ⟨b', hb', hvalue⟩ := h.map some j b hb
    exact ⟨b', by rwa [nullable_of_ne_null (hsolid.map some j b hb)], hvalue⟩

theorem keepNull_of_ne_null {r : Reader Json} {j : Json} (h : j ≠ .null) :
    r.keepNull j = r.map some j := by
  cases j with
  | null => exact absurd rfl h
  | _ => rfl

theorem Rereads.keepNull {r : Reader Json} (h : r.Rereads) (hsolid : r.Solid) :
    r.keepNull.Rereads := by
  intro j b hb
  by_cases hnull : j = .null
  · subst hnull
    cases hb
    exact ⟨_, rfl, rfl⟩
  · rw [keepNull_of_ne_null hnull] at hb
    obtain ⟨b', hb', hvalue⟩ := h.map some j b hb
    exact ⟨b', by rwa [keepNull_of_ne_null (hsolid.map some j b hb)], hvalue⟩

/-! ## Scalars -/

theorem rereads_text : text.Rereads := by
  intro j a h
  cases j with
  | text s =>
      cases h
      exact ⟨_, rfl, rfl⟩
  | _ => cases h

theorem solid_text : text.Solid := by
  intro j a h
  cases j with
  | text s =>
      cases h
      exact Json.noConfusion
  | _ => cases h

theorem rereads_word : word.Rereads :=
  rereads_text.guarded _

theorem solid_word : word.Solid :=
  solid_text.guarded _

theorem int_eq_ok {j : Json} {a : Accepted Int} (h : int j = .ok a) :
    a = .plain a.value (.int a.value) := by
  unfold int at h
  split at h
  · cases h
    rfl
  · cases h

theorem rereads_int : int.Rereads := by
  intro j a h
  rw [int_eq_ok h]
  exact ⟨_, rfl, rfl⟩

theorem solid_int : int.Solid := by
  intro j a h
  rw [int_eq_ok h]
  exact Json.noConfusion

theorem rereads_intFrom (least : Int) : (intFrom least).Rereads :=
  rereads_int.guarded _

theorem solid_intFrom (least : Int) : (intFrom least).Solid :=
  solid_int.guarded _

theorem rereads_intBetween (least greatest : Int) : (intBetween least greatest).Rereads :=
  rereads_int.guarded _

theorem solid_intBetween (least greatest : Int) : (intBetween least greatest).Solid :=
  solid_int.guarded _

theorem rereads_bool : bool.Rereads := by
  intro j a h
  unfold bool at h
  split at h
  · cases h
    exact ⟨_, rfl, rfl⟩
  · cases h

theorem oneOf_eq_ok {choices : List (String × α)} {j : Json} {a : Accepted α}
    (h : oneOf choices j = .ok a) : a.written = j ∧ j ≠ .null := by
  cases j with
  | text s =>
      rw [oneOf] at h
      split at h <;> cases h
      exact ⟨rfl, Json.noConfusion⟩
  | _ => cases h

/-- A reader of one word accepts that word and nothing else. -/
theorem eq_text_of_oneOf {word : String} {b : α} {j : Json} {a : Accepted α}
    (h : oneOf [(word, b)] j = .ok a) : j = .text word := by
  cases j with
  | text s =>
      by_cases hs : word = s
      · rw [hs]
      · simp [oneOf, hs, Outcome.refuse] at h
  | _ => cases h

theorem rereads_oneOf (choices : List (String × α)) : (oneOf choices).Rereads := by
  intro j a h
  rw [(oneOf_eq_ok h).1]
  exact ⟨a, h, rfl⟩

theorem rereads_member (choices : List (String × α)) : (member choices).Rereads := by
  intro j a h
  cases j with
  | text s =>
      have same : a.written = .text s := by
        rw [member] at h
        split at h <;> cases h
        rfl
      rw [same]
      exact ⟨a, h, rfl⟩
  | _ => cases h

theorem operand_eq_ok {j : Json} {a : Accepted Json} (h : operand j = .ok a) :
    a.written = j ∧ j ≠ .null := by
  cases j with
  | null | object => cases h
  | bool | int | float | text =>
      cases h
      exact ⟨rfl, Json.noConfusion⟩
  | list js =>
      rw [operand] at h
      split at h <;> cases h
      exact ⟨rfl, Json.noConfusion⟩

theorem rereads_operand : operand.Rereads := by
  intro j a h
  rw [(operand_eq_ok h).1]
  exact ⟨a, h, rfl⟩

theorem solid_operand : operand.Solid := by
  intro j a h
  rw [(operand_eq_ok h).1]
  exact (operand_eq_ok h).2

/-! ## Arrays and open objects -/

theorem written_freeFields (fs : Fields) :
    (Form.freeFields (Live.ofFields fs)).value .null = .object fs := by
  have same : Form.valueFields .null ((Live.ofFields fs).map fun f => (f.1, Form.free f.2)) =
      fs := by
    induction fs with
    | nil => rfl
    | cons f rest ih =>
        rw [Live.ofFields, List.map_cons, List.map_cons, Form.valueFields]
        exact congrArg _ ih
  rw [Form.freeFields, Form.value, same]

theorem fields_eq_ok {j : Json} {a : Accepted Fields} (h : fields j = .ok a) :
    j = .object a.value ∧ a.written = j := by
  cases j with
  | object fs =>
      cases h
      exact ⟨rfl, written_freeFields fs⟩
  | _ => cases h

theorem rereads_openFields : openFields.Rereads := by
  apply Rereads.map
  intro j a h
  rw [(fields_eq_ok h).2]
  exact ⟨a, h, rfl⟩

theorem solid_openFields : openFields.Solid := by
  apply Solid.map
  intro j a h
  rw [(fields_eq_ok h).2, (fields_eq_ok h).1]
  exact Json.noConfusion

theorem valueItems_eq_map (bag : Json) (items : List Form) :
    Form.valueItems bag items = items.map (Form.value bag) := by
  induction items with
  | nil => rfl
  | cons item rest ih => rw [Form.valueItems, ih, List.map_cons]

theorem items_cons_eq_ok {i : Nat} {j : Json} {rest : List Json} {as : List (Accepted α)} :
    r.items i (j :: rest) = .ok as ↔
      ∃ a others, r j = .ok a ∧ r.items (i + 1) rest = .ok others ∧ a :: others = as := by
  rw [items, Outcome.both_eq_ok]
  simp only [Outcome.under_eq_ok]

/-- Elements that were accepted are read once more, whatever their places are. -/
theorem Rereads.items (h : r.Rereads) {js : List Json} {i : Nat} {as : List (Accepted α)}
    (has : r.items i js = .ok as) (i' : Nat) :
    ∃ as', r.items i' (as.map Accepted.written) = .ok as' ∧
      as'.map Accepted.value = as.map Accepted.value := by
  induction js generalizing i as i' with
  | nil =>
      cases has
      exact ⟨[], rfl, rfl⟩
  | cons j rest ih =>
      obtain ⟨a, others, ha, hothers, rfl⟩ := items_cons_eq_ok.mp has
      obtain ⟨a', ha', hvalue⟩ := h j a ha
      obtain ⟨others', hothers', hvalues⟩ := ih hothers (i' + 1)
      refine ⟨a' :: others', items_cons_eq_ok.mpr ⟨a', others', ha', hothers', rfl⟩, ?_⟩
      rw [List.map_cons, List.map_cons, hvalue, hvalues]

theorem list_eq_ok {j : Json} {a : Accepted (List α)} (h : r.list j = .ok a) :
    ∃ js as, j = .list js ∧ r.items 0 js = .ok as ∧ ofItems as = a := by
  cases j with
  | list js =>
      obtain ⟨as, has, ha⟩ := map_eq_ok.mp h
      exact ⟨js, as, rfl, has, ha⟩
  | _ => cases h

theorem written_ofItems (as : List (Accepted α)) :
    (ofItems as).written = .list (as.map Accepted.written) := by
  rw [Accepted.written, ofItems, Form.value, valueItems_eq_map, List.map_map]
  rfl

theorem Rereads.list (h : r.Rereads) : r.list.Rereads := by
  intro j a ha
  obtain ⟨js, as, -, has, rfl⟩ := list_eq_ok ha
  obtain ⟨as', has', hvalues⟩ := h.items has 0
  rw [written_ofItems]
  exact ⟨ofItems as', map_eq_ok.mpr ⟨as', has', rfl⟩, hvalues⟩

theorem solid_list : r.list.Solid := by
  intro j a ha
  obtain ⟨js, as, -, -, rfl⟩ := list_eq_ok ha
  rw [written_ofItems]
  exact Json.noConfusion

theorem Rereads.nonemptyList (h : r.Rereads) : r.nonemptyList.Rereads :=
  h.list.guarded _

end Reader

/-! ## Fields -/

theorem valueFields_eq_map (bag : Json) (fs : Named Form) :
    Form.valueFields bag fs = fs.map fun f => (f.1, f.2.value bag) := by
  induction fs with
  | nil => rfl
  | cons f rest ih => rw [Form.valueFields, ih, List.map_cons]

namespace FieldReader

/-- A reader of fields takes notice of fields of these names only, and writes no others. It reads
what it has accepted once more where these fields are what was given. -/
structure Rereads (names : List String) (fr : FieldReader α) : Prop where
  within : ∀ fs taken, fr fs = .ok taken → ∀ f ∈ taken.written, f.1 ∈ names
  again : ∀ fs taken, fr fs = .ok taken → ∀ gs : Fields,
    (∀ n ∈ names, gs.get? n = taken.written.get? n) →
      ∃ taken', fr gs = .ok taken' ∧ taken'.value = taken.value

variable {names others : List String} {fr : FieldReader α}

theorem seq_eq_ok {f : FieldReader (α → β)} {x : FieldReader α} {fs : Fields} {taken : Taken β} :
    (f <*> x) fs = .ok taken ↔ ∃ tf tx, f fs = .ok tf ∧ x fs = .ok tx ∧ tf.apply tx = taken :=
  Outcome.both_eq_ok

theorem map_eq_ok {f : α → β} {fs : Fields} {taken : Taken β} :
    (f <$> fr) fs = .ok taken ↔ ∃ tx, fr fs = .ok tx ∧ ⟨f tx.value, tx.full, tx.given⟩ = taken := by
  show (pure f <*> fr) fs = .ok taken ↔ _
  rw [seq_eq_ok]
  constructor
  · rintro ⟨tf, tx, hf, hx, rfl⟩
    cases hf
    exact ⟨tx, hx, rfl⟩
  · rintro ⟨tx, hx, rfl⟩
    exact ⟨_, tx, rfl, hx, rfl⟩

theorem written_apply (tf : Taken (α → β)) (tx : Taken α) :
    (tf.apply tx).written = tf.written ++ tx.written := by
  simp only [Taken.written, Taken.apply, valueFields_eq_map, List.map_append]

theorem Rereads.map (h : fr.Rereads names) (f : α → β) : Rereads names (f <$> fr) := by
  constructor
  · intro fs taken htaken
    obtain ⟨tx, hx, rfl⟩ := map_eq_ok.mp htaken
    exact h.within fs tx hx
  · intro fs taken htaken gs hgs
    obtain ⟨tx, hx, rfl⟩ := map_eq_ok.mp htaken
    obtain ⟨tx', hx', hvalue⟩ := h.again fs tx hx gs hgs
    exact ⟨_, map_eq_ok.mpr ⟨tx', hx', rfl⟩, congrArg f hvalue⟩

theorem Rereads.not_mem_written (h : fr.Rereads names) {fs : Fields} {taken : Taken α}
    (htaken : fr fs = .ok taken) {n : String} (hn : n ∉ names) :
    n ∉ taken.written.map Prod.fst := by
  intro hmem
  obtain ⟨f, hf, rfl⟩ := List.mem_map.mp hmem
  exact hn (h.within fs taken htaken f hf)

theorem Rereads.get?_written_eq_none (h : fr.Rereads names) {fs : Fields} {taken : Taken α}
    (htaken : fr fs = .ok taken) {n : String} (hn : n ∉ names) :
    taken.written.get? n = Option.none :=
  Named.get?_eq_none (h.not_mem_written htaken hn)

section Seq

variable {f : FieldReader (α → β)} {x : FieldReader α} {fs : Fields} {tf : Taken (α → β)}
  {tx : Taken α} {n : String}

/-- The first of two readers of different fields writes its fields as if it were alone. -/
theorem Rereads.get?_apply_left (hx : x.Rereads others) (htx : x fs = .ok tx) (hn : n ∉ others) :
    (tf.apply tx).written.get? n = tf.written.get? n := by
  rw [written_apply, Named.get?_append, hx.get?_written_eq_none htx hn, Option.or_none]

/-- The second of two readers of different fields writes its fields as if it were alone. -/
theorem Rereads.get?_apply_right (hf : f.Rereads names) (htf : f fs = .ok tf) (hn : n ∉ names) :
    (tf.apply tx).written.get? n = tx.written.get? n := by
  rw [written_apply, Named.get?_append, hf.get?_written_eq_none htf hn, Option.none_or]

/-- Readers of different fields do not disturb each other. -/
theorem Rereads.seq (hf : f.Rereads names) (hx : x.Rereads others)
    (hdisjoint : ∀ n ∈ names, n ∉ others) : Rereads (names ++ others) (f <*> x) := by
  constructor
  · intro fs taken htaken
    obtain ⟨tf, tx, htf, htx, rfl⟩ := seq_eq_ok.mp htaken
    rw [written_apply]
    intro field hfield
    rcases List.mem_append.mp hfield with hfield | hfield
    · exact List.mem_append_left _ (hf.within fs tf htf field hfield)
    · exact List.mem_append_right _ (hx.within fs tx htx field hfield)
  · intro fs taken htaken gs hgs
    obtain ⟨tf, tx, htf, htx, rfl⟩ := seq_eq_ok.mp htaken
    have first : ∀ n ∈ names, gs.get? n = tf.written.get? n := by
      intro n hn
      rw [hgs n (List.mem_append_left _ hn), hx.get?_apply_left htx (hdisjoint n hn)]
    have second : ∀ n ∈ others, gs.get? n = tx.written.get? n := by
      intro n hn
      rw [hgs n (List.mem_append_right _ hn),
        hf.get?_apply_right htf fun h => hdisjoint n h hn]
    obtain ⟨tf', htf', hfvalue⟩ := hf.again fs tf htf gs first
    obtain ⟨tx', htx', hxvalue⟩ := hx.again fs tx htx gs second
    refine ⟨_, seq_eq_ok.mpr ⟨tf', tx', htf', htx', rfl⟩, ?_⟩
    show tf'.value tx'.value = tf.value tx.value
    rw [hfvalue, hxvalue]

end Seq

end FieldReader

namespace FieldName

variable {n : FieldName} {r : Reader α}

/-- The names under which a field is found. -/
def names (n : FieldName) : List String :=
  [n.name, n.other]

theorem take_eq_ok {found : String × Json} {taken : Taken α} (h : n.take r found = .ok taken) :
    ∃ a, r found.2 = .ok a ∧ taken.value = a.value ∧ taken.written = [(n.name, a.written)] := by
  obtain ⟨a, ha, rfl⟩ := Tenancy.map_eq_ok.mp h
  exact ⟨a, Outcome.under_eq_ok.mp ha, rfl, rfl⟩

theorem take_of_eq_ok {name : String} {j : Json} {a : Accepted α} (h : r j = .ok a) :
    n.take r (name, j) = .ok ⟨a.value, [(n.name, a.full)], [(n.name, a.given)]⟩ := by
  rw [take, h]
  rfl

/-- A field that is there under its own name is read, whatever else is there. -/
theorem orElse_of_get? {fs : Fields} {j : Json} (hfound : fs.get? n.name = some j) {a : Accepted α}
    (ha : r j = .ok a) (value : α) (full : Form) :
    n.orElse r value full fs = .ok ⟨a.value, [(n.name, a.full)], [(n.name, a.given)]⟩ := by
  rw [orElse, find?, hfound]
  exact take_of_eq_ok ha

/-- A field that was given is found again, and it is read as before. -/
theorem exists_take (hr : r.Rereads) {found : String × Json} {taken : Taken α}
    (htaken : n.take r found = .ok taken) {gs : Fields}
    (hgs : ∀ m ∈ n.names, gs.get? m = taken.written.get? m) :
    ∃ j taken', n.find? gs = some (n.name, j) ∧ n.take r (n.name, j) = .ok taken' ∧
      taken'.value = taken.value := by
  obtain ⟨a, ha, hvalue, hwritten⟩ := take_eq_ok htaken
  obtain ⟨a', ha', hvalue'⟩ := hr _ a ha
  have present : gs.get? n.name = some a.written := by
    rw [hgs n.name (by simp [names]), hwritten, Named.get?_cons, if_pos rfl]
  refine ⟨a.written, _, ?_, take_of_eq_ok ha', hvalue'.trans hvalue.symm⟩
  rw [find?, present]
  rfl

theorem rereads_required (hr : r.Rereads) : (n.required r).Rereads n.names := by
  constructor
  · intro fs taken htaken
    rw [required] at htaken
    split at htaken
    · obtain ⟨a, -, -, hwritten⟩ := take_eq_ok htaken
      simp [hwritten, names]
    · cases htaken
  · intro fs taken htaken gs hgs
    rw [required] at htaken
    split at htaken
    · obtain ⟨j, taken', hfound, htaken', hvalue⟩ := exists_take hr htaken hgs
      exact ⟨taken', by rw [required, hfound]; exact htaken', hvalue⟩
    · cases htaken

theorem rereads_orElse (hr : r.Rereads) (value : α) (full : Form) :
    (n.orElse r value full).Rereads n.names := by
  constructor
  · intro fs taken htaken
    rw [orElse] at htaken
    split at htaken
    · obtain ⟨a, -, -, hwritten⟩ := take_eq_ok htaken
      simp [hwritten, names]
    · cases htaken
      simp [Taken.written, Form.valueFields]
  · intro fs taken htaken gs hgs
    rw [orElse] at htaken
    split at htaken
    · obtain ⟨j, taken', hfound, htaken', hvalue⟩ := exists_take hr htaken hgs
      exact ⟨taken', by rw [orElse, hfound]; exact htaken', hvalue⟩
    · cases htaken
      have absent : n.find? gs = none := by
        rw [find?, hgs n.name (by simp [names]), hgs n.other (by simp [names])]
        rfl
      exact ⟨_, by rw [orElse, absent], rfl⟩

end FieldName

section Kinds

variable {r : Reader α}

theorem rereads_need (name : String) (hr : r.Rereads) :
    (need name r).Rereads (FieldName.camel name).names :=
  FieldName.rereads_required hr

theorem rereads_maybe (name : String) (hr : r.Rereads) (hsolid : r.Solid) :
    (maybe name r).Rereads (FieldName.camel name).names :=
  FieldName.rereads_orElse (hr.nullable hsolid) _ _

theorem rereads_stated {r : Reader Json} (name : String) (hr : r.Rereads) (hsolid : r.Solid) :
    (stated name r).Rereads (FieldName.camel name).names :=
  FieldName.rereads_orElse (hr.keepNull hsolid) _ _

theorem rereads_many (name : String) (hr : r.Rereads) :
    (many name r).Rereads (FieldName.camel name).names :=
  FieldName.rereads_orElse hr.list _ _

/-- A field with one name only stands under that name. -/
theorem FieldName.find?_single {name : String} {fs : Fields} {found : String × Json}
    (h : FieldName.find? ⟨name, name⟩ fs = some found) : fs.get? name = some found.2 := by
  rw [find?] at h
  cases hfs : fs.get? name with
  | none =>
      rw [hfs] at h
      cases h
  | some j =>
      rw [hfs] at h
      cases h
      rfl

theorem need_eq_ok {name : String} (hname : FieldName.camel name = ⟨name, name⟩) {fs : Fields}
    {taken : Taken α} (h : need name r fs = .ok taken) :
    ∃ j a, fs.get? name = some j ∧ r j = .ok a ∧ a.value = taken.value := by
  rw [need, hname, FieldName.required] at h
  split at h
  · rename_i found hfound
    obtain ⟨a, ha, hvalue, -⟩ := FieldName.take_eq_ok h
    exact ⟨found.2, a, FieldName.find?_single hfound, ha, hvalue.symm⟩
  · cases h

/-- What is found in a field that may be absent or null is what the reader finds in it. -/
theorem maybe_eq_some {name : String} (hname : FieldName.camel name = ⟨name, name⟩) {fs : Fields}
    {taken : Taken (Option α)} (h : maybe name r fs = .ok taken) {x : α}
    (hx : taken.value = some x) :
    ∃ j a, fs.get? name = some j ∧ r j = .ok a ∧ a.value = x := by
  rw [maybe, hname, FieldName.orElse] at h
  split at h
  · rename_i found hfound
    obtain ⟨a, ha, hvalue, -⟩ := FieldName.take_eq_ok h
    rw [hvalue] at hx
    by_cases hnull : found.2 = .null
    · rw [hnull] at ha
      cases ha
      cases hx
    · rw [Reader.nullable_of_ne_null hnull] at ha
      obtain ⟨b, hb, rfl⟩ := Tenancy.map_eq_ok.mp ha
      exact ⟨found.2, b, FieldName.find?_single hfound, hb, Option.some.inj hx⟩
  · cases h
    cases hx

end Kinds

/-! ## Objects -/

namespace Reader

variable {title : String} {fields : FieldReader α} {broken : α → Option String}

theorem record_eq_ok {j : Json} {a : Accepted α} (h : record title fields broken j = .ok a) :
    ∃ fs taken, j = .object fs ∧ fields fs = .ok taken ∧ broken taken.value = none ∧
      taken.object = a := by
  cases j with
  | object fs =>
      rw [record] at h
      obtain ⟨taken, htaken, h⟩ := bind_eq_ok.mp h
      cases hbroken : broken taken.value with
      | none =>
          rw [hbroken] at h
          cases h
          exact ⟨fs, taken, rfl, htaken, hbroken, rfl⟩
      | some rule =>
          rw [hbroken] at h
          cases h
  | _ => cases h

theorem record_of_eq_ok {fs : Fields} {taken : Taken α} (h : fields fs = .ok taken)
    (hbroken : broken taken.value = none) :
    record title fields broken (.object fs) = .ok taken.object := by
  rw [record]
  refine bind_eq_ok.mpr ⟨taken, h, ?_⟩
  rw [hbroken]
  rfl

theorem rereads_record {names : List String} (h : fields.Rereads names) :
    (record title fields broken).Rereads := by
  intro j a ha
  obtain ⟨fs, taken, -, htaken, hbroken, rfl⟩ := record_eq_ok ha
  obtain ⟨taken', htaken', hvalue⟩ := h.again fs taken htaken taken.written fun _ _ => rfl
  exact ⟨_, record_of_eq_ok htaken' (by rw [hvalue, hbroken]), hvalue⟩

end Reader

end Tenancy.Validation
