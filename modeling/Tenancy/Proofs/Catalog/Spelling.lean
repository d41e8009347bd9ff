/-
# Loose spellings of names

A name in snake case can be spelled loosely: blanks and hyphens may stand for its underscores, its
letters may be capitals, and there may be blanks around it. This module finds out what the two
readings of a loose name make of such a spelling. As an identifier it is the name again. As a phrase
it is one of three things: the name, when all underscores were kept; the name with spaces, when all
of them became blanks; or a text that is no phrase of a name in snake case at all, because a hyphen
is left in it, or both an underscore and a space.
-/

import Tenancy.Proofs.Catalog.Resolution
import Mathlib.Data.List.Chain
import Mathlib.Data.List.TakeWhile

namespace Tenancy

/-! ## Trimming, lowering and squeezing -/

namespace Text

variable {p : Char → Bool} {mark : Char} {cs : List Char}

theorem dropWhile_of_head? (h : ∀ c ∈ cs.head?, p c = false) : cs.dropWhile p = cs := by
  cases cs with
  | nil => rfl
  | cons c rest => simp [h c (by simp)]

/-- What surrounds a text is dropped, as far as it can be told from its ends. -/
theorem strip_padded {before core after : List Char} (padding : ∀ c ∈ before ++ after, p c = true)
    (first : ∀ c ∈ core.head?, p c = false) (last : ∀ c ∈ core.getLast?, p c = false) :
    strip p (before ++ core ++ after) = core := by
  have front : ∀ c ∈ before, p c = true := fun c hc => padding c (List.mem_append_left _ hc)
  have back : ∀ c ∈ after, p c = true := fun c hc => padding c (List.mem_append_right _ hc)
  rw [strip, List.append_assoc, List.dropWhile_append_of_pos front]
  cases core with
  | nil =>
      have dropped : after.dropWhile p = [] := List.dropWhile_eq_nil_iff.mpr back
      rw [List.nil_append, dropped]
      rfl
  | cons c rest =>
      have kept : ((c :: rest) ++ after).dropWhile p = (c :: rest) ++ after :=
        dropWhile_of_head? (by simpa using first)
      have kept' : (c :: rest).reverse.dropWhile p = (c :: rest).reverse :=
        dropWhile_of_head? (by rwa [List.head?_reverse])
      rw [kept, List.reverse_append, List.dropWhile_append_of_pos (by simpa using back), kept',
        List.reverse_reverse]

/-- What holds of the characters of ASCII can be checked one by one. -/
theorem ascii_forall {P : Char → Prop} (h : ∀ n < 128, P (Char.ofNat n)) {c : Char}
    (hc : c.toNat < 128) : P c := by
  have := h c.toNat hc
  rwa [Char.ofNat_toNat] at this

theorem ascii_of_toLower {c : Char} (h : c.toLower.toNat < 128) : c.toNat < 128 := by
  unfold Char.toLower at h
  split at h
  case isTrue upper =>
    have : c.val.toNat ≤ 90 := upper.2
    show c.val.toNat < 128
    omega
  case isFalse => exact h

theorem lowerFrom_of_ascii (h : ∀ c ∈ cs, c.toNat < 128) (before : List Char) :
    lowerFrom before cs = cs.map Char.toLower := by
  induction cs generalizing before with
  | nil => rfl
  | cons c rest ih =>
      have small : c.toNat < 128 := h c (by simp)
      have sigma : c ≠ 'Σ' := by
        rintro rfl
        exact absurd small (by decide)
      have dotted : c ≠ 'İ' := by
        rintro rfl
        exact absurd small (by decide)
      rw [lowerFrom, if_neg sigma, if_neg dotted, lowerChar, if_pos small,
        ih fun d hd => h d (by simp [hd])]
      rfl

/-- ASCII text is lowered letter by letter. -/
theorem lower_of_ascii (h : ∀ c ∈ cs, c.toNat < 128) : lower cs = cs.map Char.toLower :=
  lowerFrom_of_ascii h []

/-- A run is written as one mark. -/
theorem squeezeFrom_run {run : List Char} (hrun : ∀ c ∈ run, p c = true) (rest : List Char) :
    squeezeFrom p mark true (run ++ rest) = squeezeFrom p mark true rest := by
  induction run with
  | nil => rfl
  | cons c run ih =>
      rw [List.cons_append, squeezeFrom, if_pos (hrun c (by simp)), if_pos rfl,
        ih fun d hd => hrun d (by simp [hd])]

theorem squeezeFrom_run_start {run : List Char} (nonempty : run ≠ [])
    (hrun : ∀ c ∈ run, p c = true) (rest : List Char) :
    squeezeFrom p mark false (run ++ rest) = mark :: squeezeFrom p mark true rest := by
  cases run with
  | nil => exact absurd rfl nonempty
  | cons c run =>
      rw [List.cons_append, squeezeFrom, if_pos (hrun c (by simp)), if_neg Bool.false_ne_true,
        squeezeFrom_run fun d hd => hrun d (by simp [hd])]

/-- What does not belong to a run is kept. -/
theorem mem_squeezeFrom {c : Char} (h : c ∈ cs) (hc : p c = false) (inside : Bool) :
    c ∈ squeezeFrom p mark inside cs := by
  induction cs generalizing inside with
  | nil => cases h
  | cons d rest ih =>
      rw [squeezeFrom]
      rcases List.mem_cons.mp h with rfl | later
      · rw [if_neg (by simp [hc])]
        exact List.mem_cons_self
      · split
        · split
          · exact ih later true
          · exact List.mem_cons_of_mem _ (ih later true)
        · exact List.mem_cons_of_mem _ (ih later false)

/-- Where there is a run, there is a mark. -/
theorem mark_mem_squeeze {c : Char} (h : c ∈ cs) (hc : p c = true) : mark ∈ squeeze p mark cs := by
  induction cs with
  | nil => cases h
  | cons d rest ih =>
      rw [squeeze, squeezeFrom]
      split
      · rw [if_neg Bool.false_ne_true]
        exact List.mem_cons_self
      · rename_i hd
        rcases List.mem_cons.mp h with rfl | later
        · exact absurd hc hd
        · exact List.mem_cons_of_mem _ (ih later)

end Text

/-! ## Names with single underscores -/

namespace Name

open Text

/-- A name that consists of parts: name parts, neither the first nor the last of which is an
underscore, and no two neighbours of which are. -/
structure Parted (cs : List Char) : Prop where
  parts : ∀ c ∈ cs, isNamePart c = true
  first : ∀ c ∈ cs.head?, c ≠ '_'
  last : ∀ c ∈ cs.getLast?, c ≠ '_'
  single : cs.IsChain fun c d => ¬ (c = '_' ∧ d = '_')

/-- A text that spells a name, some underscores being replaced by runs of blanks and hyphens of
ASCII. -/
inductive Spaced : List Char → List Char → Prop
  | nil : Spaced [] []
  | char (c : Char) {name text : List Char} (h : Spaced name text) : Spaced (c :: name) (c :: text)
  | gap {run name text : List Char} (nonempty : run ≠ [])
      (separators : ∀ c ∈ run, isSeparator c = true ∧ c.toNat < 128) (h : Spaced name text) :
      Spaced ('_' :: name) (run ++ text)

/-- A loose spelling of a name: some underscores are replaced by runs of blanks and hyphens, letters
are written in either case, and there are blanks around it. -/
def Spells (raw name : String) : Prop :=
  ∃ before core after text,
    Spaced name.toList text ∧
      core.map Char.toLower = text.map Char.toLower ∧
      (∀ c ∈ before ++ after, isBlank c = true) ∧
      raw.toList = before ++ core ++ after

namespace Spaced

variable {name text : List Char}

theorem refl : ∀ name : List Char, Spaced name name
  | [] => .nil
  | c :: rest => .char c (refl rest)

theorem append {name' text' : List Char} (h : Spaced name text) (h' : Spaced name' text') :
    Spaced (name ++ name') (text ++ text') := by
  induction h with
  | nil => exact h'
  | char c _ ih => exact .char c ih
  | gap nonempty separators _ ih =>
      rw [List.append_assoc]
      exact .gap nonempty separators ih

/-- A text that spells a name in parts consists of name parts, blanks and hyphens. -/
theorem mem (h : Spaced name text) {c : Char} (hc : c ∈ text) :
    c ∈ name ∨ isSeparator c = true ∧ c.toNat < 128 := by
  induction h with
  | nil => cases hc
  | char d _ ih =>
      rcases List.mem_cons.mp hc with rfl | later
      · exact .inl List.mem_cons_self
      · exact (ih later).imp_left (List.mem_cons_of_mem _)
  | gap _ separators _ ih =>
      rcases List.mem_append.mp hc with inside | later
      · exact .inr (separators c inside)
      · exact (ih later).imp_left (List.mem_cons_of_mem _)

theorem head?_eq (h : Spaced name text) (first : ∀ c ∈ name.head?, c ≠ '_') :
    text.head? = name.head? := by
  cases h with
  | nil => rfl
  | char => rfl
  | gap => exact absurd rfl (first '_' rfl)

theorem getLast?_eq (h : Spaced name text) (last : ∀ c ∈ name.getLast?, c ≠ '_') :
    text.getLast? = name.getLast? := by
  induction h with
  | nil => rfl
  | @char c name text _ ih =>
      rw [List.getLast?_cons, List.getLast?_cons, ih]
      intro d hd
      exact last d (by rw [List.getLast?_cons, Option.mem_def.mp hd]; rfl)
  | @gap run name text _ _ _ ih =>
      -- An underscore at the end is ruled out, so there is a part behind the gap.
      cases hname : name.getLast? with
      | none => exact absurd rfl (last '_' (by rw [List.getLast?_cons, hname]; rfl))
      | some d =>
          have later : text.getLast? = some d := by
            rw [ih, hname]
            rintro c hc
            exact last c (by rw [List.getLast?_cons, Option.mem_def.mp hc]; rfl)
          rw [List.getLast?_append, later, List.getLast?_cons, hname]
          rfl

/-- Squeezing writes one mark for every gap. The underscores that were kept must look the same, and
all separators must belong to the runs that are squeezed. -/
theorem squeezeFrom_eq {sep : Char → Bool} {mark : Char} (h : Spaced name text)
    (parts : ∀ c ∈ name, isNamePart c = true)
    (single : name.IsChain fun c d => ¬ (c = '_' ∧ d = '_'))
    (runs : ∀ c ∈ text, sep c = isSeparator c) (marks : mark = '_' ∨ '_' ∉ text)
    (inside : Bool) (start : inside = true → ∀ c ∈ name.head?, c ≠ '_') :
    squeezeFrom sep mark inside text = name.map fun c => if c = '_' then mark else c := by
  induction h generalizing inside with
  | nil => rfl
  | @char c name text _ ih =>
      have apart : sep c = false := by
        rw [runs c List.mem_cons_self]
        exact isSeparator_of_isNamePart (parts c List.mem_cons_self)
      have kept : (if c = '_' then mark else c) = c := by
        split
        · rename_i underscore
          rcases marks with rfl | absent
          · exact underscore.symm
          · exact absurd (underscore ▸ List.mem_cons_self) absent
        · rfl
      rw [squeezeFrom, apart, if_neg Bool.false_ne_true, List.map_cons, kept,
        ih (fun d hd => parts d (List.mem_cons_of_mem _ hd)) (List.isChain_cons.mp single).2
          (fun d hd => runs d (List.mem_cons_of_mem _ hd))
          (marks.imp_right fun absent => mt (List.mem_cons_of_mem _) absent) false
          (fun h => absurd h Bool.false_ne_true)]
  | @gap run name text nonempty separators _ ih =>
      have fresh : inside = false := by
        rw [← Bool.not_eq_true]
        exact fun h => start h '_' rfl rfl
      have hrun : ∀ c ∈ run, sep c = true := fun c hc => by
        rw [runs c (List.mem_append_left _ hc)]
        exact (separators c hc).1
      obtain ⟨next, rest⟩ := List.isChain_cons.mp single
      rw [fresh, squeezeFrom_run_start nonempty hrun, List.map_cons, if_pos rfl,
        ih (fun d hd => parts d (List.mem_cons_of_mem _ hd)) rest
          (fun d hd => runs d (List.mem_append_right _ hd))
          (marks.imp_right fun absent => mt (List.mem_append_right _) absent) true
          (fun _ c hc underscore => next c hc ⟨rfl, underscore⟩)]

/-- Without blanks and hyphens a text is the name it spells. -/
theorem eq_of_forall_not (h : Spaced name text) (bare : ∀ c ∈ text, isSeparator c = false) :
    text = name := by
  induction h with
  | nil => rfl
  | char c _ ih => rw [ih fun d hd => bare d (List.mem_cons_of_mem _ hd)]
  | @gap run _ text nonempty separators _ _ =>
      obtain ⟨c, hc⟩ := List.exists_mem_of_ne_nil run nonempty
      have := bare c (List.mem_append_left text hc)
      rw [(separators c hc).1] at this
      cases this

/-- Spaces may stand for all underscores. -/
theorem all_spaces (name : List Char) : Spaced name (name.map fun c => if c = '_' then ' ' else c) := by
  induction name with
  | nil => exact .nil
  | cons c name ih =>
      rw [List.map_cons]
      by_cases underscore : c = '_'
      · rw [if_pos underscore, underscore]
        exact .gap (List.cons_ne_nil ' ' []) (List.forall_mem_singleton.mpr (by decide)) ih
      · rw [if_neg underscore]
        exact .char c ih

end Spaced

/-- A name spells itself. -/
theorem Spells.refl (name : String) : Spells name name :=
  ⟨[], name.toList, [], name.toList, .refl _, rfl, List.forall_mem_nil _, by simp⟩

/-! ## Readings of a loose spelling -/

theorem ascii_of_isNamePart {c : Char} (h : isNamePart c = true) : c.toNat < 128 := by
  have := toNat_of_isNamePart h
  omega

theorem toLower_of_isNamePart {c : Char} (h : isNamePart c = true) : c.toLower = c := by
  have lowered := lowerChar_of_isNamePart h
  rwa [lowerChar, if_pos (ascii_of_isNamePart h)] at lowered

/-- Blanks and hyphens are no capitals. -/
theorem toLower_of_isSeparator {c : Char} (h : isSeparator c = true) : c.toLower = c := by
  unfold Char.toLower
  split
  case isTrue upper =>
    have least : 65 ≤ c.toNat := upper.1
    have greatest : c.toNat ≤ 90 := upper.2
    have hyphen : c ≠ '-' := by
      rintro rfl
      exact absurd least (by decide)
    simp only [isSeparator, isBlank, beq_eq_false_iff_ne.mpr hyphen, Bool.or_false, Bool.or_eq_true,
      Bool.and_eq_true, decide_eq_true_eq, beq_iff_eq] at h
    omega
  case isFalse => rfl

theorem toList_unscored (name : String) :
    (unscored name).toList = name.toList.map fun c => if c = '_' then ' ' else c := by
  simp [unscored, onText]

theorem mem_unscored {name : String} {c : Char} (h : c ∈ (unscored name).toList) :
    c = ' ' ∨ c ∈ name.toList ∧ c ≠ '_' := by
  rw [toList_unscored, List.mem_map] at h
  obtain ⟨d, hd, rfl⟩ := h
  split
  · exact .inl rfl
  · exact .inr ⟨hd, ‹_›⟩

theorem underscore_not_mem_unscored (name : String) : '_' ∉ (unscored name).toList := by
  intro h
  rcases mem_unscored h with h | h
  · cases h
  · exact h.2 rfl

section Readings

variable {name raw : String}

/-- What is left of a loose spelling once it is trimmed and lowered. -/
theorem lower_trim_of_spaced {name before core after text : List Char} (parted : Parted name)
    (spaced : Spaced name text) (same : core.map Char.toLower = text.map Char.toLower)
    (padding : ∀ c ∈ before ++ after, isBlank c = true) :
    lower (trim (before ++ core ++ after)) = text := by
  have text_chars : ∀ c ∈ text, c.toNat < 128 ∧ c.toLower = c := by
    intro c hc
    rcases spaced.mem hc with part | ⟨separator, ascii⟩
    · exact ⟨ascii_of_isNamePart (parted.parts c part), toLower_of_isNamePart (parted.parts c part)⟩
    · exact ⟨ascii, toLower_of_isSeparator separator⟩
  have lowered : core.map Char.toLower = text := by
    rw [same, List.map_congr_left fun c hc => (text_chars c hc).2, List.map_id']
  have core_ascii : ∀ c ∈ core, c.toNat < 128 := by
    intro c hc
    apply ascii_of_toLower
    exact (text_chars _ (lowered ▸ List.mem_map_of_mem hc)).1
  -- A blank is not changed by lowering, so a blank at an end of the core would be one of the text.
  have not_blank {c : Char} (part : c.toLower ∈ name) : isBlank c = false := by
    rw [← Bool.not_eq_true]
    intro blank
    have separator : isSeparator c = true := by simp [isSeparator, blank]
    rw [toLower_of_isSeparator separator] at part
    rw [isSeparator_of_isNamePart (parted.parts c part)] at separator
    cases separator
  have first : ∀ c ∈ core.head?, isBlank c = false := by
    intro c hc
    apply not_blank
    apply List.mem_of_mem_head?
    rw [← spaced.head?_eq parted.first, ← lowered, List.head?_map, Option.mem_def.mp hc]
    rfl
  have last : ∀ c ∈ core.getLast?, isBlank c = false := by
    intro c hc
    apply not_blank
    apply List.mem_of_mem_getLast?
    rw [← spaced.getLast?_eq parted.last, ← lowered, List.getLast?_map, Option.mem_def.mp hc]
    rfl
  rw [trim, strip_padded padding first last, lower_of_ascii core_ascii, lowered]

/-- As an identifier a loose spelling is the name that it spells. -/
theorem identifier_of_spells (parted : Parted name.toList) (h : Spells raw name) :
    identifier raw = name := by
  obtain ⟨before, core, after, text, spaced, same, padding, hraw⟩ := h
  have squeezed := spaced.squeezeFrom_eq parted.parts parted.single (fun _ _ => rfl)
    (.inl (rfl : '_' = '_')) false (fun h => absurd h Bool.false_ne_true)
  have kept (c : Char) : (if c = '_' then '_' else c) = c := by
    split
    · rename_i underscore
      exact underscore.symm
    · rfl
  rw [identifier, onText, hraw, lower_trim_of_spaced parted spaced same padding, squeeze, squeezed,
    List.map_congr_left fun c _ => kept c, List.map_id', String.ofList_toList]

/-- Where blanks stand for all underscores, the phrase is the name with spaces. -/
theorem phrase_of_spaced {text : List Char} (parted : Parted name.toList)
    (spaced : Spaced name.toList text) (hyphen : '-' ∉ text) (underscore : '_' ∉ text)
    (read : lower (trim raw.toList) = text) : phrase raw = unscored name := by
  have runs : ∀ c ∈ text, isBlank c = isSeparator c := by
    intro c hc
    have : c ≠ '-' := fun h => hyphen (h ▸ hc)
    simp [isSeparator, this]
  have squeezed : squeezeFrom isBlank ' ' false text = _ :=
    spaced.squeezeFrom_eq parted.parts parted.single runs (.inr underscore) false
      (fun h => absurd h Bool.false_ne_true)
  rw [phrase, onText, read, squeeze, squeezed, ← toList_unscored, String.ofList_toList]

/-- As a phrase a loose spelling is the name, the name with spaces, or a text in which a hyphen is
left or both an underscore and a space. -/
theorem phrase_of_spells (parted : Parted name.toList) (h : Spells raw name) :
    phrase raw = name ∨ phrase raw = unscored name ∨ '-' ∈ (phrase raw).toList ∨
      '_' ∈ (phrase raw).toList ∧ ' ' ∈ (phrase raw).toList := by
  obtain ⟨before, core, after, text, spaced, same, padding, hraw⟩ := h
  have read : lower (trim raw.toList) = text := by
    rw [hraw, lower_trim_of_spaced parted spaced same padding]
  have hphrase : (phrase raw).toList = squeeze isBlank ' ' text := by
    rw [phrase, onText, read, String.toList_ofList]
  by_cases hyphen : '-' ∈ text
  · exact .inr (.inr (.inl (hphrase ▸ mem_squeezeFrom hyphen (by decide) false)))
  by_cases underscore : '_' ∈ text
  case neg => exact .inr (.inl (phrase_of_spaced parted spaced hyphen underscore read))
  by_cases blank : ∃ c ∈ text, isBlank c = true
  case pos =>
    obtain ⟨c, hc, hblank⟩ := blank
    rw [hphrase]
    exact .inr (.inr (.inr ⟨mem_squeezeFrom underscore (by decide) false,
      mark_mem_squeeze hc hblank⟩))
  case neg =>
    have bare : ∀ c ∈ text, isBlank c = false := by simpa using blank
    have kept : squeeze isBlank ' ' text = text := squeezeFrom_of_forall_not _ _ _ _ bare
    have spelled : text = name.toList := by
      apply spaced.eq_of_forall_not
      intro c hc
      have : c ≠ '-' := fun h => hyphen (h ▸ hc)
      simp [isSeparator, bare c hc, this]
    exact .inl (String.toList_inj.mp (by rw [hphrase, kept, spelled]))

/-- Name parts are their own phrase. -/
theorem phrase_of_nameParts (parts : ∀ c ∈ name.toList, isNamePart c = true) :
    phrase name = name := by
  have bare : ∀ c ∈ name.toList, isBlank c = false := fun c hc => isBlank_of_isNamePart (parts c hc)
  have trimmed : trim name.toList = name.toList := strip_of_forall_not bare
  have lowered : lower name.toList = name.toList := lowerFrom_of_nameParts parts []
  have squeezed : squeeze isBlank ' ' name.toList = name.toList :=
    squeezeFrom_of_forall_not isBlank ' ' false name.toList bare
  rw [phrase, onText, trimmed, lowered, squeezed, String.ofList_toList]

/-- A name in parts, with spaces for its underscores, is its own phrase. -/
theorem phrase_unscored (parted : Parted name.toList) :
    phrase (unscored name) = unscored name := by
  have spaced := Spaced.all_spaces name.toList
  rw [← toList_unscored] at spaced
  have hyphen : '-' ∉ (unscored name).toList := by
    intro h
    rcases mem_unscored h with h | h
    · cases h
    · exact absurd (parted.parts _ h.1) (by decide)
  have read : lower (trim ([] ++ (unscored name).toList ++ [])) = (unscored name).toList :=
    lower_trim_of_spaced parted spaced rfl (List.forall_mem_nil _)
  rw [List.nil_append, List.append_nil] at read
  exact phrase_of_spaced parted spaced hyphen (underscore_not_mem_unscored name) read

end Readings

end Name

end Tenancy
