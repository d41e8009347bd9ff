/-
# What captures keep

A step keeps values for the steps after it. Each of its captures looks at what is known about the
step and at nothing that another capture has kept, so what it finds can be said beforehand. From
this it follows which captures fail, and that a name stands afterwards for what the last capture of
that name has found.

A path is followed step by step, and a path of points and brackets only has no steps. It leads to
the source itself, also where the source is null. So a capture that has to find something in a
source that is missing fails if its path has a step, and if it has none the capture keeps null.
-/

import Tenancy.Proofs.Expectation.Report
import Tenancy.Proofs.Json.Paths
import Tenancy.Proofs.Named

namespace Tenancy

/-! ## One capture -/

namespace Capture

variable {c : StepContext} {capture : Capture}

/-- What a capture keeps: what is at its path, or else its default. -/
def kept? (c : StepContext) (capture : Capture) : Option Json :=
  match c.source capture.source with
  | .ok source =>
      match source.at? capture.path with
      | .ok found => found <|> capture.default
      | .error _ => none
  | .error _ => none

/-- What is reported of a capture that has to keep something and has nothing to keep. -/
def failure (capture : Capture) : CheckFailure :=
  .capture capture.key capture.source capture.path

/-- A path without steps leads to the source itself. -/
theorem kept?_of_not_hasStep {source : Json} (hsource : c.source capture.source = .ok source)
    (hpath : ¬ Path.HasStep capture.path) : capture.kept? c = some source := by
  rw [kept?, hsource]
  simp only [Json.at?, Path.segments_eq_nil_iff.mpr hpath, Except.map]
  rfl

/-- In a source that is missing no step leads anywhere. -/
theorem kept?_of_absent (habsent : c.source capture.source = .ok .null)
    (hdefault : capture.default = none) (hpath : Path.HasStep capture.path) :
    capture.kept? c = none := by
  rw [kept?, habsent, hdefault]
  cases hsteps : Path.segments capture.path with
  | error e => simp only [Json.at?, hsteps, Except.map]
  | ok steps =>
      cases steps with
      | nil => exact absurd hpath (Path.segments_eq_nil_iff.mp hsteps)
      | cons step rest =>
          simp only [Json.at?, hsteps, Except.map]
          cases step <;> rfl

end Capture

theorem StepContext.exists_source {c : StepContext} {result : Json} (h : c.result = .ok result)
    (source : Source) : ∃ j, c.source source = .ok j := by
  cases source with
  | result => exact ⟨result, h⟩
  | _ => exact ⟨_, rfl⟩

namespace Captured

variable {c : StepContext} {captures : List Capture}

/-- What there is after a capture. -/
def after (c : StepContext) (s : Captured) (capture : Capture) : Captured :=
  match capture.kept? c with
  | some value => s.keep capture.key value
  | none => if capture.required then s.fail capture.failure else s

/-- A capture is taken where its source and its path can be read. -/
theorem take_eq_ok_iff {capture : Capture} {s s' : Captured} :
    take c s capture = .ok s' ↔ (∃ source, c.source capture.source = .ok source) ∧
      Path.Readable capture.path ∧ s' = after c s capture := by
  rw [take, ← Path.exists_segments_iff, after, Capture.kept?, Capture.failure]
  cases c.source capture.source with
  | error o =>
      refine iff_of_false (fun h => ?_) ?_
      · cases h
      · rintro ⟨⟨source, h⟩, -⟩
        cases h
  | ok source =>
      cases hsteps : Path.segments capture.path with
      | error e =>
          simp only [Json.at?, hsteps, Except.map, Except.mapError, bind, Except.bind]
          refine iff_of_false (fun h => ?_) ?_
          · cases h
          · rintro ⟨-, ⟨read, h⟩, -⟩
            cases h
      | ok steps =>
          simp only [Json.at?, hsteps, Except.map, Except.mapError, bind, Except.bind]
          have returns (s'' : Captured) : (Except.ok s'' : Except Obstacle Captured) = .ok s' ↔
              (∃ j, (Except.ok source : Except Obstacle Json) = .ok j) ∧
                (∃ read, (Except.ok steps : Except OversizedIndex _) = .ok read) ∧ s' = s'' :=
            ⟨fun h => ⟨⟨_, rfl⟩, ⟨_, rfl⟩, (Except.ok.inj h).symm⟩, fun h => h.2.2 ▸ rfl⟩
          cases (Json.follow steps source <|> capture.default) with
          | some value => exact returns _
          | none =>
              cases capture.required with
              | true => exact returns _
              | false => exact returns _

/-- Captures are taken one after the other, until one of them cannot be read. -/
theorem exists_takeFrom_eq (c : StepContext) (captures : List Capture) (s : Captured) :
    ∃ taken, taken <+: captures ∧ (takeFrom c s captures).1 = taken.foldl (after c) s := by
  induction captures generalizing s with
  | nil => exact ⟨[], List.nil_prefix, rfl⟩
  | cons capture rest ih =>
      rw [takeFrom]
      cases htake : take c s capture with
      | error o => exact ⟨[], List.nil_prefix, rfl⟩
      | ok s' =>
          obtain ⟨-, -, rfl⟩ := take_eq_ok_iff.mp htake
          obtain ⟨taken, hprefix, htaken⟩ := ih (after c s capture)
          exact ⟨capture :: taken, List.prefix_cons_inj capture |>.mpr hprefix, htaken⟩

theorem takeFrom_eq_foldl {result : Json} (hresult : c.result = .ok result)
    (hpaths : ∀ capture ∈ captures, Path.Readable capture.path) (s : Captured) :
    takeFrom c s captures = (captures.foldl (after c) s, none) := by
  induction captures generalizing s with
  | nil => rfl
  | cons capture rest ih =>
      obtain ⟨hpath, hrest⟩ := List.forall_mem_cons.mp hpaths
      rw [takeFrom, take_eq_ok_iff.mpr ⟨StepContext.exists_source hresult _, hpath, rfl⟩]
      exact ih hrest (after c s capture)

/-- All captures are taken where the result and all paths can be read. -/
theorem takeAll_eq_foldl {result : Json} (hresult : c.result = .ok result)
    (hpaths : ∀ capture ∈ captures, Path.Readable capture.path) :
    takeAll c captures = (captures.foldl (after c) start, none) := by
  rw [takeAll, hresult]
  exact takeFrom_eq_foldl hresult hpaths start

/-! ## What is kept and what fails -/

/-- Those captures fail that have to keep something and have nothing to keep. -/
theorem mem_failures_foldl {s : Captured} {f : CheckFailure} :
    f ∈ (captures.foldl (after c) s).failures ↔ f ∈ s.failures ∨
      ∃ capture ∈ captures, capture.required = true ∧ capture.kept? c = none ∧
        f = capture.failure := by
  induction captures generalizing s with
  | nil => simp
  | cons capture rest ih =>
      rw [List.foldl_cons, ih, List.exists_mem_cons_iff, ← or_assoc]
      refine or_congr_left ?_
      rw [after]
      cases hkept : capture.kept? c with
      | some value => simp [keep]
      | none => cases capture.required <;> simp [fail]

/-- What the last capture of a name that has something to keep keeps. -/
def lastKept? (c : StepContext) (captures : List Capture) (key : String) : Option Json :=
  captures.reverse.findSome? fun capture => if capture.key = key then capture.kept? c else none

theorem get?_values_foldl (s : Captured) (key : String) :
    Named.get? (captures.foldl (after c) s).values key =
      (lastKept? c captures key).or (s.values.get? key) := by
  induction captures generalizing s with
  | nil => rfl
  | cons capture rest ih =>
      have last : lastKept? c (capture :: rest) key = (lastKept? c rest key).or
          (if capture.key = key then capture.kept? c else none) := by
        rw [lastKept?, List.reverse_cons, List.findSome?_append, List.findSome?_singleton]
        rfl
      rw [List.foldl_cons, ih, last, Option.or_assoc]
      congr 1
      rw [after]
      cases capture.kept? c with
      | none => cases capture.required <;> simp [fail]
      | some value =>
          change Named.get? (s.values.put capture.key value) key = _
          split
          · rename_i hkey
            rw [← hkey, Named.get?_put_self]
            rfl
          · rename_i hkey
            rw [Named.get?_put_of_ne _ _ hkey]
            rfl

theorem nodup_values_foldl {s : Captured} (h : (s.values.map Prod.fst).Nodup) :
    ((captures.foldl (after c) s).values.map Prod.fst).Nodup := by
  induction captures generalizing s with
  | nil => exact h
  | cons capture rest ih =>
      refine ih ?_
      rw [after]
      split
      · exact Named.nodup_put h _ _
      · split <;> exact h

theorem lastKept?_eq_none {key : String}
    (h : ∀ capture ∈ captures, capture.key = key → capture.kept? c = none) :
    lastKept? c captures key = none := by
  rw [lastKept?, List.findSome?_eq_none_iff]
  intro capture hmem
  split
  · rename_i hkey
    exact h capture (List.mem_reverse.mp hmem) hkey
  · rfl

theorem lastKept?_eq_some {key : String} {capture : Capture} {value : Json}
    (hmem : capture ∈ captures) (hkey : capture.key = key) (hkept : capture.kept? c = some value)
    (honly : ∀ other ∈ captures, other.key = key → other = capture) :
    lastKept? c captures key = some value := by
  rw [lastKept?]
  cases hfound : captures.reverse.findSome?
      fun capture => if capture.key = key then capture.kept? c else none with
  | none =>
      have nothing := List.findSome?_eq_none_iff.mp hfound capture (List.mem_reverse.mpr hmem)
      rw [if_pos hkey, hkept] at nothing
      cases nothing
  | some found =>
      obtain ⟨other, hother, hvalue⟩ := List.exists_of_findSome?_eq_some hfound
      split at hvalue
      · rename_i hsame
        obtain rfl := honly other (List.mem_reverse.mp hother) hsame
        exact hvalue.symm.trans hkept
      · cases hvalue

/-- A variable means afterwards what the last capture of its name that has something to keep keeps,
and otherwise what it meant before. -/
theorem get?_overlay_foldl (vars : Bag) (key : String) :
    (vars.overlay (Live.ofFields (captures.foldl (after c) start).values)).get? key =
      ((lastKept? c captures key).map .plain).or (vars.get? key) := by
  have distinct : ((Live.ofFields (captures.foldl (after c) start).values).map Prod.fst).Nodup := by
    rw [Live.ofFields, List.map_map]
    exact nodup_values_foldl (s := start) List.nodup_nil
  rw [Named.get?_overlay distinct, Live.ofFields, Named.get?_map, get?_values_foldl]
  rw [start, Named.get?_nil, Option.or_none]

/-! ## Captures from what is missing -/

/-- A capture that has to keep something of a source that is missing leaves the variable of its name
alone if its path has a step and no other capture is of that name. Where all captures can be read,
it fails exactly if its path has a step: a path without steps leads to the source, and null is
kept. -/
theorem required_from_missing (vars : Bag) {capture : Capture} (hmem : capture ∈ captures)
    (hrequired : capture.required = true) (hdefault : capture.default = none)
    (habsent : c.source capture.source = .ok .null) :
    ((∀ other ∈ captures, other.key = capture.key → other = capture) →
      Path.HasStep capture.path →
      (vars.overlay (Live.ofFields (takeAll c captures).1.values)).get? capture.key =
        vars.get? capture.key) ∧
    ((∃ result, c.result = .ok result) → (∀ other ∈ captures, Path.Readable other.path) →
      (takeAll c captures).2 = none ∧
      (capture.failure ∈ (takeAll c captures).1.failures ↔ Path.HasStep capture.path) ∧
      ((∀ other ∈ captures, other.key = capture.key → other = capture) →
        ¬ Path.HasStep capture.path →
        (vars.overlay (Live.ofFields (takeAll c captures).1.values)).get? capture.key =
          some (.plain .null))) := by
  constructor
  · intro honly hstep
    have unchanged {taken : List Capture} (htaken : taken <+: captures) :
        (vars.overlay (Live.ofFields (taken.foldl (after c) start).values)).get? capture.key =
          vars.get? capture.key := by
      rw [get?_overlay_foldl, lastKept?_eq_none]
      · rfl
      · intro other hother hkey
        rw [honly other (htaken.subset hother) hkey]
        exact Capture.kept?_of_absent habsent hdefault hstep
    unfold takeAll
    split
    · obtain ⟨taken, htaken, heq⟩ := exists_takeFrom_eq c captures start
      rw [heq]
      exact unchanged htaken
    · exact unchanged List.nil_prefix
  · rintro ⟨result, hresult⟩ hpaths
    rw [takeAll_eq_foldl hresult hpaths]
    refine ⟨rfl, ⟨fun h => ?_, fun hstep => ?_⟩, fun honly hstep => ?_⟩
    · rcases mem_failures_foldl.mp h with h | ⟨other, -, -, hnothing, hfailure⟩
      · cases h
      · by_contra hstep
        obtain ⟨-, hsource, hpath⟩ := CheckFailure.capture.inj hfailure
        rw [Capture.kept?_of_not_hasStep (hsource ▸ habsent) (hpath ▸ hstep)] at hnothing
        cases hnothing
    · exact mem_failures_foldl.mpr (.inr ⟨capture, hmem, hrequired,
        Capture.kept?_of_absent habsent hdefault hstep, rfl⟩)
    · rw [get?_overlay_foldl, lastKept?_eq_some hmem rfl
        (Capture.kept?_of_not_hasStep habsent hstep) honly]
      rfl

/-- A step of which nothing is known, as when it has not been carried out. -/
def unknownStep : StepContext where
  prompt := .null
  translation := .null
  request := .null
  response := .null
  error := .null
  captures := .object []
  varsRoot := .object []
  vars := []

/-- What stands at a path of the response has to be kept. -/
def answerAt (path : String) : Capture where
  key := "answer"
  source := .response
  path := path
  required := true
  default := none

theorem required_from_missing_response :
    (answerAt "$.id").failure ∈ (takeAll unknownStep [answerAt "$.id"]).1.failures ∧
      (answerAt "$").failure ∉ (takeAll unknownStep [answerAt "$"]).1.failures := by
  have readable (path : String) (h : ∃ steps, Path.segments path = .ok steps) :
      ∀ other ∈ [answerAt path], Path.Readable other.path :=
    List.forall_mem_singleton.mpr (Path.exists_segments_iff.mp h)
  constructor
  · have h := (required_from_missing (c := unknownStep) [] List.mem_cons_self rfl rfl rfl).2
      ⟨_, rfl⟩ (readable "$.id" ⟨_, rfl⟩)
    exact h.2.1.mpr (by decide +kernel)
  · have h := (required_from_missing (c := unknownStep) [] List.mem_cons_self rfl rfl rfl).2
      ⟨_, rfl⟩ (readable "$" ⟨_, rfl⟩)
    exact fun hfails => absurd (h.2.1.mp hfails) (by decide +kernel)

/-- A required capture whose source is missing does not always fail. -/
theorem null_kept_of_missing_response :
    ¬ ∀ (c : StepContext) (captures : List Capture), ∀ capture ∈ captures,
      capture.required = true → capture.default = none → c.source capture.source = .ok .null →
        capture.failure ∈ (takeAll c captures).1.failures := by
  intro h
  have failed := h unknownStep [answerAt "$"] _ (List.mem_singleton.mpr rfl) rfl rfl rfl
  have kept : takeAll unknownStep [answerAt "$"] = (⟨[("answer", .null)], []⟩, none) := rfl
  rw [kept] at failed
  cases failed

end Captured

end Tenancy
