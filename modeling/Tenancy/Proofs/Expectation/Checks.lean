/-
# What it means that no check fails

An expectation is evaluated check by check, and what is reported is the list of the checks that
failed. Here it is said without the list when each of the checks a step has declared is satisfied,
and proved that the list has none of them exactly then. The same is done for the captures that a
step requires. From both it follows which failures a classifier takes for a broken expectation: all
of them, unless the step broke down against its expectation and nothing failed but that and its
captures.
-/

import Tenancy.Expectation.Classify
import Tenancy.Proofs.Chains

namespace Tenancy

/-! ## Failures by kind -/

namespace CheckFailure

/-- Whether the failure is of a check that has to be declared: one of rows, errors or paths. -/
def isDeclared : CheckFailure → Bool
  | .success .. | .capture .. => false
  | _ => true

/-- Whether the failure is of a capture. -/
def isCapture : CheckFailure → Bool
  | .capture .. => true
  | _ => false

end CheckFailure

/-! ## Assertions -/

namespace PathAssertion

/-- A value is as it is asserted to be. -/
structure Holds (a : PathAssertion) (vars : Bag) (actual : Live) : Prop where
  existing : ∀ expected, a.existing = some expected → (!actual.isNull) = expected
  equals : ∀ expected, a.equals = some expected →
    ∃ j, actual = .plain j ∧ j.strictlyEquals expected = true
  contains : ∀ needle, a.contains = some needle →
    ∃ j, actual.now? vars = some j ∧ Text.contains j.toMessage needle = true

end PathAssertion

namespace Expectation

variable {a : PathAssertion} {vars : Bag} {actual : Live} {failures : List CheckFailure}

theorem existenceFailures_eq_nil_iff :
    existenceFailures a actual = [] ↔
      ∀ expected, a.existing = some expected → (!actual.isNull) = expected := by
  unfold existenceFailures
  cases a.existing with
  | none => simp
  | some expected =>
      cases actual.isNull <;> cases expected <;> simp

theorem shown_eq_ok {j : Json} (h : shown vars actual = .ok j) : actual.now? vars = some j := by
  unfold shown at h
  split at h
  · rename_i hnow
    rw [hnow, Except.ok.inj h]
  · cases h

theorem equalityFailures_eq_nil_iff (h : equalityFailures a vars actual = .ok failures) :
    failures = [] ↔ ∀ expected, a.equals = some expected →
      ∃ j, actual = .plain j ∧ j.strictlyEquals expected = true := by
  unfold equalityFailures at h
  split at h
  · rename_i hequals
    simp [← Except.ok.inj h, hequals]
  · rename_i expected j hequals
    rw [← Except.ok.inj h, hequals]
    cases hsame : j.strictlyEquals expected <;> simp [hsame]
  · rename_i expected hequals hplain
    -- what refers to the variables is no scalar
    obtain ⟨j, -, rfl⟩ := map_eq_ok.mp h
    rw [hequals]
    simp only [List.cons_ne_nil, false_iff, not_forall]
    refine ⟨expected, rfl, ?_⟩
    rintro ⟨j, hj, -⟩
    exact hplain j hj

theorem textFailures_eq_nil_iff (h : textFailures a vars actual = .ok failures) :
    failures = [] ↔ ∀ needle, a.contains = some needle →
      ∃ j, actual.now? vars = some j ∧ Text.contains j.toMessage needle = true := by
  unfold textFailures at h
  split at h
  · rename_i hcontains
    simp [← Except.ok.inj h, hcontains]
  · rename_i needle hcontains
    obtain ⟨j, hj, rfl⟩ := map_eq_ok.mp h
    rw [hcontains, shown_eq_ok hj]
    cases hfound : Text.contains j.toMessage needle <;> simp [hfound]

/-- No check of an assertion fails if and only if the value is as asserted. -/
theorem assertionFailures_eq_nil_iff (h : assertionFailures a vars actual = .ok failures) :
    failures = [] ↔ a.Holds vars actual := by
  unfold assertionFailures at h
  obtain ⟨unequal, hunequal, h⟩ := bind_eq_ok.mp h
  obtain ⟨lacking, hlacking, h⟩ := bind_eq_ok.mp h
  rw [← pure_eq_ok.mp h, List.append_eq_nil_iff, List.append_eq_nil_iff,
    existenceFailures_eq_nil_iff, equalityFailures_eq_nil_iff hunequal,
    textFailures_eq_nil_iff hlacking]
  exact ⟨fun ⟨⟨h₁, h₂⟩, h₃⟩ => ⟨h₁, h₂, h₃⟩, fun ⟨h₁, h₂, h₃⟩ => ⟨⟨h₁, h₂⟩, h₃⟩⟩

/-- Every failure of an assertion is of a declared check. -/
theorem isDeclared_of_assertionFailures (h : assertionFailures a vars actual = .ok failures) :
    ∀ f ∈ failures, f.isDeclared = true := by
  unfold assertionFailures at h
  obtain ⟨unequal, hunequal, h⟩ := bind_eq_ok.mp h
  obtain ⟨lacking, hlacking, h⟩ := bind_eq_ok.mp h
  rw [← pure_eq_ok.mp h]
  refine List.forall_mem_append.mpr ⟨List.forall_mem_append.mpr ⟨?_, ?_⟩, ?_⟩
  · intro f hf
    unfold existenceFailures at hf
    split at hf
    · split at hf
      · cases hf
      · rw [List.mem_singleton.mp hf]
        rfl
    · cases hf
  · intro f hf
    unfold equalityFailures at hunequal
    split at hunequal
    · cases hunequal
      cases hf
    · cases hunequal
      split at hf
      · cases hf
      · rw [List.mem_singleton.mp hf]
        rfl
    · obtain ⟨j, -, rfl⟩ := map_eq_ok.mp hunequal
      rw [List.mem_singleton.mp hf]
      rfl
  · intro f hf
    unfold textFailures at hlacking
    split at hlacking
    · cases hlacking
      cases hf
    · obtain ⟨j, -, rfl⟩ := map_eq_ok.mp hlacking
      split at hf
      · cases hf
      · rw [List.mem_singleton.mp hf]
        rfl

/-- The values at all asserted paths are as asserted, and otherwise every failure says so. -/
theorem assertsFailures_eq {root : Live} {asserts : List PathAssertion}
    (h : assertsFailures root vars asserts = .ok failures) :
    (∀ f ∈ failures, f.isDeclared = true) ∧
      (failures = [] ↔ ∀ a ∈ asserts, ∃ found, root.at? vars a.path = .ok found ∧
        a.Holds vars (found.getD (.plain .null))) := by
  induction asserts generalizing failures with
  | nil =>
      cases h
      simp
  | cons a rest ih =>
      rw [assertsFailures] at h
      obtain ⟨found, hfound, h⟩ := bind_eq_ok.mp h
      obtain ⟨first, hfirst, h⟩ := bind_eq_ok.mp h
      obtain ⟨later, hlater, h⟩ := bind_eq_ok.mp h
      obtain ⟨declared, holds⟩ := ih hlater
      have found_eq : root.at? vars a.path = .ok found := by
        cases hat : root.at? vars a.path with
        | error e => rw [hat] at hfound; cases hfound
        | ok v => rw [hat] at hfound; cases hfound; rfl
      rw [← pure_eq_ok.mp h]
      refine ⟨List.forall_mem_append.mpr
        ⟨isDeclared_of_assertionFailures hfirst, declared⟩, ?_⟩
      rw [List.append_eq_nil_iff, assertionFailures_eq_nil_iff hfirst, holds, List.forall_mem_cons,
        found_eq]
      simp

/-! ## Rows and errors -/

/-- The number of rows is within the declared bounds. -/
structure Counts (e : Expectation) (stated : Json) : Prop where
  eq : ∀ n, e.rowCountEq = some n → ∃ found, rowCount? stated = some found ∧ found = n
  gte : ∀ n, e.rowCountGte = some n → ∃ found, rowCount? stated = some found ∧ n ≤ found
  lte : ∀ n, e.rowCountLte = some n → ∃ found, rowCount? stated = some found ∧ found ≤ n

theorem boundFailure_eq_nil_iff {bound : Option Int} {ok : Int → Int → Bool}
    {failure : Int → Json → CheckFailure} {stated : Json} :
    boundFailure bound ok failure stated = [] ↔
      ∀ n, bound = some n → ∃ found, rowCount? stated = some found ∧ ok found n = true := by
  unfold boundFailure
  cases bound with
  | none => simp
  | some n =>
      cases rowCount? stated with
      | none => simp
      | some found => cases hok : ok found n <;> simp [hok]

theorem isDeclared_of_boundFailure {bound : Option Int} {ok : Int → Int → Bool}
    {failure : Int → Json → CheckFailure} {stated : Json}
    (hfailure : ∀ n j, (failure n j).isDeclared = true) :
    ∀ f ∈ boundFailure bound ok failure stated, f.isDeclared = true := by
  intro f hf
  unfold boundFailure at hf
  split at hf
  · cases hf
  · split at hf
    · split at hf
      · cases hf
      · rw [List.mem_singleton.mp hf]
        exact hfailure _ _
    · rw [List.mem_singleton.mp hf]
      exact hfailure _ _

theorem rowCountFailures_eq (e : Expectation) (stated : Json) :
    (∀ f ∈ e.rowCountFailures stated, f.isDeclared = true) ∧
      (e.rowCountFailures stated = [] ↔ e.Counts stated) := by
  constructor
  · exact List.forall_mem_append.mpr ⟨List.forall_mem_append.mpr
      ⟨isDeclared_of_boundFailure fun _ _ => rfl, isDeclared_of_boundFailure fun _ _ => rfl⟩,
      isDeclared_of_boundFailure fun _ _ => rfl⟩
  · rw [rowCountFailures, List.append_eq_nil_iff, List.append_eq_nil_iff, boundFailure_eq_nil_iff,
      boundFailure_eq_nil_iff, boundFailure_eq_nil_iff]
    simp only [beq_iff_eq, decide_eq_true_eq]
    exact ⟨fun ⟨⟨h₁, h₂⟩, h₃⟩ => ⟨h₁, h₂, h₃⟩, fun ⟨h₁, h₂, h₃⟩ => ⟨⟨h₁, h₂⟩, h₃⟩⟩

theorem errorFailures_eq {message : Json} {needles : List String}
    (h : errorFailures message needles = .ok failures) :
    (∀ f ∈ failures, f.isDeclared = true) ∧
      (failures = [] ↔ ∀ needle ∈ needles, message.includes? needle = some true) := by
  induction needles generalizing failures with
  | nil =>
      cases h
      simp
  | cons needle rest ih =>
      rw [errorFailures] at h
      split at h
      · cases h
      · rename_i found hfound
        obtain ⟨later, hlater, rfl⟩ := map_eq_ok.mp h
        obtain ⟨declared, mentioned⟩ := ih hlater
        rw [List.forall_mem_cons, hfound, ← mentioned]
        cases found with
        | true => simpa using declared
        | false => exact ⟨List.forall_mem_cons.mpr ⟨rfl, declared⟩, by simp⟩

/-! ## The whole expectation -/

/-- Every check that an expectation declares is satisfied: those of rows, of the error and of the
values at paths. Whether the step succeeds is not among them. -/
structure ChecksHold (e : Expectation) (c : StepContext) : Prop where
  rows : ∃ stated, c.statedRowCount = .ok stated ∧ e.Counts stated
  errors : ∃ message, c.errorMessage = .ok message ∧
    ∀ needle ∈ e.errorContains.getD [], message.includes? needle = some true
  asserts : ∃ root, c.root = .ok root ∧ ∀ a ∈ e.asserts, ∃ found,
    root.at? c.vars a.path = .ok found ∧ a.Holds c.vars (found.getD (.plain .null))

/-- What fails is the success of the step, if it is other than expected, and declared checks, if
they do not all hold. -/
theorem evaluate_eq {e : Expectation} {c : StepContext} (h : e.evaluate c = .ok failures) :
    ∃ succeeded declared, c.succeeded = .ok succeeded ∧
      failures = e.successFailures succeeded ++ declared ∧
      (∀ f ∈ declared, f.isDeclared = true) ∧ (declared = [] ↔ e.ChecksHold c) := by
  unfold evaluate at h
  obtain ⟨succeeded, hsucceeded, h⟩ := bind_eq_ok.mp h
  obtain ⟨stated, hstated, h⟩ := bind_eq_ok.mp h
  obtain ⟨message, hmessage, h⟩ := bind_eq_ok.mp h
  obtain ⟨unmentioned, hunmentioned, h⟩ := bind_eq_ok.mp h
  obtain ⟨root, hroot, h⟩ := bind_eq_ok.mp h
  obtain ⟨asserted, hasserted, h⟩ := bind_eq_ok.mp h
  obtain ⟨declared₁, rows⟩ := e.rowCountFailures_eq stated
  obtain ⟨declared₂, errors⟩ := errorFailures_eq hunmentioned
  obtain ⟨declared₃, asserts⟩ := assertsFailures_eq hasserted
  refine ⟨succeeded, e.rowCountFailures stated ++ unmentioned ++ asserted, hsucceeded, ?_, ?_, ?_⟩
  · rw [← pure_eq_ok.mp h, List.append_assoc, List.append_assoc, List.append_assoc]
  · exact List.forall_mem_append.mpr ⟨List.forall_mem_append.mpr ⟨declared₁, declared₂⟩, declared₃⟩
  · rw [List.append_eq_nil_iff, List.append_eq_nil_iff, rows, errors, asserts]
    constructor
    · rintro ⟨⟨hrows, herrors⟩, hasserts⟩
      exact ⟨⟨stated, hstated, hrows⟩, ⟨message, hmessage, herrors⟩, ⟨root, hroot, hasserts⟩⟩
    · rintro ⟨⟨stated', hstated', hrows⟩, ⟨message', hmessage', herrors⟩, ⟨root', hroot', hasserts⟩⟩
      obtain rfl := Except.ok.inj (hstated.symm.trans hstated')
      obtain rfl := Except.ok.inj (hmessage.symm.trans hmessage')
      obtain rfl := Except.ok.inj (hroot.symm.trans hroot')
      exact ⟨⟨hrows, herrors⟩, hasserts⟩

theorem successFailures_eq_nil_iff {e : Expectation} {succeeded : Bool} :
    e.successFailures succeeded = [] ↔ succeeded = e.wantsSuccess := by
  unfold successFailures
  split <;> simp_all

end Expectation

/-! ## Captures -/

/-- A capture that its step requires finds nothing and has nothing to fall back on. -/
def Capture.Unresolved (c : StepContext) (capture : Capture) : Prop :=
  capture.required = true ∧ capture.default = none ∧
    ∃ source, c.source capture.source = .ok source ∧ source.at? capture.path = .ok none

namespace Captured

variable {c : StepContext} {s s' : Captured}

/-- Taking a capture fails exactly where it is unresolved. -/
theorem take_eq {capture : Capture} (h : take c s capture = .ok s') :
    ∃ missed, s'.failures = s.failures ++ missed ∧ (∀ f ∈ missed, f.isCapture = true) ∧
      (missed = [] ↔ ¬ capture.Unresolved c) := by
  unfold take at h
  obtain ⟨source, hsource, h⟩ := bind_eq_ok.mp h
  obtain ⟨found, hfound, h⟩ := bind_eq_ok.mp h
  have found_eq : source.at? capture.path = .ok found := by
    cases hat : source.at? capture.path with
    | error e => rw [hat] at hfound; cases hfound
    | ok v => rw [hat] at hfound; cases hfound; rfl
  have unresolved_iff : capture.Unresolved c ↔
      capture.required = true ∧ capture.default = none ∧ found = none := by
    simp [Capture.Unresolved, hsource, found_eq]
  split at h
  · rename_i value hvalue
    rw [← pure_eq_ok.mp h]
    refine ⟨[], (List.append_nil _).symm, (fun _ hf => nomatch hf), iff_of_true rfl ?_⟩
    rw [unresolved_iff]
    rintro ⟨-, hdefault, rfl⟩
    rw [hdefault] at hvalue
    cases hvalue
  · rename_i hnone
    obtain ⟨rfl, hdefault⟩ : found = none ∧ capture.default = none := by
      cases found <;> simp_all
    rw [unresolved_iff, hdefault]
    split at h
    · rename_i hrequired
      rw [← pure_eq_ok.mp h]
      exact ⟨_, rfl, List.forall_mem_singleton.mpr rfl, by simp [hrequired]⟩
    · rename_i hrequired
      rw [← pure_eq_ok.mp h]
      exact ⟨[], (List.append_nil _).symm, (fun _ hf => nomatch hf), by simp [hrequired]⟩

theorem takeFrom_eq {captures : List Capture} (h : takeFrom c s captures = (s', none)) :
    ∃ missed, s'.failures = s.failures ++ missed ∧ (∀ f ∈ missed, f.isCapture = true) ∧
      (missed = [] ↔ ∀ capture ∈ captures, ¬ capture.Unresolved c) := by
  induction captures generalizing s with
  | nil =>
      cases h
      exact ⟨[], (List.append_nil _).symm, (fun _ hf => nomatch hf), by simp⟩
  | cons capture rest ih =>
      rw [takeFrom] at h
      split at h
      · rename_i mid hmid
        obtain ⟨missed, hmissed, captured, none_iff⟩ := take_eq hmid
        obtain ⟨others, hothers, captured', none_iff'⟩ := ih h
        refine ⟨missed ++ others, by rw [hothers, hmissed, List.append_assoc],
          List.forall_mem_append.mpr ⟨captured, captured'⟩, ?_⟩
        rw [List.append_eq_nil_iff, none_iff, none_iff', List.forall_mem_cons]
      · cases h

/-- Where all captures of a step can be read, those fail that are unresolved. -/
theorem takeAll_eq {captures : List Capture} (h : takeAll c captures = (s', none)) :
    (∀ f ∈ s'.failures, f.isCapture = true) ∧
      (s'.failures = [] ↔ ∀ capture ∈ captures, ¬ capture.Unresolved c) := by
  unfold takeAll at h
  split at h
  · obtain ⟨missed, hmissed, captured, none_iff⟩ := takeFrom_eq h
    rw [start, List.nil_append] at hmissed
    exact ⟨hmissed ▸ captured, hmissed ▸ none_iff⟩
  · cases h

end Captured

/-! ## Classes -/

namespace Classification

theorem ofMessage_ne_mismatch {message : Json} {k : FailureClass} (h : ofMessage message = .ok k) :
    k ≠ .expectationMismatch := by
  unfold ofMessage at h
  split at h
  · split at h
    · cases h
      exact fun h => nomatch h
    · split at h <;> cases h <;> exact fun h => nomatch h
  · cases h

/-- What the class of a failure is found by: by the checks that failed, then by what has become of
the translation, then by the code of the error, and only then by its text. -/
inductive Finds (failures : List CheckFailure) (c : StepContext) : FailureClass → Prop
  | mismatch {succeeded : Bool} (hsucceeded : c.succeeded = .ok succeeded)
      (h : hasMismatch failures succeeded = true) : Finds failures c .expectationMismatch
  | untranslated {succeeded : Bool} (hsucceeded : c.succeeded = .ok succeeded)
      (h : hasMismatch failures succeeded = false) (huntranslated : c.untranslated = .ok true) :
      Finds failures c .scenarioContract
  | refused {succeeded : Bool} {code : Json} (hsucceeded : c.succeeded = .ok succeeded)
      (h : hasMismatch failures succeeded = false) (htranslated : c.untranslated = .ok false)
      (hcode : c.errorCode = .ok code) (hrefused : isRefusalCode code = .ok true) :
      Finds failures c .scenarioContract
  | text {succeeded : Bool} {code message : Json} {k : FailureClass}
      (hsucceeded : c.succeeded = .ok succeeded) (h : hasMismatch failures succeeded = false)
      (htranslated : c.untranslated = .ok false) (hcode : c.errorCode = .ok code)
      (hunrefused : isRefusalCode code = .ok false) (hmessage : c.errorMessage = .ok message)
      (hk : ofMessage message = .ok k) : Finds failures c k

theorem finds_of_classify {failures : List CheckFailure} {c : StepContext} {k : FailureClass}
    (h : classify failures c = .ok k) : Finds failures c k := by
  unfold classify at h
  obtain ⟨succeeded, hsucceeded, h⟩ := bind_eq_ok.mp h
  split at h
  · rename_i hmismatch
    exact pure_eq_ok.mp h ▸ .mismatch hsucceeded hmismatch
  · rename_i hmismatch
    rw [Bool.not_eq_true] at hmismatch
    obtain ⟨untranslated, huntranslated, h⟩ := bind_eq_ok.mp h
    cases untranslated with
    | true => exact pure_eq_ok.mp h ▸ .untranslated hsucceeded hmismatch huntranslated
    | false =>
        obtain ⟨code, hcode, h⟩ := bind_eq_ok.mp h
        obtain ⟨refused, hrefused, h⟩ := bind_eq_ok.mp h
        cases refused with
        | true => exact pure_eq_ok.mp h ▸ .refused hsucceeded hmismatch huntranslated hcode hrefused
        | false =>
            obtain ⟨message, hmessage, h⟩ := bind_eq_ok.mp h
            exact .text hsucceeded hmismatch huntranslated hcode hrefused hmessage h

/-- What is called a mismatch is one. -/
theorem classify_eq_mismatch_iff {failures : List CheckFailure} {c : StepContext} {succeeded : Bool}
    {k : FailureClass} (hsucceeded : c.succeeded = .ok succeeded)
    (h : classify failures c = .ok k) :
    k = .expectationMismatch ↔ hasMismatch failures succeeded = true := by
  cases finds_of_classify h with
  | mismatch hread hmismatch =>
      obtain rfl := Except.ok.inj (hsucceeded.symm.trans hread)
      exact iff_of_true rfl hmismatch
  | untranslated hread hmismatch | refused hread hmismatch =>
      obtain rfl := Except.ok.inj (hsucceeded.symm.trans hread)
      simp [hmismatch]
  | text hread hmismatch _ _ _ _ hk =>
      obtain rfl := Except.ok.inj (hsucceeded.symm.trans hread)
      simp [hmismatch, ofMessage_ne_mismatch hk]

/-- Where a test has the same outcome for all elements of a list, one passes it if they all do and
there is one. -/
theorem any_eq_of_forall {α : Type} {items : List α} {test : α → Bool} {b : Bool}
    (h : ∀ x ∈ items, test x = b) : items.any test = (b && !items.isEmpty) := by
  cases items with
  | nil => simp
  | cons x rest =>
      cases b with
      | false => exact List.any_eq_false.mpr fun y hy => by simp [h y hy]
      | true => exact List.any_eq_true.mpr ⟨x, List.mem_cons_self, h x List.mem_cons_self⟩

theorem isMismatch_of_isDeclared {f : CheckFailure} (h : f.isDeclared = true)
    (succeeded brokeUnexpectedly : Bool) : isMismatch succeeded brokeUnexpectedly f = true := by
  cases f with
  | success => cases h
  | capture => cases h
  | _ => rfl

theorem isMismatch_of_isCapture {f : CheckFailure} (h : f.isCapture = true)
    (succeeded brokeUnexpectedly : Bool) :
    isMismatch succeeded brokeUnexpectedly f = !brokeUnexpectedly := by
  cases f with
  | capture => rfl
  | _ => cases h

section Mismatches

variable {e : Expectation} {succeeded : Bool} {declared missed : List CheckFailure}
  (hdeclared : ∀ f ∈ declared, f.isDeclared = true) (hmissed : ∀ f ∈ missed, f.isCapture = true)
include hdeclared hmissed

/-- Whether the success of a step was other than expected can be seen among its failures. -/
theorem hasSuccessFailure_eq :
    hasSuccessFailure (e.successFailures succeeded ++ declared ++ missed) =
      (succeeded != e.wantsSuccess) := by
  have others : ∀ f ∈ declared ++ missed, (f.check == "success") = false := by
    refine List.forall_mem_append.mpr ⟨fun f hf => ?_, fun f hf => ?_⟩
    · have kind := hdeclared f hf
      cases f with
      | success => cases kind
      | _ => rfl
    · have kind := hmissed f hf
      cases f with
      | success => cases kind
      | _ => rfl
  rw [hasSuccessFailure, List.append_assoc, List.any_append, any_eq_of_forall others,
    Bool.false_and, Bool.or_false, Expectation.successFailures]
  cases succeeded <;> cases e.wantsSuccess <;> rfl

/-- What is a mismatch: a success that was not expected, a declared check that failed, and a capture
that failed unless its step broke down against its expectation. -/
theorem hasMismatch_eq :
    hasMismatch (e.successFailures succeeded ++ declared ++ missed) succeeded =
      ((succeeded && !e.wantsSuccess) || !declared.isEmpty ||
        (!missed.isEmpty && !(!succeeded && e.wantsSuccess))) := by
  have success (b : Bool) : (e.successFailures succeeded).any (isMismatch succeeded b) =
      (succeeded && !e.wantsSuccess) := by
    rw [Expectation.successFailures]
    cases succeeded <;> cases e.wantsSuccess <;> rfl
  rw [hasMismatch, hasSuccessFailure_eq hdeclared hmissed, List.any_append, List.any_append,
    success, any_eq_of_forall fun f hf => isMismatch_of_isDeclared (hdeclared f hf) _ _,
    any_eq_of_forall fun f hf => isMismatch_of_isCapture (hmissed f hf) _ _]
  cases succeeded <;> cases e.wantsSuccess <;> simp

/-- The failures of a step are no mismatch if and only if it broke down against its expectation and
no declared check failed. -/
theorem not_hasMismatch_iff
    (hfailed : e.successFailures succeeded ++ declared ++ missed ≠ []) :
    hasMismatch (e.successFailures succeeded ++ declared ++ missed) succeeded = false ↔
      succeeded = false ∧ e.wantsSuccess = true ∧ declared = [] := by
  have present : succeeded = e.wantsSuccess → declared ≠ [] ∨ missed ≠ [] := by
    intro hsame
    by_contra hnone
    rw [not_or, not_not, not_not] at hnone
    exact hfailed (by simp [Expectation.successFailures, hsame, hnone])
  rw [hasMismatch_eq hdeclared hmissed]
  revert present
  cases succeeded <;> cases e.wantsSuccess <;> cases declared <;> cases missed <;> simp

end Mismatches

end Classification

end Tenancy
