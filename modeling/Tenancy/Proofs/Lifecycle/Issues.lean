/-
# What the issues of a run say

Every failed step of a run has an issue, and its message is meant to be one line. If the failure is
no broken expectation the message is the first line of the error, which is one, whatever the error
says. Otherwise it is the message of the first check that failed, as it stands, and that quotes what
the check declares and what was found instead. So it is one line where these are, and where an error
or a value of several lines was found it has several lines as well.
-/

import Tenancy.Proofs.Expectation.Captures
import Tenancy.Proofs.Json.Lines
import Tenancy.Proofs.Lifecycle.Accounting
import Tenancy.Proofs.Lifecycle.Gate
import Tenancy.Proofs.Scenario.DryRun

namespace Tenancy

open Text

/-! ## What the message of a failure quotes -/

namespace Check

/-- The texts that a check declares. -/
def texts : Check → List String
  | .errorContains needle => [needle]
  | .existing path _ => [path]
  | .equals path expected => path :: expected.bare
  | .contains path needle => [path, needle]
  | _ => []

end Check

/-- The texts that a step declares in its checks and captures. -/
def LifecycleStep.texts (s : LifecycleStep) : List String :=
  s.expected.checks.flatMap Check.texts ++ s.captures.flatMap fun capture =>
    [capture.key, capture.path]

namespace CheckFailure

/-- The texts that a failed check has declared. -/
def declared : CheckFailure → List String
  | .errorContains needle _ => [needle]
  | .existing path .. => [path]
  | .equals path expected _ => path :: expected.bare
  | .contains path needle _ => [path, needle]
  | .capture key _ path => [key, path]
  | _ => []

/-- The texts that were found where a check has failed. -/
def found : CheckFailure → List String
  | .rowCountEq _ actual | .rowCountGte _ actual | .rowCountLte _ actual => actual.bare
  | .errorContains _ message => message.bare
  | .equals _ _ actual => actual.bare
  | .contains _ _ text => [text]
  | _ => []

theorem isLine_truth (b : Bool) : IsLine (truth b) := by
  cases b <;> decide

theorem isLine_word (s : Source) : IsLine s.word := by
  cases s <;> decide

/-- The message of a failed check is one line exactly where all that it quotes is. -/
theorem isLine_message_iff (f : CheckFailure) :
    IsLine f.message ↔ (∀ s ∈ f.declared, IsLine s) ∧ ∀ s ∈ f.found, IsLine s := by
  have phrases : IsLine "Expected success=" ∧ IsLine " but got success=" ∧
      IsLine "Expected rowCount=" ∧ IsLine "Expected rowCount >= " ∧
      IsLine "Expected rowCount <= " ∧ IsLine " but got " ∧ IsLine "Expected error to include \"" ∧
      IsLine "\" but got \"" ∧ IsLine "\"." ∧ IsLine "Assert path \"" ∧
      IsLine "\" exists expected " ∧ IsLine "\" equals " ∧ IsLine "\" should contain \"" ∧
      IsLine "Capture \"" ∧ IsLine "\" from " ∧ IsLine "." ∧
      IsLine " could not be resolved." := by
    decide +kernel
  unfold message
  cases f <;>
    simp only [isLine_append, phrases, isLine_truth, isLine_word, isLine_toString_int,
      Json.isLine_display_iff, Json.isLine_toMessage_iff, declared, found, List.forall_mem_cons,
      List.not_mem_nil, false_imp_iff, implies_true, true_and, and_true, and_assoc]

theorem declared_failure (r : Reading) (k : Check) : (k.failure r).declared = k.texts := by
  cases k <;> rfl

end CheckFailure

/-! ## What a failed step quotes -/

/-- Captures that fail are captures of the step. -/
theorem Captured.exists_of_mem_failures {c : StepContext} {captures : List Capture}
    {captured : Captured} {stopped : Option Obstacle} (h : takeAll c captures = (captured, stopped))
    {f : CheckFailure} (hf : f ∈ captured.failures) :
    ∃ capture ∈ captures, f = capture.failure := by
  unfold takeAll at h
  split at h
  · obtain ⟨taken, htaken, heq⟩ := exists_takeFrom_eq c captures start
    rw [h] at heq
    obtain rfl : captured = taken.foldl (after c) start := heq
    rcases mem_failures_foldl.mp hf with hf | ⟨capture, hmem, -, -, rfl⟩
    · cases hf
    · exact ⟨capture, htaken.subset hmem, rfl⟩
  · cases h
    cases hf

namespace Visit.Judged

variable {v : Visit} {before : StepContext} {captured : Captured}

/-- What a failed check of a step declares is declared by the step. -/
theorem declared_subset (h : v.Judged before captured) :
    ∀ f ∈ v.result.failures, f.declared ⊆ v.step.texts := by
  obtain ⟨failed, hfailed, hfailures, -⟩ := Lifecycle.of_verdict h.verdict
  obtain ⟨r, -, rfl⟩ := Expectation.violations_of_evaluate hfailed
  rw [hfailures]
  intro f hf s hs
  rcases List.mem_append.mp hf with hf | hf
  · obtain ⟨k, hk, rfl⟩ := List.mem_map.mp hf
    rw [CheckFailure.declared_failure] at hs
    exact List.mem_append_left _ (List.mem_flatMap.mpr ⟨k, (List.mem_filter.mp hk).1, hs⟩)
  · obtain ⟨capture, hcapture, rfl⟩ := Captured.exists_of_mem_failures h.takes hf
    exact List.mem_append_right _ (List.mem_flatMap.mpr ⟨capture, hcapture, hs⟩)

/-- What is reported first of a step that broke down although it should have succeeded is just
that. -/
theorem exists_failures_eq (h : v.Judged before captured) (hbroke : v.succeeds = false)
    (hwants : v.step.expected.wantsSuccess = true) :
    ∃ later, v.result.failures = .success true false :: later := by
  obtain ⟨failed, hfailed, hfailures, -⟩ := Lifecycle.of_verdict h.verdict
  obtain ⟨succeeded, declared, hsucceeded, rfl, -, -⟩ := Expectation.evaluate_eq hfailed
  have tells := (Lifecycle.tells_of_context h.known).capturing captured
  obtain rfl : v.succeeds = succeeded := Except.ok.inj (tells.succeeded.symm.trans hsucceeded)
  rw [hfailures, hbroke, Expectation.successFailures, hwants]
  exact ⟨_, rfl⟩

end Visit.Judged

/-! ## Messages of issues -/

namespace StepResult

variable {r : StepResult} {f : CheckFailure} {later : List CheckFailure}

/-- The issue of a broken expectation says what its first check that failed says. -/
theorem issueMessage_of_mismatch (hfailures : r.failures = f :: later)
    (hclass : r.classification = some .expectationMismatch) : r.issueMessage = f.message := by
  rw [issueMessage, hfailures, hclass]
  cases r.error <;> rfl

/-- The issue of any other failure says the first line of the error if there is one, and otherwise
what the first check says. -/
theorem isLine_issueMessage (hfailures : r.failures = f :: later) (hf : IsLine f.message) :
    r.classification ≠ some .expectationMismatch → IsLine r.issueMessage := by
  intro hclass
  rw [issueMessage, hfailures]
  cases r.error with
  | none => exact hf
  | some e =>
      dsimp only
      split
      · exact isLine_firstLine e
      · exact hf

end StepResult

namespace Lifecycle

variable {σ : Type}

/-- The issues of a run are those of its failed steps. -/
theorem issues_of_run {l : Lifecycle σ} {request : LifecycleRequest} {session : Session σ}
    {result : LifecycleResult} (h : (l.run request session).1 = .returned result) :
    result.issues = (result.steps.filter fun r => !r.success).map StepResult.issue := by
  rcases hung_or_protocol l request session with hung | ⟨other, transcript, hother, protocol⟩
  · exact absurd (hung.symm.trans h) (fun h => nomatch h)
  · obtain rfl := Ending.returned.inj (hother.symm.trans h)
    obtain ⟨entries, n, reports⟩ := protocol.reports
    rw [reports.issues, reports.steps, List.filter_map, List.map_map]
    rfl

/-- The issues of a run are those of its failed steps. The message of an issue is one line if the
failure is no broken expectation. Otherwise it is that of the first check of the step that failed,
and where all texts that the step declares are one line, it is one line exactly if the texts are
that were found instead. -/
theorem issue_is_line_unless_quoting_lines (l : Lifecycle σ) (request : LifecycleRequest)
    (session : Session σ) :
    l.HungIffStalled request session ∧
      ((l.run request session).1 = .hung ∨
        ∃ result, (l.run request session).1 = .returned result ∧
          result.issues = (result.steps.filter fun r => !r.success).map StepResult.issue ∧
          (result.steps = [] ∨ ∃ state visits, l.begun? request session = some state ∧
            l.Retraces request result state visits ∧
            ∀ v ∈ visits, v.result.success = false →
              (v.result.classification ≠ some .expectationMismatch →
                IsLine v.result.issue.message) ∧
              (v.result.classification = some .expectationMismatch →
                ∃ f later, v.result.failures = f :: later ∧
                  v.result.issue.message = f.message ∧
                  ((∀ s ∈ v.step.texts, IsLine s) →
                    (IsLine f.message ↔ ∀ s ∈ f.found, IsLine s))))) := by
  refine ⟨hungIffStalled l request session, (retraces_of_run l request session).imp_right ?_⟩
  rintro ⟨result, hresult, hsteps | ⟨state, visits, hbegun, retraces⟩⟩
  · exact ⟨result, hresult, issues_of_run hresult, .inl hsteps⟩
  · refine ⟨result, hresult, issues_of_run hresult, .inr ⟨state, visits, hbegun, retraces, ?_⟩⟩
    intro v hv hfails
    obtain ⟨known, captured, judged⟩ := retraces.judged hv
    have classified := judged.classified
    constructor
    · intro hclass
      obtain ⟨hbroke, hwants, -⟩ := (classified.mismatch_iff hfails).mp hclass
      obtain ⟨later, hfailures⟩ := judged.exists_failures_eq hbroke hwants
      exact StepResult.isLine_issueMessage hfailures (by decide) hclass
    · intro hclass
      obtain ⟨f, later, hfailures⟩ :=
        List.exists_cons_of_ne_nil (StepResult.success_eq_false_iff.mp hfails)
      refine ⟨f, later, hfailures, StepResult.issueMessage_of_mismatch hfailures hclass, ?_⟩
      intro hlines
      have declared : ∀ s ∈ f.declared, IsLine s := fun s hs =>
        hlines s (judged.declared_subset f (hfailures ▸ List.mem_cons_self) hs)
      rw [CheckFailure.isLine_message_iff]
      exact ⟨And.right, fun hfound => ⟨declared, hfound⟩⟩

/-! ## An error of several lines -/

/-- A database where every statement fails. -/
def rejecting (f : Fault) : Database Unit :=
  failing fun
    | .statement => some f
    | _ => none

/-- A step that adds a location. -/
def additionStep (expect : Option Expectation) : LifecycleStep :=
  { id := none, name := "add", description := none, prompt := some "add a location"
    request := none, execute := true, scope := none, expect, captures := [], tags := [] }

/-- The parts of a run whose every prompt adds a location, where every statement fails. -/
def rejectingLifecycle (f : Fault) : Lifecycle Unit :=
  ⟨rejecting f, Compiler.demo, .always Compiler.demoRequest, .counting, ⟨0⟩⟩

/-- What comes of adding a location there. -/
def rejectedRun (f : Fault) (expect : Option Expectation) :
    Ending LifecycleResult × Session Unit :=
  (rejectingLifecycle f).run (soleRun (additionStep expect)) ⟨(), []⟩

/-- A step is expected to fail over a row that is there already. -/
def repeats : Expectation :=
  { success := some false, rowCountEq := none, rowCountGte := none, rowCountLte := none
    errorContains := some ["duplicate key"], asserts := [] }

/-- A database says in two lines what is wrong with a value. -/
def tooLong : Fault :=
  .database "value too long\nDETAIL: at most 3" (some "22001")

/-- What the database has said is quoted in the issue. -/
theorem issue_quotes_tooLong :
    ∃ (result : LifecycleResult) (v : Visit) (f : CheckFailure),
      (rejectedRun tooLong (some repeats)).1 = .returned result ∧
      result.issues = [v.result.issue] ∧ v.result.issue.message = f.message ∧
      (IsLine f.message ↔ ∀ s ∈ f.found, IsLine s) := by
  have reports : (rejectedRun tooLong (some repeats)).1.any (fun result =>
      !result.steps.isEmpty && result.steps.all fun r => !r.success &&
        r.classification == some .expectationMismatch) = true := by
    decide +kernel
  obtain ⟨_, hreturned, hreports⟩ := Ending.exists_of_any reports
  obtain ⟨-, ends⟩ := issue_is_line_unless_quoting_lines (rejectingLifecycle tooLong)
    (soleRun (additionStep (some repeats))) ⟨(), []⟩
  rcases ends with hung | ⟨result, hresult, hissues, told⟩
  · exact absurd (hung.symm.trans hreturned) (fun h => nomatch h)
  · obtain rfl := Ending.returned.inj (hresult.symm.trans hreturned)
    rw [Bool.and_eq_true, Bool.not_eq_true', List.isEmpty_eq_false_iff] at hreports
    obtain ⟨some_steps, hfailed⟩ := hreports
    rcases told with hnone | ⟨state, visits, -, retraces, all⟩
    · exact absurd hnone some_steps
    · obtain ⟨v, rfl, hv, hone⟩ := retraces.sole some_steps
      rw [hone, List.all_cons, List.all_nil, Bool.and_true, Bool.and_eq_true, Bool.not_eq_true',
        beq_iff_eq] at hfailed
      obtain ⟨f, later, -, hmessage, hlines⟩ :=
        (all v List.mem_cons_self hfailed.1).2 hfailed.2
      refine ⟨result, v, f, hresult, ?_, hmessage, hlines (hv ▸ by decide +kernel)⟩
      rw [hissues, hone]
      simp [hfailed.1]

/-- Where an error of two lines is not the one that a step expects, the issue of the step has two
lines, although the step declares none. -/
theorem issue_of_two_lines :
    (∀ s ∈ (additionStep (some repeats)).texts, IsLine s) ∧
      ∃ result i, (rejectedRun tooLong (some repeats)).1 = .returned result ∧
        i ∈ result.issues ∧ ¬ IsLine i.message := by
  have breaks : (rejectedRun tooLong (some repeats)).1.any (fun result =>
      result.issues.any fun i => !decide (IsLine i.message)) = true := by
    decide +kernel
  obtain ⟨result, hresult, hbreaks⟩ := Ending.exists_of_any breaks
  obtain ⟨i, hi, hbroken⟩ := List.any_eq_true.mp hbreaks
  exact ⟨by decide +kernel, result, i, hresult, hi, by simpa using hbroken⟩

end Lifecycle

end Tenancy
