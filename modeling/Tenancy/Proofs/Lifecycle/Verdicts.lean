/-
# Whose fault a failed step is

A step is judged by what is known about it: its translation, its request and its response, written
down. What the judgement reads off them is what they are: a step succeeded if its response says so,
or, where there is no response, if nothing went wrong before.

So the class of a failed step can be said without the written forms. It is a broken expectation
unless the step broke down although it should have succeeded, and no check that it declares failed.
What it captures is only asked for otherwise.
-/

import Tenancy.Proofs.Expectation.Checks
import Tenancy.Proofs.Lifecycle.Variables
import Tenancy.Proofs.Statement.Breakdown

namespace Tenancy

/-- Whether a translation was asked for and there is none. -/
def Prepared.untranslated (p : Prepared) : Bool :=
  p.translation.any fun t => !t.success

/-- Whether a step has done what it is for, whatever was expected of it. -/
def Prepared.succeeds (p : Prepared) (response : Option Response) : Bool :=
  match response with
  | some r => r.success
  | none => !p.untranslated && p.error.isNone

/-- A visited step was judged: this was known about it before anything was captured, this is what it
has captured, and the verdict was found with both. -/
structure Visit.Judged (v : Visit) (before : StepContext) (captured : Captured) : Prop where
  known : Lifecycle.context v.prepared v.step v.response v.interpreter.vars = .ok before
  takes : Captured.takeAll before v.step.captures = (captured, none)
  verdict : Lifecycle.verdict v.step captured (before.capturing captured) =
    .ok (v.result.failures, v.result.classification)

namespace Lifecycle

/-! ## What can be read off -/

/-- What is known about a step is about this preparation and this response. -/
structure Tells (c : StepContext) (p : Prepared) (response : Option Response) : Prop where
  untranslated : c.untranslated = .ok p.untranslated
  succeeded : c.succeeded = .ok (p.succeeds response)
  errorCode : c.errorCode = .ok (Json.ofOption .text
    ((response.bind Response.error?).bind ErrorDetail.code))
  /-- Where nothing was translated or carried out, the message is what went wrong before. -/
  errorMessage : p.translation = none → response = none →
    c.errorMessage = .ok (.text (p.error.getD ""))

theorem written_none {α : Type} {form : α → Form} {vars : Bag} {j : Json}
    (h : (Form.ofOption form none).write vars = .ok j) : j = .null :=
  ((Form.write_eq_ok_iff _ _ _).mp h).2.2.symm

theorem written_translation {t : Translation} {vars : Bag} {j : Json}
    (h : (Form.ofOption Translation.form (some t)).write vars = .ok j) :
    j.isNull = false ∧ StepContext.saysSuccess j = .ok t.success := by
  rw [← ((Form.write_eq_ok_iff _ _ _).mp h).2.2]
  exact ⟨rfl, rfl⟩

theorem written_response {r : Response} {vars : Bag} {j : Json}
    (h : (Form.ofOption Response.form (some r)).write vars = .ok j) :
    j.isNull = false ∧ StepContext.saysSuccess j = .ok r.success ∧
      (StepContext.part j "error" >>= fun e => StepContext.part e "code") =
        .ok (Json.ofOption .text (r.error?.bind ErrorDetail.code)) := by
  rw [← ((Form.write_eq_ok_iff _ _ _).mp h).2.2]
  refine ⟨rfl, rfl, ?_⟩
  have written : StepContext.part ((Form.ofOption Response.form (some r)).settled vars.outline)
      "error" = .ok ((Form.ofOption ErrorDetail.form r.error?).settled vars.outline) := rfl
  rw [written]
  cases r.error? with
  | none => rfl
  | some e =>
      obtain ⟨message, code, detail⟩ := e
      cases code <;> rfl

variable {p : Prepared} {s : LifecycleStep} {response : Option Response} {vars : Bag}
  {c : StepContext}

theorem tells_of_context (h : context p s response vars = .ok c) : Tells c p response := by
  unfold context at h
  obtain ⟨translation, htranslation, h⟩ := bind_eq_ok.mp h
  obtain ⟨request, -, h⟩ := bind_eq_ok.mp h
  obtain ⟨answer, hanswer, h⟩ := bind_eq_ok.mp h
  obtain rfl := pure_eq_ok.mp h
  have untranslated : StepContext.untranslated
      { prompt := .ofOption .text (shownPrompt p s), translation, request, response := answer
        error := .ofOption .text (stepError p response), captures := .object [], varsRoot := .bag
        vars } = .ok p.untranslated := by
    unfold StepContext.untranslated Prepared.untranslated
    dsimp only
    cases htranslated : p.translation with
    | none =>
        rw [htranslated] at htranslation
        rw [written_none htranslation]
        rfl
    | some t =>
        rw [htranslated] at htranslation
        obtain ⟨hnull, hsays⟩ := written_translation htranslation
        rw [hnull, hsays]
        rfl
  refine ⟨untranslated, ?_, ?_, ?_⟩
  · unfold StepContext.succeeded
    rw [untranslated]
    dsimp only
    cases response with
    | none =>
        rw [written_none hanswer]
        cases herror : p.error <;>
          simp [Prepared.succeeds, stepError, herror, Json.ofOption, Json.isNull, Except.map]
    | some r =>
        obtain ⟨hnull, hsays, -⟩ := written_response hanswer
        rw [hnull, hsays]
        rfl
  · cases response with
    | none =>
        obtain rfl := written_none hanswer
        rfl
    | some r =>
        obtain ⟨-, -, hcode⟩ := written_response hanswer
        exact hcode
  · rintro htranslated rfl
    rw [htranslated] at htranslation
    obtain rfl := written_none htranslation
    obtain rfl := written_none hanswer
    cases herror : p.error <;> simp [StepContext.errorMessage, stepError, herror] <;> rfl

theorem Tells.capturing (h : Tells c p response) (captured : Captured) :
    Tells (c.capturing captured) p response :=
  ⟨h.untranslated, h.succeeded, h.errorCode, h.errorMessage⟩

/-- The request of a step that something is known about can be written down, and so compiling it
has not broken down. -/
theorem kind_ne_breakdown_of_context (h : context p s response vars = .ok c) {k : Compiler}
    {r : Request} (hrequest : p.request = some r) {refusal : Refusal}
    (hrefused : { k with vars }.compile r.scope r.command = .error refusal) :
    refusal.kind ≠ .breakdown := by
  unfold context at h
  obtain ⟨_, -, h⟩ := bind_eq_ok.mp h
  obtain ⟨_, hwritten, -⟩ := bind_eq_ok.mp h
  rw [hrequest] at hwritten
  exact Compiler.kind_ne_breakdown_of_write hwritten hrefused

end Lifecycle

/-! ## Broken expectations -/

/-- Whether the step has done what it is for, whatever was expected of it. -/
def Visit.succeeds (v : Visit) : Bool :=
  v.prepared.succeeds v.response

/-- When a judged step fails, and when its failure is a broken expectation. -/
structure Visit.Classified (v : Visit) (before : StepContext) (captured : Captured) : Prop where
  /-- A step fails that succeeds or breaks down against its expectation, whose declared checks do
  not all hold, or which lacks a capture that it requires. -/
  fails_iff : v.result.success = false ↔
    v.succeeds ≠ v.step.expected.wantsSuccess ∨
      ¬ v.step.expected.ChecksHold (before.capturing captured) ∨
      ∃ capture ∈ v.step.captures, capture.Unresolved before
  /-- The failure is a broken expectation unless the step broke down against its expectation and its
  declared checks hold. -/
  mismatch_iff : v.result.success = false →
    (v.result.classification ≠ some .expectationMismatch ↔
      v.succeeds = false ∧ v.step.expected.wantsSuccess = true ∧
        v.step.expected.ChecksHold (before.capturing captured))
  /-- So a capture that the step lacks makes it one where the step succeeded, or should not have. -/
  unresolved : ∀ capture ∈ v.step.captures, capture.Unresolved before →
    v.succeeds = true ∨ v.step.expected.wantsSuccess = false →
      v.result.success = false ∧ v.result.classification = some .expectationMismatch

theorem Visit.Judged.classified {v : Visit} {before : StepContext} {captured : Captured}
    (h : v.Judged before captured) : v.Classified before captured := by
  obtain ⟨failed, hfailed, hfailures, hclass⟩ := Lifecycle.of_verdict h.verdict
  have tells := (Lifecycle.tells_of_context h.known).capturing captured
  obtain ⟨succeeded, declared, hsucceeded, rfl, hdeclared, holds⟩ :=
    Expectation.evaluate_eq hfailed
  obtain rfl : v.succeeds = succeeded := Except.ok.inj (tells.succeeded.symm.trans hsucceeded)
  obtain ⟨hmissed, complete⟩ := Captured.takeAll_eq h.takes
  have fails_iff : v.result.success = false ↔
      v.succeeds ≠ v.step.expected.wantsSuccess ∨
        ¬ v.step.expected.ChecksHold (before.capturing captured) ∨
        ∃ capture ∈ v.step.captures, capture.Unresolved before := by
    rw [StepResult.success_eq_false_iff, hfailures, ne_eq, List.append_eq_nil_iff,
      List.append_eq_nil_iff, Expectation.successFailures_eq_nil_iff, holds, complete]
    simp only [not_and_or, not_forall, not_not, or_assoc, exists_prop, ne_eq]
  have mismatch_iff (hfails : v.result.success = false) :
      v.result.classification ≠ some .expectationMismatch ↔
        v.succeeds = false ∧ v.step.expected.wantsSuccess = true ∧
          v.step.expected.ChecksHold (before.capturing captured) := by
    have hfailed := StepResult.success_eq_false_iff.mp hfails
    obtain ⟨k, hk, hclassify⟩ := hclass hfailed
    rw [hk, ne_eq, Option.some_inj,
      Classification.classify_eq_mismatch_iff tells.succeeded hclassify, Bool.not_eq_true, ← holds]
    rw [hfailures] at hfailed ⊢
    exact Classification.not_hasMismatch_iff hdeclared hmissed hfailed
  refine ⟨fails_iff, mismatch_iff, fun capture hcapture hunresolved hcase => ?_⟩
  have hfails := fails_iff.mpr (.inr (.inr ⟨capture, hcapture, hunresolved⟩))
  refine ⟨hfails, ?_⟩
  by_contra hother
  obtain ⟨hbroke, hwants, -⟩ := (mismatch_iff hfails).mp hother
  rw [hbroke, hwants] at hcase
  simp at hcase

/-! ## The steps of a run -/

namespace Lifecycle

variable {σ : Type}

/-- A visited step was run between two states: this was prepared, this came back if it was carried
out, and this is reported. -/
structure Ran (l : Lifecycle σ) (options : LifecycleOptions) (v : Visit)
    (before later : RunState σ) : Prop where
  prepared : Prepared.step l.ids l.translator before.defaultScope v.step before.interpreter =
    (v.prepared, v.interpreter)
  carried : ∃ mid, l.carryOut options.stepSavepoints v.step.execute v.prepared
    { before with interpreter := v.interpreter } = (.returned v.response, mid)
  reported : ∃ place, l.runStep options place v.step before = (.returned v.result, later)

/-- The visits are those of the steps that a run reports, one after the other from the state in
which its phases start. -/
structure Retraces (l : Lifecycle σ) (request : LifecycleRequest) (result : LifecycleResult)
    (state : RunState σ) (visits : List Visit) : Prop where
  reported : visits.map Visit.result = result.steps
  ordered : (visits.map Visit.step).Sublist (request.phases.flatMap LifecyclePhase.steps)
  ran : ∀ k v, visits[k]? = some v → ∃ before later,
    l.Visits request.options state (visits.take k) before ∧ l.Ran request.options v before later

variable {l : Lifecycle σ} {options : LifecycleOptions}

/-- The visits of a run come one after the other, and each runs its step. -/
theorem Visits.ran_at {state after : RunState σ} {visits : List Visit}
    (h : l.Visits options state visits after) {k : Nat} {v : Visit} (hv : visits[k]? = some v) :
    ∃ before later,
      l.Visits options state (visits.take k) before ∧ l.Ran options v before later := by
  induction h generalizing k with
  | nil => cases hv
  | @step state mid later after place first rest hprepared hcarried hjudged hrest ih =>
      cases k with
      | zero =>
          obtain rfl := Option.some.inj hv
          refine ⟨state, later, .nil state, hprepared, ⟨mid, hcarried⟩, ⟨place, ?_⟩⟩
          rw [runStep, hprepared]
          dsimp only
          rw [hcarried]
          exact hjudged
      | succ k =>
          obtain ⟨before, later', hbefore, hran⟩ := ih hv
          exact ⟨before, later', .step hprepared hcarried hjudged hbefore, hran⟩
  | summary _ ih =>
      obtain ⟨before, later, hbefore, hran⟩ := ih hv
      exact ⟨before, later, .summary hbefore, hran⟩

/-- A step that was run was judged. -/
theorem Ran.judged {v : Visit} {before later : RunState σ} (h : l.Ran options v before later) :
    ∃ known captured, v.Judged known captured := by
  obtain ⟨mid, hcarried⟩ := h.carried
  obtain ⟨place, hreported⟩ := h.reported
  obtain ⟨issued, interpreter⟩ := l.interpreter_carryOut options.stepSavepoints v.step.execute
    v.prepared { before with interpreter := v.interpreter }
  rw [hcarried] at interpreter
  rw [runStep, h.prepared] at hreported
  dsimp only at hreported
  rw [hcarried] at hreported
  obtain ⟨-, -, known, captured, hknown, htakes, hverdict⟩ := of_judge hreported
  rw [interpreter] at hknown
  exact ⟨known, captured, hknown, htakes, hverdict⟩

/-- Every run that comes back reports no step, or those that it has visited from the state in which
its phases started. -/
theorem retraces_of_run (l : Lifecycle σ) (request : LifecycleRequest) (session : Session σ) :
    (l.run request session).1 = .hung ∨
      ∃ result, (l.run request session).1 = .returned result ∧
        (result.steps = [] ∨ ∃ state visits, l.begun? request session = some state ∧
          l.Retraces request result state visits) := by
  refine (hung_or_protocol l request session).imp_right ?_
  rintro ⟨result, transcript, hresult, protocol⟩
  refine ⟨result, hresult, ?_⟩
  obtain ⟨after, status, warnings, hreport, source⟩ := protocol.source
  have told : result.steps = after.steps := by rw [hreport]; rfl
  cases source with
  | unstarted hledger => exact .inl (told.trans (RunState.ledger_eq_iff.mp hledger).1)
  | @started state ending hbegun hphases =>
      obtain ⟨visits, mid, last, hvisits, hends, hordered, -⟩ := goes_of_runPhases hphases
      refine .inr ⟨state, visits, hbegun, ?_, ?_, fun k v hv => hvisits.ran_at hv⟩
      · rw [told, hends.steps_eq, hvisits.steps_eq, steps_of_begun? hbegun, List.nil_append]
      · exact (List.sublist_append_left _ _).trans hordered

theorem Retraces.judged {request : LifecycleRequest} {result : LifecycleResult} {state : RunState σ}
    {visits : List Visit} (h : l.Retraces request result state visits) {v : Visit}
    (hv : v ∈ visits) : ∃ known captured, v.Judged known captured := by
  obtain ⟨k, hk⟩ := List.getElem?_of_mem hv
  obtain ⟨_, _, -, ran⟩ := h.ran k v hk
  exact ran.judged

/-- Every step that a run reports fails where it succeeds or breaks down against its expectation,
where a check that it declares does not hold, or where it lacks a capture that it requires. The
failure is a broken expectation unless the step broke down although it should have succeeded and all
checks that it declares hold, whatever it lacks. -/
theorem mismatch_unless_broken_down (l : Lifecycle σ) (request : LifecycleRequest)
    (session : Session σ) :
    l.HungIffStalled request session ∧
      ((l.run request session).1 = .hung ∨
        ∃ result, (l.run request session).1 = .returned result ∧
          (result.steps = [] ∨ ∃ state visits, l.begun? request session = some state ∧
            l.Retraces request result state visits ∧
            ∀ v ∈ visits, ∃ known captured, v.Judged known captured ∧
              v.Classified known captured)) := by
  refine ⟨hungIffStalled l request session, (retraces_of_run l request session).imp_right ?_⟩
  rintro ⟨result, hresult, hsteps | ⟨state, visits, hbegun, retraces⟩⟩
  · exact ⟨result, hresult, .inl hsteps⟩
  · refine ⟨result, hresult, .inr ⟨state, visits, hbegun, retraces, fun v hv => ?_⟩⟩
    obtain ⟨known, captured, judged⟩ := retraces.judged hv
    exact ⟨known, captured, judged, judged.classified⟩

end Lifecycle

end Tenancy
