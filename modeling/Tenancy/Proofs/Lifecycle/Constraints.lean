/-
# Violated constraints

A failed step is put down to a violated constraint where the text of its error mentions one. The
error comes from preparing the step, from a refused command, or from a statement that has failed. If
it was the database that has rejected a statement, the code of the response says so, but the class
of the step is read off the text alone, once the step has neither broken an expectation nor failed
by the fault of the script. So an error that does not come from the database is put down to a
constraint as well if its text mentions one.
-/

import Tenancy.Proofs.Expectation.Report
import Tenancy.Proofs.Lifecycle.Issues

namespace Tenancy

/-! ## The text of an error -/

/-- The texts that say what went wrong with a step: that of its response, and that of its
translation. -/
def Prepared.complaints (p : Prepared) (response : Option Response) : List String :=
  ((response.bind Response.error?).map ErrorDetail.message).toList ++
    ((p.translation.bind Translation.error).map TranslationError.message).toList

/-- The most specific text that says what went wrong with a step, if any does. -/
def Prepared.errorText (p : Prepared) (response : Option Response) : String :=
  ((p.complaints response).find? fun s => !s.isEmpty).getD
    ((Lifecycle.stepError p response).getD "")

/-- The most specific of the texts that are there and are not empty is the one that counts. -/
theorem StepContext.complaint_of_messages {c : StepContext} {responded translated : Option String}
    (hresponse : messageIn c.response = .ok (.ofOption .text responded))
    (htranslation : messageIn c.translation = .ok (.ofOption .text translated)) :
    c.Complaint (.text (((responded.toList ++ translated.toList).find? fun s => !s.isEmpty).getD
      c.error.toMessage)) := by
  have silent (message : Option String) : (Json.ofOption .text message).truthy = false ↔
      (message.toList.find? fun s => !s.isEmpty) = none := by
    cases message <;> simp [Json.truthy]
  have told {message : Option String} {s : String}
      (h : (message.toList.find? fun s => !s.isEmpty) = some s) :
      Json.ofOption .text message = .text s ∧ (Json.ofOption .text message).truthy = true := by
    cases message with
    | none => cases h
    | some s' =>
        obtain rfl : s = s' := List.mem_singleton.mp (List.mem_of_find?_eq_some h)
        have nonempty : (!s.isEmpty) = true := List.find?_some (p := fun s : String => !s.isEmpty) h
        exact ⟨rfl, nonempty⟩
  rw [List.find?_append]
  cases hfirst : responded.toList.find? fun s => !s.isEmpty with
  | some s =>
      obtain ⟨hs, htold⟩ := told hfirst
      exact hs ▸ .response hresponse htold
  | none =>
      have quiet := (silent responded).mpr hfirst
      cases hsecond : translated.toList.find? fun s => !s.isEmpty with
      | some s =>
          obtain ⟨hs, htold⟩ := told hsecond
          exact hs ▸ .translation hresponse quiet htranslation htold
      | none => exact .step hresponse quiet htranslation ((silent translated).mpr hsecond)

/-- What a step captures does not change what went wrong with it. -/
theorem StepContext.errorMessage_capturing (c : StepContext) (captured : Captured) :
    (c.capturing captured).errorMessage = c.errorMessage :=
  rfl

namespace Lifecycle

variable {p : Prepared} {s : LifecycleStep} {response : Option Response} {vars : Bag}
  {c : StepContext}

theorem messageIn_response {j : Json}
    (h : (Form.ofOption Response.form response).write vars = .ok j) :
    StepContext.messageIn j =
      .ok (Json.ofOption .text ((response.bind Response.error?).map ErrorDetail.message)) := by
  rw [← ((Form.write_eq_ok_iff _ _ _).mp h).2.2]
  cases response with
  | none => rfl
  | some r =>
      have written : StepContext.part ((Form.ofOption Response.form (some r)).settled vars.outline)
          "error" = .ok ((Form.ofOption ErrorDetail.form r.error?).settled vars.outline) := rfl
      rw [StepContext.messageIn, written]
      cases herror : r.error? <;> simp [herror] <;> rfl

theorem messageIn_translation {translation : Option Translation} {j : Json}
    (h : (Form.ofOption Translation.form translation).write vars = .ok j) :
    StepContext.messageIn j =
      .ok (Json.ofOption .text
        ((translation.bind Translation.error).map TranslationError.message)) := by
  rw [← ((Form.write_eq_ok_iff _ _ _).mp h).2.2]
  cases translation with
  | none => rfl
  | some t =>
      have written : StepContext.part
          ((Form.ofOption Translation.form (some t)).settled vars.outline) "error" =
            .ok ((Form.ofOption TranslationError.form t.error).settled vars.outline) := rfl
      rw [StepContext.messageIn, written]
      cases herror : t.error <;> simp [herror] <;> rfl

/-- What is known about a step says what went wrong with it. -/
theorem errorMessage_of_context (h : context p s response vars = .ok c) :
    c.errorMessage = .ok (.text (p.errorText response)) := by
  unfold context at h
  obtain ⟨translation, htranslation, h⟩ := bind_eq_ok.mp h
  obtain ⟨request, -, h⟩ := bind_eq_ok.mp h
  obtain ⟨answer, hanswer, h⟩ := bind_eq_ok.mp h
  obtain rfl := pure_eq_ok.mp h
  have said : (Json.ofOption .text (stepError p response)).toMessage =
      (stepError p response).getD "" := by
    cases stepError p response <;> rfl
  rw [StepContext.errorMessage_eq_ok_iff, Prepared.errorText, Prepared.complaints, ← said]
  exact StepContext.complaint_of_messages (messageIn_response hanswer)
    (messageIn_translation htranslation)

end Lifecycle

/-! ## The origin of an error -/

namespace Execution

variable {σ : Type}

/-- What a guest comes back with: the refusal of its command, for which no statement was sent, or
the fault of the one statement that has failed, if any has. -/
inductive Told (k : Compiler) (r : Request) (transcript : Transcript) (response : Response) : Prop
  | refused {refusal : Refusal} (h : k.compile r.scope r.command = .error refusal)
      (hquiet : ∀ x ∈ transcript, ¬ x.1.IsStatement)
      (herror : response.error? = some refusal.detail)
  | served (herror : response.error? = transcript.firstFault?.map Fault.detail)
      (hfaults : ∀ e f, (e, .failed f) ∈ transcript →
        e.IsStatement ∧ transcript.firstFault? = some f)

theorem told_executeInTransaction {db : Database σ} {k : Compiler} {r : Request} {id : String}
    {session later : Session σ} {response : Response}
    (h : executeInTransaction db k r id session = (.returned response, later)) :
    ∃ transcript, session.Exchanges db transcript later ∧ Told k r transcript response := by
  unfold executeInTransaction at h
  split at h
  · rename_i refusal hcompile
    cases h
    exact ⟨[], .nil _, .refused hcompile (List.forall_mem_nil _) rfl⟩
  · rename_i plan hcompile
    obtain ⟨sent, run, carried⟩ := carried_runPlan db false plan ⟨session, []⟩
    rcases hrun : runPlan db false plan ⟨session, []⟩ with ⟨ending, p⟩
    rw [hrun] at h run carried
    have faults : ∀ e f, (e, .failed f) ∈ sent → e.IsStatement ∧ sent.firstFault? = some f := by
      intro e f hmem
      have raised := carried.raised_of_mem hmem
      refine ⟨isStatement_of_carried carried _ hmem, ?_⟩
      rw [carried.firstFault?_eq, raised]
      rfl
    cases ending with
    | hung => cases h
    | returned result =>
        cases h
        refine ⟨sent, run, .served ?_ faults⟩
        rw [carried.firstFault?_eq]
        rfl
    | raised f =>
        cases h
        refine ⟨sent, run, .served ?_ faults⟩
        rw [carried.firstFault?_eq]
        rfl

/-- A bracket around what was said changes nothing about it where the bracket is done. -/
theorem Told.around {k : Compiler} {r : Request} {transcript : Transcript} {response : Response}
    (h : Told k r transcript response) {first last : Event} {b b' : Rowset}
    (hfirst : first.IsBracket) (hlast : last.IsBracket) :
    Told k r ((first, .done b) :: (transcript ++ [(last, .done b')])) response := by
  have faults : Transcript.firstFault? ((first, .done b) :: (transcript ++ [(last, .done b')])) =
      transcript.firstFault? := by
    rw [Transcript.firstFault?_cons, Transcript.firstFault?_append, Transcript.firstFault?_cons]
    cases transcript.firstFault? <;> rfl
  cases h with
  | refused hcompile hquiet herror =>
      refine .refused hcompile ?_ herror
      refine List.forall_mem_cons.mpr ⟨hfirst.not_isStatement, List.forall_mem_append.mpr
        ⟨hquiet, List.forall_mem_singleton.mpr hlast.not_isStatement⟩⟩
  | served herror hfaults =>
      refine .served (faults ▸ herror) fun e f hmem => ?_
      rw [faults]
      rcases List.mem_cons.mp hmem with heq | hmem
      · cases heq
      · rcases List.mem_append.mp hmem with hmem | heq
        · exact hfaults e f hmem
        · cases List.mem_singleton.mp heq

end Execution

/-- What came back of a visited step, and what was said to the database before: nothing where it was
not carried out. -/
inductive Visit.Told (k : Compiler) (v : Visit) (transcript : Transcript) : Prop
  | unsent (hresponse : v.response = none) (h : transcript = [])
  | sent {r : Request} {response : Response} (hrequest : v.request? = some r)
      (hresponse : v.response = some response)
      (h : Execution.Told (v.compiler k) r transcript response)

namespace Lifecycle

open Session

variable {σ : Type} {l : Lifecycle σ} {options : LifecycleOptions}

theorem told_executeStep {useSavepoint : Bool} {vars : Bag} {r : Request} {id : String}
    {session later : Session σ} {response : Response}
    (h : l.executeStep useSavepoint vars r id session = (.returned response, later)) :
    ∃ transcript, session.Exchanges l.database transcript later ∧
      Execution.Told { l.compiler with vars } r transcript response := by
  unfold executeStep at h
  dsimp only at h
  split at h
  · obtain ⟨reply, opened, hsave, saved⟩ := exchanges_perform l.database session .savepoint
    rw [hsave] at h
    cases reply with
    | failed f => cases h
    | silent => cases h
    | done b =>
        dsimp only [Reply.ending] at h
        rcases hrun : Execution.executeInTransaction l.database { l.compiler with vars } r id opened
          with ⟨ending, ended⟩
        rw [hrun] at h
        cases ending with
        | raised f => cases h
        | hung => cases h
        | returned answer =>
            obtain ⟨transcript, talk, told⟩ := Execution.told_executeInTransaction hrun
            obtain ⟨reply, final, hclose, closed⟩ :=
              exchanges_perform l.database ended (Execution.closing answer.success)
            dsimp only at h
            rw [Execution.closing] at hclose
            rw [hclose] at h
            cases reply with
            | failed f => cases h
            | silent => cases h
            | done b' =>
                cases h
                have bracket : (Execution.closing response.success).IsBracket := by
                  cases response.success <;> trivial
                exact ⟨_, saved.trans (talk.trans closed), told.around trivial bracket⟩
  · exact Execution.told_executeInTransaction h

/-- A step whose prompt was not translated is not carried out. -/
theorem Ran.translated {v : Visit} {before later : RunState σ} {transcript : Transcript}
    (h : l.Ran options v before later) (htold : v.Told l.compiler transcript) :
    v.response.isSome = true → v.prepared.untranslated = false := by
  intro hsent
  cases htold with
  | unsent hresponse =>
      rw [hresponse] at hsent
      cases hsent
  | sent hrequest =>
      by_contra hmissing
      obtain ⟨hnone, -⟩ :=
        Prepared.givesUp_step h.prepared (Bool.eq_true_of_not_eq_false hmissing)
      simp [Visit.request?, hnone] at hrequest

/-- What is known of the origin of an error: the step was not carried out, or it was told. -/
theorem Ran.told {v : Visit} {before later : RunState σ} (h : l.Ran options v before later) :
    ∃ transcript, before.session.Exchanges l.database transcript later.session ∧
      v.Told l.compiler transcript := by
  obtain ⟨mid, hcarried⟩ := h.carried
  obtain ⟨place, hreported⟩ := h.reported
  have quiet : later.session = mid.session := by
    rw [runStep, h.prepared] at hreported
    dsimp only at hreported
    rw [hcarried] at hreported
    have judged := (l.judge_quiet place options.includeStepTrace v.prepared v.step v.response mid).1
    dsimp only at hreported
    rwa [hreported] at judged
  rw [quiet]
  unfold carryOut at hcarried
  split at hcarried
  · rename_i r herror hrequest
    split at hcarried
    · rename_i hexecute
      dsimp only at hcarried
      split at hcarried
      · rename_i response session hrun
        obtain ⟨hresponse, rfl⟩ := Prod.mk.inj hcarried
        obtain ⟨transcript, talk, told⟩ := told_executeStep hrun
        exact ⟨transcript, talk, .sent (by simp [Visit.request?, herror, hexecute, hrequest])
          (Ending.returned.inj hresponse).symm told⟩
      · cases hcarried
      · cases hcarried
    · obtain ⟨hresponse, rfl⟩ := Prod.mk.inj hcarried
      exact ⟨[], .nil _, .unsent (Ending.returned.inj hresponse).symm rfl⟩
  · obtain ⟨hresponse, rfl⟩ := Prod.mk.inj hcarried
    exact ⟨[], .nil _, .unsent (Ending.returned.inj hresponse).symm rfl⟩

end Lifecycle

/-! ## Classes -/

/-- Whether a code is that of a refused command. -/
def RefusalKind.known (code : Option String) : Bool :=
  RefusalKind.all.any fun kind => code == some kind.code

theorem RefusalKind.known_code {kind : RefusalKind} (h : kind ≠ .breakdown) :
    known (some kind.code) = true :=
  List.any_eq_true.mpr ⟨kind, mem_all h, beq_self_eq_true _⟩

/-- No fault is taken for a refused command. -/
theorem RefusalKind.known_fault (f : Fault) : known f.detail.code = false := by
  have unknown : known (some "DATABASE_ERROR") = false ∧
      known (some "EXECUTION_ERROR") = false := by
    decide
  cases f with
  | database => exact unknown.1
  | timeout | other => exact unknown.2

namespace Classification

variable {c : StepContext} {succeeded untranslated : Bool} {code : Option String} {text : String}

theorem isRefusalCode_eq (code : Option String) :
    isRefusalCode (.ofOption .text code) = .ok (RefusalKind.known code) := by
  rw [RefusalKind.known]
  cases code with
  | none => rfl
  | some code => exact congrArg Except.ok List.any_map

theorem ofMessage_text (text : String) : ofMessage (.text text) = .ok
    (if speaksOfContract text.toList then .scenarioContract
    else if speaksOfConstraint text.toList then .schemaConstraint
    else .executionError) := by
  rw [ofMessage]
  split
  · rfl
  · split <;> rfl

/-- The class of a failed step, by what can be read of it. -/
theorem class_eq {failures : List CheckFailure} {k : FailureClass}
    (h : classify failures c = .ok k) (hsucceeded : c.succeeded = .ok succeeded)
    (huntranslated : c.untranslated = .ok untranslated)
    (hcode : c.errorCode = .ok (.ofOption .text code))
    (hmessage : c.errorMessage = .ok (.text text)) :
    k =
      if hasMismatch failures succeeded then .expectationMismatch
      else if untranslated || RefusalKind.known code || speaksOfContract text.toList then
        .scenarioContract
      else if speaksOfConstraint text.toList then .schemaConstraint
      else .executionError := by
  cases finds_of_classify h with
  | mismatch hread hmismatch =>
      obtain rfl := Except.ok.inj (hsucceeded.symm.trans hread)
      rw [hmismatch]
      rfl
  | untranslated hread hmismatch hfailed =>
      obtain rfl := Except.ok.inj (hsucceeded.symm.trans hread)
      obtain rfl := Except.ok.inj (huntranslated.symm.trans hfailed)
      rw [hmismatch]
      rfl
  | refused hread hmismatch _ hcode' hrefused =>
      obtain rfl := Except.ok.inj (hsucceeded.symm.trans hread)
      obtain rfl := Except.ok.inj (hcode.symm.trans hcode')
      rw [isRefusalCode_eq] at hrefused
      rw [hmismatch, Except.ok.inj hrefused, Bool.or_true, Bool.true_or]
      rfl
  | text hread hmismatch htranslated hcode' hunrefused hmessage' hk =>
      obtain rfl := Except.ok.inj (hsucceeded.symm.trans hread)
      obtain rfl := Except.ok.inj (huntranslated.symm.trans htranslated)
      obtain rfl := Except.ok.inj (hcode.symm.trans hcode')
      obtain rfl := Except.ok.inj (hmessage.symm.trans hmessage')
      rw [isRefusalCode_eq] at hunrefused
      rw [ofMessage_text] at hk
      rw [hmismatch, Except.ok.inj hunrefused, Bool.or_false, Bool.false_or]
      exact (Except.ok.inj hk).symm

end Classification

/-- Where the error comes from that a step has broken down with, if its prompt was translated and
its command was not refused. -/
inductive Visit.Origin (v : Visit) (transcript : Transcript) : Prop
  /-- Preparing the step has failed, and nothing was sent. -/
  | preparation (hresponse : v.response = none) (herror : v.prepared.error.isSome = true)
      (htranslated : v.prepared.untranslated = false) (hquiet : transcript = [])
  /-- A statement of the step has failed. -/
  | statement {e : Event} {f : Fault} {response : Response} (he : e.IsStatement)
      (hmem : (e, .failed f) ∈ transcript) (hresponse : v.response = some response)
      (herror : response.error? = some f.detail)

/-- The code of the error in the response of a step. -/
def Visit.errorCode (v : Visit) : Option String :=
  (v.response.bind Response.error?).bind ErrorDetail.code

theorem Response.success_eq_false_iff {r : Response} :
    r.success = false ↔ r.error?.isSome = true := by
  rw [success, error?]
  cases r.outcome <;> simp

theorem Fault.code_eq_iff {f : Fault} :
    f.detail.code = some "DATABASE_ERROR" ↔ ∃ message sqlstate, f = .database message sqlstate := by
  cases f <;> simp [detail]

theorem Refusal.code_ne (refusal : Refusal) : refusal.detail.code ≠ some "DATABASE_ERROR" := by
  show some refusal.kind.code ≠ some "DATABASE_ERROR"
  cases refusal.kind <;> decide

namespace Visit.Told

variable {v : Visit} {k : Compiler} {transcript : Transcript} (h : v.Told k transcript)
include h

/-- The code of a step tells exactly if the database has rejected one of its statements. -/
theorem errorCode_eq_iff : v.errorCode = some "DATABASE_ERROR" ↔
    ∃ e message sqlstate, e.IsStatement ∧
      (e, .failed (.database message sqlstate)) ∈ transcript := by
  rw [Visit.errorCode]
  cases h with
  | unsent hresponse hquiet => simp [hresponse, hquiet]
  | sent hrequest hresponse told =>
      rw [hresponse, Option.bind_some]
      cases told with
      | refused hcompile hquiet herror =>
          rw [herror]
          refine iff_of_false (Refusal.code_ne _) ?_
          rintro ⟨e, message, sqlstate, he, hmem⟩
          exact hquiet _ hmem he
      | served herror hfaults =>
          rw [herror]
          constructor
          · intro hcode
            cases hfirst : transcript.firstFault? with
            | none =>
                rw [hfirst] at hcode
                cases hcode
            | some f =>
                rw [hfirst] at hcode
                obtain ⟨message, sqlstate, rfl⟩ := Fault.code_eq_iff.mp hcode
                obtain ⟨e, -, hmem⟩ := Transcript.mem_of_faultOf? hfirst
                exact ⟨e, message, sqlstate, (hfaults _ _ hmem).1, hmem⟩
          · rintro ⟨e, message, sqlstate, -, hmem⟩
            rw [(hfaults _ _ hmem).2]
            rfl

/-- A step whose prompt was translated breaks down with an error of such an origin, or because its
command was refused for something that is wrong with it. -/
theorem origin_iff (htranslated : v.response.isSome = true → v.prepared.untranslated = false)
    (hrefused : ∀ r refusal, v.prepared.request = some r →
      (v.compiler k).compile r.scope r.command = .error refusal → refusal.kind ≠ .breakdown) :
    v.Origin transcript ↔ v.succeeds = false ∧ v.prepared.untranslated = false ∧
      RefusalKind.known v.errorCode = false := by
  unfold Visit.succeeds Prepared.succeeds Visit.errorCode
  cases h with
  | unsent hresponse hquiet =>
      rw [hresponse]
      constructor
      · rintro (⟨-, herror, hnow, -⟩ | ⟨-, -, hother, -⟩)
        · refine ⟨?_, hnow, by decide⟩
          rw [hnow]
          simpa using herror
        · exact absurd (hresponse.symm.trans hother) nofun
      · rintro ⟨hbroke, hnow, -⟩
        refine .preparation hresponse ?_ hnow hquiet
        rw [hnow] at hbroke
        simpa using hbroke
  | @sent r response hrequest hresponse told =>
      have translated := htranslated (hresponse ▸ rfl)
      rw [hresponse, Option.bind_some]
      dsimp only
      rw [Response.success_eq_false_iff]
      cases told with
      | refused hcompile hquiet herror =>
          refine iff_of_false ?_ ?_
          · rintro (⟨hother, -⟩ | ⟨he, hmem, -⟩)
            · exact absurd (hresponse.symm.trans hother) nofun
            · exact hquiet _ hmem he
          · rintro ⟨-, -, hunknown⟩
            rw [herror] at hunknown
            obtain ⟨-, hprepared⟩ := Option.ite_none_right_eq_some.mp hrequest
            have known := RefusalKind.known_code (hrefused r _ hprepared hcompile)
            exact Bool.false_ne_true (hunknown.symm.trans known)
      | served herror hfaults =>
          constructor
          · rintro (⟨hother, -⟩ | ⟨he, hmem, hother, hfault⟩)
            · exact absurd (hresponse.symm.trans hother) nofun
            · obtain rfl := Option.some.inj (hresponse.symm.trans hother)
              rw [hfault]
              exact ⟨rfl, translated, RefusalKind.known_fault _⟩
          · rintro ⟨hbroke, -, -⟩
            cases hfirst : transcript.firstFault? with
            | none =>
                rw [herror, hfirst] at hbroke
                cases hbroke
            | some f =>
                rw [hfirst] at herror
                obtain ⟨e, -, hmem⟩ := Transcript.mem_of_faultOf? hfirst
                exact .statement (hfaults _ _ hmem).1 hmem hresponse herror

end Visit.Told

/-! ## What is put down to a violated constraint -/

namespace Visit.Judged

open Classification

variable {v : Visit} {before : StepContext} {captured : Captured}

/-- A step that has not failed has no class. -/
theorem classification_eq_none (h : v.Judged before captured) (hpasses : v.result.success = true) :
    v.result.classification = none := by
  obtain ⟨failed, -, hverdict⟩ := bind_eq_ok.mp h.verdict
  dsimp only at hverdict
  split at hverdict
  · exact (congrArg Prod.snd (pure_eq_ok.mp hverdict)).symm
  · rename_i hfailed
    obtain ⟨k, -, hverdict⟩ := bind_eq_ok.mp hverdict
    refine absurd ?_ hfailed
    rw [(Prod.mk.inj (pure_eq_ok.mp hverdict)).1]
    exact hpasses

/-- The class of a failed step, by how it was prepared, its code and the text of its error. -/
theorem classification_eq (h : v.Judged before captured) (hfails : v.result.success = false) :
    v.result.classification = some
      (if hasMismatch v.result.failures v.succeeds then .expectationMismatch
      else if v.prepared.untranslated || RefusalKind.known v.errorCode ||
          speaksOfContract (v.prepared.errorText v.response).toList then .scenarioContract
      else if speaksOfConstraint (v.prepared.errorText v.response).toList then .schemaConstraint
      else .executionError) := by
  obtain ⟨failed, -, -, hclass⟩ := Lifecycle.of_verdict h.verdict
  have tells := (Lifecycle.tells_of_context h.known).capturing captured
  have message := (before.errorMessage_capturing captured).trans
    (Lifecycle.errorMessage_of_context h.known)
  obtain ⟨k, hk, hclassify⟩ := hclass (StepResult.success_eq_false_iff.mp hfails)
  rw [hk, class_eq hclassify tells.succeeded tells.untranslated tells.errorCode message]
  rfl

/-- A failed step is put down to a violated constraint if it broke down although all that it
declares holds, its prompt was translated, its command was not refused, and the text of its error
mentions a constraint and nothing that would be the fault of the script. -/
theorem schemaConstraint_iff (h : v.Judged before captured) :
    v.result.classification = some .schemaConstraint ↔
      v.step.expected.wantsSuccess = true ∧
        v.step.expected.ChecksHold (before.capturing captured) ∧
        (v.succeeds = false ∧ v.prepared.untranslated = false ∧
          RefusalKind.known v.errorCode = false) ∧
        speaksOfContract (v.prepared.errorText v.response).toList = false ∧
        speaksOfConstraint (v.prepared.errorText v.response).toList = true := by
  have classified := h.classified
  constructor
  · intro hclass
    have hfails : v.result.success = false := by
      by_contra hpasses
      rw [h.classification_eq_none (Bool.eq_true_of_not_eq_false hpasses)] at hclass
      cases hclass
    have other : v.result.classification ≠ some .expectationMismatch := by
      rw [hclass]
      decide
    obtain ⟨hbroke, hwants, holds⟩ := (classified.mismatch_iff hfails).mp other
    rw [h.classification_eq hfails] at hclass
    split at hclass
    · cases hclass
    · split at hclass
      · cases hclass
      · rename_i hfault
        split at hclass
        · rename_i hspeaks
          simp only [Bool.not_eq_true, Bool.or_eq_false_iff] at hfault
          exact ⟨hwants, holds, ⟨hbroke, hfault.1⟩, hfault.2, hspeaks⟩
        · cases hclass
  · rintro ⟨hwants, holds, ⟨hbroke, htranslated, hknown⟩, hcontract, hspeaks⟩
    have hfails : v.result.success = false := by
      refine classified.fails_iff.mpr (.inl ?_)
      rw [hbroke, hwants]
      exact Bool.false_ne_true
    have other := (classified.mismatch_iff hfails).mpr ⟨hbroke, hwants, holds⟩
    rw [h.classification_eq hfails] at other ⊢
    rw [htranslated, hknown, hcontract, hspeaks] at other ⊢
    split at other
    · exact absurd rfl other
    · rename_i hmatches
      rw [if_neg hmatches]
      rfl

end Visit.Judged

namespace Lifecycle

variable {σ : Type}

/-- A step that a run visits is put down to a violated constraint exactly if it broke down although
all that it declares holds, with an error of preparing it or of one of its statements whose text
mentions a constraint, and nothing that would be the fault of the script. The database need not have
rejected anything: if it has rejected a statement of the step is what the code of the response
tells. -/
theorem schemaConstraint_read_off_text (l : Lifecycle σ) (request : LifecycleRequest)
    (session : Session σ) :
    l.HungIffStalled request session ∧
      ((l.run request session).1 = .hung ∨
        ∃ result, (l.run request session).1 = .returned result ∧
          (result.steps = [] ∨ ∃ state visits, l.begun? request session = some state ∧
            l.Retraces request result state visits ∧
            ∀ k v, visits[k]? = some v → ∃ before later transcript known captured,
              l.Visits request.options state (visits.take k) before ∧
              l.Ran request.options v before later ∧
              before.session.Exchanges l.database transcript later.session ∧
              v.Judged known captured ∧
              (v.errorCode = some "DATABASE_ERROR" ↔ ∃ e message sqlstate, e.IsStatement ∧
                (e, .failed (.database message sqlstate)) ∈ transcript) ∧
              (v.result.classification = some .schemaConstraint ↔
                v.step.expected.wantsSuccess = true ∧
                  v.step.expected.ChecksHold (known.capturing captured) ∧ v.Origin transcript ∧
                  Classification.speaksOfContract
                    (v.prepared.errorText v.response).toList = false ∧
                  Classification.speaksOfConstraint
                    (v.prepared.errorText v.response).toList = true))) := by
  refine ⟨hungIffStalled l request session, (retraces_of_run l request session).imp_right ?_⟩
  rintro ⟨result, hresult, hsteps | ⟨state, visits, hbegun, retraces⟩⟩
  · exact ⟨result, hresult, .inl hsteps⟩
  · refine ⟨result, hresult, .inr ⟨state, visits, hbegun, retraces, fun k v hv => ?_⟩⟩
    obtain ⟨before, later, hvisits, ran⟩ := retraces.ran k v hv
    obtain ⟨transcript, talk, told⟩ := ran.told
    obtain ⟨known, captured, judged⟩ := ran.judged
    refine ⟨before, later, transcript, known, captured, hvisits, ran, talk, judged,
      told.errorCode_eq_iff, ?_⟩
    rw [told.origin_iff (ran.translated told) fun _ _ hrequest =>
      kind_ne_breakdown_of_context judged.known hrequest]
    exact judged.schemaConstraint_iff

/-! ## Constraints that nothing violates -/

/-- A database has that row already. -/
def duplicate : Fault :=
  .database "duplicate key" (some "23505")

/-- The statement that was rejected is where the error of the step comes from. -/
theorem duplicate_read_off_text :
    ∃ (result : LifecycleResult) (v : Visit) (transcript : Transcript),
      (rejectedRun duplicate none).1 = .returned result ∧ result.steps = [v.result] ∧
      v.result.classification = some .schemaConstraint ∧ v.Origin transcript ∧
      Classification.speaksOfConstraint (v.prepared.errorText v.response).toList = true := by
  have reports : (rejectedRun duplicate none).1.any (fun result =>
      !result.steps.isEmpty && result.steps.all fun r =>
        r.classification == some .schemaConstraint) = true := by
    decide +kernel
  obtain ⟨_, hreturned, hreports⟩ := Ending.exists_of_any reports
  obtain ⟨-, ends⟩ := schemaConstraint_read_off_text (rejectingLifecycle duplicate)
    (soleRun (additionStep none)) ⟨(), []⟩
  rcases ends with hung | ⟨result, hresult, told⟩
  · exact absurd (hung.symm.trans hreturned) (fun h => nomatch h)
  · obtain rfl := Ending.returned.inj (hresult.symm.trans hreturned)
    rw [Bool.and_eq_true, Bool.not_eq_true', List.isEmpty_eq_false_iff] at hreports
    obtain ⟨some_steps, hclass⟩ := hreports
    rcases told with hnone | ⟨state, visits, -, retraces, all⟩
    · exact absurd hnone some_steps
    · obtain ⟨v, rfl, -, hone⟩ := retraces.sole some_steps
      rw [hone, List.all_cons, List.all_nil, Bool.and_true, beq_iff_eq] at hclass
      obtain ⟨before, later, transcript, known, captured, -, -, -, -, -, put_down⟩ := all 0 v rfl
      obtain ⟨-, -, origin, -, hspeaks⟩ := put_down.mp hclass
      exact ⟨result, v, transcript, hresult, hone, hclass, origin, hspeaks⟩

/-- The parts of a run whose translator breaks down. -/
def speechlessLifecycle (message : String) : Lifecycle Unit :=
  { rejectingLifecycle duplicate with translator := fun _ => .error (.raised message) }

/-- A step is put down to a violated constraint where a statement failed with an error of another
kind, and also where nothing was sent because the translator broke down, if the text mentions a
check. -/
theorem schemaConstraint_where_none_violated :
    (∃ result r response, (rejectedRun (.other "health check failed") none).1 = .returned result ∧
      r ∈ result.steps ∧ r.classification = some .schemaConstraint ∧
      r.response = some response ∧
      response.error?.bind ErrorDetail.code = some "EXECUTION_ERROR") ∧
    ∃ result r, ((speechlessLifecycle "spelling check failed").run
        (soleRun (additionStep none)) ⟨(), []⟩).1 = .returned result ∧
      r ∈ result.steps ∧ r.classification = some .schemaConstraint ∧ r.response = none := by
  have failed : (rejectedRun (.other "health check failed") none).1.any (fun result =>
      result.steps.any fun r => r.classification == some .schemaConstraint &&
        r.response.any fun response =>
          response.error?.bind ErrorDetail.code == some "EXECUTION_ERROR") = true := by
    decide +kernel
  have unsent : ((speechlessLifecycle "spelling check failed").run
      (soleRun (additionStep none)) ⟨(), []⟩).1.any (fun result => result.steps.any fun r =>
        r.classification == some .schemaConstraint && r.response.isNone) = true := by
    decide +kernel
  constructor
  · obtain ⟨result, hresult, hreports⟩ := Ending.exists_of_any failed
    obtain ⟨r, hr, hreport⟩ := List.any_eq_true.mp hreports
    rw [Bool.and_eq_true, beq_iff_eq, Option.any_eq_true] at hreport
    obtain ⟨hclass, response, hresponse, hcode⟩ := hreport
    exact ⟨result, r, response, hresult, hr, hclass, hresponse, beq_iff_eq.mp hcode⟩
  · obtain ⟨result, hresult, hreports⟩ := Ending.exists_of_any unsent
    obtain ⟨r, hr, hreport⟩ := List.any_eq_true.mp hreports
    rw [Bool.and_eq_true, beq_iff_eq, Option.isNone_iff_eq_none] at hreport
    exact ⟨result, r, hresult, hr, hreport.1, hreport.2⟩

end Lifecycle

end Tenancy
