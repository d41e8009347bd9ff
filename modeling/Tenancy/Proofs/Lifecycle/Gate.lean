/-
# Steps that are turned away

Three things keep the request of a step from the database: a token of the step that means nothing,
a prompt that is not translated, and a command that the compiler refuses. Whichever it is, no
statement is sent, and where the step was only expected to succeed its failure is called the fault
of the script. The class is found in three different ways, by the text of the error, by the
translation and by the code in the response; none of them looks at the names and texts that the
error is about, and captures have no say either.
-/

import Tenancy.Proofs.Execution.Faults
import Tenancy.Proofs.Lifecycle.Verdicts

namespace Tenancy

open Template

/-! ## What turns a step away -/

/-- What resolving the tokens of a step fails with, if it does: first those of its scope, and then
those of its request or its prompt. -/
def LifecycleStep.failure? (ids : IdSource) (s : LifecycleStep) (t : Interpreter) :
    Option Failure :=
  match Interpreter.interpolateFields ids ((s.scope.map Scope.stated).getD []) t with
  | (.error e, _) => some e
  | (.ok _, t) =>
      match s.request with
      | some accepted => Template.failure? (t.interpolate ids (accepted.given.value .null)).1
      | none =>
          Template.failure? (t.interpolateText ids t.stack.search (s.prompt.getD "")).1

/-- A step whose tokens cannot be resolved comes to nothing but that. -/
theorem Prepared.step_of_failure? {ids : IdSource} {s : LifecycleStep} {t : Interpreter}
    {e : Failure} (h : s.failure? ids t = some e) (translator : Translator)
    (defaultScope : Named Live) :
    (step ids translator defaultScope s t).1 = failed e.message := by
  unfold LifecycleStep.failure? at h
  unfold step
  rcases hscope : Interpreter.interpolateFields ids ((s.scope.map Scope.stated).getD []) t with
    ⟨outcome, mid⟩
  rw [hscope] at h
  cases outcome with
  | error e' =>
      obtain rfl := Option.some.inj h
      rfl
  | ok stepScope =>
      dsimp only at h ⊢
      cases hrequest : s.request with
      | some accepted =>
          rw [hrequest] at h
          dsimp only at h ⊢
          rw [literal]
          rcases hresolved : mid.interpolate ids (accepted.given.value .null) with ⟨outcome, after⟩
          rw [hresolved] at h
          obtain rfl := failure?_eq_some.mp h
          rfl
      | none =>
          rw [hrequest] at h
          dsimp only at h ⊢
          rw [prompt]
          rcases hresolved : mid.interpolateText ids mid.stack.search (s.prompt.getD "")
            with ⟨outcome, after⟩
          rw [hresolved] at h
          obtain rfl := failure?_eq_some.mp h
          rfl

/-- There is no request, and there is an error instead. -/
def Prepared.GivesUp (p : Prepared) : Prop :=
  p.request = none ∧ p.error.isSome = true

section GivesUp

variable {ids : IdSource} {translator : Translator}

theorem Prepared.untranslated_literal (defaultScope stepScope : Named Live) (given : Json)
    (t : Interpreter) : (literal ids defaultScope stepScope given t).1.untranslated = false := by
  unfold literal
  split
  · rfl
  · dsimp only
    split <;> rfl

theorem Prepared.givesUp_translate {scope : Json} {text : String}
    (h : (translate translator scope text).untranslated = true) :
    (translate translator scope text).GivesUp := by
  unfold translate at h ⊢
  dsimp only at h ⊢
  split
  · exact ⟨rfl, rfl⟩
  · rename_i scope hscope
    rw [hscope] at h
    dsimp only at h
    split
    · exact ⟨rfl, rfl⟩
    · rename_i hempty
      rw [if_neg hempty] at h
      split
      · exact ⟨rfl, rfl⟩
      · rename_i answer hanswer
        rw [hanswer] at h
        dsimp only at h
        unfold ofTranslation at h ⊢
        cases husable : answer.usable? with
        | none => exact ⟨rfl, rfl⟩
        | some request =>
            -- what can be used was translated
            rw [husable] at h
            have failed : answer.success = false := by simpa [untranslated] using h
            simp [Translation.usable?, failed] at husable

/-- A step whose prompt is not translated has no request. -/
theorem Prepared.givesUp_step {defaultScope : Named Live} {s : LifecycleStep}
    {t after : Interpreter} {p : Prepared}
    (hprepared : step ids translator defaultScope s t = (p, after))
    (h : p.untranslated = true) : p.GivesUp := by
  obtain rfl : (step ids translator defaultScope s t).1 = p := congrArg Prod.fst hprepared
  clear hprepared
  unfold step at h ⊢
  split
  · exact ⟨rfl, rfl⟩
  · rename_i stepScope mid hscope
    rw [hscope] at h
    dsimp only at h
    cases hrequest : s.request with
    | some accepted =>
        rw [hrequest] at h
        dsimp only at h
        rw [untranslated_literal] at h
        cases h
    | none =>
        rw [hrequest] at h
        dsimp only at h ⊢
        unfold prompt at h ⊢
        split
        · exact ⟨rfl, rfl⟩
        · rename_i resolved after hresolved
          rw [hresolved] at h
          dsimp only at h ⊢
          cases hwritten : after.written after.stack.search resolved with
          | error e => exact ⟨rfl, rfl⟩
          | ok j =>
              rw [hwritten] at h
              exact givesUp_translate h

end GivesUp

/-! ## Bare expectations -/

/-- Nothing is expected of a step but that it succeeds. -/
structure Expectation.Bare (e : Expectation) : Prop where
  wantsSuccess : e.wantsSuccess = true
  rowCountEq : e.rowCountEq = none
  rowCountGte : e.rowCountGte = none
  rowCountLte : e.rowCountLte = none
  errorContains : e.errorContains.getD [] = []
  asserts : e.asserts = []

/-- Nothing more is expected of a step that declares no expectation. -/
theorem Expectation.bare_toSucceed : toSucceed.Bare :=
  ⟨rfl, rfl, rfl, rfl, rfl, rfl⟩

/-- What is not declared holds. -/
theorem Expectation.Bare.checksHold {e : Expectation} (hbare : e.Bare) {c : StepContext}
    {failures : List CheckFailure} (h : e.evaluate c = .ok failures) : e.ChecksHold c := by
  unfold evaluate at h
  obtain ⟨succeeded, -, h⟩ := bind_eq_ok.mp h
  obtain ⟨stated, hstated, h⟩ := bind_eq_ok.mp h
  obtain ⟨message, hmessage, h⟩ := bind_eq_ok.mp h
  obtain ⟨unmentioned, -, h⟩ := bind_eq_ok.mp h
  obtain ⟨root, hroot, -⟩ := bind_eq_ok.mp h
  refine ⟨⟨stated, hstated, ?_⟩, ⟨message, hmessage, ?_⟩, ⟨root, hroot, ?_⟩⟩
  · exact ⟨by simp [hbare.rowCountEq], by simp [hbare.rowCountGte], by simp [hbare.rowCountLte]⟩
  · simp [hbare.errorContains]
  · simp [hbare.asserts]

/-! ## The fault of the script -/

namespace Text

theorem afterWord?_append {pattern text rest : List Char} (h : afterWord? pattern text = some rest)
    (later : List Char) : afterWord? pattern (text ++ later) = some (rest ++ later) := by
  induction pattern generalizing text with
  | nil =>
      cases h
      rfl
  | cons p pattern ih =>
      cases text with
      | nil => cases h
      | cons c text =>
          rw [afterWord?] at h
          split at h
          · rename_i hsame
            rw [List.cons_append, afterWord?, if_pos hsame, ih h]
          · cases h

/-- A text that starts with a phrase mentions it, whatever comes after. -/
theorem mentions_append {phrase : String} {text rest : List Char}
    (h : afterWord? phrase.toList text = some rest) (later : List Char) :
    mentions (text ++ later) phrase = true := by
  have starts : (afterWord? phrase.toList (text ++ later)).isSome = true := by
    rw [afterWord?_append h]
    rfl
  unfold mentions
  cases htext : text ++ later with
  | nil =>
      rw [htext] at starts
      exact starts
  | cons c cs =>
      rw [htext] at starts
      rw [anySuffix, starts, Bool.true_or]

end Text

namespace Classification

/-- A text that mentions a token without a meaning speaks of the fault of the script. -/
theorem speaksOfContract_of_token {text : List Char}
    (h : Text.mentions text "unresolved template token" = true) : speaksOfContract text = true := by
  simp only [speaksOfContract, List.any_cons, h, Bool.true_or, Bool.or_true]

/-- A token that means nothing is spoken of as the fault of the script, whatever it says. -/
theorem speaksOfContract_unresolved (expression : String) :
    speaksOfContract (Failure.unresolved expression).message.toList = true := by
  have phrase : Text.afterWord? "unresolved template token".toList
      "Unresolved template token: \"\x7b\x7b".toList = some ": \"\x7b\x7b".toList := by
    decide
  have message : (Failure.unresolved expression).message =
      "Unresolved template token: \"\x7b\x7b" ++ expression ++ "\x7d\x7d\"" := rfl
  rw [message, String.toList_append, String.toList_append, List.append_assoc]
  exact speaksOfContract_of_token (Text.mentions_append phrase _)

/-- What is known about a step makes its failure the fault of the script: its prompt was not
translated, its command was refused, or its error speaks of it. -/
inductive Blames (c : StepContext) : Prop
  | untranslated (h : c.untranslated = .ok true)
  | refused {kind : RefusalKind} (hkind : kind ≠ .breakdown)
      (h : c.errorCode = .ok (.text kind.code))
  | spoken {text : String} (h : c.errorMessage = .ok (.text text))
      (hspeaks : speaksOfContract text.toList = true)

/-- A failure that is no mismatch is the fault of the script where what is known makes it so. -/
theorem Blames.classify {failures : List CheckFailure} {c : StepContext} {k : FailureClass}
    (hblames : Blames c) (h : classify failures c = .ok k) (hmismatch : k ≠ .expectationMismatch) :
    k = .scenarioContract := by
  cases finds_of_classify h with
  | mismatch => exact absurd rfl hmismatch
  | untranslated | refused => rfl
  | @text _ code message _ _ _ htranslated hcode hunrefused hmessage hk =>
      -- of the three, only the text of the error is left
      cases hblames with
      | untranslated hcase => cases htranslated.symm.trans hcase
      | @refused kind hkind hcase =>
          obtain rfl := Except.ok.inj (hcode.symm.trans hcase)
          have known : isRefusalCode (.text kind.code) = .ok true := by
            revert hkind
            cases kind <;> decide
          cases known.symm.trans hunrefused
      | spoken hcase hspeaks =>
          obtain rfl := Except.ok.inj (hmessage.symm.trans hcase)
          rw [ofMessage, hspeaks, if_pos rfl] at hk
          exact (Except.ok.inj hk).symm

end Classification

namespace Lifecycle

variable {σ : Type} (l : Lifecycle σ)

/-- In this state a step is turned away before it gets to the database. -/
inductive TurnsAway (state : RunState σ) (s : LifecycleStep) : Prop
  /-- A token of its scope, its request or its prompt means nothing. -/
  | unresolved {expression : String}
      (h : s.failure? l.ids state.interpreter = some (.unresolved expression))
  /-- The translator has answered its prompt, but not with a translation. -/
  | untranslated {p : Prepared} {after : Interpreter} {t : Translation}
      (hprepared : Prepared.step l.ids l.translator state.defaultScope s state.interpreter =
        (p, after))
      (h : p.translation = some t) (hfailed : t.success = false)
  /-- Its command is refused. -/
  | refused {p : Prepared} {after : Interpreter} {r : Request} {refusal : Refusal}
      (hprepared : Prepared.step l.ids l.translator state.defaultScope s state.interpreter =
        (p, after))
      (herror : p.error = none) (hrequest : p.request = some r) (hexecute : s.execute = true)
      (h : { l.compiler with vars := after.vars }.compile r.scope r.command = .error refusal)

/-- What is prepared for a step that is turned away: an error instead of a request, or a request
that is refused. -/
inductive Spoiled (execute : Bool) (vars : Bag) (p : Prepared) : Prop
  | unresolved {expression : String}
      (h : p = Prepared.failed (Failure.unresolved expression).message)
  | untranslated (h : p.untranslated = true) (hgives : p.GivesUp)
  | refused {r : Request} {refusal : Refusal} (herror : p.error = none)
      (hrequest : p.request = some r) (hexecute : execute = true)
      (h : { l.compiler with vars }.compile r.scope r.command = .error refusal)

variable {l}

theorem TurnsAway.spoiled {state : RunState σ} {s : LifecycleStep} (h : l.TurnsAway state s)
    {p : Prepared} {after : Interpreter}
    (hprepared : Prepared.step l.ids l.translator state.defaultScope s state.interpreter =
      (p, after)) : l.Spoiled s.execute after.vars p := by
  cases h with
  | unresolved hfailure =>
      have hfailed := Prepared.step_of_failure? hfailure l.translator state.defaultScope
      rw [hprepared] at hfailed
      exact .unresolved hfailed
  | untranslated hprepared' htranslation hfailed =>
      obtain ⟨rfl, rfl⟩ := Prod.mk.inj (hprepared.symm.trans hprepared')
      have missing : p.untranslated = true := by simp [Prepared.untranslated, htranslation, hfailed]
      exact .untranslated missing (Prepared.givesUp_step hprepared missing)
  | refused hprepared' herror hrequest hexecute hcompile =>
      obtain ⟨rfl, rfl⟩ := Prod.mk.inj (hprepared.symm.trans hprepared')
      exact .refused herror hrequest hexecute hcompile

/-! ## What is sent -/

open Session

/-- For a step that is turned away no statement is sent, however it ends. -/
theorem TurnsAway.quiet {state : RunState σ} {s : LifecycleStep} (h : l.TurnsAway state s)
    (options : LifecycleOptions) (place : StepPlace) :
    ∃ transcript,
      state.session.Exchanges l.database transcript (l.runStep options place s state).2.session ∧
      ∀ x ∈ transcript, ¬ x.1.IsStatement := by
  rcases hprepared : Prepared.step l.ids l.translator state.defaultScope s state.interpreter with
    ⟨p, after⟩
  obtain ⟨transcript, talk, serves, -⟩ := l.converses_runStep options place s hprepared
  refine ⟨transcript, talk, fun x hx hstatement => ?_⟩
  obtain ⟨r, hrequest, hserves⟩ := serves x hx
  cases h.spoiled hprepared with
  | unresolved hfailed =>
      subst hfailed
      cases hrequest
  | untranslated _ hgives => cases hrequest.symm.trans hgives.1
  | refused _ hrequest' _ hcompile =>
      obtain rfl := Option.some.inj (hrequest.symm.trans hrequest')
      rcases hserves with hbracket | ⟨plan, hplan, -⟩
      · exact hbracket.not_isStatement hstatement
      · cases hplan.symm.trans hcompile

/-! ## What comes back -/

/-- Nothing comes back where there is no request. -/
theorem carryOut_of_givesUp {p : Prepared} (h : p.GivesUp) (useSavepoint execute : Bool)
    (state : RunState σ) : l.carryOut useSavepoint execute p state = (.returned none, state) := by
  obtain ⟨hrequest, -⟩ := h
  unfold carryOut
  rw [hrequest]
  cases p.error <;> rfl

theorem executeInTransaction_of_refused {k : Compiler} {r : Request} {refusal : Refusal}
    (h : k.compile r.scope r.command = .error refusal) (id : String) (session : Session σ) :
    Execution.executeInTransaction l.database k r id session =
      (.returned (Execution.respond r id false [] [] (.error refusal.detail)), session) := by
  rw [Execution.executeInTransaction, h]

/-- What comes back from a refused command is the refusal, if its savepoint can be set and undone.
-/
theorem executeStep_of_refused {useSavepoint : Bool} {vars : Bag} {r : Request} {refusal : Refusal}
    (h : { l.compiler with vars }.compile r.scope r.command = .error refusal) {id : String}
    {session later : Session σ} {response : Response}
    (hrun : l.executeStep useSavepoint vars r id session = (.returned response, later)) :
    response = Execution.respond r id false [] [] (.error refusal.detail) := by
  unfold executeStep at hrun
  dsimp only at hrun
  split at hrun
  · split at hrun
    · cases hrun
    · cases hrun
    · rw [executeInTransaction_of_refused h] at hrun
      dsimp only at hrun
      split at hrun
      · cases hrun
      · cases hrun
      · cases hrun
        rfl
  · rw [executeInTransaction_of_refused h] at hrun
    cases hrun
    rfl

/-- A message that a token means nothing is not empty. -/
theorem isEmpty_unresolved (expression : String) :
    (Failure.unresolved expression).message.isEmpty = false := by
  cases hempty : (Failure.unresolved expression).message.isEmpty with
  | false => rfl
  | true =>
      have speaks := Classification.speaksOfContract_unresolved expression
      rw [String.isEmpty_iff.mp hempty] at speaks
      cases speaks

/-- A step that is turned away breaks down, and what is known about it blames the script. -/
theorem Spoiled.blames {p : Prepared} {vars : Bag} {useSavepoint execute : Bool}
    {state mid : RunState σ} {response : Option Response} (h : l.Spoiled execute vars p)
    (hvars : state.interpreter.vars = vars)
    (hrefused : ∀ r refusal, p.request = some r →
      { l.compiler with vars }.compile r.scope r.command = .error refusal →
        refusal.kind ≠ .breakdown)
    (hcarried : l.carryOut useSavepoint execute p state = (.returned response, mid))
    {c : StepContext} (tells : Tells c p response) :
    p.succeeds response = false ∧ Classification.Blames c := by
  cases h with
  | @unresolved expression hfailed =>
      subst hfailed
      rw [carryOut_of_givesUp ⟨rfl, rfl⟩] at hcarried
      cases hcarried
      have told := tells.errorMessage rfl rfl
      rw [Prepared.failed, isEmpty_unresolved] at told
      exact ⟨rfl, .spoken told (Classification.speaksOfContract_unresolved expression)⟩
  | untranslated huntranslated hgives =>
      rw [carryOut_of_givesUp hgives] at hcarried
      cases hcarried
      exact ⟨by simp [Prepared.succeeds, huntranslated],
        .untranslated (huntranslated ▸ tells.untranslated)⟩
  | @refused r refusal herror hrequest hexecute hcompile =>
      unfold carryOut at hcarried
      rw [herror, hrequest, hexecute] at hcarried
      dsimp only at hcarried
      rw [if_pos rfl] at hcarried
      split at hcarried
      · rename_i answer session hrun
        cases hcarried
        rw [hvars] at hrun
        obtain rfl := executeStep_of_refused hcompile hrun
        exact ⟨rfl, .refused (hrefused r refusal hrequest hcompile) tells.errorCode⟩
      · cases hcarried
      · cases hcarried

/-! ## What is said of it -/

/-- A visited step that is turned away, and that was only expected to succeed, fails by the fault of
the script. -/
theorem Ran.scenarioContract {options : LifecycleOptions} {v : Visit} {before later : RunState σ}
    (h : l.Ran options v before later) (hturned : l.TurnsAway before v.step)
    (hbare : v.step.expected.Bare) :
    v.result.success = false ∧ v.result.classification = some .scenarioContract := by
  obtain ⟨mid, hcarried⟩ := h.carried
  obtain ⟨known, captured, judged⟩ := h.judged
  obtain ⟨failed, hfailed, -, hclass⟩ := of_verdict judged.verdict
  have classified := judged.classified
  have tells := (tells_of_context judged.known).capturing captured
  obtain ⟨broke, blames⟩ := (hturned.spoiled h.prepared).blames rfl
    (fun _ _ hrequest => kind_ne_breakdown_of_context judged.known hrequest) hcarried tells
  have fails : v.result.success = false := by
    refine classified.fails_iff.mpr (.inl ?_)
    rw [hbare.wantsSuccess]
    exact fun hsucceeds => Bool.false_ne_true (broke.symm.trans hsucceeds)
  have other := (classified.mismatch_iff fails).mpr
    ⟨broke, hbare.wantsSuccess, hbare.checksHold hfailed⟩
  obtain ⟨k, hk, hclassify⟩ := hclass (StepResult.success_eq_false_iff.mp fails)
  rw [hk] at other ⊢
  rw [blames.classify hclassify fun h => other (congrArg some h)]
  exact ⟨fails, rfl⟩

/-- No statement is sent for a step that is turned away, whether or not it comes to its end. Where
it does, and was only expected to succeed, the run reports its failure as the fault of the script,
whatever its error says and whatever it captures. -/
theorem turned_away_is_fault_of_script (l : Lifecycle σ) (request : LifecycleRequest)
    (session : Session σ) :
    (∀ (options : LifecycleOptions) (place : StepPlace) (s : LifecycleStep) (state : RunState σ),
      l.TurnsAway state s → ∃ transcript,
        state.session.Exchanges l.database transcript
          (l.runStep options place s state).2.session ∧
        ∀ x ∈ transcript, ¬ x.1.IsStatement) ∧
      l.HungIffStalled request session ∧
      ((l.run request session).1 = .hung ∨
        ∃ result, (l.run request session).1 = .returned result ∧
          (result.steps = [] ∨ ∃ state visits, l.begun? request session = some state ∧
            l.Retraces request result state visits ∧
            ∀ k v, visits[k]? = some v → ∃ before later,
              l.Visits request.options state (visits.take k) before ∧
              l.Ran request.options v before later ∧
              (l.TurnsAway before v.step → v.step.expected.Bare →
                (∃ transcript,
                  before.session.Exchanges l.database transcript later.session ∧
                  ∀ x ∈ transcript, ¬ x.1.IsStatement) ∧
                v.result.success = false ∧
                v.result.classification = some .scenarioContract))) := by
  refine ⟨fun options place s state h => h.quiet options place, hungIffStalled l request session,
    (retraces_of_run l request session).imp_right ?_⟩
  rintro ⟨result, hresult, hsteps | ⟨state, visits, hbegun, retraces⟩⟩
  · exact ⟨result, hresult, .inl hsteps⟩
  · refine ⟨result, hresult, .inr ⟨state, visits, hbegun, retraces, fun k v hv => ?_⟩⟩
    obtain ⟨before, later, hvisits, ran⟩ := retraces.ran k v hv
    refine ⟨before, later, hvisits, ran, fun hturned hbare => ?_⟩
    obtain ⟨place, hreported⟩ := ran.reported
    obtain ⟨transcript, talk, quiet⟩ := hturned.quiet request.options place
    rw [hreported] at talk
    exact ⟨⟨transcript, talk, quiet⟩, ran.scenarioContract hturned hbare⟩

/-! ## A token that means nothing -/

theorem Visits.of_nil {l : Lifecycle σ} {options : LifecycleOptions} {state after : RunState σ}
    (h : l.Visits options state [] after) :
    after.interpreter = state.interpreter ∧ after.defaultScope = state.defaultScope := by
  generalize hvisits : ([] : List Visit) = visits at h
  induction h with
  | nil => exact ⟨rfl, rfl⟩
  | step => cases hvisits
  | summary _ ih => exact ih hvisits

/-- A run of a single step that reports any has visited that one. -/
theorem Retraces.sole {l : Lifecycle σ} {s : LifecycleStep} {result : LifecycleResult}
    {state : RunState σ} {visits : List Visit}
    (h : l.Retraces (soleRun s) result state visits) (hsteps : result.steps ≠ []) :
    ∃ v, visits = [v] ∧ v.step = s ∧ result.steps = [v.result] := by
  have ordered : (visits.map Visit.step).Sublist [s] := h.ordered
  rw [← h.reported] at hsteps ⊢
  cases visits with
  | nil => exact absurd rfl hsteps
  | cons v rest =>
      cases rest with
      | nil => exact ⟨v, rfl, List.mem_singleton.mp (ordered.subset List.mem_cons_self), rfl⟩
      | cons w rest => simpa using ordered.length_le

/-- A step on a prompt with a token that means nothing, which requires a capture that there is not,
fails by the fault of the script. -/
theorem lostStep_is_fault_of_script :
    (lostStep "missing").expected.Bare ∧ ∃ result r,
      (obligingLifecycle.run (soleRun (lostStep "missing")) ⟨(), []⟩).1 = .returned result ∧
      result.steps = [r] ∧ r.success = false ∧ r.classification = some .scenarioContract := by
  have reports : (obligingLifecycle.run (soleRun (lostStep "missing")) ⟨(), []⟩).1.any
      (fun result => !result.steps.isEmpty) = true := by
    decide +kernel
  have unresolved : (lostStep "missing").failure? .counting
      (obligingLifecycle.initial ⟨(), []⟩).interpreter = some (.unresolved "missing") := by
    decide +kernel
  obtain ⟨_, hreturned, hsteps⟩ := Ending.exists_of_any reports
  obtain ⟨-, -, ends⟩ :=
    turned_away_is_fault_of_script obligingLifecycle (soleRun (lostStep "missing")) ⟨(), []⟩
  refine ⟨Expectation.bare_toSucceed, ?_⟩
  rcases ends with hung | ⟨result, hresult, told⟩
  · exact absurd (hung.symm.trans hreturned) (fun h => nomatch h)
  · obtain rfl := Ending.returned.inj (hresult.symm.trans hreturned)
    have some_steps : result.steps ≠ [] := by simpa using hsteps
    rcases told with hnone | ⟨state, visits, hbegun, retraces, all⟩
    · exact absurd hnone some_steps
    · obtain ⟨v, rfl, hv, hone⟩ := retraces.sole some_steps
      obtain ⟨before, later, hvisits, -, turned⟩ := all 0 v rfl
      obtain ⟨hinterpreter, -⟩ := hvisits.of_nil
      have fresh : before.interpreter = (obligingLifecycle.initial ⟨(), []⟩).interpreter :=
        hinterpreter.trans (seeded_of_begun? hbegun).2
      rw [hv] at turned
      obtain ⟨-, hfails, hclass⟩ := turned
        (.unresolved (by rw [fresh]; exact unresolved)) Expectation.bare_toSucceed
      exact ⟨result, v.result, hresult, hone, hfails, hclass⟩

end Lifecycle

end Tenancy
