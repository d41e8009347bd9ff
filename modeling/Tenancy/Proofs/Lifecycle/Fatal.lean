/-
# Why a run breaks off

A statement that fails is reported by its step, and the run goes on. What ends a run for good is a
fault around the statements of a step, a step that cannot be judged, a deadline, or a fault of the
events that open, finish and close the transaction. This module finds the cause of every fatal
error in what was said to the database, and the other way round what a cause is reported as.

The first cause is the one that counts: where the phases are broken off, neither undoing the
transaction nor closing the connection changes what is told. A fault of the kind that databases
raise when they have waited too long is taken for the deadline of the run, even if there is none.
-/

import Tenancy.Proofs.Execution.Faults
import Tenancy.Proofs.Lifecycle.Containment

namespace Tenancy

/-- The fault stands for a step that could not be judged: something in it could not be read, or
could not be written down. -/
inductive Fault.Unjudged : Fault → Prop
  | obstacle (o : Obstacle) : Unjudged (.other o.message)
  | unwritable (u : Unwritable) : Unjudged (.other u.message)

/-- A deadline was set, and it has passed: what a step has sent was left without a reply. -/
def Transcript.Overran (timeoutMs : Option Int) (transcript : Transcript) : Prop :=
  timeoutMs.isSome = true ∧ ∃ e, e.IsGuest ∧ (e, .silent) ∈ transcript

/-- What guests have said fits how it ends: a fault around their statements ends it, and nothing
else does but a step that cannot be judged. -/
structure Transcript.Blames (transcript : Transcript) (ending : Ending Unit) : Prop where
  raised : ∀ e f, e.IsBracket → (e, .failed f) ∈ transcript → ending = .raised f
  cause : ∀ f, ending = .raised f →
    (∃ e, e.IsBracket ∧ (e, .failed f) ∈ transcript) ∨ f.Unjudged

namespace Session

variable {σ : Type} {db : Database σ}

/-- Guests talk to the database, and what they say fits how it ends. -/
def Reveals (db : Database σ) (s : Session σ) (ending : Ending Unit) (s' : Session σ) : Prop :=
  ∃ transcript, s.Exchanges db transcript s' ∧ transcript.Blames ending

namespace Reveals

variable {s s' s'' : Session σ} {ending : Ending Unit}

/-- Whoever sends no event around statements raises nothing but what cannot be judged. -/
theorem of_statements {transcript : Transcript} (h : s.Exchanges db transcript s')
    (hstatements : ∀ x ∈ transcript, x.1.IsStatement)
    (hending : ∀ f, ending = .raised f → f.Unjudged) : s.Reveals db ending s' := by
  refine ⟨transcript, h, ⟨fun e f he hmem => ?_, fun f hf => .inr (hending f hf)⟩⟩
  exact absurd (hstatements _ hmem) he.not_isStatement

theorem quiet (s : Session σ) (h : ∀ f, ending = .raised f → f.Unjudged) :
    s.Reveals db ending s :=
  of_statements (.nil s) (fun _ hx => nomatch hx) h

theorem perform (db : Database σ) (s : Session σ) (e : Event) (he : e.IsBracket) :
    s.Reveals db (s.perform db e).1 (s.perform db e).2 := by
  obtain ⟨reply, later, hperform, sent⟩ := exchanges_perform db s e
  rw [hperform]
  refine ⟨_, sent, ⟨fun e' f _ hmem => ?_, fun f hf => .inl ⟨e, he, ?_⟩⟩⟩
  · cases List.mem_singleton.mp hmem
    rfl
  · cases reply <;> cases hf
    exact List.mem_singleton_self _

/-- Where one talk has come back, nothing around its statements has failed. -/
theorem trans (h : s.Reveals db (.returned ()) s') (h' : s'.Reveals db ending s'') :
    s.Reveals db ending s'' := by
  obtain ⟨transcript, talk, blames⟩ := h
  obtain ⟨later, talk', blames'⟩ := h'
  refine ⟨transcript ++ later, talk.trans talk', ⟨fun e f he hmem => ?_, fun f hf => ?_⟩⟩
  · rcases List.mem_append.mp hmem with hmem | hmem
    · cases blames.raised e f he hmem
    · exact blames'.raised e f he hmem
  · refine (blames'.cause f hf).imp_left ?_
    rintro ⟨e, he, hmem⟩
    exact ⟨e, he, List.mem_append_right transcript hmem⟩

end Reveals

end Session

namespace Lifecycle

open Session

variable {σ : Type} (l : Lifecycle σ)

/-! ## Steps -/

/-- A request that is a guest in a transaction never raises. -/
theorem reveals_executeInTransaction (k : Compiler) (r : Request) (id : String)
    (session : Session σ) :
    session.Reveals l.database
      (Execution.executeInTransaction l.database k r id session).1.bare
      (Execution.executeInTransaction l.database k r id session).2 := by
  obtain ⟨transcript, talk, sends, -⟩ :=
    Execution.converses_executeInTransaction l.database k r id session
  refine Reveals.of_statements talk (fun x hx => (sends x hx).isStatement) fun f hf => ?_
  rw [Execution.executeInTransaction] at hf
  split at hf
  · cases hf
  · split at hf <;> cases hf

theorem reveals_executeStep (useSavepoint : Bool) (vars : Bag) (r : Request) (id : String)
    (session : Session σ) :
    session.Reveals l.database (l.executeStep useSavepoint vars r id session).1.bare
      (l.executeStep useSavepoint vars r id session).2 := by
  have guest := l.reveals_executeInTransaction { l.compiler with vars } r id
  unfold executeStep
  cases useSavepoint with
  | false => exact guest session
  | true =>
      have saved := Reveals.perform l.database session .savepoint trivial
      dsimp only
      rw [if_pos rfl]
      rcases hsave : session.perform l.database .savepoint with ⟨ending, opened⟩
      rw [hsave] at saved
      cases ending with
      | raised f => exact saved
      | hung => exact saved
      | returned _ =>
          have reached := saved.trans (guest opened)
          dsimp only
          rcases hrun : Execution.executeInTransaction l.database { l.compiler with vars } r id
            opened with ⟨ending, ended⟩
          rw [hrun] at reached
          cases ending with
          | raised f => exact reached
          | hung => exact reached
          | returned response =>
              have closed := Reveals.perform l.database ended (Execution.closing response.success)
                (by cases response.success <;> trivial)
              rw [Execution.closing] at closed
              dsimp only
              rcases hclose : ended.perform l.database
                (if response.success then .release else .rollbackTo) with ⟨ending, final⟩
              rw [hclose] at closed
              cases ending with
              | raised f => exact reached.trans closed
              | hung => exact reached.trans closed
              | returned _ => exact reached.trans closed

theorem reveals_carryOut (useSavepoint execute : Bool) (p : Prepared) (state : RunState σ) :
    state.session.Reveals l.database (l.carryOut useSavepoint execute p state).1.bare
      (l.carryOut useSavepoint execute p state).2.session := by
  have quiet : state.session.Reveals l.database (.returned ()) state.session :=
    Reveals.quiet state.session (fun f hf => nomatch hf)
  unfold carryOut
  split
  · rename_i r herror hrequest
    split
    · have run := l.reveals_executeStep useSavepoint state.interpreter.vars r
        (l.ids.ofRequest r state.interpreter.issued).1 state.session
      dsimp only
      rcases hrun : l.executeStep useSavepoint state.interpreter.vars r
        (l.ids.ofRequest r state.interpreter.issued).1 state.session with ⟨ending, session⟩
      rw [hrun] at run
      cases ending with
      | returned response => exact run
      | raised f => exact run
      | hung => exact run
    · exact quiet
  · exact quiet

/-- Judging a step raises where it cannot be judged, and nowhere else. -/
theorem unjudged_of_judge {place : StepPlace} {includeTrace : Bool} {p : Prepared}
    {s : LifecycleStep} {response : Option Response} {state : RunState σ} {f : Fault}
    (h : (l.judge place includeTrace p s response state).1.bare = .raised f) : f.Unjudged := by
  unfold judge at h
  split at h
  · cases h
    exact .unwritable _
  · dsimp only at h
    split at h
    · cases h
      exact .obstacle _
    · cases h
      exact .obstacle _
    · cases h

theorem reveals_runStep (options : LifecycleOptions) (place : StepPlace) (s : LifecycleStep)
    (state : RunState σ) :
    state.session.Reveals l.database (l.runStep options place s state).1.bare
      (l.runStep options place s state).2.session := by
  rw [runStep]
  rcases Prepared.step l.ids l.translator state.defaultScope s state.interpreter with
    ⟨p, interpreter⟩
  have run := l.reveals_carryOut options.stepSavepoints s.execute p { state with interpreter }
  dsimp only
  rcases hrun : l.carryOut options.stepSavepoints s.execute p { state with interpreter } with
    ⟨ending, later⟩
  rw [hrun] at run
  cases ending with
  | raised f => exact run
  | hung => exact run
  | returned response =>
      obtain ⟨quiet, -, -⟩ := l.judge_quiet place options.includeStepTrace p s response later
      have judged : later.session.Reveals l.database
          (l.judge place options.includeStepTrace p s response later).1.bare later.session :=
        Reveals.quiet later.session fun f hf => l.unjudged_of_judge hf
      dsimp only
      rw [quiet]
      exact run.trans judged

/-! ## Phases -/

section Talks

variable {Talks : Session σ → Ending Unit → Session σ → Prop}
  (refl : ∀ s, Talks s (.returned ()) s)
  (trans : ∀ {s s' s'' ending}, Talks s (.returned ()) s' → Talks s' ending s'' →
    Talks s ending s'')
include refl trans

/-- What holds of every step, and of talks one after another, holds of the steps of a phase. -/
theorem talks_runSteps {request : LifecycleRequest}
    (step : ∀ place s state, Talks state.session (l.runStep request.options place s state).1.bare
      (l.runStep request.options place s state).2.session)
    (phase : LifecyclePhase) (phaseId : String) (index : Nat) (steps : List LifecycleStep)
    (tally : Tally) (state : RunState σ) :
    Talks state.session (l.runSteps request phase phaseId index steps tally state).1.bare
      (l.runSteps request phase phaseId index steps tally state).2.session := by
  induction steps generalizing index tally state with
  | nil => exact refl state.session
  | cons s rest ih =>
      have first := step (place phaseId phase index s) s state
      rw [runSteps]
      rcases hstep : l.runStep request.options (place phaseId phase index s) s state with
        ⟨ending, later⟩
      rw [hstep] at first
      cases ending with
      | raised f => exact first
      | hung => exact first
      | returned r =>
          have others (tally : Tally) := trans first (ih (index + 1) tally (record r later))
          dsimp only
          split
          · exact others _
          · split
            · exact first
            · split
              · exact first
              · exact others _

/-- What holds of every step, and of talks one after another, holds of phases. -/
theorem talks_runPhases {request : LifecycleRequest}
    (step : ∀ place s state, Talks state.session (l.runStep request.options place s state).1.bare
      (l.runStep request.options place s state).2.session)
    (index : Nat) (phases : List LifecyclePhase) (state : RunState σ) :
    Talks state.session (l.runPhases request index phases state).1
      (l.runPhases request index phases state).2.session := by
  induction phases generalizing index state with
  | nil => exact refl state.session
  | cons phase rest ih =>
      let phaseId := phase.id.getD ("phase-" ++ toString (index + 1))
      have first := l.talks_runSteps refl trans step phase phaseId 0 phase.steps ⟨0, 0, false⟩ state
      rw [runPhases]
      dsimp only
      rcases hsteps : l.runSteps request phase phaseId 0 phase.steps ⟨0, 0, false⟩ state with
        ⟨ending, later⟩
      rw [hsteps] at first
      cases ending with
      | raised f => exact first
      | hung => exact first
      | returned tally =>
          have others := trans first (ih (index + 1) (summarise phaseId phase tally later))
          dsimp only
          split
          · exact first
          · exact others

end Talks

theorem reveals_runPhases (request : LifecycleRequest) (index : Nat)
    (phases : List LifecyclePhase) (state : RunState σ) :
    state.session.Reveals l.database (l.runPhases request index phases state).1
      (l.runPhases request index phases state).2.session :=
  l.talks_runPhases (fun s => Reveals.quiet s fun _ hf => nomatch hf) Reveals.trans
    (l.reveals_runStep request.options) index phases state

/-! ## The transaction -/

variable {l} {request : LifecycleRequest}

/-- A run whose phases are broken off reports why, whatever comes of undoing its transaction and of
closing its connection. -/
theorem exchanges_of_brokenOff {session : Session σ} {state after : RunState σ} {message : String}
    {result : LifecycleResult} (h : l.begun? request session = some state)
    (hloop : l.runLoop request state = (.brokenOff message, after))
    (hresult : (l.complete request session).1 = .returned result) :
    result.fatalError = some message ∧ ∃ reply reply', after.session.Exchanges l.database
      [(.rollback, reply), (.close, reply')] (l.complete request session).2.session := by
  obtain ⟨seeded, connected, c, b, hseed, hconnect, hbegin, hstate, -⟩ := of_begun? h
  obtain ⟨reply, later, hundo, undone⟩ := l.exchanges_abandon message after
  have transaction : l.runTransaction request { seeded with session := connected } =
      (reply.regardless (.brokeDown message), { after with session := later }) := by
    rw [runTransaction, hbegin]
    dsimp only
    rw [← hstate, hloop]
    exact hundo
  obtain ⟨done, reply', hdone, closes, hclosed⟩ :=
    exchanges_of_transacted hseed hconnect transaction hresult
  obtain ⟨-, rfl⟩ := Reply.regardless_eq_returned.mp hdone
  refine ⟨?_, reply, reply', undone.trans closes⟩
  cases reply' with
  | silent => cases hclosed
  | done r => cases hclosed; rfl
  | failed f => cases hclosed; rfl

/-! ## Causes -/

/-- What a fatal error has been caused by, and how it is told. -/
inductive Cause (timeoutMs : Option Int) (transcript : Transcript) : String → Prop
  /-- The variables of the run could not be seeded. -/
  | unseeded (e : Template.Failure) :
      Cause timeoutMs transcript ("Failed to seed run variables: " ++ e.message)
  /-- The transaction could not be opened or finished, or its connection could not be closed. -/
  | outside {f : Fault} (e : Event) (he : ¬ e.IsGuest) (h : (e, .failed f) ∈ transcript) :
      Cause timeoutMs transcript (fatalText f)
  /-- The deadline is too far away to be waited for. -/
  | unreachable (h : isReachable timeoutMs = false) :
      Cause timeoutMs transcript unreachableDeadlineText
  /-- The deadline has passed. -/
  | overran (h : transcript.Overran timeoutMs) :
      Cause timeoutMs transcript (deadlineText timeoutMs)
  /-- There was a fault around the statements of a step. -/
  | bracket {f : Fault} (e : Event) (he : e.IsBracket) (h : (e, .failed f) ∈ transcript) :
      Cause timeoutMs transcript (phaseFaultText timeoutMs f)
  /-- A step could not be judged. -/
  | unjudged {f : Fault} (h : f.Unjudged) : Cause timeoutMs transcript (fatalText f)

/-- What a run that has come back reports as fatal: a cause, and the one that broke off its phases
if there is one. -/
structure Explains (timeoutMs : Option Int) (transcript : Transcript) (fatal : Option String) :
    Prop where
  caused : ∀ text, fatal = some text → Cause timeoutMs transcript text
  overran : transcript.Overran timeoutMs → fatal = some (deadlineText timeoutMs)
  bracket : ∀ e f, e.IsBracket → (e, .failed f) ∈ transcript →
    fatal = some (phaseFaultText timeoutMs f)

/-- Where nothing was sent for a step, what is fatal has happened outside of the phases. -/
theorem Explains.of_outside {timeoutMs : Option Int} {transcript : Transcript}
    {fatal : Option String} (houtside : ∀ x ∈ transcript, ¬ x.1.IsGuest)
    (h : ∀ text, fatal = some text → Cause timeoutMs transcript text) :
    Explains timeoutMs transcript fatal where
  caused := h
  overran := by
    rintro ⟨-, e, he, hmem⟩
    exact absurd he (houtside _ hmem)
  bracket e f he hmem := absurd he.isGuest (houtside _ hmem)

/-- A run whose phases have not started reports what kept it from starting them. -/
theorem explains_of_unbegun {session : Session σ} {transcript : Transcript}
    {result : LifecycleResult}
    (h : l.Completed request session transcript (.returned result))
    (hbegun : l.begun? request session = none) :
    Explains request.options.timeoutMs transcript result.fatalError := by
  generalize hending : Ending.returned result = ending at h
  cases h with
  | unseeded h =>
      cases hending
      refine Explains.of_outside (fun _ hx => nomatch hx) fun text htext => ?_
      cases htext
      exact .unseeded _
  | unconnected h hconnect =>
      cases hending
      refine Explains.of_outside (fun x hx => ?_) fun text htext => ?_
      · cases List.mem_singleton.mp hx
        exact not_false
      · cases htext
        exact .outside .connect not_false (List.mem_singleton_self _)
  | unanswered => cases hending
  | stuck => cases hending
  | @closed seeded after connected c sent done reply h hconnect hsent =>
      generalize hdone : Ending.returned done = ending at hsent
      cases hsent with
      | @unbegun f later hbegin =>
          cases hdone
          refine Explains.of_outside (fun x hx => ?_) fun text htext => ?_
          · simp only [List.singleton_append, List.mem_cons, List.not_mem_nil, or_false] at hx
            rcases hx with rfl | rfl | rfl <;> exact not_false
          · -- the fault of closing the connection replaces that of beginning the transaction
            cases reply with
            | silent => cases hending
            | done r =>
                cases hending
                cases htext
                exact .outside .begin not_false (by simp)
            | failed g =>
                cases hending
                cases htext
                exact .outside .close not_false (by simp)
      | unanswered => cases hdone
      | stuck => cases hdone
      | abandoned hbegin => simp [begun?, h, hconnect, hbegin] at hbegun
      | concluded hbegin => simp [begun?, h, hconnect, hbegin] at hbegun

/-- What the phases of a run are broken off by, if they are. -/
def LoopEnd.fatal? : LoopEnd → Option String
  | .brokenOff message => some message
  | _ => none

/-- Phases report why they are broken off. -/
theorem explains_of_runLoop {state after : RunState σ} {outcome : LoopEnd}
    (h : l.runLoop request state = (outcome, after)) (hwaiting : outcome ≠ .waiting) :
    ∃ sent, state.session.Exchanges l.database sent after.session ∧
      Explains request.options.timeoutMs sent outcome.fatal? := by
  obtain ⟨sent, talk, blames⟩ := l.reveals_runPhases request 0 request.phases state
  obtain ⟨other, talk', served, hung_iff⟩ := l.converses_runPhases request 0 request.phases state
  obtain rfl := talk.unique talk'
  have guests : ∀ x ∈ sent, x.1.IsGuest := by
    intro x hx
    obtain ⟨phase, -, s, -, serves⟩ := served x hx
    exact serves.isGuest
  unfold runLoop at h
  dsimp only at h
  split at h
  · rename_i hreachable
    obtain ⟨rfl, rfl⟩ := Prod.mk.inj h
    refine ⟨[], .nil _, Explains.of_outside (fun _ hx => nomatch hx) ?_⟩
    intro text htext
    cases htext
    exact .unreachable (by simpa using hreachable)
  · refine ⟨sent, ?_⟩
    rcases hphases : l.runPhases request 0 request.phases state with ⟨ending, later⟩
    rw [hphases] at h talk blames hung_iff
    cases ending with
    | returned _ =>
        obtain ⟨rfl, rfl⟩ := Prod.mk.inj h
        refine ⟨talk, (fun text htext => nomatch htext), ?_, ?_⟩
        · rintro ⟨-, e, -, hmem⟩
          cases hung_iff.mpr ⟨e, hmem⟩
        · intro e f he hmem
          cases blames.raised e f he hmem
    | raised f =>
        obtain ⟨rfl, rfl⟩ := Prod.mk.inj h
        refine ⟨talk, ?_, ?_, ?_⟩
        · intro text htext
          cases htext
          rcases blames.cause f rfl with ⟨e, he, hmem⟩ | unjudged
          · exact .bracket e he hmem
          · cases unjudged with
            | obstacle o => exact .unjudged (.obstacle o)
            | unwritable u => exact .unjudged (.unwritable u)
        · rintro ⟨-, e, -, hmem⟩
          cases hung_iff.mpr ⟨e, hmem⟩
        · intro e g he hmem
          cases blames.raised e g he hmem
          rfl
    | hung =>
        obtain ⟨houtcome, rfl⟩ := Prod.mk.inj h
        split at houtcome
        · rename_i htimeout
          subst houtcome
          obtain ⟨e, hmem⟩ := hung_iff.mp rfl
          have overran : sent.Overran request.options.timeoutMs :=
            ⟨htimeout, e, guests _ hmem, hmem⟩
          refine ⟨talk, ?_, fun _ => rfl, ?_⟩
          · intro text htext
            cases htext
            exact .overran overran
          · intro e f he hmem
            cases blames.raised e f he hmem
        · exact absurd houtcome.symm hwaiting

theorem Cause.mono {timeoutMs : Option Int} {transcript wider : Transcript} {text : String}
    (h : Cause timeoutMs transcript text) (hwider : transcript ⊆ wider) :
    Cause timeoutMs wider text := by
  cases h with
  | unseeded e => exact .unseeded e
  | outside e he hmem => exact .outside e he (hwider hmem)
  | unreachable h => exact .unreachable h
  | overran h =>
      obtain ⟨htimeout, e, he, hmem⟩ := h
      exact .overran ⟨htimeout, e, he, hwider hmem⟩
  | bracket e he hmem => exact .bracket e he (hwider hmem)
  | unjudged h => exact .unjudged h

/-- What phases report is what the run reports, which has something to add only where the phases
were not broken off. -/
theorem Explains.around {timeoutMs : Option Int} {before sent later : Transcript}
    {inner outer : Option String} (h : Explains timeoutMs sent inner)
    (hbefore : ∀ x ∈ before, ¬ x.1.IsGuest) (hlater : ∀ x ∈ later, ¬ x.1.IsGuest)
    (hinner : ∀ text, inner = some text → outer = some text)
    (houter : inner = none → ∀ text, outer = some text → Cause timeoutMs later text) :
    Explains timeoutMs (before ++ (sent ++ later)) outer := by
  have within {e : Event} {reply : Reply} (he : e.IsGuest)
      (hmem : (e, reply) ∈ before ++ (sent ++ later)) : (e, reply) ∈ sent := by
    rcases List.mem_append.mp hmem with hmem | hmem
    · exact absurd he (hbefore _ hmem)
    · exact (List.mem_append.mp hmem).resolve_right fun hmem => hlater _ hmem he
  have sent_subset : sent ⊆ before ++ (sent ++ later) :=
    List.Subset.trans (List.subset_append_left sent later) (List.subset_append_right before _)
  have later_subset : later ⊆ before ++ (sent ++ later) :=
    List.Subset.trans (List.subset_append_right sent later) (List.subset_append_right before _)
  refine ⟨fun text htext => ?_, ?_, fun e f he hmem => ?_⟩
  · cases inner with
    | none => exact (houter rfl text htext).mono later_subset
    | some message =>
        obtain rfl := Option.some.inj ((hinner message rfl).symm.trans htext)
        exact (h.caused message rfl).mono sent_subset
  · rintro ⟨htimeout, e, he, hmem⟩
    exact hinner _ (h.overran ⟨htimeout, e, he, within he hmem⟩)
  · exact hinner _ (h.bracket e f he (within he.isGuest hmem))

/-- A run whose phases have started reports what broke them off, and otherwise what kept it from
finishing. -/
theorem explains_of_begun {session : Session σ} {state : RunState σ} {transcript : Transcript}
    {result : LifecycleResult} (h : l.begun? request session = some state)
    (htalk : session.Exchanges l.database transcript (l.complete request session).2.session)
    (hresult : (l.complete request session).1 = .returned result) :
    Explains request.options.timeoutMs transcript result.fatalError := by
  obtain ⟨seeded, connected, c, b, hseed, hconnect, hbegin, hstate, opened⟩ := of_begun? h
  have opening : ∀ x ∈ [(Event.connect, Reply.done c), (.begin, .done b)], ¬ x.1.IsGuest := by
    simp [Event.IsGuest]
  rcases hloop : l.runLoop request state with ⟨outcome, after⟩
  cases outcome with
  | waiting =>
      have transaction : l.runTransaction request { seeded with session := connected } =
          (.hung, { after with session := after.session }) := by
        rw [runTransaction, hbegin]
        dsimp only
        rw [← hstate, hloop]
      obtain ⟨done, reply, hdone, -⟩ :=
        exchanges_of_transacted hseed hconnect transaction hresult
      cases hdone
  | brokenOff message =>
      obtain ⟨sent, talk, reports⟩ := explains_of_runLoop hloop (by simp)
      obtain ⟨hfatal, reply, reply', closes⟩ := exchanges_of_brokenOff h hloop hresult
      obtain rfl := htalk.unique (opened.trans (talk.trans closes))
      exact reports.around opening (by simp [Event.IsGuest]) (fun text htext => hfatal.trans htext)
        (by simp [LoopEnd.fatal?])
  | ended =>
      obtain ⟨sent, talk, reports⟩ := explains_of_runLoop hloop (by simp)
      obtain ⟨reply, reply', closes, -, -, hfatal⟩ := exchanges_of_concluded h hloop hresult
      obtain rfl := htalk.unique (opened.trans (talk.trans closes))
      have closing : ∀ x ∈ [(finishing request after.steps, reply), (.close, reply')],
          ¬ x.1.IsGuest := by
        rintro x hx
        rcases List.mem_cons.mp hx with rfl | hx
        · exact not_isGuest_finishing after.steps
        · cases List.mem_singleton.mp hx
          exact not_false
      refine reports.around opening closing (by simp [LoopEnd.fatal?]) fun _ text htext => ?_
      rw [hfatal] at htext
      cases reply' with
      | failed f =>
          cases htext
          exact .outside .close not_false (by simp)
      | _ =>
          cases reply with
          | failed f =>
              cases htext
              exact .outside _ (not_isGuest_finishing after.steps) List.mem_cons_self
          | _ => cases htext

/-- Every run comes back unless it waits for a reply that no deadline covers, and reports the cause
that broke off its phases, or else what kept it from starting or finishing them. -/
theorem explains_of_complete (l : Lifecycle σ) (request : LifecycleRequest) (session : Session σ) :
    ∃ transcript,
      session.Exchanges l.database transcript (l.complete request session).2.session ∧
      ((l.complete request session).1 = .hung ↔ transcript.Stalls request.options.timeoutMs) ∧
      ((l.complete request session).1 = .hung ∨
        ∃ result, (l.complete request session).1 = .returned result ∧
          Explains request.options.timeoutMs transcript result.fatalError) := by
  obtain ⟨transcript, talk, completed⟩ := l.completed_complete request session
  refine ⟨transcript, talk, completed.hung_iff, ?_⟩
  cases hending : (l.complete request session).1 with
  | hung => exact .inl rfl
  | raised f => exact absurd hending (completed.ne_raised f)
  | returned result =>
      refine .inr ⟨result, rfl, ?_⟩
      cases hbegun : l.begun? request session with
      | none => exact explains_of_unbegun (hending ▸ completed) hbegun
      | some state => exact explains_of_begun hbegun talk hending

end Lifecycle

end Tenancy
