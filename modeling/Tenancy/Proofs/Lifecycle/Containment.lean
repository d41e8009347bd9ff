/-
# A run persists its successful steps

Where every step has a savepoint of its own, a step that fails does no harm to the others. The log of
a run without a fatal error consists of one bracket for each step that is carried out, between what
opens its transaction and what finishes it. So what a committed run leaves behind is what the steps
do whose responses are successes, each of them completely, and nothing else. Whether a step passes
its checks plays no part in this: what counts is its response.
-/

import Tenancy.Execution.Scripted
import Tenancy.Proofs.Execution.Faults
import Tenancy.Proofs.Lifecycle.Outcome
import Tenancy.Proofs.Lifecycle.Visits
import Tenancy.Proofs.Statement.Compiles
import Tenancy.Translation.Prebuilt

namespace Tenancy.Lifecycle

open Session

variable {σ : Type} {l : Lifecycle σ} {request : LifecycleRequest}

/-! ## The conversation around the phases -/

/-- A run whose phases have started is connected and has begun its transaction. -/
theorem of_begun? {session : Session σ} {state : RunState σ}
    (h : l.begun? request session = some state) :
    ∃ seeded connected c b,
      l.seed request (l.initial session) = (.ok (), seeded) ∧
      seeded.session.perform l.database .connect = (.returned (), connected) ∧
      connected.perform l.database .begin = (.returned (), state.session) ∧
      state = { seeded with session := state.session } ∧
      session.Exchanges l.database [(.connect, .done c), (.begin, .done b)] state.session := by
  have start := l.session_seed request (l.initial session)
  unfold begun? at h
  rcases hseed : l.seed request (l.initial session) with ⟨outcome, seeded⟩
  rw [hseed] at h start
  cases outcome with
  | error e => cases h
  | ok _ =>
      obtain ⟨reply, connected, hconnect, opened⟩ :=
        exchanges_perform l.database seeded.session .connect
      obtain ⟨reply', begun, hbegin, began⟩ := exchanges_perform l.database connected .begin
      dsimp only at h
      rw [hconnect] at h
      cases reply with
      | failed f => cases h
      | silent => cases h
      | done c =>
          dsimp only [Reply.ending] at h
          rw [hbegin] at h
          cases reply' with
          | failed f => cases h
          | silent => cases h
          | done b =>
              cases h
              have same : seeded.session = session := start
              exact ⟨seeded, connected, c, b, rfl, hconnect, hbegin, rfl,
                (same ▸ opened).trans began⟩

/-- Phases within their deadline that come to their end are all phases of the run. -/
theorem runPhases_of_runLoop {state after : RunState σ}
    (h : l.runLoop request state = (.ended, after)) :
    l.runPhases request 0 request.phases state = (.returned (), after) := by
  unfold runLoop at h
  dsimp only at h
  split at h
  · cases h
  · split at h
    · rename_i hphases
      cases h
      exact hphases
    · cases h
    · obtain ⟨houtcome, -⟩ := Prod.mk.inj h
      split at houtcome <;> cases houtcome

/-- A run whose transaction is over closes its connection and reports what came of both. -/
theorem exchanges_of_transacted {session connected later : Session σ} {seeded after : RunState σ}
    {ending : Ending RunEnd} {result : LifecycleResult}
    (hseed : l.seed request (l.initial session) = (.ok (), seeded))
    (hconnect : seeded.session.perform l.database .connect = (.returned (), connected))
    (hrun : l.runTransaction request { seeded with session := connected } =
      (ending, { after with session := later }))
    (hresult : (l.complete request session).1 = .returned result) :
    ∃ done reply, ending = .returned done ∧
      later.Exchanges l.database [(.close, reply)] (l.complete request session).2.session ∧
      l.closed request after done reply = .returned result := by
  obtain ⟨reply, final, hclose, closes⟩ := exchanges_perform l.database later .close
  unfold complete at hresult ⊢
  rw [hseed] at hresult ⊢
  dsimp only at hresult ⊢
  rw [runConnected, hconnect] at hresult ⊢
  dsimp only at hresult ⊢
  rw [hrun] at hresult ⊢
  cases ending with
  | raised f => cases hresult
  | hung => cases hresult
  | returned done =>
      refine ⟨done, reply, rfl, ?_⟩
      dsimp only at hresult ⊢
      rw [hclose] at hresult ⊢
      cases reply with
      | silent => cases hresult
      | done r => exact ⟨closes, hresult⟩
      | failed f => exact ⟨closes, hresult⟩

/-- A run whose phases came to their end reports the fault of closing its connection, or else that
of finishing its transaction. -/
theorem exchanges_of_concluded {session : Session σ} {state after : RunState σ}
    {result : LifecycleResult} (h : l.begun? request session = some state)
    (hloop : l.runLoop request state = (.ended, after))
    (hresult : (l.complete request session).1 = .returned result) :
    ∃ reply reply', after.session.Exchanges l.database
        [(finishing request after.steps, reply), (.close, reply')]
        (l.complete request session).2.session ∧
      reply ≠ .silent ∧ reply' ≠ .silent ∧
      result.fatalError = (reply'.fault?.or reply.fault?).map fatalText := by
  obtain ⟨seeded, connected, c, b, hseed, hconnect, hbegin, hstate, -⟩ := of_begun? h
  obtain ⟨reply, later, hfinish, last⟩ := l.exchanges_conclude request after
  have transaction : l.runTransaction request { seeded with session := connected } =
      (concluded request after.steps reply, { after with session := later }) := by
    rw [runTransaction, hbegin]
    dsimp only
    rw [← hstate, hloop]
    exact hfinish
  obtain ⟨done, reply', hdone, closes, hclosed⟩ :=
    exchanges_of_transacted hseed hconnect transaction hresult
  have answered : reply ≠ .silent := by
    rintro rfl
    cases hdone
  have answered' : reply' ≠ .silent := by
    rintro rfl
    cases hclosed
  refine ⟨reply, reply', last.trans closes, answered, answered', ?_⟩
  cases reply with
  | silent => exact absurd rfl answered
  | failed f =>
      cases hdone
      cases reply' with
      | silent => exact absurd rfl answered'
      | done r => cases hclosed; rfl
      | failed g => cases hclosed; rfl
  | done r =>
      cases hdone
      cases reply' with
      | silent => exact absurd rfl answered'
      | done r' => cases hclosed; exact fatal?_finished after.steps
      | failed g =>
          cases hclosed
          rw [fatalError_report, closeFailed_finished]
          rfl

/-- A run without a fatal error finishes its transaction and closes its connection when its phases
are over. -/
theorem exchanges_of_ended {session : Session σ} {state after : RunState σ}
    (h : l.begun? request session = some state)
    (hloop : l.runLoop request state = (.ended, after)) {result : LifecycleResult}
    (hresult : (l.complete request session).1 = .returned result)
    (hfatal : result.fatalError = none) :
    ∃ d e, after.session.Exchanges l.database
      [(finishing request after.steps, .done d), (.close, .done e)]
      (l.complete request session).2.session := by
  obtain ⟨reply, reply', closes, answered, answered', told⟩ :=
    exchanges_of_concluded h hloop hresult
  rw [hfatal] at told
  cases reply with
  | silent => exact absurd rfl answered
  | failed f => cases reply' <;> cases told
  | done d =>
      cases reply' with
      | silent => exact absurd rfl answered'
      | failed f => cases told
      | done e => exact ⟨d, e, closes⟩

/-- Only a run whose phases came to their end has no fatal error, and its status says how its
transaction was finished. -/
theorem Protocol.of_not_fatal {session : Session σ} {transcript : Transcript}
    {result : LifecycleResult} (h : l.Protocol request session transcript result)
    (hfatal : result.fatalError = none) :
    ∃ state after, l.begun? request session = some state ∧
      l.runLoop request state = (.ended, after) ∧ result.steps = after.steps ∧
      finishing request after.steps = if result.persisted then .commit else .rollback := by
  cases h with
  | @finished state after _ _ _ _ _ hbegun hloop =>
      refine ⟨state, after, hbegun, hloop, rfl, ?_⟩
      rw [LifecycleResult.persisted, status_report_none, status_finished, finishing]
      cases isUndone request after.steps <;> rfl
  | _ => cases hfatal

/-- Seeding the variables of a run records nothing. -/
theorem ledger_seed (l : Lifecycle σ) (request : LifecycleRequest) (state : RunState σ) :
    (l.seed request state).2.ledger = state.ledger := by
  unfold seed
  split
  · rfl
  · dsimp only
    split <;> rfl

/-- The phases of a run start with what seeding its variables has left. -/
theorem seeded_of_begun? {session : Session σ} {state : RunState σ}
    (h : l.begun? request session = some state) :
    state.ledger = (l.initial session).ledger ∧
      state.interpreter = (l.seed request (l.initial session)).2.interpreter := by
  obtain ⟨seeded, connected, c, b, hseed, -, -, hstate, -⟩ := of_begun? h
  have start := l.ledger_seed request (l.initial session)
  rw [hseed] at start ⊢
  rw [hstate]
  exact ⟨start, rfl⟩

theorem steps_of_begun? {session : Session σ} {state : RunState σ}
    (h : l.begun? request session = some state) : state.steps = [] :=
  congrArg Prod.fst (seeded_of_begun? h).1

/-! ## The run -/

/-- What a run says that has a savepoint for every step and no fatal error, and how that fits what
it visits and reports. -/
structure Contains (l : Lifecycle σ) (request : LifecycleRequest) (session : Session σ)
    (visits : List Visit) (transcript : Transcript) (result : LifecycleResult) : Prop where
  /-- The visits are those of the phases of the run. -/
  visited : ∃ state after, l.begun? request session = some state ∧
    l.runLoop request state = (.ended, after) ∧ l.Visits request.options state visits after
  /-- They keep to the order of the steps. -/
  ordered : (visits.map Visit.step).Sublist (request.phases.flatMap LifecyclePhase.steps)
  reported : visits.map Visit.result = result.steps
  responses : request.options.includeStepTrace = true →
    ∀ v ∈ visits, v.result.response = v.response
  /-- A step has a response where it was carried out, and nowhere else. -/
  carried : ∀ v ∈ visits, v.response.isSome = v.reached
  /-- One bracket for each step that is carried out, between the events of the transaction. -/
  said : ∃ c b d e, ∃ brackets : List Transcript,
    List.Forall₂ (fun v bracket => v.Brackets l.compiler bracket) (visits.filter Visit.reached)
      brackets ∧
    transcript = (.connect, .done c) :: (.begin, .done b) :: (brackets.flatten ++
      [(if result.persisted then .commit else .rollback, .done d), (.close, .done e)])

/-- What a run leaves behind with savepoints. -/
theorem Contains.plays {session : Session σ} {visits : List Visit} {transcript : Transcript}
    {result : LifecycleResult} (h : l.Contains request session visits transcript result)
    {δ : Type} {effect : String → List Value → δ → δ} {s s' : Store δ}
    (hplays : Store.Plays effect s transcript s') :
    s'.published = if result.persisted then
      Store.applyAll effect ((visits.filter Visit.kept).flatMap (Visit.statements l.compiler))
        s.published
      else s.published := by
  obtain ⟨c, b, d, e, brackets, hbrackets, rfl⟩ := h.said
  obtain ⟨mid, hmid, hlast⟩ := hplays.cons_done.cons_done.append
  obtain rfl := hlast.cons_done.one_done
  obtain rfl := plays_of_brackets hbrackets hmid
  have both : (visits.filter Visit.reached).filter Visit.kept = visits.filter Visit.kept := by
    rw [List.filter_filter]
    refine List.filter_congr fun v hv => ?_
    rw [← h.carried v hv, Visit.kept]
    cases v.response with
    | none => rfl
    | some response => simp
  cases result.persisted with
  | false => rfl
  | true =>
      rw [both]
      rfl

/-- Every run with a savepoint for each step that ends without a fatal error says nothing but a
bracket for each step that is carried out, kept or undone as the response of the step says, inside
one transaction. If it is committed, what everybody sees afterwards is what was there before, with
the statements of the steps applied to it whose responses are successes, completely and in the order
of the steps; otherwise it is what was there before. -/
theorem committed_run_persists_successful_steps (l : Lifecycle σ) (request : LifecycleRequest)
    (session : Session σ) (hsave : request.options.stepSavepoints = true)
    {result : LifecycleResult} (hresult : (l.run request session).1 = .returned result)
    (hfatal : result.fatalError = none) :
    ∃ transcript later vars visits,
      session.Exchanges l.database transcript later ∧
      (l.run request session).2 = later.settled vars ∧
      l.Contains request session visits transcript result ∧
      ∀ (δ : Type) (effect : String → List Value → δ → δ) (s s' : Store δ),
        Store.Plays effect s transcript s' →
        s'.published = if result.persisted then
          Store.applyAll effect ((visits.filter Visit.kept).flatMap (Visit.statements l.compiler))
            s.published
          else s.published := by
  obtain ⟨_, -, completed⟩ := l.completed_complete request session
  have hcomplete : (l.complete request session).1 = .returned result := hresult
  rw [hcomplete] at completed
  obtain ⟨state, after, hbegun, hloop, hsteps, hfinishing⟩ :=
    completed.protocol.of_not_fatal hfatal
  obtain ⟨seeded, connected, c, b, -, -, -, -, opened⟩ := of_begun? hbegun
  obtain ⟨visits, hvisits, hordered⟩ := visits_of_runPhases (runPhases_of_runLoop hloop)
  obtain ⟨brackets, talk, hbrackets⟩ := hvisits.brackets hsave
  obtain ⟨d, e, closed⟩ := exchanges_of_ended hbegun hloop hcomplete hfatal
  have reported := hvisits.steps_eq
  rw [steps_of_begun? hbegun, List.nil_append, ← hsteps] at reported
  rw [hfinishing] at closed
  have contains : l.Contains request session visits
      ((.connect, .done c) :: (.begin, .done b) :: (brackets.flatten ++
        [(if result.persisted then .commit else .rollback, .done d), (.close, .done e)])) result :=
    { visited := ⟨state, after, hbegun, hloop, hvisits⟩
      ordered := hordered
      reported := reported.symm
      responses := hvisits.response_eq
      carried := hvisits.response_isSome hsave
      said := ⟨c, b, d, e, brackets, hbrackets, rfl⟩ }
  exact ⟨_, _, _, visits, opened.trans (talk.trans closed), rfl, contains,
    fun δ effect s s' hplays => contains.plays hplays⟩

/-! ## A run with a failing step -/

/-- A step that adds a location by translating a prompt. -/
def addingPrompt (name : String) : LifecycleStep :=
  { id := none, name, description := none, prompt := some "add a location", request := none
    execute := true, scope := none, expect := none, captures := [], tags := [] }

/-- A run of two prompts that is to last, and reports the responses of its steps. -/
def twoPrompts : LifecycleRequest :=
  { defaults := { dryRun := false, scope := Compiler.demoScope, continueOnFailure := true }
    vars := []
    phases :=
      [{ id := none, name := "locations", description := none, continueOnFailure := true
         steps := [addingPrompt "first", addingPrompt "second"] }]
    options :=
      { rollbackOnFailure := false, includeStepTrace := true, stepSavepoints := true
        timeoutMs := none } }

/-- A database that rejects the first row it is given. -/
def rejectingSession : Session Script :=
  { state :=
      { rules := [⟨"INSERT", some 1, .fail (.database "duplicate key" (some "23505"))⟩]
        failures := [], past := [] }
    log := [] }

/-- The parts of a run whose translator is prepared for the prompt. -/
def addingLifecycle : Lifecycle Script :=
  ⟨Script.database, Compiler.demo, .prebuilt [("add a location", Compiler.demoInsert)], .counting,
    ⟨0⟩⟩

/-- Whether the response of a step is reported as a success. -/
def reportsSuccess (r : StepResult) : Bool :=
  r.response.any Response.success

/-- The run comes back, is committed, and reports that its first step failed. -/
def mends : Ending LifecycleResult → Bool
  | .returned result =>
      result.fatalError.isNone && result.persisted &&
        result.steps.map reportsSuccess == [false, true]
  | _ => false

theorem second_prompt_persists :
    ∃ result, twoPrompts.options.stepSavepoints = true ∧
      (addingLifecycle.run twoPrompts rejectingSession).1 = .returned result ∧
      result.fatalError = none ∧ result.persisted = true ∧
      ∃ transcript later vars, ∃ visits : List Visit,
        rejectingSession.Exchanges Script.database transcript later ∧
        (addingLifecycle.run twoPrompts rejectingSession).2 = later.settled vars ∧
        visits.map Visit.kept = [false, true] ∧
        ∀ (δ : Type) (effect : String → List Value → δ → δ) (s : Store δ),
          ∃ s', Store.Plays effect s transcript s' ∧
            s'.published = Store.applyAll effect
              ((visits.filter Visit.kept).flatMap (Visit.statements Compiler.demo))
              s.published := by
  have mended : mends (addingLifecycle.run twoPrompts rejectingSession).1 = true := by
    decide +kernel
  cases hresult : (addingLifecycle.run twoPrompts rejectingSession).1 with
  | raised f => rw [hresult] at mended; cases mended
  | hung => rw [hresult] at mended; cases mended
  | returned result =>
      rw [hresult] at mended
      simp only [mends, Bool.and_eq_true, beq_iff_eq, Option.isNone_iff_eq_none] at mended
      obtain ⟨⟨hfatal, hpersisted⟩, hsteps⟩ := mended
      obtain ⟨transcript, later, vars, visits, talk, hlog, contains, hplays⟩ :=
        committed_run_persists_successful_steps addingLifecycle twoPrompts rejectingSession rfl
          hresult hfatal
      refine ⟨result, rfl, rfl, hfatal, hpersisted, transcript, later, vars, visits, talk, hlog,
        ?_, ?_⟩
      · rw [← hsteps, ← contains.reported, List.map_map]
        refine List.map_congr_left fun v hv => ?_
        rw [Function.comp_apply, reportsSuccess, contains.responses rfl v hv, Visit.kept]
      · intro δ effect s
        obtain ⟨s', hs'⟩ := Store.Plays.total effect s transcript
        refine ⟨s', hs', ?_⟩
        rw [hplays δ effect s s' hs', if_pos hpersisted]
        rfl

end Tenancy.Lifecycle
