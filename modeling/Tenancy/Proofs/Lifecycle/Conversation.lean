/-
# Conversations of scripted runs

The steps of a run are guests in its transaction: whatever they contain and however they end, they
send savepoints and statements and nothing else, and the statements are those of the request that
was prepared for the step. Around them the run itself opens, finishes and closes the transaction.
This module finds out which conversations a run can have with its database, and what it reports at
the end of each of them. Preparing and judging a step do not reach the database at all.

A deadline covers the phases and nothing else. So the relations here are not only about failures: a
silence ends a run unless it falls into phases that have a deadline.
-/

import Tenancy.Lifecycle.Run
import Tenancy.Proofs.Execution.Events

namespace Tenancy.Lifecycle

open Session

variable {σ : Type} (l : Lifecycle σ)

/-! ## Steps -/

/-- The event belongs to carrying out a request as a guest. -/
def Serves (k : Compiler) (r : Request) (e : Event) : Prop :=
  e.IsBracket ∨ Execution.Sends k r e

/-- A statement that is sent for a step is one of its request. -/
theorem Serves.sends {k : Compiler} {r : Request} {e : Event} (h : Serves k r e)
    (he : e.IsStatement) : Execution.Sends k r e := by
  rcases h with bracket | sends
  · cases e with
    | statement sql params => exact bracket.elim
    | _ => exact he.elim
  · exact sends

/-- The request of a step is carried out as a guest. -/
theorem converses_executeStep (useSavepoint : Bool) (vars : Bag) (r : Request) (id : String)
    (session : Session σ) :
    session.Converses l.database (Serves { l.compiler with vars } r)
      (l.executeStep useSavepoint vars r id session).1.bare
      (l.executeStep useSavepoint vars r id session).2 := by
  have guest (s : Session σ) : s.Converses l.database (Serves { l.compiler with vars } r)
      (Execution.executeInTransaction l.database { l.compiler with vars } r id s).1.bare
      (Execution.executeInTransaction l.database { l.compiler with vars } r id s).2 :=
    (Execution.converses_executeInTransaction l.database _ r id s).mono fun e he => .inr he
  unfold executeStep
  cases useSavepoint with
  | false => exact guest session
  | true =>
      have saved : session.Converses l.database (Serves { l.compiler with vars } r)
          (session.perform l.database .savepoint).1 (session.perform l.database .savepoint).2 :=
        Converses.perform l.database session (.inl trivial)
      dsimp only
      rw [if_pos rfl]
      rcases hsave : session.perform l.database .savepoint with ⟨ending, opened⟩
      rw [hsave] at saved
      cases ending with
      | raised f => exact saved
      | hung => exact saved
      | returned _ =>
          have reached := saved.trans (guest opened)
          dsimp only
          rcases hrun : Execution.executeInTransaction l.database { l.compiler with vars } r id
            opened with ⟨ending, ended⟩
          rw [hrun] at reached
          cases ending with
          | raised f => exact reached
          | hung => exact reached
          | returned response =>
              -- the savepoint is kept or undone, as the response says
              have last : Serves { l.compiler with vars } r
                  (if response.success then .release else .rollbackTo) := by
                cases response.success <;> exact .inl trivial
              have closed := Converses.perform l.database ended last
              dsimp only
              rcases hclose : ended.perform l.database
                (if response.success then .release else .rollbackTo) with ⟨ending, final⟩
              rw [hclose] at closed
              cases ending with
              | raised f => exact reached.trans closed
              | hung => exact reached.trans closed
              | returned _ => exact reached.trans closed

/-- The event belongs to carrying out what was prepared for a step, with the variables as
preparing has left them. -/
def ServesPrepared (prepared : Prepared) (vars : Bag) (e : Event) : Prop :=
  ∃ r, prepared.request = some r ∧ Serves { l.compiler with vars } r e

theorem ServesPrepared.isGuest {prepared : Prepared} {vars : Bag} {e : Event}
    (h : l.ServesPrepared prepared vars e) : e.IsGuest := by
  obtain ⟨r, -, h⟩ := h
  exact Event.isGuest_iff.mpr (h.imp_right Execution.Sends.isStatement)

theorem converses_carryOut (useSavepoint execute : Bool) (p : Prepared) (state : RunState σ) :
    state.session.Converses l.database (l.ServesPrepared p state.interpreter.vars)
      (l.carryOut useSavepoint execute p state).1.bare
      (l.carryOut useSavepoint execute p state).2.session := by
  have silent : state.session.Converses l.database (l.ServesPrepared p state.interpreter.vars)
      (.returned ()) state.session := Converses.refl l.database _ state.session (fun h => nomatch h)
  unfold carryOut
  cases herror : p.error with
  | some e => exact silent
  | none =>
      cases hrequest : p.request with
      | none => exact silent
      | some r =>
          cases execute with
          | false => exact silent
          | true =>
              let id := (l.ids.ofRequest r state.interpreter.issued).1
              have run := (l.converses_executeStep useSavepoint state.interpreter.vars r id
                state.session).mono fun e (he : Serves _ r e) =>
                  (⟨r, hrequest, he⟩ : l.ServesPrepared p state.interpreter.vars e)
              dsimp only
              rw [if_pos rfl]
              rcases hrun : l.executeStep useSavepoint state.interpreter.vars r id
                state.session with ⟨ending, session⟩
              rw [hrun] at run
              cases ending with
              | returned response => exact run
              | raised f => exact run
              | hung => exact run

/-- Judging a step leaves the session and the scope of the run alone and comes to an end. -/
theorem judge_quiet (place : StepPlace) (includeTrace : Bool) (p : Prepared) (s : LifecycleStep)
    (response : Option Response) (state : RunState σ) :
    (l.judge place includeTrace p s response state).2.session = state.session ∧
      (l.judge place includeTrace p s response state).2.defaultScope = state.defaultScope ∧
      (l.judge place includeTrace p s response state).1.bare ≠ .hung := by
  unfold judge
  split
  · exact ⟨rfl, rfl, fun h => nomatch h⟩
  · dsimp only
    split <;> exact ⟨rfl, rfl, fun h => nomatch h⟩

/-- A step sends nothing but what serves the request that was prepared for it. -/
theorem converses_runStep (options : LifecycleOptions) (place : StepPlace) (s : LifecycleStep)
    {state : RunState σ} {p : Prepared} {interpreter : Template.Interpreter}
    (h : Prepared.step l.ids l.translator state.defaultScope s state.interpreter =
      (p, interpreter)) :
    state.session.Converses l.database (l.ServesPrepared p interpreter.vars)
      (l.runStep options place s state).1.bare (l.runStep options place s state).2.session := by
  have run := l.converses_carryOut options.stepSavepoints s.execute p { state with interpreter }
  rw [runStep, h]
  dsimp only
  rcases hrun : l.carryOut options.stepSavepoints s.execute p { state with interpreter } with
    ⟨ending, later⟩
  rw [hrun] at run
  cases ending with
  | raised f => exact run
  | hung => exact run
  | returned response =>
      obtain ⟨quiet, -, ends⟩ := l.judge_quiet place options.includeStepTrace p s response later
      dsimp only
      rw [quiet]
      exact run.recast ⟨fun h => absurd h ends, fun h => nomatch h⟩

/-! ## The scope of a run

It is resolved once, before the first step, and no step changes it. -/

theorem defaultScope_carryOut (useSavepoint execute : Bool) (p : Prepared) (state : RunState σ) :
    (l.carryOut useSavepoint execute p state).2.defaultScope = state.defaultScope := by
  unfold carryOut
  split
  · dsimp only
    split
    · split <;> rfl
    · rfl
  · rfl

theorem defaultScope_runStep (options : LifecycleOptions) (place : StepPlace) (s : LifecycleStep)
    (state : RunState σ) :
    (l.runStep options place s state).2.defaultScope = state.defaultScope := by
  rw [runStep]
  rcases Prepared.step l.ids l.translator state.defaultScope s state.interpreter with
    ⟨p, interpreter⟩
  have kept := l.defaultScope_carryOut options.stepSavepoints s.execute p { state with interpreter }
  dsimp only
  rcases hrun : l.carryOut options.stepSavepoints s.execute p { state with interpreter } with
    ⟨ending, later⟩
  rw [hrun] at kept
  cases ending with
  | raised f => exact kept
  | hung => exact kept
  | returned response =>
      exact (l.judge_quiet place options.includeStepTrace p s response later).2.1.trans kept

theorem defaultScope_runSteps (request : LifecycleRequest) (phase : LifecyclePhase)
    (phaseId : String) (index : Nat) (steps : List LifecycleStep) (tally : Tally)
    (state : RunState σ) :
    (l.runSteps request phase phaseId index steps tally state).2.defaultScope =
      state.defaultScope := by
  induction steps generalizing index tally state with
  | nil => rfl
  | cons s rest ih =>
      have kept := l.defaultScope_runStep request.options (place phaseId phase index s) s state
      rw [runSteps]
      rcases hstep : l.runStep request.options (place phaseId phase index s) s state with
        ⟨ending, later⟩
      rw [hstep] at kept
      cases ending with
      | raised f => exact kept
      | hung => exact kept
      | returned r =>
          dsimp only
          split
          · exact (ih _ _ _).trans kept
          · split
            · exact kept
            · split
              · exact kept
              · exact (ih _ _ _).trans kept

/-! ## Phases -/

/-- The event belongs to carrying out a step, with the scope of the run as given and whatever the
tokens of the step are resolved with. -/
def ServesStep (defaultScope : Named Live) (s : LifecycleStep) (e : Event) : Prop :=
  ∃ before p after, Prepared.step l.ids l.translator defaultScope s before = (p, after) ∧
    l.ServesPrepared p after.vars e

variable {l} in
theorem ServesStep.isGuest {defaultScope : Named Live} {s : LifecycleStep} {e : Event}
    (h : l.ServesStep defaultScope s e) : e.IsGuest := by
  obtain ⟨before, p, after, -, serves⟩ := h
  exact serves.isGuest

theorem converses_runSteps (request : LifecycleRequest) (phase : LifecyclePhase)
    (phaseId : String) (index : Nat) (steps : List LifecycleStep) (tally : Tally)
    (state : RunState σ) :
    state.session.Converses l.database (fun e => ∃ s ∈ steps, l.ServesStep state.defaultScope s e)
      (l.runSteps request phase phaseId index steps tally state).1.bare
      (l.runSteps request phase phaseId index steps tally state).2.session := by
  induction steps generalizing index tally state with
  | nil => exact Converses.refl l.database _ state.session (fun h => nomatch h)
  | cons s rest ih =>
      have scope := l.defaultScope_runStep request.options (place phaseId phase index s) s state
      rcases hprepared : Prepared.step l.ids l.translator state.defaultScope s state.interpreter
        with ⟨p, interpreter⟩
      have first := (l.converses_runStep request.options (place phaseId phase index s) s
        hprepared).mono fun e he =>
          (⟨s, List.mem_cons_self, state.interpreter, p, interpreter, hprepared, he⟩ :
            ∃ s' ∈ s :: rest, l.ServesStep state.defaultScope s' e)
      rw [runSteps]
      rcases hstep : l.runStep request.options (place phaseId phase index s) s state with
        ⟨ending, later⟩
      rw [hstep] at first scope
      cases ending with
      | raised f => exact first
      | hung => exact first
      | returned r =>
          have others (tally : Tally) := (ih (index + 1) tally (record r later)).mono
            fun e (he : ∃ s' ∈ rest, l.ServesStep later.defaultScope s' e) =>
              show ∃ s' ∈ s :: rest, l.ServesStep state.defaultScope s' e by
                obtain ⟨s', hs', he⟩ := he
                exact ⟨s', List.mem_cons_of_mem s hs', scope ▸ he⟩
          dsimp only
          split
          · exact first.trans (others _)
          · split
            · exact first
            · split
              · exact first
              · exact first.trans (others _)

/-- The phases of a run send nothing but what their steps do. -/
theorem converses_runPhases (request : LifecycleRequest) (index : Nat)
    (phases : List LifecyclePhase) (state : RunState σ) :
    state.session.Converses l.database
      (fun e => ∃ phase ∈ phases, ∃ s ∈ phase.steps, l.ServesStep state.defaultScope s e)
      (l.runPhases request index phases state).1
      (l.runPhases request index phases state).2.session := by
  induction phases generalizing index state with
  | nil => exact Converses.refl l.database _ state.session (fun h => nomatch h)
  | cons phase rest ih =>
      let phaseId := phase.id.getD ("phase-" ++ toString (index + 1))
      have scope := l.defaultScope_runSteps request phase phaseId 0 phase.steps ⟨0, 0, false⟩ state
      have first := (l.converses_runSteps request phase phaseId 0 phase.steps ⟨0, 0, false⟩
        state).mono fun e he =>
          (⟨phase, List.mem_cons_self, he⟩ : ∃ phase' ∈ phase :: rest, ∃ s ∈ phase'.steps,
            l.ServesStep state.defaultScope s e)
      rw [runPhases]
      dsimp only
      rcases hsteps : l.runSteps request phase phaseId 0 phase.steps ⟨0, 0, false⟩ state with
        ⟨ending, later⟩
      rw [hsteps] at first scope
      cases ending with
      | raised f => exact first
      | hung => exact first
      | returned tally =>
          have others := (ih (index + 1) (summarise phaseId phase tally later)).mono
            fun e (he : ∃ phase' ∈ rest, ∃ s ∈ phase'.steps,
                l.ServesStep later.defaultScope s e) =>
              show ∃ phase' ∈ phase :: rest, ∃ s ∈ phase'.steps,
                  l.ServesStep state.defaultScope s e by
                obtain ⟨phase', hphase, he⟩ := he
                exact ⟨phase', List.mem_cons_of_mem phase hphase, scope ▸ he⟩
          dsimp only
          split
          · exact first
          · exact first.trans others

/-- What is said in the transaction of a run until its phases are over: its steps talk and nobody
else. Only a silence without a deadline keeps the phases waiting. -/
structure Looped (request : LifecycleRequest) (defaultScope : Named Live) (outcome : LoopEnd)
    (sent : Transcript) : Prop where
  served : ∀ x ∈ sent, ∃ phase ∈ request.phases, ∃ s ∈ phase.steps,
    l.ServesStep defaultScope s x.1
  waiting_iff : outcome = .waiting ↔ sent.Unanswered ∧ request.options.timeoutMs = none

variable {l} in
theorem Looped.guests {request : LifecycleRequest} {defaultScope : Named Live} {outcome : LoopEnd}
    {sent : Transcript} (h : l.Looped request defaultScope outcome sent) :
    ∀ x ∈ sent, x.1.IsGuest := by
  intro x hx
  obtain ⟨phase, -, s, -, serves⟩ := h.served x hx
  exact serves.isGuest

theorem looped_runLoop (request : LifecycleRequest) (state : RunState σ) :
    ∃ sent, state.session.Exchanges l.database sent (l.runLoop request state).2.session ∧
      l.Looped request state.defaultScope (l.runLoop request state).1 sent := by
  obtain ⟨sent, exchanged, served, hung_iff⟩ :=
    l.converses_runPhases request 0 request.phases state
  unfold runLoop
  dsimp only
  split
  · exact ⟨[], .nil _, by simp, by simp⟩
  · rcases hphases : l.runPhases request 0 request.phases state with ⟨ending, later⟩
    rw [hphases] at exchanged hung_iff
    refine ⟨sent, ?_⟩
    cases ending with
    | returned _ => exact ⟨exchanged, served, by simp [← hung_iff]⟩
    | raised f => exact ⟨exchanged, served, by simp [← hung_iff]⟩
    | hung =>
        refine ⟨exchanged, served, ?_⟩
        cases request.options.timeoutMs <;> simp [← hung_iff]

/-! ## The transaction -/

theorem exchanges_abandon (message : String) (state : RunState σ) :
    ∃ reply later,
      l.abandon message state =
        (reply.regardless (.brokeDown message), { state with session := later }) ∧
      state.session.Exchanges l.database [(.rollback, reply)] later := by
  obtain ⟨reply, later, hundo, undone⟩ := exchanges_perform l.database state.session .rollback
  refine ⟨reply, later, ?_, undone⟩
  rw [abandon, hundo]
  cases reply <;> rfl

/-- How a run goes on after the event that finishes its transaction. -/
def concluded (request : LifecycleRequest) (steps : List StepResult) : Reply → Ending RunEnd
  | .done _ => .returned (finished request steps)
  | .failed f => .returned (.interrupted (fatalText f))
  | .silent => .hung

theorem exchanges_conclude (request : LifecycleRequest) (state : RunState σ) :
    ∃ reply later,
      l.conclude request state =
        (concluded request state.steps reply, { state with session := later }) ∧
      state.session.Exchanges l.database [(finishing request state.steps, reply)] later := by
  obtain ⟨reply, later, hfinish, sent⟩ :=
    exchanges_perform l.database state.session (finishing request state.steps)
  refine ⟨reply, later, ?_, sent⟩
  rw [conclude, hfinish]
  cases reply <;> rfl

/-- The conversations of a run on an open connection, each with how its transaction ends and with
the state in which the phases are left. -/
inductive Transacted (request : LifecycleRequest) (state : RunState σ) :
    Transcript → Ending RunEnd → RunState σ → Prop
  | unbegun {f : Fault} {later : Session σ}
      (h : state.session.perform l.database .begin = (.raised f, later)) :
      Transacted request state [(.begin, .failed f)] (.returned (.interrupted (fatalText f))) state
  | unanswered {later : Session σ}
      (h : state.session.perform l.database .begin = (.hung, later)) :
      Transacted request state [(.begin, .silent)] .hung state
  | stuck {b : Rowset} {opened : Session σ} {after : RunState σ} {sent : Transcript}
      (h : state.session.perform l.database .begin = (.returned (), opened))
      (hloop : l.runLoop request { state with session := opened } = (.waiting, after))
      (hsent : l.Looped request state.defaultScope .waiting sent) :
      Transacted request state ((.begin, .done b) :: sent) .hung after
  | abandoned {b : Rowset} {opened : Session σ} {after : RunState σ} {sent : Transcript}
      {message : String} {reply : Reply}
      (h : state.session.perform l.database .begin = (.returned (), opened))
      (hloop : l.runLoop request { state with session := opened } = (.brokenOff message, after))
      (hsent : l.Looped request state.defaultScope (.brokenOff message) sent) :
      Transacted request state ((.begin, .done b) :: (sent ++ [(.rollback, reply)]))
        (reply.regardless (.brokeDown message)) after
  | concluded {b : Rowset} {opened : Session σ} {after : RunState σ} {sent : Transcript}
      {reply : Reply}
      (h : state.session.perform l.database .begin = (.returned (), opened))
      (hloop : l.runLoop request { state with session := opened } = (.ended, after))
      (hsent : l.Looped request state.defaultScope .ended sent) :
      Transacted request state
        ((.begin, .done b) :: (sent ++ [(finishing request after.steps, reply)]))
        (concluded request after.steps reply) after

theorem transacted_runTransaction (request : LifecycleRequest) (state : RunState σ) :
    ∃ transcript after later,
      (l.runTransaction request state).2 = { after with session := later } ∧
      state.session.Exchanges l.database transcript later ∧
      l.Transacted request state transcript (l.runTransaction request state).1 after := by
  obtain ⟨reply, opened, hbegin, begun⟩ := exchanges_perform l.database state.session .begin
  rw [runTransaction, hbegin]
  cases reply with
  | failed f => exact ⟨_, state, opened, rfl, begun, .unbegun hbegin⟩
  | silent => exact ⟨_, state, opened, rfl, begun, .unanswered hbegin⟩
  | done b =>
      obtain ⟨sent, talk, looped⟩ := l.looped_runLoop request { state with session := opened }
      dsimp only [Reply.ending]
      rcases hloop : l.runLoop request { state with session := opened } with ⟨outcome, after⟩
      rw [hloop] at talk looped
      have reached := begun.trans talk
      cases outcome with
      | waiting => exact ⟨_, after, after.session, rfl, reached, .stuck hbegin hloop looped⟩
      | brokenOff message =>
          obtain ⟨reply, later, hundo, undone⟩ := l.exchanges_abandon message after
          dsimp only
          rw [hundo]
          exact ⟨_, after, later, rfl, reached.trans undone, .abandoned hbegin hloop looped⟩
      | ended =>
          obtain ⟨reply, later, hfinish, last⟩ := l.exchanges_conclude request after
          dsimp only
          rw [hfinish]
          exact ⟨_, after, later, rfl, reached.trans last, .concluded hbegin hloop looped⟩

/-! ## The whole run -/

/-- What a run reports when its variables cannot be seeded. -/
def unseededReport (request : LifecycleRequest) (after : RunState σ) (e : Template.Failure) :
    LifecycleResult :=
  l.report request after .running (some ("Failed to seed run variables: " ++ e.message)) []

/-- How a run goes on after the event that closes its connection. -/
def closed (request : LifecycleRequest) (after : RunState σ) (done : RunEnd) :
    Reply → Ending LifecycleResult
  | .done _ => .returned (l.report request after done.status done.fatal? done.warnings)
  | .failed f =>
      .returned (l.report request after done.status (closeFailed f done).1 (closeFailed f done).2)
  | .silent => .hung

/-- The conversations of a run, each with how it ends. -/
inductive Completed (request : LifecycleRequest) (session : Session σ) :
    Transcript → Ending LifecycleResult → Prop
  | unseeded {e : Template.Failure} {after : RunState σ}
      (h : l.seed request (l.initial session) = (.error e, after)) :
      Completed request session [] (.returned (l.unseededReport request after e))
  | unconnected {seeded : RunState σ} {f : Fault} {later : Session σ}
      (h : l.seed request (l.initial session) = (.ok (), seeded))
      (hconnect : seeded.session.perform l.database .connect = (.raised f, later)) :
      Completed request session [(.connect, .failed f)]
        (.returned (l.report request seeded .running (some (fatalText f)) []))
  | unanswered {seeded : RunState σ} {later : Session σ}
      (h : l.seed request (l.initial session) = (.ok (), seeded))
      (hconnect : seeded.session.perform l.database .connect = (.hung, later)) :
      Completed request session [(.connect, .silent)] .hung
  | stuck {seeded after : RunState σ} {connected : Session σ} {c : Rowset} {sent : Transcript}
      (h : l.seed request (l.initial session) = (.ok (), seeded))
      (hconnect : seeded.session.perform l.database .connect = (.returned (), connected))
      (hsent : l.Transacted request { seeded with session := connected } sent .hung after) :
      Completed request session ((.connect, .done c) :: sent) .hung
  | closed {seeded after : RunState σ} {connected : Session σ} {c : Rowset} {sent : Transcript}
      {done : RunEnd} {reply : Reply}
      (h : l.seed request (l.initial session) = (.ok (), seeded))
      (hconnect : seeded.session.perform l.database .connect = (.returned (), connected))
      (hsent : l.Transacted request { seeded with session := connected } sent (.returned done)
        after) :
      Completed request session ((.connect, .done c) :: (sent ++ [(.close, reply)]))
        (l.closed request after done reply)

variable {l} in
/-- No fault gets out of the transaction of a run. -/
theorem Transacted.ne_raised {request : LifecycleRequest} {state after : RunState σ}
    {sent : Transcript} {ending : Ending RunEnd}
    (h : l.Transacted request state sent ending after) (f : Fault) : ending ≠ .raised f := by
  cases h with
  | unbegun => exact fun h => nomatch h
  | unanswered => exact fun h => nomatch h
  | stuck => exact fun h => nomatch h
  | abandoned => exact Reply.regardless_ne_raised
  | @concluded b opened after sent reply => cases reply <;> exact fun h => nomatch h

/-- Seeding the variables of a run leaves the session alone. -/
theorem session_seed (request : LifecycleRequest) (state : RunState σ) :
    (l.seed request state).2.session = state.session := by
  unfold seed
  split
  · rfl
  · dsimp only
    split <;> rfl

theorem completed_complete (request : LifecycleRequest) (session : Session σ) :
    ∃ transcript,
      session.Exchanges l.database transcript (l.complete request session).2.session ∧
      l.Completed request session transcript (l.complete request session).1 := by
  have start := l.session_seed request (l.initial session)
  unfold complete
  rcases hseed : l.seed request (l.initial session) with ⟨outcome, seeded⟩
  rw [hseed] at start
  have same : seeded.session = session := start
  cases outcome with
  | error e =>
      refine ⟨[], ?_, .unseeded hseed⟩
      dsimp only
      rw [same]
      exact .nil session
  | ok _ =>
      obtain ⟨reply, connected, hconnect, opened⟩ :=
        exchanges_perform l.database seeded.session .connect
      rw [same] at opened
      dsimp only
      rw [runConnected, hconnect]
      cases reply with
      | failed f =>
          have conversation : l.Completed request session [(.connect, .failed f)]
              (.returned (l.report request seeded .running (some (fatalText f)) [])) :=
            .unconnected hseed hconnect
          exact ⟨_, opened, conversation⟩
      | silent => exact ⟨_, opened, .unanswered hseed hconnect⟩
      | done c =>
          obtain ⟨sent, after, ended, hstate, talk, transacted⟩ :=
            l.transacted_runTransaction request { seeded with session := connected }
          have reached := opened.trans talk
          dsimp only [Reply.ending]
          rcases hrun : l.runTransaction request { seeded with session := connected } with
            ⟨ending, state⟩
          rw [hrun] at hstate transacted
          obtain rfl : state = { after with session := ended } := hstate
          cases ending with
          | raised f => exact absurd rfl (transacted.ne_raised f)
          | hung => exact ⟨_, reached, .stuck hseed hconnect transacted⟩
          | returned done =>
              obtain ⟨reply, last, hclose, closes⟩ :=
                exchanges_perform l.database ended .close
              have conversation : l.Completed request session
                  ((.connect, .done c) :: (sent ++ [(.close, reply)]))
                  (l.closed request after done reply) := .closed hseed hconnect transacted
              refine ⟨(.connect, .done c) :: (sent ++ [(.close, reply)]), ?_⟩
              dsimp only
              rw [hclose]
              cases reply with
              | done r => exact ⟨reached.trans closes, conversation⟩
              | failed f => exact ⟨reached.trans closes, conversation⟩
              | silent => exact ⟨reached.trans closes, conversation⟩

/-! ## What is sent -/

variable {l}

/-- What is sent in the transaction of a run: what begins it, what its steps send, and what finishes
it. -/
theorem Transacted.forall_events {request : LifecycleRequest} {state after : RunState σ}
    {sent : Transcript} {ending : Ending RunEnd}
    (h : l.Transacted request state sent ending after) (kind : Event → Prop)
    (hbegin : kind .begin)
    (hstep : ∀ phase ∈ request.phases, ∀ s ∈ phase.steps, ∀ e,
      l.ServesStep state.defaultScope s e → kind e)
    (hrollback : kind .rollback) (hfinish : ∀ steps, kind (finishing request steps)) :
    ∀ x ∈ sent, kind x.1 := by
  have guests {outcome : LoopEnd} {sent : Transcript}
      (hsent : l.Looped request state.defaultScope outcome sent) : ∀ x ∈ sent, kind x.1 := by
    intro x hx
    obtain ⟨phase, hphase, s, hs, serves⟩ := hsent.served x hx
    exact hstep phase hphase s hs x.1 serves
  cases h with
  | unbegun => exact List.forall_mem_singleton.mpr hbegin
  | unanswered => exact List.forall_mem_singleton.mpr hbegin
  | stuck _ _ hsent => exact List.forall_mem_cons.mpr ⟨hbegin, guests hsent⟩
  | abandoned _ _ hsent =>
      exact List.forall_mem_cons.mpr ⟨hbegin, List.forall_mem_append.mpr
        ⟨guests hsent, List.forall_mem_singleton.mpr hrollback⟩⟩
  | concluded _ _ hsent =>
      exact List.forall_mem_cons.mpr ⟨hbegin, List.forall_mem_append.mpr
        ⟨guests hsent, List.forall_mem_singleton.mpr (hfinish _)⟩⟩

theorem Completed.forall_events {request : LifecycleRequest} {session : Session σ}
    {transcript : Transcript} {ending : Ending LifecycleResult}
    (h : l.Completed request session transcript ending) (kind : Event → Prop)
    (hconnect : kind .connect) (hbegin : kind .begin)
    (hstep : ∀ seeded, l.seed request (l.initial session) = (.ok (), seeded) →
      ∀ phase ∈ request.phases, ∀ s ∈ phase.steps, ∀ e,
        l.ServesStep seeded.defaultScope s e → kind e)
    (hrollback : kind .rollback) (hfinish : ∀ steps, kind (finishing request steps))
    (hclose : kind .close) : ∀ x ∈ transcript, kind x.1 := by
  cases h with
  | unseeded => exact fun x hx => nomatch hx
  | unconnected => exact List.forall_mem_singleton.mpr hconnect
  | unanswered => exact List.forall_mem_singleton.mpr hconnect
  | stuck hseed _ hsent =>
      have steps := hstep _ hseed
      exact List.forall_mem_cons.mpr
        ⟨hconnect, hsent.forall_events kind hbegin steps hrollback hfinish⟩
  | closed hseed _ hsent =>
      have steps := hstep _ hseed
      exact List.forall_mem_cons.mpr ⟨hconnect, List.forall_mem_append.mpr
        ⟨hsent.forall_events kind hbegin steps hrollback hfinish,
          List.forall_mem_singleton.mpr hclose⟩⟩

theorem not_isStatement_finishing (request : LifecycleRequest) (steps : List StepResult) :
    ¬ (finishing request steps).IsStatement := by
  unfold finishing
  split <;> exact fun h => h

variable (l) in
/-- The event is sent for a step of a run, under the scope that the run has from its defaults. -/
def ServesRun (request : LifecycleRequest) (session : Session σ) (e : Event) : Prop :=
  ∃ seeded, l.seed request (l.initial session) = (.ok (), seeded) ∧
    ∃ phase ∈ request.phases, ∃ s ∈ phase.steps, l.ServesStep seeded.defaultScope s e

/-- Every statement of a run is sent for one of its steps. -/
theorem Completed.served {request : LifecycleRequest} {session : Session σ}
    {transcript : Transcript} {ending : Ending LifecycleResult}
    (h : l.Completed request session transcript ending) :
    ∀ x ∈ transcript, x.1.IsStatement → l.ServesRun request session x.1 :=
  h.forall_events (fun e => e.IsStatement → l.ServesRun request session e) (fun h => h.elim)
    (fun h => h.elim)
    (fun seeded hseed phase hphase s hs _ serves _ => ⟨seeded, hseed, phase, hphase, s, hs, serves⟩)
    (fun h => h.elim) (fun steps h => absurd h (not_isStatement_finishing request steps))
    (fun h => h.elim)

end Tenancy.Lifecycle
