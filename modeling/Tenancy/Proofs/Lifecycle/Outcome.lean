/-
# How a scripted run ends

A run never raises. It comes back with a report, whatever its database and its translator do, unless
an event is left without a reply that no deadline covers: a deadline is only over the phases. What
the report says about the transaction is true of the conversation, and what becomes of the
transaction is decided by the options, the outcome of the phases and the recorded steps alone. The
module reads this off the conversations of a run: first the protocol of those that come back, and
then one fact after the other from the protocol.
-/

import Tenancy.Proofs.Lifecycle.Conversation

namespace Tenancy

/-! ## What can be seen in a transcript -/

/-- Whether the event finishes a transaction. -/
def Event.isFinish : Event → Bool
  | .commit | .rollback => true
  | _ => false

@[simp] theorem Event.isFinish_connect : isFinish .connect = false := rfl

@[simp] theorem Event.isFinish_begin : isFinish .begin = false := rfl

@[simp] theorem Event.isFinish_rollback : isFinish .rollback = true := rfl

@[simp] theorem Event.isFinish_close : isFinish .close = false := rfl

namespace Transcript

/-- The number of events that finish a transaction. -/
def finishes (transcript : Transcript) : Nat :=
  transcript.countP fun x => x.1.isFinish

/-- Some event was left without a reply, and there is no deadline for it: there is one for what
guests send, at most. -/
def Stalls (timeoutMs : Option Int) (transcript : Transcript) : Prop :=
  ∃ e, (e, .silent) ∈ transcript ∧ (e.IsGuest → timeoutMs = none)

variable {timeoutMs : Option Int} {transcript later : Transcript}

@[simp] theorem finishes_nil : finishes [] = 0 := rfl

@[simp] theorem finishes_cons {e : Event} {reply : Reply} :
    finishes ((e, reply) :: transcript) =
      transcript.finishes + if e.isFinish then 1 else 0 := by
  rw [finishes, List.countP_cons, finishes]

@[simp] theorem finishes_append :
    finishes (transcript ++ later) = transcript.finishes + later.finishes :=
  List.countP_append

@[simp] theorem not_stalls_nil : ¬ Stalls timeoutMs [] := by
  simp [Stalls]

@[simp] theorem stalls_cons {e : Event} {reply : Reply} :
    Stalls timeoutMs ((e, reply) :: transcript) ↔
      (reply = .silent ∧ (e.IsGuest → timeoutMs = none)) ∨ transcript.Stalls timeoutMs := by
  simp [Stalls, or_and_right, exists_or, and_assoc, eq_comm]

@[simp] theorem stalls_append :
    Stalls timeoutMs (transcript ++ later) ↔
      transcript.Stalls timeoutMs ∨ later.Stalls timeoutMs := by
  simp [Stalls, or_and_right, exists_or]

end Transcript

namespace Lifecycle

open Session

variable {σ : Type} {l : Lifecycle σ} {request : LifecycleRequest}

namespace Looped

variable {defaultScope : Named Live} {outcome : LoopEnd} {sent : Transcript}
  (h : l.Looped request defaultScope outcome sent)
include h

theorem not_sent {e : Event} (he : ¬ e.IsGuest) : ¬ sent.Sent e := by
  rintro ⟨reply, hmem⟩
  exact he (h.guests _ hmem)

theorem not_did {e : Event} (he : ¬ e.IsGuest) : ¬ sent.Did e :=
  fun hdid => h.not_sent he hdid.sent

theorem finishes_eq_zero : sent.finishes = 0 := by
  rw [Transcript.finishes, List.countP_eq_zero]
  rintro ⟨e, reply⟩ hmem hfinish
  have guest := h.guests _ hmem
  cases e <;> simp [Event.isFinish, Event.IsGuest] at *

theorem stalls_iff : sent.Stalls request.options.timeoutMs ↔ outcome = .waiting := by
  rw [h.waiting_iff]
  constructor
  · rintro ⟨e, hmem, htimeout⟩
    exact ⟨⟨e, hmem⟩, htimeout (h.guests _ hmem)⟩
  · rintro ⟨⟨e, hmem⟩, htimeout⟩
    exact ⟨e, hmem, fun _ => htimeout⟩

end Looped

/-! ## Silence -/

theorem concluded_eq_hung {steps : List StepResult} {reply : Reply} :
    concluded request steps reply = .hung ↔ reply = .silent := by
  cases reply <;> simp [concluded]

theorem closed_eq_hung {after : RunState σ} {done : RunEnd} {reply : Reply} :
    l.closed request after done reply = .hung ↔ reply = .silent := by
  cases reply <;> simp [closed]

theorem not_isGuest_finishing (steps : List StepResult) : ¬ (finishing request steps).IsGuest := by
  unfold finishing
  split <;> simp [Event.IsGuest]

theorem Transacted.hung_iff {state after : RunState σ} {sent : Transcript}
    {ending : Ending RunEnd} (h : l.Transacted request state sent ending after) :
    ending = .hung ↔ sent.Stalls request.options.timeoutMs := by
  cases h with
  | unbegun => simp
  | unanswered => simp [Event.IsGuest]
  | stuck _ _ hsent => simp [hsent.stalls_iff]
  | abandoned _ _ hsent =>
      simp [hsent.stalls_iff, Reply.regardless_eq_hung, Event.IsGuest]
  | concluded _ _ hsent =>
      simp [hsent.stalls_iff, concluded_eq_hung, not_isGuest_finishing]

theorem Completed.hung_iff {session : Session σ} {transcript : Transcript}
    {ending : Ending LifecycleResult} (h : l.Completed request session transcript ending) :
    ending = .hung ↔ transcript.Stalls request.options.timeoutMs := by
  cases h with
  | unseeded => simp
  | unconnected => simp
  | unanswered => simp [Event.IsGuest]
  | stuck _ _ hsent => simp [← hsent.hung_iff]
  | closed _ _ hsent =>
      simp [← hsent.hung_iff, closed_eq_hung, Event.IsGuest]

theorem Completed.ne_raised {session : Session σ} {transcript : Transcript}
    {ending : Ending LifecycleResult} (h : l.Completed request session transcript ending)
    (f : Fault) : ending ≠ .raised f := by
  cases h with
  | unseeded => exact fun h => nomatch h
  | unconnected => exact fun h => nomatch h
  | unanswered => exact fun h => nomatch h
  | stuck => exact fun h => nomatch h
  | @closed seeded after connected c sent done reply => cases reply <;> exact fun h => nomatch h

/-! ## The protocol of a run -/

variable (l request) in
/-- The state in which the phases of a run start, if it comes to that: its variables are seeded, its
connection is open and its transaction has begun. -/
def begun? (session : Session σ) : Option (RunState σ) :=
  match l.seed request (l.initial session) with
  | (.error _, _) => none
  | (.ok _, seeded) =>
      match seeded.session.perform l.database .connect with
      | (.returned _, connected) =>
          match connected.perform l.database .begin with
          | (.returned _, opened) => some { seeded with session := opened }
          | _ => none
      | _ => none

variable (l request) in
/-- The protocol of a run that comes back, each conversation with what is reported. A report with a
fatal error has the status that goes with it, whichever error it is. -/
inductive Protocol (session : Session σ) : Transcript → LifecycleResult → Prop
  | unseeded {e : Template.Failure} {after : RunState σ} {message : String}
      (h : l.seed request (l.initial session) = (.error e, after)) :
      Protocol session [] (l.report request after .running (some message) [])
  | unconnected {seeded : RunState σ} {f : Fault} {later : Session σ} {message : String}
      (h : l.seed request (l.initial session) = (.ok (), seeded))
      (hconnect : seeded.session.perform l.database .connect = (.raised f, later)) :
      Protocol session [(.connect, .failed f)]
        (l.report request seeded .running (some message) [])
  | unbegun {seeded : RunState σ} {connected later : Session σ} {c : Rowset} {f : Fault}
      {reply : Reply} {message : String}
      (h : l.seed request (l.initial session) = (.ok (), seeded))
      (hconnect : seeded.session.perform l.database .connect = (.returned (), connected))
      (hbegin : connected.perform l.database .begin = (.raised f, later)) :
      Protocol session [(.connect, .done c), (.begin, .failed f), (.close, reply)]
        (l.report request seeded .running (some message) [])
  | brokenOff {state after : RunState σ} {c b : Rowset} {sent : Transcript}
      {reply reply' : Reply} {reason message : String}
      (h : l.begun? request session = some state)
      (hloop : l.runLoop request state = (.brokenOff reason, after))
      (hsent : l.Looped request state.defaultScope (.brokenOff reason) sent) :
      Protocol session
        ((.connect, .done c) :: (.begin, .done b) ::
          (sent ++ [(.rollback, reply), (.close, reply')]))
        (l.report request after .running (some message) [])
  | unfinished {state after : RunState σ} {c b : Rowset} {sent : Transcript}
      {reply reply' : Reply} {status : RunStatus} {message : String} {warnings : List String}
      (h : l.begun? request session = some state)
      (hloop : l.runLoop request state = (.ended, after))
      (hsent : l.Looped request state.defaultScope .ended sent)
      (hfault : reply.isDone = true → reply'.isDone = false) :
      Protocol session
        ((.connect, .done c) :: (.begin, .done b) ::
          (sent ++ [(finishing request after.steps, reply), (.close, reply')]))
        (l.report request after status (some message) warnings)
  | finished {state after : RunState σ} {c b d e : Rowset} {sent : Transcript}
      (h : l.begun? request session = some state)
      (hloop : l.runLoop request state = (.ended, after))
      (hsent : l.Looped request state.defaultScope .ended sent) :
      Protocol session
        ((.connect, .done c) :: (.begin, .done b) ::
          (sent ++ [(finishing request after.steps, .done d), (.close, .done e)]))
        (l.report request after (finished request after.steps).status none
          (finished request after.steps).warnings)

/-- However its connection is closed, a run whose transaction broke down reports that. -/
theorem closed_of_fatal {after : RunState σ} {done : RunEnd} {reply : Reply}
    {result : LifecycleResult} (hdone : done.fatal?.isSome = true)
    (h : l.closed request after done reply = .returned result) :
    ∃ message, result = l.report request after .running (some message) [] := by
  cases done with
  | finished status warnings => cases hdone
  | brokeDown message => cases reply <;> cases h <;> exact ⟨_, rfl⟩
  | interrupted message => cases reply <;> cases h <;> exact ⟨_, rfl⟩

/-- A run that was finished has no fatal error of its own. -/
theorem fatal?_finished (steps : List StepResult) : (finished request steps).fatal? = none := by
  unfold finished
  split <;> rfl

theorem closeFailed_finished (f : Fault) (steps : List StepResult) :
    closeFailed f (finished request steps) =
      (some (fatalText f), (finished request steps).warnings) := by
  unfold finished
  split <;> rfl

/-- A conversation that comes to its end has kept to the protocol. -/
theorem Completed.protocol {session : Session σ} {transcript : Transcript}
    {result : LifecycleResult}
    (h : l.Completed request session transcript (.returned result)) :
    l.Protocol request session transcript result := by
  generalize hending : Ending.returned result = ending at h
  cases h with
  | unseeded h => cases hending; exact .unseeded h
  | unconnected h hconnect => cases hending; exact .unconnected h hconnect
  | unanswered => cases hending
  | stuck => cases hending
  | @closed seeded after connected c sent done reply h hconnect hsent =>
      generalize hdone : Ending.returned done = ending at hsent
      cases hsent with
      | unbegun hbegin =>
          cases hdone
          obtain ⟨message, rfl⟩ := closed_of_fatal rfl hending.symm
          have conversation : l.Protocol request session
              [(.connect, .done c), (.begin, .failed _), (.close, reply)]
              (l.report request seeded .running (some message) []) :=
            .unbegun h hconnect hbegin
          exact conversation
      | unanswered => cases hdone
      | stuck => cases hdone
      | @abandoned b opened after sent reason reply hbegin hloop hsent =>
          obtain ⟨-, rfl⟩ := Reply.regardless_eq_returned.mp hdone.symm
          obtain ⟨message, rfl⟩ := closed_of_fatal rfl hending.symm
          have begun : l.begun? request session = some { seeded with session := opened } := by
            simp [begun?, h, hconnect, hbegin]
          rw [List.cons_append, List.append_assoc]
          exact .brokenOff begun hloop hsent
      | @concluded b opened after sent reply' hbegin hloop hsent =>
          have begun : l.begun? request session = some { seeded with session := opened } := by
            simp [begun?, h, hconnect, hbegin]
          rw [List.cons_append, List.append_assoc]
          cases reply' with
          | silent => cases hdone
          | failed f =>
              cases hdone
              obtain ⟨message, rfl⟩ := closed_of_fatal rfl hending.symm
              exact .unfinished begun hloop hsent fun h => nomatch h
          | done d =>
              cases hdone
              cases reply with
              | silent => cases hending
              | failed f =>
                  cases hending
                  rw [closeFailed_finished]
                  exact .unfinished begun hloop hsent fun _ => rfl
              | done e =>
                  cases hending
                  rw [fatal?_finished]
                  exact .finished begun hloop hsent

/-! ## What a run reports -/

/-- A report with a fatal error says so. -/
@[simp] theorem status_report_some {state : RunState σ} {status : RunStatus} {message : String}
    {warnings : List String} :
    (l.report request state status (some message) warnings).status = .fatal := rfl

@[simp] theorem status_report_none {state : RunState σ} {status : RunStatus}
    {warnings : List String} :
    (l.report request state status none warnings).status = status := rfl

@[simp] theorem fatalError_report {state : RunState σ} {status : RunStatus}
    {fatalError : Option String} {warnings : List String} :
    (l.report request state status fatalError warnings).fatalError = fatalError := rfl

@[simp] theorem steps_report {state : RunState σ} {status : RunStatus}
    {fatalError : Option String} {warnings : List String} :
    (l.report request state status fatalError warnings).steps = state.steps := rfl

theorem status_finished (steps : List StepResult) :
    (finished request steps).status =
      if isUndone request steps then .rolledBack else .committed := by
  unfold finished
  split <;> rfl

theorem commit_eq_finishing {steps : List StepResult} :
    .commit = finishing request steps ↔ isUndone request steps = false := by
  unfold finishing
  split <;> simp_all

@[simp] theorem isFinish_finishing (steps : List StepResult) :
    (finishing request steps).isFinish = true := by
  unfold finishing
  split <;> rfl

@[simp] theorem close_ne_finishing (steps : List StepResult) :
    .close ≠ finishing request steps := by
  unfold finishing
  split <;> exact fun h => nomatch h

theorem failedSteps_pos {steps : List StepResult} :
    0 < failedSteps steps ↔ ∃ s ∈ steps, s.success = false := by
  simp [failedSteps, List.countP_pos_iff]

/-- A run whose phases came to their end is made permanent unless it is a dry run or has a failed
step that it is to be undone for. -/
theorem isUndone_eq_false {steps : List StepResult} :
    isUndone request steps = false ↔ request.defaults.dryRun = false ∧
      ¬ ((∃ s ∈ steps, s.success = false) ∧ request.options.rollbackOnFailure = true) := by
  rw [← failedSteps_pos]
  simp [isUndone]

namespace Protocol

variable {session : Session σ} {transcript : Transcript} {result : LifecycleResult}
  (h : l.Protocol request session transcript result)
include h

theorem status_ne_running : result.status ≠ .running := by
  cases h with
  | finished =>
      rw [status_report_none, status_finished]
      split <;> exact fun h => nomatch h
  | _ => exact fun h => nomatch h

theorem status_eq_fatal : result.status = .fatal ↔ result.fatalError.isSome = true := by
  cases h with
  | @finished state after =>
      rw [status_report_none, status_finished]
      cases isUndone request after.steps <;> simp
  | _ => simp

theorem did_begin_iff : transcript.Did .begin ↔ (l.begun? request session).isSome = true := by
  cases h with
  | unseeded h => simp [begun?, h]
  | unconnected h hconnect => simp [begun?, h, hconnect]
  | unbegun h hconnect hbegin => simp [begun?, h, hconnect, hbegin, Reply.isDone]
  | brokenOff h => simp [h, Reply.isDone]
  | unfinished h => simp [h, Reply.isDone]
  | finished h => simp [h, Reply.isDone]

theorem finishes_eq_one (hbegin : transcript.Did .begin) : transcript.finishes = 1 := by
  cases h with
  | unseeded => simp at hbegin
  | unconnected => simp at hbegin
  | unbegun => simp [Reply.isDone] at hbegin
  | brokenOff _ _ hsent => simp [hsent.finishes_eq_zero]
  | unfinished _ _ hsent => simp [hsent.finishes_eq_zero]
  | finished _ _ hsent => simp [hsent.finishes_eq_zero]

theorem sent_commit_iff :
    transcript.Sent .commit ↔ ∃ state, l.begun? request session = some state ∧
      (l.runLoop request state).1 = .ended ∧ isUndone request result.steps = false := by
  have guest : ¬ Event.commit.IsGuest := by simp [Event.IsGuest]
  cases h with
  | unseeded h => simp [begun?, h]
  | unconnected h hconnect => simp [begun?, h, hconnect]
  | unbegun h hconnect hbegin => simp [begun?, h, hconnect, hbegin]
  | brokenOff h hloop hsent => simp [h, hloop, hsent.not_sent guest]
  | unfinished h hloop hsent =>
      simp [h, hloop, hsent.not_sent guest, commit_eq_finishing]
  | finished h hloop hsent =>
      simp [h, hloop, hsent.not_sent guest, commit_eq_finishing]

/-- What is reported as permanent has been committed, and the connection has been closed. -/
theorem persisted_iff :
    result.persisted = true ↔ transcript.Did .commit ∧ transcript.Did .close := by
  have hcommit : ¬ Event.commit.IsGuest := by simp [Event.IsGuest]
  have hclose : ¬ Event.close.IsGuest := by simp [Event.IsGuest]
  cases h with
  | unseeded => simp [LifecycleResult.persisted]
  | unconnected => simp [LifecycleResult.persisted]
  | unbegun => simp [LifecycleResult.persisted]
  | brokenOff _ _ hsent => simp [LifecycleResult.persisted, hsent.not_did hcommit]
  | unfinished _ _ hsent hfault =>
      simpa [LifecycleResult.persisted, hsent.not_did hcommit, hsent.not_did hclose] using
        fun _ => hfault
  | finished _ _ hsent =>
      simp [LifecycleResult.persisted, hsent.not_did hcommit, commit_eq_finishing,
        status_finished, Reply.isDone]

end Protocol

theorem success_iff {result : LifecycleResult} :
    result.success = true ↔ result.fatalError = none ∧ ∀ s ∈ result.steps, s.success = true := by
  simp [LifecycleResult.success, failedSteps]

/-! ## The whole run -/

variable (l request) in
/-- What a run that has come back has done with its transaction, and how that fits what it says. -/
structure Settles (session : Session σ) (transcript : Transcript) (result : LifecycleResult) :
    Prop where
  ended : result.status ≠ .running
  fatal_iff : result.status = .fatal ↔ result.fatalError.isSome = true
  unseeded : ∀ e after, l.seed request (l.initial session) = (.error e, after) → transcript = []
  begun_iff : transcript.Did .begin ↔ (l.begun? request session).isSome = true
  finished_once : transcript.Did .begin → transcript.finishes = 1
  committed_iff : transcript.Sent .commit ↔ ∃ state, l.begun? request session = some state ∧
    (l.runLoop request state).1 = .ended ∧ request.defaults.dryRun = false ∧
    ¬ ((∃ s ∈ result.steps, s.success = false) ∧ request.options.rollbackOnFailure = true)
  persisted : result.persisted = true → transcript.Did .commit ∧ transcript.Did .close
  success : result.success = true →
    result.fatalError = none ∧ ∀ s ∈ result.steps, s.success = true

theorem Protocol.settles {session : Session σ} {transcript : Transcript}
    {result : LifecycleResult} (h : l.Protocol request session transcript result) :
    l.Settles request session transcript result where
  ended := h.status_ne_running
  fatal_iff := h.status_eq_fatal
  unseeded e after hseed := by
    cases h with
    | unseeded => rfl
    | unconnected h => rw [hseed] at h; cases h
    | unbegun h => rw [hseed] at h; cases h
    | brokenOff h => simp [begun?, hseed] at h
    | unfinished h => simp [begun?, hseed] at h
    | finished h => simp [begun?, hseed] at h
  begun_iff := h.did_begin_iff
  finished_once := h.finishes_eq_one
  committed_iff := by rw [h.sent_commit_iff]; simp only [isUndone_eq_false]
  persisted := h.persisted_iff.mp
  success := success_iff.mp

/-- The run never ends exactly if what was said to the database by then has an event without a reply
that no deadline covers. -/
def HungIffStalled (l : Lifecycle σ) (request : LifecycleRequest) (session : Session σ) : Prop :=
  ∃ transcript later vars,
    session.Exchanges l.database transcript later ∧
    (l.run request session).2 = later.settled vars ∧
    ((l.run request session).1 = .hung ↔ transcript.Stalls request.options.timeoutMs)

theorem hungIffStalled (l : Lifecycle σ) (request : LifecycleRequest) (session : Session σ) :
    l.HungIffStalled request session := by
  obtain ⟨transcript, exchanged, completed⟩ := l.completed_complete request session
  exact ⟨transcript, _, _, exchanged, rfl, completed.hung_iff⟩

/-- A run never raises: it comes back with a report unless an event is left without a reply that
no deadline covers. The phases decide whether the transaction is made permanent, and the report
is true of what was done. -/
theorem run_settles_transaction (l : Lifecycle σ) (request : LifecycleRequest)
    (session : Session σ) :
    ∃ transcript later vars,
      session.Exchanges l.database transcript later ∧
      (l.run request session).2 = later.settled vars ∧
      ((l.run request session).1 = .hung ↔ transcript.Stalls request.options.timeoutMs) ∧
      ((l.run request session).1 = .hung ∨
        ∃ result, (l.run request session).1 = .returned result ∧
          l.Settles request session transcript result) := by
  obtain ⟨transcript, exchanged, completed⟩ := l.completed_complete request session
  refine ⟨transcript, _, _, exchanged, rfl, completed.hung_iff, ?_⟩
  show (l.complete request session).1 = .hung ∨
    ∃ result, (l.complete request session).1 = .returned result ∧
      l.Settles request session transcript result
  cases hending : (l.complete request session).1 with
  | hung => exact .inl rfl
  | raised f => exact absurd hending (completed.ne_raised f)
  | returned result =>
      rw [hending] at completed
      exact .inr ⟨result, rfl, completed.protocol.settles⟩

end Lifecycle

end Tenancy
