/-
# Conversations with a database

What passes between a request and a database is a list of events, each with the reply it got. A
plan is the simple part of it: its statements are sent one after another, and the first of them
that is not done ends it. Around them stand the events of the transaction, and this module finds
out once and for all which conversations there are. Whoever wants to know what is sent, in which
order and with what result does not open the definitions of a run again, but looks at the
conversations it can have.

Nothing is assumed of the database. It may fail at every event, and it may also never answer: a
conversation goes as far as the first silence.
-/

import Tenancy.Execution.Execute

namespace Tenancy

/-- Events in the order in which they were sent, each with its reply. -/
abbrev Transcript := List (Event × Reply)

/-- An ending with another value in place of the one it came with. -/
def Ending.map {α β : Type} (f : α → β) : Ending α → Ending β
  | .returned a => .returned (f a)
  | .raised fault => .raised fault
  | .hung => .hung

/-- An ending without the value it came with. -/
def Ending.bare {α : Type} (e : Ending α) : Ending Unit :=
  e.map fun _ => ()

namespace Reply

def isDone : Reply → Bool
  | .done _ => true
  | _ => false

/-- How whoever sent an event goes on, if it has to be done. -/
def ending : Reply → Ending Unit
  | .done _ => .returned ()
  | .failed f => .raised f
  | .silent => .hung

/-- How whoever sent an event goes on, if a failure is no obstacle. -/
def regardless {α : Type} (a : α) : Reply → Ending α
  | .silent => .hung
  | _ => .returned a

theorem ending_eq_returned {reply : Reply} :
    reply.ending = .returned () ↔ reply.isDone = true := by
  cases reply <;> simp [ending, isDone]

theorem ending_eq_hung {reply : Reply} : reply.ending = .hung ↔ reply = .silent := by
  cases reply <;> simp [ending]

theorem regardless_eq_returned {α : Type} {a b : α} {reply : Reply} :
    reply.regardless a = .returned b ↔ reply ≠ .silent ∧ a = b := by
  cases reply <;> simp [regardless]

/-- An event that was not done but did not keep its sender from going on has failed. -/
theorem failed_of_regardless {α : Type} {a b : α} {reply : Reply} (h : reply.isDone = false)
    (hreturned : reply.regardless a = .returned b) : ∃ f, reply = .failed f ∧ a = b := by
  obtain ⟨hanswered, rfl⟩ := regardless_eq_returned.mp hreturned
  cases reply with
  | done r => cases h
  | failed f => exact ⟨f, rfl, rfl⟩
  | silent => exact absurd rfl hanswered

theorem regardless_eq_hung {α : Type} {a : α} {reply : Reply} :
    reply.regardless a = .hung ↔ reply = .silent := by
  cases reply <;> simp [regardless]

theorem regardless_ne_raised {α : Type} {a : α} {reply : Reply} {f : Fault} :
    reply.regardless a ≠ .raised f := by
  cases reply <;> simp [regardless]

end Reply

namespace Transcript

/-- Every event was done. -/
def AllDone (transcript : Transcript) : Prop :=
  ∀ x ∈ transcript, x.2.isDone = true

/-- Some event was left without a reply. -/
def Unanswered (transcript : Transcript) : Prop :=
  ∃ e, (e, .silent) ∈ transcript

/-- The event was sent, whatever came of it. -/
def Sent (transcript : Transcript) (e : Event) : Prop :=
  ∃ reply, (e, reply) ∈ transcript

/-- The event was sent and done. -/
def Did (transcript : Transcript) (e : Event) : Prop :=
  ∃ r, (e, .done r) ∈ transcript

theorem allDone_append {transcript later : Transcript} :
    AllDone (transcript ++ later) ↔ transcript.AllDone ∧ later.AllDone :=
  List.forall_mem_append

@[simp] theorem not_unanswered_nil : ¬ Unanswered [] := by
  simp [Unanswered]

@[simp] theorem unanswered_cons {e : Event} {reply : Reply} {transcript : Transcript} :
    Unanswered ((e, reply) :: transcript) ↔ reply = .silent ∨ transcript.Unanswered := by
  simp [Unanswered, exists_or, eq_comm]

@[simp] theorem unanswered_append {transcript later : Transcript} :
    Unanswered (transcript ++ later) ↔ transcript.Unanswered ∨ later.Unanswered := by
  simp [Unanswered, exists_or]

@[simp] theorem not_sent_nil {e : Event} : ¬ Sent [] e := by
  simp [Sent]

@[simp] theorem sent_cons {e e' : Event} {reply : Reply} {transcript : Transcript} :
    Sent ((e', reply) :: transcript) e ↔ e = e' ∨ transcript.Sent e := by
  simp [Sent, exists_or]

@[simp] theorem sent_append {transcript later : Transcript} {e : Event} :
    Sent (transcript ++ later) e ↔ transcript.Sent e ∨ later.Sent e := by
  simp [Sent, exists_or]

@[simp] theorem not_did_nil {e : Event} : ¬ Did [] e := by
  simp [Did]

@[simp] theorem did_cons {e e' : Event} {reply : Reply} {transcript : Transcript} :
    Did ((e', reply) :: transcript) e ↔ (e = e' ∧ reply.isDone = true) ∨ transcript.Did e := by
  cases reply <;> simp [Did, Reply.isDone, exists_or]

@[simp] theorem did_append {transcript later : Transcript} {e : Event} :
    Did (transcript ++ later) e ↔ transcript.Did e ∨ later.Did e := by
  simp [Did, exists_or]

theorem Did.sent {transcript : Transcript} {e : Event} (h : transcript.Did e) :
    transcript.Sent e := by
  obtain ⟨r, h⟩ := h
  exact ⟨_, h⟩

/-- An event that is not of the kind of all events of a transcript was not done in it. -/
theorem not_did_of_forall {transcript : Transcript} {e : Event} (kind : Event → Prop)
    (h : ∀ x ∈ transcript, kind x.1) (he : ¬ kind e) : ¬ transcript.Did e := by
  rintro ⟨r, hmem⟩
  exact he (h _ hmem)

end Transcript

/-- The event that sends a statement. -/
def Statement.event (s : Statement) : Event :=
  .statement s.sql s.params

/-- The events that carry out a plan, if all of them are done. -/
def Plan.events (plan : Plan) : List Event :=
  plan.leaves.map Statement.event

namespace Session

variable {σ : Type} {db : Database σ}

/-- One session turns into another by sending the events of a transcript, and the database replies
as the transcript says. -/
inductive Exchanges (db : Database σ) : Session σ → Transcript → Session σ → Prop
  | nil (s : Session σ) : Exchanges db s [] s
  | cons {s s' : Session σ} {e : Event} {transcript : Transcript}
      (h : Exchanges db (s.send db e).2 transcript s') :
      Exchanges db s ((e, (s.send db e).1) :: transcript) s'

namespace Exchanges

variable {s s' s'' : Session σ} {transcript later : Transcript}

theorem one (db : Database σ) (s : Session σ) (e : Event) :
    s.Exchanges db [(e, (s.send db e).1)] (s.send db e).2 :=
  .cons (.nil _)

theorem trans (h : s.Exchanges db transcript s') (h' : s'.Exchanges db later s'') :
    s.Exchanges db (transcript ++ later) s'' := by
  induction h with
  | nil s => exact h'
  | cons _ ih => exact .cons (ih h')

/-- The log records what was sent. -/
theorem log_eq (h : s.Exchanges db transcript s') :
    s'.log = s.log ++ transcript.map Prod.fst := by
  induction h with
  | nil s => simp
  | cons _ ih => rw [ih, log_send, List.map_cons, List.append_assoc, List.singleton_append]

end Exchanges

theorem exchanges_perform (db : Database σ) (s : Session σ) (e : Event) :
    ∃ reply s', s.perform db e = (reply.ending, s') ∧ s.Exchanges db [(e, reply)] s' := by
  have sent := Exchanges.one db s e
  unfold perform
  rcases hsend : s.send db e with ⟨reply, later⟩
  rw [hsend] at sent
  refine ⟨reply, later, ?_, sent⟩
  cases reply with
  | done r => rfl
  | failed f => rfl
  | silent => rfl

end Session

/-! ## What is planned -/

/-- Planned events were sent in order, up to the first that was not done. The ending is that of
the last event that was sent. -/
inductive Carried : List Event → Transcript → Ending Unit → Prop
  | nil : Carried [] [] (.returned ())
  | stop {e : Event} {planned : List Event} {reply : Reply} (h : reply.isDone = false) :
      Carried (e :: planned) [(e, reply)] reply.ending
  | next {e : Event} {planned : List Event} {r : Rowset} {transcript : Transcript}
      {ending : Ending Unit} (h : Carried planned transcript ending) :
      Carried (e :: planned) ((e, .done r) :: transcript) ending

namespace Carried

variable {planned more : List Event} {transcript later : Transcript} {ending : Ending Unit}

theorem one (e : Event) (reply : Reply) : Carried [e] [(e, reply)] reply.ending := by
  cases reply with
  | done r => exact .next .nil
  | failed f => exact .stop rfl
  | silent => exact .stop rfl

/-- What is sent is the beginning of what was planned. -/
theorem sent_prefix (h : Carried planned transcript ending) :
    transcript.map Prod.fst <+: planned := by
  induction h with
  | nil => exact List.nil_prefix
  | stop hreply => exact List.cons_prefix_cons.mpr ⟨rfl, List.nil_prefix⟩
  | next _ ih => exact List.cons_prefix_cons.mpr ⟨rfl, ih⟩

theorem returned_iff (h : Carried planned transcript ending) :
    ending = .returned () ↔ transcript.AllDone := by
  unfold Transcript.AllDone
  induction h with
  | nil => simp
  | stop hreply => simp [Reply.ending_eq_returned]
  | next _ ih => simp [ih, Reply.isDone]

theorem sent_eq (h : Carried planned transcript (.returned ())) :
    transcript.map Prod.fst = planned := by
  generalize hdone : Ending.returned () = done at h
  induction h with
  | nil => rfl
  | stop hreply =>
      rw [Reply.ending_eq_returned.mp hdone.symm] at hreply
      cases hreply
  | next _ ih => rw [List.map_cons, ih hdone]

/-- What never ends has met silence. -/
theorem hung_iff (h : Carried planned transcript ending) :
    ending = .hung ↔ transcript.Unanswered := by
  induction h with
  | nil => simp
  | stop hreply => simp [Reply.ending_eq_hung]
  | next _ ih => simp [ih]

theorem append (h : Carried planned transcript (.returned ())) (h' : Carried more later ending) :
    Carried (planned ++ more) (transcript ++ later) ending := by
  generalize hdone : Ending.returned () = done at h
  induction h with
  | nil => exact h'
  | stop hreply =>
      rw [Reply.ending_eq_returned.mp hdone.symm] at hreply
      cases hreply
  | next _ ih => exact .next (ih hdone)

/-- What was planned after an event that was not done plays no part. -/
theorem append_planned (h : Carried planned transcript ending) (hending : ending ≠ .returned ())
    (more : List Event) : Carried (planned ++ more) transcript ending := by
  induction h with
  | nil => exact absurd rfl hending
  | stop hreply => exact .stop hreply
  | next _ ih => exact .next (ih hending)

end Carried

namespace Execution

open Session

variable {σ : Type} (db : Database σ)

theorem carried_runStatement (dryRun : Bool) (s : Statement) (p : Progress σ) :
    ∃ transcript, p.session.Exchanges db transcript (runStatement db dryRun s p).2.session ∧
      Carried [s.event] transcript (runStatement db dryRun s p).1.bare := by
  have sent := Exchanges.one db p.session s.event
  have carried := Carried.one s.event
  rw [runStatement]
  rcases hsend : p.session.send db (.statement s.sql s.params) with ⟨reply, session⟩
  rw [Statement.event, hsend] at sent
  refine ⟨[(s.event, reply)], ?_⟩
  cases reply with
  | done found => exact ⟨sent, carried _⟩
  | failed f => exact ⟨sent, carried _⟩
  | silent => exact ⟨sent, carried _⟩

/- What a plan sends, by recursion on its steps. -/
mutual

/-- A plan sends its statements, up to the first that is not done. -/
theorem carried_runPlan (dryRun : Bool) : ∀ (plan : Plan) (p : Progress σ),
    ∃ transcript, p.session.Exchanges db transcript (runPlan db dryRun plan p).2.session ∧
      Carried plan.events transcript (runPlan db dryRun plan p).1.bare
  | .leaf s, p => carried_runStatement db dryRun s p
  | .batch steps, p => by
      obtain ⟨transcript, sent, carried⟩ := carried_runSteps dryRun steps p
      refine ⟨transcript, ?_⟩
      rw [runPlan]
      rcases hsteps : runSteps db dryRun steps p with ⟨ending, later⟩
      rw [hsteps] at sent carried
      cases ending with
      | returned results => exact ⟨sent, carried⟩
      | raised f => exact ⟨sent, carried⟩
      | hung => exact ⟨sent, carried⟩

/-- The steps of a batch send the statements of one step after the other. -/
theorem carried_runSteps (dryRun : Bool) : ∀ (steps : List Plan) (p : Progress σ),
    ∃ transcript, p.session.Exchanges db transcript (runSteps db dryRun steps p).2.session ∧
      Carried ((Plan.leavesOf steps).map Statement.event) transcript
        (runSteps db dryRun steps p).1.bare
  | [], p => ⟨[], .nil _, .nil⟩
  | step :: rest, p => by
      obtain ⟨transcript, sent, carried⟩ := carried_runPlan dryRun step p
      have planned : (Plan.leavesOf (step :: rest)).map Statement.event =
          step.events ++ (Plan.leavesOf rest).map Statement.event := List.map_append
      rw [runSteps, planned]
      rcases hstep : runPlan db dryRun step p with ⟨ending, later⟩
      rw [hstep] at sent carried
      -- a step that does not return is the last one, whatever was planned after it
      cases ending with
      | raised f => exact ⟨transcript, sent, carried.append_planned (fun h => nomatch h) _⟩
      | hung => exact ⟨transcript, sent, carried.append_planned (fun h => nomatch h) _⟩
      | returned result =>
          obtain ⟨others, sent', carried'⟩ := carried_runSteps dryRun rest later
          refine ⟨transcript ++ others, ?_⟩
          dsimp only
          rcases hrest : runSteps db dryRun rest later with ⟨ending, last⟩
          rw [hrest] at sent' carried'
          cases ending with
          | returned results => exact ⟨sent.trans sent', carried.append carried'⟩
          | raised f => exact ⟨sent.trans sent', carried.append carried'⟩
          | hung => exact ⟨sent.trans sent', carried.append carried'⟩

end

/-! ## A transaction of one's own -/

/-- What a transaction whose statements are done is finished with. -/
def finishing (dryRun : Bool) : Event :=
  if dryRun then .rollback else .commit

/-- The conversations of a transaction on an open connection, each with whether it succeeds. -/
inductive Owned (dryRun : Bool) (plan : Plan) : Transcript → Ending Bool → Prop
  | unbegun {reply : Reply} (h : reply.isDone = false) :
      Owned dryRun plan [(.begin, reply)] (reply.regardless false)
  | stuck {b : Rowset} {sent : Transcript} (h : Carried plan.events sent .hung) :
      Owned dryRun plan ((.begin, .done b) :: sent) .hung
  | undone {b : Rowset} {sent : Transcript} {f : Fault} {reply : Reply}
      (h : Carried plan.events sent (.raised f)) :
      Owned dryRun plan ((.begin, .done b) :: (sent ++ [(.rollback, reply)]))
        (reply.regardless false)
  | finished {b : Rowset} {sent : Transcript} {reply : Reply}
      (h : Carried plan.events sent (.returned ())) :
      Owned dryRun plan ((.begin, .done b) :: (sent ++ [(finishing dryRun, reply)]))
        (reply.regardless reply.isDone)

/-- What is sent in a transaction: what begins it, statements of the plan, and what finishes it. -/
theorem Owned.forall_events {dryRun : Bool} {plan : Plan} {transcript : Transcript}
    {ending : Ending Bool} (h : Owned dryRun plan transcript ending) (kind : Event → Prop)
    (hbegin : kind .begin) (hplan : ∀ e ∈ plan.events, kind e) (hrollback : kind .rollback)
    (hfinish : kind (finishing dryRun)) : ∀ x ∈ transcript, kind x.1 := by
  have statements {sent : Transcript} {ending : Ending Unit}
      (hsent : Carried plan.events sent ending) : ∀ x ∈ sent, kind x.1 :=
    fun x hx => hplan x.1 (hsent.sent_prefix.subset (List.mem_map_of_mem hx))
  cases h with
  | unbegun => exact List.forall_mem_singleton.mpr hbegin
  | stuck hsent => exact List.forall_mem_cons.mpr ⟨hbegin, statements hsent⟩
  | undone hsent =>
      exact List.forall_mem_cons.mpr ⟨hbegin, List.forall_mem_append.mpr
        ⟨statements hsent, List.forall_mem_singleton.mpr hrollback⟩⟩
  | finished hsent =>
      exact List.forall_mem_cons.mpr ⟨hbegin, List.forall_mem_append.mpr
        ⟨statements hsent, List.forall_mem_singleton.mpr hfinish⟩⟩

/-- No failure gets out of a transaction. -/
theorem Owned.ne_raised {dryRun : Bool} {plan : Plan} {transcript : Transcript}
    {ending : Ending Bool} (h : Owned dryRun plan transcript ending) (f : Fault) :
    ending ≠ .raised f := by
  cases h with
  | unbegun => exact Reply.regardless_ne_raised
  | stuck => exact fun h => nomatch h
  | undone => exact Reply.regardless_ne_raised
  | finished => exact Reply.regardless_ne_raised

/-- Whether a transaction came back with something. -/
def Finish.success (f : Finish) : Bool :=
  f.outcome.isOk

theorem exchanges_finish (dryRun : Bool) (result : Result) (p : Progress σ) :
    ∃ reply, p.session.Exchanges db [(finishing dryRun, reply)] (finish db dryRun result p).2 ∧
      (finish db dryRun result p).1.map Finish.success = reply.regardless reply.isDone := by
  obtain ⟨reply, later, hperform, sent⟩ := exchanges_perform db p.session (finishing dryRun)
  refine ⟨reply, ?_⟩
  rw [finishing] at hperform
  rw [finish, hperform]
  cases reply with
  | done r => exact ⟨sent, rfl⟩
  | failed f => exact ⟨sent, rfl⟩
  | silent => exact ⟨sent, rfl⟩

theorem owned_runOwned (dryRun : Bool) (plan : Plan) (session : Session σ) :
    ∃ transcript, session.Exchanges db transcript (runOwned db dryRun plan session).2 ∧
      Owned dryRun plan transcript ((runOwned db dryRun plan session).1.map Finish.success) := by
  obtain ⟨reply, opened, hbegin, begun⟩ := exchanges_perform db session .begin
  rw [runOwned, hbegin]
  cases reply with
  | failed f => exact ⟨_, begun, .unbegun rfl⟩
  | silent => exact ⟨_, begun, .unbegun rfl⟩
  | done b =>
      obtain ⟨sent, run, carried⟩ := carried_runPlan db dryRun plan ⟨opened, []⟩
      dsimp only [Reply.ending]
      rcases hrun : runPlan db dryRun plan ⟨opened, []⟩ with ⟨ending, p⟩
      rw [hrun] at run carried
      have reached := begun.trans run
      cases ending with
      | hung => exact ⟨_, reached, .stuck carried⟩
      | returned result =>
          obtain ⟨reply, finished, hsuccess⟩ := exchanges_finish db dryRun result p
          exact ⟨_, reached.trans finished, hsuccess ▸ .finished carried⟩
      | raised f =>
          obtain ⟨reply, last, hundo, undone⟩ := exchanges_perform db p.session .rollback
          have conversation : Owned dryRun plan
              ((.begin, .done b) :: (sent ++ [(.rollback, reply)])) (reply.regardless false) :=
            .undone carried
          refine ⟨(.begin, .done b) :: (sent ++ [(.rollback, reply)]), ?_⟩
          dsimp only
          rw [hundo]
          -- the failure of the statements is reported, so only silence makes a difference here
          cases reply with
          | silent => exact ⟨reached.trans undone, conversation⟩
          | done r => exact ⟨reached.trans undone, conversation⟩
          | failed g => exact ⟨reached.trans undone, conversation⟩

/-- The conversations of a request in a transaction of its own, each with whether it succeeds. -/
inductive Conducted (dryRun : Bool) (plan : Plan) : Transcript → Ending Bool → Prop
  | unconnected {reply : Reply} (h : reply.isDone = false) :
      Conducted dryRun plan [(.connect, reply)] (reply.regardless false)
  | stuck {c : Rowset} {transcript : Transcript} (h : Owned dryRun plan transcript .hung) :
      Conducted dryRun plan ((.connect, .done c) :: transcript) .hung
  | closed {c : Rowset} {transcript : Transcript} {success : Bool} {reply : Reply}
      (h : Owned dryRun plan transcript (.returned success)) :
      Conducted dryRun plan ((.connect, .done c) :: (transcript ++ [(.close, reply)]))
        (reply.regardless (success && reply.isDone))

theorem Conducted.forall_events {dryRun : Bool} {plan : Plan} {transcript : Transcript}
    {ending : Ending Bool} (h : Conducted dryRun plan transcript ending) (kind : Event → Prop)
    (hconnect : kind .connect) (hbegin : kind .begin) (hplan : ∀ e ∈ plan.events, kind e)
    (hrollback : kind .rollback) (hfinish : kind (finishing dryRun)) (hclose : kind .close) :
    ∀ x ∈ transcript, kind x.1 := by
  cases h with
  | unconnected => exact List.forall_mem_singleton.mpr hconnect
  | stuck howned =>
      exact List.forall_mem_cons.mpr
        ⟨hconnect, howned.forall_events kind hbegin hplan hrollback hfinish⟩
  | closed howned =>
      exact List.forall_mem_cons.mpr ⟨hconnect, List.forall_mem_append.mpr
        ⟨howned.forall_events kind hbegin hplan hrollback hfinish,
          List.forall_mem_singleton.mpr hclose⟩⟩

theorem success_respond (r : Request) (id : String) (dryRun : Bool) (trace : List TraceEntry)
    (warnings : List String) (outcome : Except ErrorDetail Result) :
    (respond r id dryRun trace warnings outcome).success = outcome.isOk := by
  cases outcome <;> rfl

/-- A request that is refused sends nothing. -/
theorem execute_of_refused {k : Compiler} {r : Request} {refusal : Refusal}
    (h : k.compile r.scope r.command = .error refusal) (id : String) (session : Session σ) :
    execute db k r id session =
      (.returned (respond r id r.isDryRun [] [] (.error refusal.detail)), session) := by
  rw [execute, h]

theorem conducted_execute {k : Compiler} {r : Request} {plan : Plan}
    (h : k.compile r.scope r.command = .ok plan) (id : String) (session : Session σ) :
    ∃ transcript, session.Exchanges db transcript (execute db k r id session).2 ∧
      Conducted r.isDryRun plan transcript
        ((execute db k r id session).1.map Response.success) := by
  obtain ⟨reply, opened, hconnect, connected⟩ := exchanges_perform db session .connect
  rw [execute, h]
  dsimp only
  rw [hconnect]
  cases reply with
  | failed f => exact ⟨_, connected, .unconnected rfl⟩
  | silent => exact ⟨_, connected, .unconnected rfl⟩
  | done c =>
      obtain ⟨transcript, run, owned⟩ := owned_runOwned db r.isDryRun plan opened
      dsimp only [Reply.ending]
      rcases hrun : runOwned db r.isDryRun plan opened with ⟨ending, ended⟩
      rw [hrun] at run owned
      have reached := connected.trans run
      cases ending with
      | raised f => exact absurd rfl (owned.ne_raised f)
      | hung => exact ⟨_, reached, .stuck owned⟩
      | returned done =>
          obtain ⟨reply, last, hclose, closed⟩ := exchanges_perform db ended .close
          have answered := reached.trans closed
          have conversation : Conducted r.isDryRun plan
              ((.connect, .done c) :: (transcript ++ [(.close, reply)]))
              (reply.regardless (done.success && reply.isDone)) := .closed owned
          refine ⟨(.connect, .done c) :: (transcript ++ [(.close, reply)]), ?_⟩
          dsimp only
          rw [hclose]
          -- a failure to close turns a success into a failure, and leaves a failure one
          cases reply with
          | silent => exact ⟨answered, conversation⟩
          | done r' =>
              refine ⟨answered, ?_⟩
              show Conducted r.isDryRun plan _ (.returned (Response.success _))
              rw [success_respond, ← Bool.and_true (Except.isOk _)]
              exact conversation
          | failed f =>
              refine ⟨answered, ?_⟩
              show Conducted r.isDryRun plan _ (.returned false)
              rw [← Bool.and_false done.success]
              exact conversation

end Execution

end Tenancy
