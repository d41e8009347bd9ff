/-
# What a failed request tells

A request that fails tells one error, whatever else goes wrong behind it. It is that of the first
event that failed: opening the connection, beginning the transaction, a statement, or finishing the
transaction. A statement that fails is followed by undoing the transaction, and whether that fails
as well is not told. Leaving the connection is different. It comes last, and where it fails, its
fault takes the place of whatever there was to tell before.

So there are two faults in a conversation that matter, and both are read off its transcript.
Nothing is assumed of the database: it may fail at any number of events.
-/

import Tenancy.Execution.Scripted
import Tenancy.Proofs.Execution.Events
import Tenancy.Proofs.Execution.Protocol

namespace Tenancy

/-! ## Faults in a transcript -/

/-- The fault of a reply, if it is one. -/
def Reply.fault? : Reply → Option Fault
  | .failed f => some f
  | _ => none

/-- The fault that something was ended by, if it was. -/
def Ending.fault? {α : Type} : Ending α → Option Fault
  | .raised f => some f
  | _ => none

/-- Something came back that satisfies a test. -/
def Ending.any {α : Type} (test : α → Bool) : Ending α → Bool
  | .returned a => test a
  | _ => false

theorem Ending.exists_of_any {α : Type} {test : α → Bool} {e : Ending α}
    (h : e.any test = true) : ∃ a, e = .returned a ∧ test a = true := by
  cases e with
  | returned a => exact ⟨a, rfl, h⟩
  | raised f => cases h
  | hung => cases h

@[simp] theorem Ending.fault?_bare {α : Type} (e : Ending α) : e.bare.fault? = e.fault? := by
  cases e <;> rfl

theorem Reply.fault?_ending (reply : Reply) : reply.ending.fault? = reply.fault? := by
  cases reply <;> rfl

theorem Event.IsBracket.isGuest {e : Event} (h : e.IsBracket) : e.IsGuest :=
  Event.isGuest_iff.mpr (.inl h)

theorem Event.IsBracket.not_isStatement {e : Event} (h : e.IsBracket) : ¬ e.IsStatement := by
  intro hstatement
  cases e with
  | statement => exact h.elim
  | _ => exact hstatement.elim

/-- Whether the event leaves the connection. -/
def Event.isClose : Event → Bool
  | .close => true
  | _ => false

namespace Transcript

/-- The fault of the first event of a kind that failed. -/
def faultOf? (kind : Event → Bool) (transcript : Transcript) : Option Fault :=
  transcript.findSome? fun x => if kind x.1 then x.2.fault? else none

/-- The fault of the first event that failed. -/
def firstFault? (transcript : Transcript) : Option Fault :=
  transcript.faultOf? fun _ => true

/-- The fault with which the connection was left. -/
def closeFault? (transcript : Transcript) : Option Fault :=
  transcript.faultOf? Event.isClose

/-- The fault that a request tells: that of leaving the connection, or else the first one. -/
def toldFault? (transcript : Transcript) : Option Fault :=
  transcript.closeFault?.or transcript.firstFault?

variable {kind : Event → Bool} {transcript later : Transcript} {e : Event} {reply : Reply}

@[simp] theorem faultOf?_nil : faultOf? kind [] = none := rfl

theorem faultOf?_cons :
    faultOf? kind ((e, reply) :: transcript) =
      (if kind e then reply.fault? else none).or (transcript.faultOf? kind) := by
  rw [faultOf?, List.findSome?_cons, faultOf?]
  cases (if kind e then reply.fault? else none) <;> rfl

theorem faultOf?_append :
    faultOf? kind (transcript ++ later) = (transcript.faultOf? kind).or (later.faultOf? kind) :=
  List.findSome?_append

@[simp] theorem firstFault?_cons :
    firstFault? ((e, reply) :: transcript) = reply.fault?.or transcript.firstFault? :=
  faultOf?_cons

theorem firstFault?_append :
    firstFault? (transcript ++ later) = transcript.firstFault?.or later.firstFault? :=
  faultOf?_append

/-- Where no event is of the kind, none of the kind has failed. -/
theorem faultOf?_eq_none (h : ∀ x ∈ transcript, kind x.1 = false) :
    transcript.faultOf? kind = none :=
  List.findSome?_eq_none_iff.mpr fun x hx => by simp [h x hx]

theorem mem_of_faultOf? {f : Fault} (h : transcript.faultOf? kind = some f) :
    ∃ e, kind e = true ∧ (e, .failed f) ∈ transcript := by
  obtain ⟨⟨e, reply⟩, hmem, hfault⟩ := List.exists_of_findSome?_eq_some h
  dsimp only at hfault
  split at hfault
  · rename_i hkind
    cases reply with
    | failed g =>
        cases hfault
        exact ⟨e, hkind, hmem⟩
    | done r => cases hfault
    | silent => cases hfault
  · cases hfault

end Transcript

namespace Carried

variable {planned : List Event} {transcript : Transcript} {ending : Ending Unit}

/-- What is planned ends with the first fault, if there is one. -/
theorem firstFault?_eq (h : Carried planned transcript ending) :
    transcript.firstFault? = ending.fault? := by
  induction h with
  | nil => rfl
  | @stop e planned reply hreply =>
      rw [Reply.fault?_ending]
      simp [Transcript.firstFault?, Transcript.faultOf?_cons]
  | next _ ih => exact ih

/-- A planned event that failed is what the plan ends with. -/
theorem raised_of_mem (h : Carried planned transcript ending) {e : Event} {f : Fault}
    (hmem : (e, .failed f) ∈ transcript) : ending = .raised f := by
  induction h with
  | nil => cases hmem
  | stop hreply =>
      cases List.mem_singleton.mp hmem
      rfl
  | next _ ih =>
      rcases List.mem_cons.mp hmem with heq | hmem
      · cases heq
      · exact ih hmem

end Carried

namespace Session.Exchanges

variable {σ : Type} {db : Database σ}

/-- What was said between two sessions can be read off them. -/
theorem unique {s s' : Session σ} {transcript other : Transcript}
    (h : s.Exchanges db transcript s') (h' : s.Exchanges db other s') : transcript = other := by
  induction h generalizing other with
  | nil s =>
      have same := h'.log_eq
      rw [List.self_eq_append_right, List.map_eq_nil_iff] at same
      exact same.symm
  | @cons s s' e transcript h ih =>
      have sent := h.log_eq
      rw [log_send, List.append_assoc] at sent
      cases h' with
      | nil =>
          rw [List.self_eq_append_right] at sent
          cases sent
      | @cons _ _ e' other h' =>
          have sent' := h'.log_eq
          rw [log_send, List.append_assoc, sent, List.append_cancel_left_eq] at sent'
          obtain ⟨rfl, -⟩ := List.cons.inj sent'
          rw [ih h']

end Session.Exchanges

namespace Execution

open Session

variable {σ : Type} (db : Database σ)

/-! ## A transaction of one's own -/

/-- The error that a transaction came back with. -/
def Finish.error? (done : Finish) : Option ErrorDetail :=
  match done.outcome with
  | .ok _ => none
  | .error e => some e

/-- Finishing a transaction tells its own fault. -/
theorem told_finish (dryRun : Bool) (result : Result) (p : Progress σ) :
    ∃ reply, p.session.Exchanges db [(finishing dryRun, reply)] (finish db dryRun result p).2 ∧
      ∀ done, (finish db dryRun result p).1 = .returned done →
        done.error? = reply.fault?.map Fault.detail := by
  obtain ⟨reply, last, hfinish, finished⟩ := exchanges_perform db p.session (finishing dryRun)
  rw [finishing] at hfinish
  rw [finish, hfinish]
  refine ⟨reply, ?_⟩
  cases reply with
  | done r => exact ⟨finished, fun done h => by cases h; rfl⟩
  | failed f => exact ⟨finished, fun done h => by cases h; rfl⟩
  | silent => exact ⟨finished, fun done h => by cases h⟩

/-- A transaction on an open connection tells the first fault. -/
theorem told_runOwned (dryRun : Bool) (plan : Plan) (session : Session σ) :
    ∃ transcript, session.Exchanges db transcript (runOwned db dryRun plan session).2 ∧
      ∀ done, (runOwned db dryRun plan session).1 = .returned done →
        done.error? = transcript.firstFault?.map Fault.detail := by
  obtain ⟨reply, opened, hbegin, begun⟩ := exchanges_perform db session .begin
  rw [runOwned, hbegin]
  cases reply with
  | failed f => exact ⟨_, begun, fun done h => by cases h; rfl⟩
  | silent => exact ⟨_, begun, fun done h => by cases h⟩
  | done b =>
      obtain ⟨sent, run, carried⟩ := carried_runPlan db dryRun plan ⟨opened, []⟩
      have first := carried.firstFault?_eq
      dsimp only [Reply.ending]
      rcases hrun : runPlan db dryRun plan ⟨opened, []⟩ with ⟨ending, p⟩
      rw [hrun] at run first
      rw [Ending.fault?_bare] at first
      have reached := begun.trans run
      cases ending with
      | hung => exact ⟨_, reached, fun done h => by cases h⟩
      | returned result =>
          obtain ⟨reply, finished, told⟩ := told_finish db dryRun result p
          refine ⟨_, reached.trans finished, fun done h => ?_⟩
          rw [told done h, Transcript.firstFault?_append, List.singleton_append,
            Transcript.firstFault?_cons, first]
          cases reply <;> rfl
      | raised f =>
          obtain ⟨reply, last, hundo, undone⟩ := exchanges_perform db p.session .rollback
          -- the statements have failed before, so undoing them has no say in what is told
          have told : Transcript.firstFault? ([(.begin, .done b)] ++ sent ++ [(.rollback, reply)]) =
              some f := by
            rw [Transcript.firstFault?_append, List.singleton_append, Transcript.firstFault?_cons,
              first]
            rfl
          refine ⟨[(.begin, .done b)] ++ sent ++ [(.rollback, reply)], ?_⟩
          rw [told]
          dsimp only
          rw [hundo]
          cases reply with
          | silent => exact ⟨reached.trans undone, fun done h => by cases h⟩
          | done r => exact ⟨reached.trans undone, fun done h => by cases h; rfl⟩
          | failed g => exact ⟨reached.trans undone, fun done h => by cases h; rfl⟩

/-- The connection is not left before its transaction is over. -/
theorem Owned.closeFault?_eq {dryRun : Bool} {plan : Plan} {transcript : Transcript}
    {ending : Ending Bool} (h : Owned dryRun plan transcript ending) :
    transcript.closeFault? = none :=
  Transcript.faultOf?_eq_none <| h.forall_events (fun e => e.isClose = false) rfl
    (fun e he => by
      have statement := isStatement_of_mem_events he
      cases e <;> first | rfl | exact statement.elim)
    rfl (by cases dryRun <;> rfl)

/-- A statement that failed is the first thing to fail in its transaction. -/
theorem Owned.firstFault?_of_statement {dryRun : Bool} {plan : Plan} {transcript : Transcript}
    {ending : Ending Bool} (h : Owned dryRun plan transcript ending) {e : Event} {f : Fault}
    (he : e.IsStatement) (hmem : (e, .failed f) ∈ transcript) :
    transcript.firstFault? = some f := by
  have planned (last : Event) {sent : Transcript} {reply : Reply} {b : Rowset}
      (hlast : ¬ last.IsStatement)
      (hmem : (e, .failed f) ∈ (.begin, .done b) :: (sent ++ [(last, reply)])) :
      (e, .failed f) ∈ sent := by
    rcases List.mem_cons.mp hmem with heq | hmem
    · cases heq
    · refine (List.mem_append.mp hmem).resolve_right fun heq => hlast ?_
      cases List.mem_singleton.mp heq
      exact he
  cases h with
  | unbegun =>
      cases List.mem_singleton.mp hmem
      exact he.elim
  | stuck hsent =>
      rcases List.mem_cons.mp hmem with heq | hmem
      · cases heq
      · cases hsent.raised_of_mem hmem
  | @undone b sent g reply hsent =>
      obtain ⟨rfl⟩ := hsent.raised_of_mem (planned .rollback (fun h => h) hmem)
      rw [Transcript.firstFault?_cons, Transcript.firstFault?_append, hsent.firstFault?_eq]
      rfl
  | finished hsent =>
      have other : ¬ (finishing dryRun).IsStatement := by
        cases dryRun <;> exact not_false
      cases hsent.raised_of_mem (planned (finishing dryRun) other hmem)

/-! ## A request -/

theorem told_execute {k : Compiler} {r : Request} {plan : Plan}
    (h : k.compile r.scope r.command = .ok plan) (id : String) (session : Session σ) :
    ∃ transcript, session.Exchanges db transcript (execute db k r id session).2 ∧
      ∀ response, (execute db k r id session).1 = .returned response →
        response.error? = transcript.toldFault?.map Fault.detail := by
  obtain ⟨reply, opened, hconnect, connected⟩ := exchanges_perform db session .connect
  rw [execute, h]
  dsimp only
  rw [hconnect]
  cases reply with
  | failed f => exact ⟨_, connected, fun response h => by cases h; rfl⟩
  | silent => exact ⟨_, connected, fun response h => by cases h⟩
  | done c =>
      obtain ⟨transcript, run, owned⟩ := owned_runOwned db r.isDryRun plan opened
      obtain ⟨other, run', told⟩ := told_runOwned db r.isDryRun plan opened
      obtain rfl := run.unique run'
      dsimp only [Reply.ending]
      rcases hrun : runOwned db r.isDryRun plan opened with ⟨ending, ended⟩
      rw [hrun] at run told owned
      have reached := connected.trans run
      cases ending with
      | raised f => exact absurd rfl (owned.ne_raised f)
      | hung => exact ⟨_, reached, fun response h => by cases h⟩
      | returned done =>
          obtain ⟨reply, last, hclose, closed⟩ := exchanges_perform db ended .close
          have last : Transcript.toldFault?
              ((.connect, .done c) :: (transcript ++ [(.close, reply)])) =
              reply.fault?.or transcript.firstFault? := by
            have open' : transcript.faultOf? Event.isClose = none := owned.closeFault?_eq
            rw [Transcript.toldFault?, Transcript.firstFault?_cons, Transcript.firstFault?_append,
              Transcript.firstFault?_cons, Transcript.closeFault?, Transcript.faultOf?_cons,
              Transcript.faultOf?_append, open', Transcript.faultOf?_cons]
            cases reply <;> cases transcript.firstFault? <;> rfl
          have answered := reached.trans closed
          refine ⟨(.connect, .done c) :: (transcript ++ [(.close, reply)]), ?_⟩
          rw [last]
          dsimp only
          rw [hclose]
          cases reply with
          | silent => exact ⟨answered, fun response h => by cases h⟩
          | failed f => exact ⟨answered, fun response h => by cases h; rfl⟩
          | done r' => exact ⟨answered, fun response h => by cases h; exact told done rfl⟩

/-- A statement that failed is the first thing to fail in its request. -/
theorem Conducted.firstFault?_of_statement {dryRun : Bool} {plan : Plan} {transcript : Transcript}
    {ending : Ending Bool} (h : Conducted dryRun plan transcript ending) {e : Event} {f : Fault}
    (he : e.IsStatement) (hmem : (e, .failed f) ∈ transcript) :
    transcript.firstFault? = some f := by
  cases h with
  | unconnected =>
      cases List.mem_singleton.mp hmem
      exact he.elim
  | stuck howned =>
      rcases List.mem_cons.mp hmem with heq | hmem
      · cases heq
      · exact howned.firstFault?_of_statement he hmem
  | closed howned =>
      rcases List.mem_cons.mp hmem with heq | hmem
      · cases heq
      · rcases List.mem_append.mp hmem with hmem | heq
        · rw [Transcript.firstFault?_cons, Transcript.firstFault?_append,
            howned.firstFault?_of_statement he hmem]
          rfl
        · cases List.mem_singleton.mp heq
          exact he.elim

/-- A request one of whose statements has failed comes back with the error of that statement, or
with that of leaving the connection where this fails as well, unless it waits for a reply. -/
theorem told_of_statement (k : Compiler) (r : Request) (id : String) (session : Session σ) :
    ∃ transcript, session.Exchanges db transcript (execute db k r id session).2 ∧
      ((execute db k r id session).1 = .hung ↔ transcript.Unanswered) ∧
      ∀ e f, e.IsStatement → (e, .failed f) ∈ transcript →
        (execute db k r id session).1 = .hung ∨
          ∃ response, (execute db k r id session).1 = .returned response ∧
            response.error? = some (transcript.closeFault?.getD f).detail := by
  cases hcompile : k.compile r.scope r.command with
  | error refusal =>
      rw [execute_of_refused db hcompile]
      exact ⟨[], .nil session, by simp, fun e f _ hmem => nomatch hmem⟩
  | ok plan =>
      obtain ⟨transcript, talk, conducted⟩ := conducted_execute db hcompile id session
      obtain ⟨other, talk', told⟩ := told_execute db hcompile id session
      obtain rfl := talk.unique talk'
      refine ⟨transcript, talk, ?_, fun e f he hmem => ?_⟩
      · rw [← conducted.hung_iff]
        cases (execute db k r id session).1 <;> simp [Ending.map]
      · cases hending : (execute db k r id session).1 with
        | hung => exact .inl rfl
        | raised g =>
            rw [hending] at conducted
            exact absurd rfl (conducted.ne_raised g)
        | returned response =>
            refine .inr ⟨response, rfl, ?_⟩
            rw [told response hending, Transcript.toldFault?,
              conducted.firstFault?_of_statement he hmem]
            cases transcript.closeFault? <;> rfl

end Execution

/-! ## A database that fails -/

/-- A database that always fails at the events of some kinds, and otherwise does what it is asked.
-/
def failing (fault? : EventKind → Option Fault) : Database Unit where
  respond _ e :=
    (match fault? e.kind with
      | some f => .failed f
      | none => .done { rows := none, stated := some 1 }, ())

section Failing

variable {fault? : EventKind → Option Fault} {s s' : Session Unit} {transcript : Transcript}
  (h : s.Exchanges (failing fault?) transcript s')
include h

/-- Such a database fails at an event of a kind if and only if it fails at all of them. -/
theorem failing_replied : ∀ x ∈ transcript, x.2.fault? = fault? x.1.kind := by
  induction h with
  | nil s => exact fun _ hx => nomatch hx
  | @cons s s' e transcript _ ih =>
      refine List.forall_mem_cons.mpr ⟨?_, ih⟩
      show ((failing fault?).respond s.state e).1.fault? = fault? e.kind
      dsimp only [failing]
      cases fault? e.kind <;> rfl

/-- What it has been asked to do and fails at, it has failed at. -/
theorem failed_of_kind {kind : EventKind} {f : Fault} (hfault : fault? kind = some f)
    (hstart : s.log = []) (hkind : kind ∈ s'.log.map Event.kind) :
    ∃ e, e.kind = kind ∧ (e, .failed f) ∈ transcript := by
  rw [h.log_eq, hstart, List.nil_append] at hkind
  obtain ⟨e, he, rfl⟩ := List.mem_map.mp hkind
  obtain ⟨⟨e, reply⟩, hx, rfl⟩ := List.mem_map.mp he
  have replied : reply.fault? = some f := (failing_replied h _ hx).trans hfault
  cases reply with
  | failed g =>
      cases replied
      exact ⟨e, rfl, hx⟩
  | done r => cases replied
  | silent => cases replied

/-- A connection that it closes is left without a fault. -/
theorem closeFault?_of_failing (hclose : fault? .close = none) :
    transcript.closeFault? = none := by
  cases hfault : transcript.closeFault? with
  | none => rfl
  | some f =>
      obtain ⟨e, he, hmem⟩ := Transcript.mem_of_faultOf? hfault
      have replied := failing_replied h _ hmem
      cases e with
      | close => cases replied.trans hclose
      | _ => cases he

end Failing

end Tenancy
