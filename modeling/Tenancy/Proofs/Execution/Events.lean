/-
# The events of a request

Whatever a database answers, the events it is sent are of few kinds. A plan sends statements and
nothing else; a request in a transaction of its own sends the events that open, end and close it
besides, and a commit only outside of a dry run. These facts are about the log of a session, which
only ever grows, and they hold for every database: they are read off the conversations that a
request can have, and never look at a reply.
-/

import Tenancy.Proofs.Execution.Conversation

namespace Tenancy

namespace Event

/-- A statement. -/
def IsStatement : Event → Prop
  | .statement .. => True
  | _ => False

/-- What stands around the statements of a guest that has a savepoint of its own. -/
def IsBracket : Event → Prop
  | .savepoint | .release | .rollbackTo => True
  | _ => False

/-- What is sent on behalf of a guest: statements, perhaps inside a savepoint. -/
def IsGuest : Event → Prop
  | .statement .. | .savepoint | .release | .rollbackTo => True
  | _ => False

/-- Whether the event makes a transaction permanent. -/
def isCommit : Event → Bool
  | .commit => true
  | _ => false

/-- What may be sent when everything is undone at the end, or is not: a commit only where it is
not. -/
def Suits (dryRun : Bool) (e : Event) : Prop :=
  e.isCommit = true → dryRun = false

theorem isGuest_iff {e : Event} : e.IsGuest ↔ e.IsBracket ∨ e.IsStatement := by
  cases e <;> simp [IsGuest, IsBracket, IsStatement]

theorem IsGuest.suits {e : Event} (h : e.IsGuest) (dryRun : Bool) : e.Suits dryRun := by
  intro hcommit
  cases e with
  | commit => exact h.elim
  | _ => cases hcommit

theorem IsStatement.suits {e : Event} (h : e.IsStatement) (dryRun : Bool) : e.Suits dryRun :=
  (isGuest_iff.mpr (.inr h)).suits dryRun

theorem suits_of_not {e : Event} (h : e.isCommit = false) (dryRun : Bool) : e.Suits dryRun := by
  intro hcommit
  rw [h] at hcommit
  cases hcommit

/-- An event stays a commit, or none, when what is live in it is settled. -/
theorem isCommit_settled (vars : Bag) (e : Event) : (e.settled vars).isCommit = e.isCommit := by
  cases e <;> rfl

end Event

namespace Session

variable {σ : Type}

/-- A session comes after another one in which only events of a kind were sent. -/
def Follows (kind : Event → Prop) (s s' : Session σ) : Prop :=
  ∃ events, s'.log = s.log ++ events ∧ ∀ e ∈ events, kind e

namespace Follows

variable {kind : Event → Prop} {s s' : Session σ}

theorem refl (kind : Event → Prop) (s : Session σ) : s.Follows kind s :=
  ⟨[], by simp, by simp⟩

theorem mono {wider : Event → Prop} (h : s.Follows kind s') (hkind : ∀ e, kind e → wider e) :
    s.Follows wider s' := by
  obtain ⟨events, hlog, hevents⟩ := h
  exact ⟨events, hlog, fun e he => hkind e (hevents e he)⟩

theorem of_exchanges {db : Database σ} {transcript : Transcript}
    (h : s.Exchanges db transcript s') (hkind : ∀ x ∈ transcript, kind x.1) : s.Follows kind s' :=
  ⟨transcript.map Prod.fst, h.log_eq, by simpa using hkind⟩

end Follows

/-- Somebody talks to the database: only events of a kind are sent, and the talk has no end exactly
where one of them is left without a reply. -/
def Converses (db : Database σ) (kind : Event → Prop) (s : Session σ) (ending : Ending Unit)
    (s' : Session σ) : Prop :=
  ∃ transcript, s.Exchanges db transcript s' ∧ (∀ x ∈ transcript, kind x.1) ∧
    (ending = .hung ↔ transcript.Unanswered)

namespace Converses

variable {db : Database σ} {kind : Event → Prop} {s s' s'' : Session σ} {ending : Ending Unit}

/-- Whoever ends without a word has sent nothing. -/
theorem refl (db : Database σ) (kind : Event → Prop) (s : Session σ) (h : ending ≠ .hung) :
    s.Converses db kind ending s :=
  ⟨[], .nil s, by simp, by simpa using h⟩

theorem perform (db : Database σ) (s : Session σ) {e : Event} (h : kind e) :
    s.Converses db kind (s.perform db e).1 (s.perform db e).2 := by
  obtain ⟨reply, later, hperform, sent⟩ := exchanges_perform db s e
  rw [hperform]
  exact ⟨_, sent, by simpa using h, by simp [Reply.ending_eq_hung]⟩

/-- Where one talk has come back, another one can follow. -/
theorem trans (h : s.Converses db kind (.returned ()) s') (h' : s'.Converses db kind ending s'') :
    s.Converses db kind ending s'' := by
  obtain ⟨transcript, sent, hkind, hhung⟩ := h
  obtain ⟨later, sent', hkind', hhung'⟩ := h'
  have answered : ¬ transcript.Unanswered := fun h => nomatch hhung.mpr h
  refine ⟨transcript ++ later, sent.trans sent', List.forall_mem_append.mpr ⟨hkind, hkind'⟩, ?_⟩
  simp [hhung', answered]

/-- What somebody makes of an end that has come is no part of the talk. -/
theorem recast {other : Ending Unit} (h : s.Converses db kind ending s')
    (hother : other = .hung ↔ ending = .hung) : s.Converses db kind other s' := by
  obtain ⟨transcript, sent, hkind, hhung⟩ := h
  exact ⟨transcript, sent, hkind, hother.trans hhung⟩

theorem mono {wider : Event → Prop} (h : s.Converses db kind ending s')
    (hkind : ∀ e, kind e → wider e) : s.Converses db wider ending s' := by
  obtain ⟨transcript, sent, hevents, hhung⟩ := h
  exact ⟨transcript, sent, fun x hx => hkind x.1 (hevents x hx), hhung⟩

theorem follows (h : s.Converses db kind ending s') : s.Follows kind s' := by
  obtain ⟨transcript, sent, hkind, -⟩ := h
  exact Follows.of_exchanges sent hkind

end Converses

/-- The number of commits that were sent. -/
def commits (s : Session σ) : Nat :=
  s.log.countP Event.isCommit

/-- Where every event suits a dry run, no commit was sent. -/
theorem commits_of_follows {s s' : Session σ} (h : s.Follows (Event.Suits true) s') :
    s'.commits = s.commits := by
  obtain ⟨events, hlog, hsuits⟩ := h
  have none : events.countP Event.isCommit = 0 := by
    rw [List.countP_eq_zero]
    intro e he hcommit
    cases hsuits e he hcommit
  rw [commits, hlog, List.countP_append, none, Nat.add_zero, commits]

@[simp] theorem commits_settled (vars : Bag) (s : Session σ) :
    (s.settled vars).commits = s.commits := by
  have same : Event.isCommit ∘ Event.settled vars = Event.isCommit := by
    funext e
    exact Event.isCommit_settled vars e
  rw [commits, settled, List.countP_map, same, commits]

end Session

namespace Execution

open Session

variable {σ : Type} (db : Database σ)

/-! ## Plans -/

theorem isStatement_of_mem_events {plan : Plan} {e : Event} (h : e ∈ plan.events) :
    e.IsStatement := by
  obtain ⟨s, -, rfl⟩ := List.mem_map.mp h
  trivial

/-- What carries out a plan is nothing but statements. -/
theorem isStatement_of_carried {plan : Plan} {transcript : Transcript} {ending : Ending Unit}
    (h : Carried plan.events transcript ending) : ∀ x ∈ transcript, x.1.IsStatement := by
  intro x hx
  exact isStatement_of_mem_events (h.sent_prefix.subset (List.mem_map_of_mem hx))

/-- Carrying out a plan is a talk about its statements. -/
theorem converses_runPlan (dryRun : Bool) (plan : Plan) (p : Progress σ) :
    p.session.Converses db (· ∈ plan.events) (runPlan db dryRun plan p).1.bare
      (runPlan db dryRun plan p).2.session := by
  obtain ⟨transcript, sent, carried⟩ := carried_runPlan db dryRun plan p
  exact ⟨transcript, sent,
    fun x hx => carried.sent_prefix.subset (List.mem_map_of_mem hx), carried.hung_iff⟩

/-! ## Requests -/

/-- The event sends a statement that the request compiles to, under the scope of the request. -/
def Sends (k : Compiler) (r : Request) (e : Event) : Prop :=
  ∃ plan, k.compile r.scope r.command = .ok plan ∧ e ∈ plan.events

theorem Sends.isStatement {k : Compiler} {r : Request} {e : Event} (h : Sends k r e) :
    e.IsStatement := by
  obtain ⟨plan, -, he⟩ := h
  exact isStatement_of_mem_events he

/-- A request that is a guest in a transaction sends nothing but its statements. -/
theorem converses_executeInTransaction (k : Compiler) (r : Request) (id : String)
    (session : Session σ) :
    session.Converses db (Sends k r) (executeInTransaction db k r id session).1.bare
      (executeInTransaction db k r id session).2 := by
  rw [executeInTransaction]
  cases hcompile : k.compile r.scope r.command with
  | error refusal => exact Converses.refl db _ session (fun h => nomatch h)
  | ok plan =>
      have run : session.Converses db (Sends k r) (runPlan db false plan ⟨session, []⟩).1.bare
          (runPlan db false plan ⟨session, []⟩).2.session :=
        (converses_runPlan db false plan ⟨session, []⟩).mono fun e he => ⟨plan, hcompile, he⟩
      dsimp only
      rcases hrun : runPlan db false plan ⟨session, []⟩ with ⟨ending, p⟩
      rw [hrun] at run
      cases ending with
      | returned result => exact run
      | raised f => exact run.recast (by simp [Ending.bare, Ending.map])
      | hung => exact run

/-- What a transaction is finished with is a commit only outside of a dry run. -/
theorem suits_finishing (dryRun : Bool) : (finishing dryRun).Suits dryRun := by
  cases dryRun with
  | false => exact fun _ => rfl
  | true => exact Event.suits_of_not rfl true

/-- The event belongs to a transaction that carries out a plan: its statements are those of the
plan, and it is no commit in a dry run. -/
def Belongs (dryRun : Bool) (plan : Plan) (e : Event) : Prop :=
  e.Suits dryRun ∧ (e.IsStatement → e ∈ plan.events)

theorem belongs_of_mem_events {dryRun : Bool} {plan : Plan} {e : Event} (h : e ∈ plan.events) :
    Belongs dryRun plan e :=
  ⟨(isStatement_of_mem_events h).suits dryRun, fun _ => h⟩

theorem belongs_of_not {dryRun : Bool} {plan : Plan} {e : Event} (hcommit : e.isCommit = false)
    (hstatement : ¬ e.IsStatement) : Belongs dryRun plan e :=
  ⟨Event.suits_of_not hcommit dryRun, fun h => absurd h hstatement⟩

theorem belongs_finishing {dryRun : Bool} {plan : Plan} :
    Belongs dryRun plan (finishing dryRun) :=
  ⟨suits_finishing dryRun, fun h => by cases dryRun <;> exact h.elim⟩

theorem Conducted.belongs {dryRun : Bool} {plan : Plan} {transcript : Transcript}
    {ending : Ending Bool} (h : Conducted dryRun plan transcript ending) :
    ∀ x ∈ transcript, Belongs dryRun plan x.1 :=
  h.forall_events (Belongs dryRun plan) (belongs_of_not rfl (fun h => h))
    (belongs_of_not rfl (fun h => h)) (fun _ he => belongs_of_mem_events he)
    (belongs_of_not rfl (fun h => h)) belongs_finishing (belongs_of_not rfl (fun h => h))

/-- The event belongs to carrying out a request in a transaction of its own. -/
def Conducts (k : Compiler) (r : Request) (e : Event) : Prop :=
  e.Suits r.isDryRun ∧ (e.IsStatement → Sends k r e)

/-- A request in a transaction of its own sends no statements but those it compiles to, and no
commit in a dry run. -/
theorem conducts_execute (k : Compiler) (r : Request) (id : String) (session : Session σ) :
    session.Follows (Conducts k r) (execute db k r id session).2 := by
  cases hcompile : k.compile r.scope r.command with
  | error refusal =>
      rw [execute_of_refused db hcompile]
      exact Follows.refl _ session
  | ok plan =>
      obtain ⟨transcript, exchanged, conducted⟩ := conducted_execute db hcompile id session
      refine Follows.of_exchanges exchanged fun x hx => ?_
      obtain ⟨suits, planned⟩ := conducted.belongs x hx
      exact ⟨suits, fun h => ⟨plan, hcompile, planned h⟩⟩

/-- A request in a transaction of its own sends a commit only if it is not a dry run. -/
theorem follows_execute (k : Compiler) (r : Request) (id : String) (session : Session σ) :
    session.Follows (Event.Suits r.isDryRun) (execute db k r id session).2 :=
  (conducts_execute db k r id session).mono fun _ h => h.1

end Execution

end Tenancy
