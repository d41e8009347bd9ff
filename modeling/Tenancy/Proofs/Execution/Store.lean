/-
# What a conversation leaves behind

A transaction works on a copy of what everybody sees. A savepoint keeps a copy of that copy, to be
restored or given up; a commit publishes the copy, and a rollback gives it up. This is all that is
taken for granted about a database here. What a single statement does is left open, and a statement
that fails may leave anything behind in the transaction, which is the reason for savepoints.

A request that is carried out inside a savepoint either takes effect as a whole or not at all. The
module says nothing about other transactions that may be open at the same time.
-/

import Tenancy.Proofs.Execution.Events

namespace Tenancy

/-- What a database holds, with the view of the one transaction that may be open. -/
structure Store (δ : Type) where
  /-- What everybody sees. -/
  published : δ
  /-- What the transaction sees. -/
  working : δ
  /-- What the transaction saw when it set the savepoints that are open, latest first. -/
  saved : List δ

namespace Store

variable {δ : Type} (effect : String → List Value → δ → δ)

/-- What an event does that is done. -/
def after (s : Store δ) : Event → Store δ
  | .connect | .close => s
  | .begin => { s with working := s.published, saved := [] }
  | .savepoint => { s with saved := s.working :: s.saved }
  | .release => { s with saved := s.saved.tail }
  | .rollbackTo => { s with working := s.saved.headD s.working, saved := s.saved.tail }
  | .commit => { s with published := s.working, saved := [] }
  | .rollback => { s with working := s.published, saved := [] }
  | .statement sql params => { s with working := effect sql params s.working }

/-- What an event can do, given its reply. A statement that is not done may leave anything in the
view of the transaction, and of any other event that is not done nothing is known. -/
def Becomes (s : Store δ) : Event × Reply → Store δ → Prop
  | (e, .done _), s' => s' = s.after effect e
  | (.statement .., _), s' => s'.published = s.published ∧ s'.saved = s.saved
  | _, _ => True

/-- What a conversation can make of a store. -/
inductive Plays : Store δ → Transcript → Store δ → Prop
  | nil (s : Store δ) : Plays s [] s
  | cons {s mid s' : Store δ} {x : Event × Reply} {rest : Transcript}
      (h : s.Becomes effect x mid) (hrest : Plays mid rest s') : Plays s (x :: rest) s'

/-- What statements do, one after the other. -/
def applyAll (statements : List Statement) (d : δ) : δ :=
  statements.foldl (fun d s => effect s.sql s.params d) d

theorem applyAll_append (first second : List Statement) (d : δ) :
    applyAll effect (first ++ second) d = applyAll effect second (applyAll effect first d) :=
  List.foldl_append

namespace Plays

variable {effect} {s s' : Store δ} {transcript later : Transcript}

theorem append (h : Plays effect s (transcript ++ later) s') :
    ∃ mid, Plays effect s transcript mid ∧ Plays effect mid later s' := by
  induction transcript generalizing s with
  | nil => exact ⟨s, .nil s, h⟩
  | cons x rest ih =>
      cases h with
      | cons hx hrest =>
          obtain ⟨mid, hfirst, hlater⟩ := ih hrest
          exact ⟨mid, .cons hx hfirst, hlater⟩

theorem one {x : Event × Reply} (h : Plays effect s [x] s') : s.Becomes effect x s' := by
  cases h with
  | cons hx hrest =>
      cases hrest with
      | nil => exact hx

theorem one_done {e : Event} {r : Rowset} (h : Plays effect s [(e, .done r)] s') :
    s' = s.after effect e :=
  h.one

theorem cons_done {e : Event} {r : Rowset} (h : Plays effect s ((e, .done r) :: transcript) s') :
    Plays effect (s.after effect e) transcript s' := by
  cases h with
  | cons hx hrest =>
      obtain rfl : _ = s.after effect e := hx
      exact hrest

/-- Whatever is said, there is something that it makes of a store. -/
theorem total (effect : String → List Value → δ → δ) (s : Store δ) (transcript : Transcript) :
    ∃ s', Plays effect s transcript s' := by
  induction transcript generalizing s with
  | nil => exact ⟨s, .nil s⟩
  | cons x rest ih =>
      have step : ∃ mid, s.Becomes effect x mid := by
        obtain ⟨e, reply⟩ := x
        cases reply with
        | done r => exact ⟨_, rfl⟩
        | failed f | silent =>
            cases e with
            | statement sql params => exact ⟨s, rfl, rfl⟩
            | _ => exact ⟨s, trivial⟩
      obtain ⟨mid, hmid⟩ := step
      obtain ⟨s', hrest⟩ := ih mid
      exact ⟨s', .cons hmid hrest⟩

/-- Statements reach neither what everybody sees nor the savepoints, whether they are done or
not. -/
theorem of_statements (h : Plays effect s transcript s')
    (hstatements : ∀ x ∈ transcript, x.1.IsStatement) :
    s'.published = s.published ∧ s'.saved = s.saved := by
  induction h with
  | nil => exact ⟨rfl, rfl⟩
  | @cons s mid s' x rest hx hrest ih =>
      obtain ⟨hfirst, hothers⟩ := List.forall_mem_cons.mp hstatements
      obtain ⟨e, reply⟩ := x
      have kept : mid.published = s.published ∧ mid.saved = s.saved := by
        cases e with
        | statement sql params =>
            cases reply with
            | done r =>
                obtain rfl : mid = s.after effect (.statement sql params) := hx
                exact ⟨rfl, rfl⟩
            | failed f | silent => exact hx
        | _ => exact hfirst.elim
      obtain ⟨hpublished, hsaved⟩ := ih hothers
      exact ⟨hpublished.trans kept.1, hsaved.trans kept.2⟩

/-- A plan all of whose statements are done has done what they do, one after the other. -/
theorem of_carried {statements : List Statement}
    (hsent : Carried (statements.map Statement.event) transcript (.returned ()))
    (h : Plays effect s transcript s') :
    s' = { s with working := applyAll effect statements s.working } := by
  induction statements generalizing s transcript with
  | nil =>
      cases hsent with
      | nil =>
          cases h with
          | nil => rfl
  | cons first rest ih =>
      generalize hdone : Ending.returned () = done at hsent
      cases hsent with
      | stop hreply =>
          rw [Reply.ending_eq_returned.mp hdone.symm] at hreply
          cases hreply
      | next hrest =>
          subst hdone
          exact ih hrest h.cons_done

end Plays

end Store

/-! ## Requests inside savepoints -/

/-- The statements a request compiles to; none if it is refused. -/
def Compiler.statements (k : Compiler) (r : Request) : List Statement :=
  match k.compile r.scope r.command with
  | .ok plan => plan.leaves
  | .error _ => []

namespace Execution

open Session

/-- What a guest says that comes back, with whether its response is a success. -/
inductive Served (k : Compiler) (r : Request) : Transcript → Bool → Prop
  | refused {refusal : Refusal} (h : k.compile r.scope r.command = .error refusal) :
      Served k r [] false
  | failed {plan : Plan} {sent : Transcript} {f : Fault}
      (h : k.compile r.scope r.command = .ok plan) (hsent : Carried plan.events sent (.raised f)) :
      Served k r sent false
  | succeeded {plan : Plan} {sent : Transcript} (h : k.compile r.scope r.command = .ok plan)
      (hsent : Carried plan.events sent (.returned ())) : Served k r sent true

/-- What ends the savepoint of a guest. -/
def closing (success : Bool) : Event :=
  if success then .release else .rollbackTo

/-- What a guest says inside a savepoint. The savepoint is kept where the response is a success, and
undone otherwise. -/
inductive Bracket (k : Compiler) (r : Request) : Transcript → Bool → Prop
  | around {sent : Transcript} {success : Bool} {a b : Rowset} (h : Served k r sent success) :
      Bracket k r ((.savepoint, .done a) :: (sent ++ [(closing success, .done b)])) success

theorem Served.isStatement {k : Compiler} {r : Request} {sent : Transcript} {success : Bool}
    (h : Served k r sent success) : ∀ x ∈ sent, x.1.IsStatement := by
  cases h with
  | refused => exact fun x hx => nomatch hx
  | failed _ hsent => exact isStatement_of_carried hsent
  | succeeded _ hsent => exact isStatement_of_carried hsent

/-- A request inside a savepoint takes effect as a whole where its response is a success, and not at
all otherwise. -/
theorem Bracket.plays {δ : Type} {effect : String → List Value → δ → δ} {s s' : Store δ}
    {k : Compiler} {r : Request} {transcript : Transcript} {success : Bool}
    (h : Bracket k r transcript success) (hplays : Store.Plays effect s transcript s') :
    s' = { s with
      working := if success then Store.applyAll effect (k.statements r) s.working
        else s.working } := by
  cases h with
  | @around sent _ _ _ hserved =>
      obtain ⟨mid, hmid, hlast⟩ := hplays.cons_done.append
      obtain rfl := hlast.one_done
      cases success with
      | false =>
          -- whatever the statements have left behind gives way to what was kept before them
          obtain ⟨hpublished, hsaved⟩ := hmid.of_statements hserved.isStatement
          simp [closing, Store.after, hpublished, hsaved]
      | true =>
          cases hserved with
          | @succeeded plan _ hplan hsent =>
              obtain rfl := hmid.of_carried hsent
              simp [closing, Store.after, Compiler.statements, hplan]

/-- A guest that comes back was served. -/
theorem served_executeInTransaction {σ : Type} {db : Database σ} {k : Compiler} {r : Request}
    {id : String} {session later : Session σ} {response : Response}
    (h : executeInTransaction db k r id session = (.returned response, later)) :
    ∃ sent, session.Exchanges db sent later ∧ Served k r sent response.success := by
  rw [executeInTransaction] at h
  cases hcompile : k.compile r.scope r.command with
  | error refusal =>
      rw [hcompile] at h
      cases h
      exact ⟨[], .nil _, .refused hcompile⟩
  | ok plan =>
      rw [hcompile] at h
      obtain ⟨sent, talk, carried⟩ := carried_runPlan db false plan ⟨session, []⟩
      dsimp only at h
      rcases hrun : runPlan db false plan ⟨session, []⟩ with ⟨ending, p⟩
      rw [hrun] at h talk carried
      cases ending with
      | returned result =>
          cases h
          exact ⟨sent, talk, .succeeded hcompile carried⟩
      | raised f =>
          cases h
          exact ⟨sent, talk, .failed hcompile carried⟩
      | hung => cases h

end Execution

end Tenancy
