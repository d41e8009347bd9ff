/-
# A transaction of one's own, and a guest in another one

A request can be carried out in a transaction of its own, or as a guest in a transaction that
somebody else has opened. The two ways are written down separately, and whoever tries out a request
as a guest wants to know what it is going to do on its own. This module runs them side by side: the
same statements are sent, they get the same replies, and the responses differ only in what they say
about a dry run.

The two do not run on the same database at the same time. A guest finds a transaction that has been
begun already, so what is compared with it is the database as it is after a connection was opened
and a transaction begun. It need not be in the very same state: it is enough that no sequence of
statements tells the two states apart. Events that open, finish or close a transaction have to be
done, because a guest sends none of them. Statements may come back with anything, fail, or be left
without a reply.
-/

import Tenancy.IdSource
import Tenancy.Proofs.Execution.Trace

namespace Tenancy

/-! ## States that answer alike -/

namespace Database

variable {σ : Type}

/-- What a database replies to events that are sent one after the other. -/
def replies (db : Database σ) : σ → List Event → List Reply
  | _, [] => []
  | s, e :: rest => (db.respond s e).1 :: db.replies (db.respond s e).2 rest

/-- No sequence of statements tells the two states apart. -/
def Alike (db : Database σ) (s s' : σ) : Prop :=
  ∀ events : List Event, (∀ e ∈ events, e.IsStatement) → db.replies s events = db.replies s' events

/-- The state in which the first statement of a transaction of one's own is sent. -/
def opened (db : Database σ) (s : σ) : σ :=
  (db.respond (db.respond s .connect).2 .begin).2

/-- Connections are opened and closed, and transactions begun and finished, whenever this is asked
for. -/
def Obeys (db : Database σ) : Prop :=
  ∀ s, ∀ e ∈ [Event.connect, .begin, .commit, .rollback, .close], (db.respond s e).1.isDone = true

variable {db : Database σ} {s s' : σ} {e : Event}

theorem Alike.refl (s : σ) : db.Alike s s :=
  fun _ _ => rfl

theorem Alike.reply_eq (h : db.Alike s s') (he : e.IsStatement) :
    (db.respond s e).1 = (db.respond s' e).1 := by
  have same := h [e] (by simpa using he)
  simpa [replies] using same

/-- States that were alike before a statement are alike after it. -/
theorem Alike.step (h : db.Alike s s') (he : e.IsStatement) :
    db.Alike (db.respond s e).2 (db.respond s' e).2 := by
  intro events hevents
  have same := h (e :: events) (List.forall_mem_cons.mpr ⟨he, hevents⟩)
  exact (List.cons.inj same).2

/-- What an obedient database is asked for around the statements, it does. -/
theorem Obeys.perform (h : db.Obeys) (session : Session σ)
    (he : e ∈ [Event.connect, .begin, .commit, .rollback, .close]) :
    ∃ r later, session.perform db e = (.returned (), later) ∧
      session.Exchanges db [(e, .done r)] later ∧ later.state = (db.respond session.state e).2 := by
  have done := h session.state e he
  have sent := Session.Exchanges.one db session e
  unfold Session.perform
  have hreply : (session.send db e).1 = (db.respond session.state e).1 := rfl
  have hstate : (session.send db e).2.state = (db.respond session.state e).2 := rfl
  rcases hsend : session.send db e with ⟨reply, later⟩
  rw [hsend] at sent hreply hstate
  subst hreply
  cases hdone : (db.respond session.state e).1 with
  | done r => exact ⟨r, later, rfl, hdone ▸ sent, hstate⟩
  | failed f => rw [hdone] at done; cases done
  | silent => rw [hdone] at done; cases done

end Database

/-! ## What a response says about a dry run -/

/-- The entry of a trace with a remark on whether everything was going to be undone. -/
def TraceEntry.marked (dryRun : Bool) (entry : TraceEntry) : TraceEntry :=
  { entry with dryRun }

/-- The response that a transaction of one's own gives where a guest gives this one: it says whether
everything was undone, in every entry of its trace as well, and a success remarks on it. -/
def Response.owned (dryRun : Bool) (response : Response) : Response :=
  { response with
    dryRun
    trace := response.trace.map (TraceEntry.marked dryRun)
    warnings := if dryRun && response.success then [dryRunWarning] else [] }

/-- A response that knows nothing of a dry run. -/
structure Response.Unmarked (response : Response) : Prop where
  dryRun : response.dryRun = false
  trace : ∀ entry ∈ response.trace, entry.dryRun = false
  warnings : response.warnings = []

namespace Response.Unmarked

variable {response : Response}

/-- Outside of a dry run there is nothing to say about one. -/
theorem owned_false (h : response.Unmarked) : response.owned false = response := by
  have trace : response.trace.map (TraceEntry.marked false) = response.trace := by
    rw [List.map_congr_left (g := id), List.map_id]
    intro entry hentry
    rw [TraceEntry.marked, ← h.trace entry hentry, id]
  unfold Response.owned
  rw [trace, Bool.false_and, if_neg Bool.false_ne_true, ← h.dryRun, ← h.warnings]

end Response.Unmarked

namespace Execution

open Session

variable {σ : Type} (db : Database σ)

/-! ## Plans side by side -/

/-- Two sessions in which the same statements have been carried out: the database cannot be told
apart, and of the traces only the first one knows of a dry run. -/
structure Abreast (dryRun : Bool) (p q : Progress σ) : Prop where
  alike : db.Alike p.session.state q.session.state
  traced : p.trace = q.trace.map (TraceEntry.marked dryRun)

/-- What comes of two sessions side by side. The same statements are sent, with the same replies. -/
structure InStep {α : Type} (dryRun : Bool) (p q : Progress σ) (out out' : Ending α × Progress σ) :
    Prop where
  ending : out.1 = out'.1
  abreast : Abreast db dryRun out.2 out'.2
  exchanged : ∃ sent : Transcript, (∀ x ∈ sent, x.1.IsStatement) ∧
    p.session.Exchanges db sent out.2.session ∧ q.session.Exchanges db sent out'.2.session

variable {db} {dryRun : Bool} {p q p' q' : Progress σ}

theorem InStep.refl {α : Type} (h : Abreast db dryRun p q) (ending : Ending α) :
    InStep db dryRun p q (ending, p) (ending, q) where
  ending := rfl
  abreast := h
  exchanged := ⟨[], by simp, .nil _, .nil _⟩

/-- What comes later is sent later. -/
theorem InStep.after {α β : Type} {ending ending' : Ending α} {out out' : Ending β × Progress σ}
    (h : InStep db dryRun p q (ending, p') (ending', q')) (h' : InStep db dryRun p' q' out out') :
    InStep db dryRun p q out out' where
  ending := h'.ending
  abreast := h'.abreast
  exchanged := by
    obtain ⟨sent, statements, first, second⟩ := h.exchanged
    obtain ⟨others, statements', first', second'⟩ := h'.exchanged
    exact ⟨sent ++ others, List.forall_mem_append.mpr ⟨statements, statements'⟩,
      first.trans first', second.trans second'⟩

/-- Only the sessions and the ending matter. -/
theorem InStep.recast {α β : Type} {ending ending' : Ending α}
    (h : InStep db dryRun p q (ending, p') (ending', q')) (other : Ending β) :
    InStep db dryRun p q (other, p') (other, q') :=
  ⟨rfl, h.abreast, h.exchanged⟩

/-- A statement gets the same reply in both sessions. -/
theorem Abreast.send (h : Abreast db dryRun p q) {e : Event} (he : e.IsStatement) :
    ∃ reply session session', p.session.send db e = (reply, session) ∧
      q.session.send db e = (reply, session') ∧ db.Alike session.state session'.state ∧
      p.session.Exchanges db [(e, reply)] session ∧
      q.session.Exchanges db [(e, reply)] session' := by
  have same : (p.session.send db e).1 = (q.session.send db e).1 := h.alike.reply_eq he
  refine ⟨(p.session.send db e).1, (p.session.send db e).2, (q.session.send db e).2, rfl,
    Prod.ext same.symm rfl, h.alike.step he, Exchanges.one db p.session e, ?_⟩
  rw [same]
  exact Exchanges.one db q.session e

theorem inStep_runStatement (h : Abreast db dryRun p q) (s : Statement) :
    InStep db dryRun p q (runStatement db dryRun s p) (runStatement db false s q) := by
  have isStatement : s.event.IsStatement := trivial
  obtain ⟨reply, session, session', hp, hq, alike, first, second⟩ := h.send isStatement
  have exchanged : ∃ sent : Transcript, (∀ x ∈ sent, x.1.IsStatement) ∧
      p.session.Exchanges db sent session ∧ q.session.Exchanges db sent session' :=
    ⟨_, List.forall_mem_singleton.mpr isStatement, first, second⟩
  rw [Statement.event] at hp hq
  rw [runStatement, runStatement, hp, hq]
  cases reply with
  | failed f => exact ⟨rfl, ⟨alike, h.traced⟩, exchanged⟩
  | silent => exact ⟨rfl, ⟨alike, h.traced⟩, exchanged⟩
  | done found =>
      refine ⟨rfl, ⟨alike, ?_⟩, exchanged⟩
      simp [h.traced, TraceEntry.marked]

/- Carrying out a plan in both sessions, by recursion on its steps. -/
mutual

theorem inStep_runPlan : ∀ (plan : Plan) {p q : Progress σ}, Abreast db dryRun p q →
    InStep db dryRun p q (runPlan db dryRun plan p) (runPlan db false plan q)
  | .leaf s, p, q, h => inStep_runStatement h s
  | .batch steps, p, q, h => by
      have inStep := inStep_runSteps steps h
      rw [runPlan, runPlan]
      rcases hp : runSteps db dryRun steps p with ⟨ending, p'⟩
      rcases hq : runSteps db false steps q with ⟨ending', q'⟩
      rw [hp, hq] at inStep
      obtain rfl : ending = ending' := inStep.ending
      cases ending with
      | returned results => exact inStep.recast _
      | raised f => exact inStep.recast _
      | hung => exact inStep.recast _

theorem inStep_runSteps : ∀ (steps : List Plan) {p q : Progress σ}, Abreast db dryRun p q →
    InStep db dryRun p q (runSteps db dryRun steps p) (runSteps db false steps q)
  | [], p, q, h => .refl h _
  | step :: rest, p, q, h => by
      have first := inStep_runPlan step h
      rw [runSteps, runSteps]
      rcases hp : runPlan db dryRun step p with ⟨ending, p'⟩
      rcases hq : runPlan db false step q with ⟨ending', q'⟩
      rw [hp, hq] at first
      obtain rfl : ending = ending' := first.ending
      cases ending with
      | raised f => exact first.recast _
      | hung => exact first.recast _
      | returned result =>
          have later := inStep_runSteps rest first.abreast
          dsimp only
          rcases hp' : runSteps db dryRun rest p' with ⟨ending, p''⟩
          rcases hq' : runSteps db false rest q' with ⟨ending', q''⟩
          rw [hp', hq'] at later
          obtain rfl : ending = ending' := later.ending
          cases ending with
          | returned results => exact first.after (later.recast _)
          | raised f => exact first.after (later.recast _)
          | hung => exact first.after (later.recast _)

end

/-! ## What is told of a plan -/

/-- The response to a request whose plan was carried out and whose transaction, if it is its own,
was finished without a failure. -/
def answered (r : Request) (id : String) (dryRun : Bool) :
    Ending Result × Progress σ → Ending Response
  | (.returned result, p) =>
      .returned (respond r id dryRun p.trace (if dryRun then [dryRunWarning] else []) (.ok result))
  | (.raised f, p) => .returned (respond r id dryRun p.trace [] (.error f.detail))
  | (.hung, _) => .hung

/-- Side by side, the response of a transaction of one's own is that of the guest, with what there
is to say about a dry run. -/
theorem InStep.answered_eq {out out' : Ending Result × Progress σ}
    (h : InStep db dryRun p q out out') (r : Request) (id : String) :
    answered r id dryRun out = (answered r id false out').map (Response.owned dryRun) := by
  obtain ⟨ending, p'⟩ := out
  obtain ⟨ending', q'⟩ := out'
  obtain rfl : ending = ending' := h.ending
  have traced : p'.trace = q'.trace.map (TraceEntry.marked dryRun) := h.abreast.traced
  cases ending with
  | hung => rfl
  | raised f =>
      simp only [answered, Ending.map, traced]
      simp [respond, Response.owned, Response.success]
  | returned result =>
      simp only [answered, Ending.map, traced]
      simp [respond, Response.owned, Response.success]

/-- A guest that starts without a trace says nothing about a dry run. -/
theorem unmarked_of_answered {plan : Plan} {guest : Session σ} {r : Request} {id : String}
    {response : Response}
    (h : answered r id false (runPlan db false plan ⟨guest, []⟩) = .returned response) :
    response.requestId = id ∧ response.Unmarked := by
  obtain ⟨answers, sent, ⟨-, -, traced⟩, -⟩ := traces_runPlan db false plan ⟨guest, []⟩
  rcases hrun : runPlan db false plan ⟨guest, []⟩ with ⟨ending, q⟩
  rw [hrun] at traced h
  have unmarked : ∀ entry ∈ q.trace, entry.dryRun = false := by
    intro entry hentry
    rw [traced, List.nil_append, Answer.traceFrom, List.mem_map] at hentry
    obtain ⟨x, -, rfl⟩ := hentry
    rfl
  cases ending with
  | hung => cases h
  | raised f =>
      cases h
      exact ⟨rfl, rfl, unmarked, rfl⟩
  | returned result =>
      cases h
      exact ⟨rfl, rfl, unmarked, rfl⟩

variable (db)

theorem executeInTransaction_eq {k : Compiler} {r : Request} {plan : Plan}
    (hplan : k.compile r.scope r.command = .ok plan) (id : String) (session : Session σ) :
    executeInTransaction db k r id session =
      (answered r id false (runPlan db false plan ⟨session, []⟩),
        (runPlan db false plan ⟨session, []⟩).2.session) := by
  rw [executeInTransaction, hplan]
  dsimp only
  rcases runPlan db false plan ⟨session, []⟩ with ⟨ending, p⟩
  cases ending <;> rfl

variable {db}

theorem mem_framing_finishing (dryRun : Bool) :
    finishing dryRun ∈ [Event.connect, .begin, .commit, .rollback, .close] := by
  cases dryRun <;> simp [finishing]

/-- Where the database obeys, a transaction of one's own carries out its plan on a connection of its
own, and sends no statement before and after it. -/
theorem execute_eq_of_obeys (hdb : db.Obeys) {k : Compiler} {r : Request} {plan : Plan}
    (hplan : k.compile r.scope r.command = .ok plan) (id : String) (session : Session σ) :
    ∃ begun front tail, begun.state = db.opened session.state ∧
      session.Exchanges db front begun ∧ front.statements = [] ∧
      (runPlan db r.isDryRun plan ⟨begun, []⟩).2.session.Exchanges db tail
        (execute db k r id session).2 ∧ tail.statements = [] ∧
      (execute db k r id session).1 =
        answered r id r.isDryRun (runPlan db r.isDryRun plan ⟨begun, []⟩) := by
  obtain ⟨c, connected, hconnect, connects, hstate⟩ :=
    hdb.perform session (e := .connect) (by simp)
  obtain ⟨b, begun, hbegin, begins, hbegun⟩ := hdb.perform connected (e := .begin) (by simp)
  have opened : begun.state = db.opened session.state := by
    rw [hbegun, hstate, Database.opened]
  have front : session.Exchanges db [(.connect, .done c), (.begin, .done b)] begun :=
    connects.trans begins
  rw [execute, hplan]
  dsimp only
  rw [hconnect]
  dsimp only
  rw [runOwned, hbegin]
  dsimp only
  rcases hrun : runPlan db r.isDryRun plan ⟨begun, []⟩ with ⟨ending, p⟩
  refine ⟨begun, [(.connect, .done c), (.begin, .done b)], ?_⟩
  rw [hrun]
  cases ending with
  | hung => exact ⟨[], opened, front, rfl, .nil _, rfl, rfl⟩
  | raised f =>
      obtain ⟨u, undone, hundo, undoes, -⟩ := hdb.perform p.session (e := .rollback) (by simp)
      obtain ⟨x, closed, hclose, closes, -⟩ := hdb.perform undone (e := .close) (by simp)
      refine ⟨[(.rollback, .done u), (.close, .done x)], opened, front, rfl, ?_⟩
      dsimp only
      rw [hundo]
      dsimp only
      rw [hclose]
      exact ⟨undoes.trans closes, rfl, rfl⟩
  | returned result =>
      obtain ⟨u, finished, hfinish, finishes, -⟩ :=
        hdb.perform p.session (mem_framing_finishing r.isDryRun)
      obtain ⟨x, closed, hclose, closes, -⟩ := hdb.perform finished (e := .close) (by simp)
      refine ⟨[(finishing r.isDryRun, .done u), (.close, .done x)], opened, front, rfl, ?_⟩
      rw [finishing] at hfinish
      dsimp only
      rw [finish, hfinish]
      dsimp only
      rw [hclose]
      refine ⟨finishes.trans closes, ?_, rfl⟩
      rw [Transcript.statements_cons_of_not (wire?_finishing _)]
      rfl

/-! ## The two modes -/

/-- The two ways to carry out a request come to the same: what comes of a transaction of its own,
and what comes of a guest. -/
structure Agree (db : Database σ) (dryRun : Bool) (id : String) (session guest : Session σ)
    (owning staying : Ending Response × Session σ) : Prop where
  /-- The response is that of the guest, with what there is to say about a dry run. -/
  responses : owning.1 = staying.1.map (Response.owned dryRun)
  unmarked : ∀ response, staying.1 = .returned response →
    response.requestId = id ∧ response.Unmarked
  /-- The same statements are sent, and get the same replies. -/
  statements : ∃ transcript sent, session.Exchanges db transcript owning.2 ∧
    guest.Exchanges db sent staying.2 ∧ transcript.statements = sent

/-- Outside of a dry run the two responses are the same. -/
theorem Agree.eq_of_not_dryRun {dryRun : Bool} {id : String} {session guest : Session σ}
    {owning staying : Ending Response × Session σ}
    (h : Agree db dryRun id session guest owning staying) (hdry : dryRun = false) :
    owning.1 = staying.1 := by
  rw [h.responses, hdry]
  cases hending : staying.1 with
  | hung => rfl
  | raised f => rfl
  | returned response =>
      have unmarked := (h.unmarked response hending).2
      rw [Ending.map, unmarked.owned_false]

theorem agree_of_refused (db : Database σ) {k : Compiler} {r : Request} {refusal : Refusal}
    (h : k.compile r.scope r.command = .error refusal) (id : String) (session guest : Session σ) :
    Agree db r.isDryRun id session guest (execute db k r id session)
      (executeInTransaction db k r id guest) := by
  rw [execute_of_refused db h, executeInTransaction, h]
  refine ⟨?_, ?_, [], [], .nil _, .nil _, rfl⟩
  · simp [Ending.map, respond, Response.owned, Response.success]
  · intro response hresponse
    cases hresponse
    exact ⟨rfl, rfl, by simp [respond], rfl⟩

theorem agree_of_plan (hdb : db.Obeys) {k : Compiler} {r : Request} {plan : Plan}
    (hplan : k.compile r.scope r.command = .ok plan) (id : String) {session guest : Session σ}
    (hguest : db.Alike (db.opened session.state) guest.state) :
    Agree db r.isDryRun id session guest (execute db k r id session)
      (executeInTransaction db k r id guest) := by
  obtain ⟨begun, front, tail, hbegun, fronts, hfront, tails, htail, howning⟩ :=
    execute_eq_of_obeys hdb hplan id session
  have abreast : Abreast db r.isDryRun ⟨begun, []⟩ ⟨guest, []⟩ := ⟨hbegun ▸ hguest, rfl⟩
  have inStep := inStep_runPlan plan abreast
  obtain ⟨sent, statements, first, second⟩ := inStep.exchanged
  rw [executeInTransaction_eq db hplan id guest]
  refine ⟨howning.trans (inStep.answered_eq r id), fun _ => unmarked_of_answered,
    front ++ sent ++ tail, sent, (fronts.trans first).trans tails, second, ?_⟩
  rw [Transcript.statements_append, Transcript.statements_append, hfront, htail,
    Transcript.statements_of_forall statements, List.nil_append, List.append_nil]

/-- A request with an id of its own is answered alike in both modes. Where the database obeys, what
a transaction of its own sends as statements is what a guest sends who finds the database opened,
with the same replies, and the response is that of the guest, with what there is to say about a dry
run. A guest says nothing about one, and outside of a dry run the two responses are the same. -/
theorem guest_agrees_with_owner {db : Database σ} (hdb : db.Obeys) (k : Compiler) (r : Request)
    {own : String} (hown : r.requestId = some own) (ids : IdSource) (issued issued' : Nat)
    (session guest : Session σ) (hguest : db.Alike (db.opened session.state) guest.state) :
    let owning := execute db k r (IdSource.ofRequest ids r issued).1 session
    let staying := executeInTransaction db k r (IdSource.ofRequest ids r issued').1 guest
    Agree db r.isDryRun own session guest owning staying ∧
      (r.isDryRun = false → owning.1 = staying.1) := by
  have id_eq (n : Nat) : (IdSource.ofRequest ids r n).1 = own := by
    rw [IdSource.ofRequest, hown]
  have agree : Agree db r.isDryRun own session guest (execute db k r own session)
      (executeInTransaction db k r own guest) := by
    cases hplan : k.compile r.scope r.command with
    | error refusal => exact agree_of_refused db hplan own session guest
    | ok plan => exact agree_of_plan hdb hplan own hguest
  intro owning staying
  rw [show owning = execute db k r own session from congrArg (execute db k r · session) (id_eq _),
    show staying = executeInTransaction db k r own guest from
      congrArg (executeInTransaction db k r · guest) (id_eq _)]
  exact ⟨agree, agree.eq_of_not_dryRun⟩

/-! ## A database that tires -/

/-- A database that counts the statements it has been sent. It does the first two of them, rejects
the others, and does everything else. -/
def tiring : Database Nat where
  respond n e :=
    match e with
    | .statement .. =>
        (if n < 2 then .done { rows := none, stated := some n }
          else .failed (.database "too many statements" (some "54000")), n + 1)
    | _ => (.done { rows := none, stated := none }, n)

/-- The request for a batch whose third statement is rejected. -/
def rejectedRequest (dryRun : Bool) : Request :=
  { Request.ofCommand dryRun Compiler.demoScope Compiler.demoBatch with requestId := some "r-1" }

/-- The batch in a transaction of its own. -/
def rejectedOwning (dryRun : Bool) : Ending Response × Session Nat :=
  execute tiring Compiler.demo (rejectedRequest dryRun)
    (IdSource.ofRequest .counting (rejectedRequest dryRun) 0).1 ⟨0, []⟩

/-- The batch as a guest, who comes after seven ids were used. -/
def rejectedStaying (dryRun : Bool) : Ending Response × Session Nat :=
  executeInTransaction tiring Compiler.demo (rejectedRequest dryRun)
    (IdSource.ofRequest .counting (rejectedRequest dryRun) 7).1 ⟨0, []⟩

theorem tiring_obeys : tiring.Obeys := by
  intro s e he
  simp only [List.mem_cons, List.not_mem_nil, or_false] at he
  rcases he with rfl | rfl | rfl | rfl | rfl <;> rfl

theorem rejectedRequest_agrees :
    tiring.Obeys ∧ (rejectedRequest true).requestId = some "r-1" ∧
      (rejectedRequest false).requestId = some "r-1" ∧ tiring.Alike (tiring.opened 0) 0 ∧
      Agree tiring true "r-1" ⟨0, []⟩ ⟨0, []⟩ (rejectedOwning true) (rejectedStaying true) ∧
      Agree tiring false "r-1" ⟨0, []⟩ ⟨0, []⟩ (rejectedOwning false) (rejectedStaying false) ∧
      (rejectedOwning false).1 = (rejectedStaying false).1 := by
  have tried := guest_agrees_with_owner tiring_obeys Compiler.demo (rejectedRequest true) rfl
    .counting 0 7 ⟨0, []⟩ ⟨0, []⟩ (.refl 0)
  have carriedOut := guest_agrees_with_owner tiring_obeys Compiler.demo (rejectedRequest false) rfl
    .counting 0 7 ⟨0, []⟩ ⟨0, []⟩ (.refl 0)
  exact ⟨tiring_obeys, rfl, rfl, .refl 0, tried.1, carriedOut.1, carriedOut.2 rfl⟩

end Execution

end Tenancy
