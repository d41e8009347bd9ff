/-
# What a response tells about its statements

The statements of a plan are sent one after the other, and the first that is not done is the last.
The trace of a response lists those that were done, numbered from zero, each with the number of rows
it came back with; a failure cuts the list short and takes nothing away from it. A response is a
success only if the plan was sent to its end, and then its result is a tree of the shape of the
command that has at its leaves what the statements came back with.

The three agree because they are read off one list: the answers, which are the statements that were
done with what they came back with. A transaction of one's own and a guest send and tell the same,
except that a transaction that never begins sends nothing.
-/

import Tenancy.Proofs.Execution.Events
import Tenancy.Proofs.Statement.Leaves

namespace Tenancy

/-! ## What goes over the wire -/

/-- What a database gets to see of an event that sends a statement: its text, and its parameters if
there are any. -/
def Event.wire? : Event → Option (String × Option (List Value))
  | .statement sql params => some (sql, if params.isEmpty then none else some params)
  | _ => none

/-- What a database gets to see of a statement. -/
def Statement.wire (s : Statement) : String × Option (List Value) :=
  (s.sql, if s.params.isEmpty then none else some s.params)

/-- Whether the event sends a statement. -/
def Event.isStatement (e : Event) : Bool :=
  e.wire?.isSome

theorem Event.isStatement_eq_true {e : Event} : e.isStatement = true ↔ e.IsStatement := by
  cases e <;> simp [isStatement, wire?, IsStatement]

/-- The part of a transcript that is about statements. -/
def Transcript.statements (transcript : Transcript) : Transcript :=
  transcript.filter fun x => x.1.isStatement

/-- The statements of a transcript, as the database gets to see them. -/
def Transcript.wires (transcript : Transcript) : List (String × Option (List Value)) :=
  transcript.filterMap fun x => x.1.wire?

namespace Transcript

variable {transcript later : Transcript}

@[simp] theorem statements_nil : statements [] = [] := rfl

@[simp] theorem statements_append :
    statements (transcript ++ later) = transcript.statements ++ later.statements :=
  List.filter_append ..

theorem statements_cons_of_not {e : Event} {reply : Reply} (h : e.wire? = none) :
    statements ((e, reply) :: transcript) = transcript.statements :=
  List.filter_cons_of_neg (by simp [Event.isStatement, h])

theorem statements_of_forall (h : ∀ x ∈ transcript, x.1.IsStatement) :
    transcript.statements = transcript :=
  List.filter_eq_self.mpr fun x hx => Event.isStatement_eq_true.mpr (h x hx)

/-- What is sent first and last around statements is not about statements itself. -/
theorem statements_around {e e' : Event} (reply reply' : Reply) (h : e.wire? = none)
    (h' : e'.wire? = none) :
    statements ((e, reply) :: (transcript ++ [(e', reply')])) = transcript.statements := by
  rw [statements_cons_of_not h, statements_append, statements_cons_of_not h', statements_nil,
    List.append_nil]

theorem wires_append : wires (transcript ++ later) = transcript.wires ++ later.wires :=
  List.filterMap_append

/-- What the database gets to see of the statements is what it gets to see of them in the whole
transcript. -/
theorem wires_statements : transcript.statements.wires = transcript.wires := by
  rw [wires, statements, List.filterMap_filter]
  refine List.filterMap_congr fun x _ => ?_
  rw [Event.isStatement]
  cases x.1.wire? <;> rfl

end Transcript

/-! ## Answers -/

/-- A statement that was done, with what it came back with. -/
structure Answer where
  statement : Statement
  found : Rowset

namespace Answer

/-- The exchange that the answer comes from. -/
def exchange (a : Answer) : Event × Reply :=
  (a.statement.event, .done a.found)

/-- The entry of a trace for the answer, with its number. -/
def entry (dryRun : Bool) (a : Answer) (index : Nat) : TraceEntry :=
  { stepIndex := index, statement := a.statement, rowCount := a.found.count, dryRun }

/-- The leaf of a result for the answer. -/
def result (a : Answer) : Result :=
  .rows a.statement.table.name a.statement.action? a.found.count (a.found.rows.getD [])

/-- The trace of answers of which the first has the given number. -/
def traceFrom (dryRun : Bool) (first : Nat) (answers : List Answer) : List TraceEntry :=
  (answers.zipIdx first).map fun x => x.1.entry dryRun x.2

theorem length_traceFrom (dryRun : Bool) (first : Nat) (answers : List Answer) :
    (traceFrom dryRun first answers).length = answers.length := by
  simp [traceFrom]

theorem traceFrom_append (dryRun : Bool) (first : Nat) (answers later : List Answer) :
    traceFrom dryRun first (answers ++ later) =
      traceFrom dryRun first answers ++ traceFrom dryRun (first + answers.length) later := by
  rw [traceFrom, List.zipIdx_append, List.map_append]
  rfl

end Answer

/- The leaves and the shape of a result, by recursion on its steps. -/
mutual

/-- The results of the statements in a result, in order. -/
def Result.leaves : Result → List Result
  | .rows table action rowCount found => [.rows table action rowCount found]
  | .batch steps => Result.leavesOf steps

/-- The results of the statements in several results. -/
def Result.leavesOf : List Result → List Result
  | [] => []
  | step :: rest => step.leaves ++ Result.leavesOf rest

end

mutual

/-- The shape of a result. -/
def Result.outline : Result → Outline
  | .rows .. => .leaf
  | .batch steps => .batch (Result.outlines steps)

/-- The shapes of several results. -/
def Result.outlines : List Result → List Outline
  | [] => []
  | step :: rest => step.outline :: Result.outlines rest

end

namespace Execution

open Session

variable {σ : Type} (db : Database σ)

/-! ## Plans -/

/-- How the statements of a plan go, with the answers: they are sent in their order, and they are
all done, or the first that is not done is the last that is sent. -/
inductive Proceeds (leaves : List Statement) (answers : List Answer) :
    Transcript → Ending Unit → Prop
  | through (h : answers.map Answer.statement = leaves) :
      Proceeds leaves answers (answers.map Answer.exchange) (.returned ())
  | stopped {s : Statement} {rest : List Statement} {reply : Reply}
      (h : answers.map Answer.statement ++ s :: rest = leaves) (hreply : reply.isDone = false) :
      Proceeds leaves answers (answers.map Answer.exchange ++ [(s.event, reply)]) reply.ending

namespace Proceeds

variable {leaves more : List Statement} {answers later : List Answer} {sent others : Transcript}
  {ending : Ending Unit}

theorem one (s : Statement) (found : Rowset) :
    Proceeds [s] [⟨s, found⟩] [(s.event, .done found)] (.returned ()) :=
  .through rfl

theorem one_stopped (s : Statement) {reply : Reply} (h : reply.isDone = false) :
    Proceeds [s] [] [(s.event, reply)] reply.ending := by
  have : Proceeds [s] [] ([].map Answer.exchange ++ [(s.event, reply)]) reply.ending :=
    .stopped rfl h
  exact this

/-- After statements that were all done others can be sent. -/
theorem append (h : Proceeds leaves answers sent (.returned ()))
    (h' : Proceeds more later others ending) :
    Proceeds (leaves ++ more) (answers ++ later) (sent ++ others) ending := by
  generalize hdone : Ending.returned () = done at h
  cases h with
  | stopped _ hreply =>
      rw [Reply.ending_eq_returned.mp hdone.symm] at hreply
      cases hreply
  | through h =>
      cases h' with
      | through h' =>
          rw [← List.map_append]
          exact .through (by rw [List.map_append, h, h'])
      | stopped h' hreply =>
          rw [← List.append_assoc, ← List.map_append]
          exact .stopped (by rw [List.map_append, List.append_assoc, h, h']) hreply

/-- What comes after a statement that was not done plays no part. -/
theorem append_leaves (h : Proceeds leaves answers sent ending) (hending : ending ≠ .returned ())
    (more : List Statement) : Proceeds (leaves ++ more) answers sent ending := by
  cases h with
  | through => exact absurd rfl hending
  | stopped h hreply => exact .stopped (by rw [← h, List.append_assoc]; rfl) hreply

theorem isStatement (h : Proceeds leaves answers sent ending) :
    ∀ x ∈ sent, x.1.IsStatement := by
  have answered : ∀ x ∈ answers.map Answer.exchange, x.1.IsStatement := by
    intro x hx
    obtain ⟨a, -, rfl⟩ := List.mem_map.mp hx
    trivial
  cases h with
  | through => exact answered
  | stopped => exact List.forall_mem_append.mpr ⟨answered, List.forall_mem_singleton.mpr trivial⟩

/-- The database gets to see the statements from the first one on, in their order. -/
theorem wires_prefix (h : Proceeds leaves answers sent ending) :
    sent.wires <+: leaves.map Statement.wire := by
  have answered : Transcript.wires (answers.map Answer.exchange) =
      (answers.map Answer.statement).map Statement.wire := by
    calc Transcript.wires (answers.map Answer.exchange)
        = answers.filterMap (some ∘ Statement.wire ∘ Answer.statement) := List.filterMap_map
      _ = answers.map (Statement.wire ∘ Answer.statement) := congrFun List.filterMap_eq_map answers
      _ = (answers.map Answer.statement).map Statement.wire := List.map_map.symm
  cases h with
  | through h =>
      have all := answered.trans (congrArg (List.map Statement.wire) h)
      exact all ▸ List.prefix_rfl
  | @stopped s rest reply h hreply =>
      have last : Transcript.wires [(s.event, reply)] = [s.wire] := rfl
      rw [Transcript.wires_append, answered, last, ← h]
      exact ⟨rest.map Statement.wire, by simp⟩

theorem eq_of_returned (h : Proceeds leaves answers sent (.returned ())) :
    answers.map Answer.statement = leaves ∧ sent = answers.map Answer.exchange := by
  generalize hdone : Ending.returned () = done at h
  cases h with
  | through h => exact ⟨h, rfl⟩
  | stopped _ hreply =>
      rw [Reply.ending_eq_returned.mp hdone.symm] at hreply
      cases hreply

end Proceeds

/-- Statements are carried out from one progress to another, and the trace grows by the answers. -/
structure Traces (dryRun : Bool) (leaves : List Statement) (p : Progress σ)
    (answers : List Answer) (sent : Transcript) (ending : Ending Unit) (p' : Progress σ) :
    Prop where
  exchanged : p.session.Exchanges db sent p'.session
  proceeds : Proceeds leaves answers sent ending
  traced : p'.trace = p.trace ++ Answer.traceFrom dryRun p.trace.length answers

namespace Traces

variable {db} {dryRun : Bool} {leaves more : List Statement} {p p' p'' : Progress σ}
  {answers later : List Answer} {sent others : Transcript} {ending : Ending Unit}

theorem trans (h : Traces db dryRun leaves p answers sent (.returned ()) p')
    (h' : Traces db dryRun more p' later others ending p'') :
    Traces db dryRun (leaves ++ more) p (answers ++ later) (sent ++ others) ending p'' where
  exchanged := h.exchanged.trans h'.exchanged
  proceeds := h.proceeds.append h'.proceeds
  traced := by
    rw [h'.traced, h.traced, List.length_append, Answer.length_traceFrom, Answer.traceFrom_append,
      List.append_assoc]

theorem append_leaves (h : Traces db dryRun leaves p answers sent ending p')
    (hending : ending ≠ .returned ()) (more : List Statement) :
    Traces db dryRun (leaves ++ more) p answers sent ending p' :=
  { h with proceeds := h.proceeds.append_leaves hending more }

end Traces

theorem traces_runStatement (dryRun : Bool) (s : Statement) (p : Progress σ) :
    ∃ answers sent, Traces db dryRun [s] p answers sent (runStatement db dryRun s p).1.bare
        (runStatement db dryRun s p).2 ∧
      ∀ result, (runStatement db dryRun s p).1 = .returned result →
        result.outline = .leaf ∧ result.leaves = answers.map Answer.result := by
  have exchanged := Exchanges.one db p.session s.event
  rw [runStatement]
  rcases hsend : p.session.send db (.statement s.sql s.params) with ⟨reply, session⟩
  rw [Statement.event, hsend] at exchanged
  cases reply with
  | done found =>
      refine ⟨[⟨s, found⟩], _, ⟨exchanged, .one s found, rfl⟩, ?_⟩
      intro result h
      cases h
      exact ⟨rfl, rfl⟩
  | failed f =>
      refine ⟨[], _, ⟨exchanged, .one_stopped s rfl, (List.append_nil _).symm⟩, ?_⟩
      exact fun _ h => by cases h
  | silent =>
      refine ⟨[], _, ⟨exchanged, .one_stopped s rfl, (List.append_nil _).symm⟩, ?_⟩
      exact fun _ h => by cases h

/- What carrying out a plan leaves in its trace and its result, by recursion on its steps. -/
mutual

theorem traces_runPlan (dryRun : Bool) : ∀ (plan : Plan) (p : Progress σ),
    ∃ answers sent, Traces db dryRun plan.leaves p answers sent (runPlan db dryRun plan p).1.bare
        (runPlan db dryRun plan p).2 ∧
      ∀ result, (runPlan db dryRun plan p).1 = .returned result →
        result.outline = plan.outline ∧ result.leaves = answers.map Answer.result
  | .leaf s, p => traces_runStatement db dryRun s p
  | .batch steps, p => by
      obtain ⟨answers, sent, traces, results⟩ := traces_runSteps dryRun steps p
      refine ⟨answers, sent, ?_⟩
      rw [runPlan]
      rcases hsteps : runSteps db dryRun steps p with ⟨ending, later⟩
      rw [hsteps] at traces results
      cases ending with
      | raised f => exact ⟨traces, fun _ h => nomatch h⟩
      | hung => exact ⟨traces, fun _ h => nomatch h⟩
      | returned found =>
          refine ⟨traces, ?_⟩
          intro result h
          cases h
          obtain ⟨outlines, leaves⟩ := results found rfl
          exact ⟨by rw [Result.outline, Plan.outline, outlines], leaves⟩

theorem traces_runSteps (dryRun : Bool) : ∀ (steps : List Plan) (p : Progress σ),
    ∃ answers sent, Traces db dryRun (Plan.leavesOf steps) p answers sent
        (runSteps db dryRun steps p).1.bare (runSteps db dryRun steps p).2 ∧
      ∀ results, (runSteps db dryRun steps p).1 = .returned results →
        Result.outlines results = Plan.outlines steps ∧
          Result.leavesOf results = answers.map Answer.result
  | [], p => by
      refine ⟨[], [], ⟨.nil _, .through rfl, (List.append_nil _).symm⟩, ?_⟩
      intro results h
      cases h
      exact ⟨rfl, rfl⟩
  | step :: rest, p => by
      obtain ⟨answers, sent, traces, results⟩ := traces_runPlan dryRun step p
      rw [runSteps, Plan.leavesOf]
      rcases hstep : runPlan db dryRun step p with ⟨ending, later⟩
      rw [hstep] at traces results
      -- a step that does not return is the last one, whatever was planned after it
      cases ending with
      | raised f =>
          exact ⟨answers, sent, traces.append_leaves (fun h => nomatch h) _, fun _ h => nomatch h⟩
      | hung =>
          exact ⟨answers, sent, traces.append_leaves (fun h => nomatch h) _, fun _ h => nomatch h⟩
      | returned found =>
          obtain ⟨others, sent', traces', results'⟩ := traces_runSteps dryRun rest later
          refine ⟨answers ++ others, sent ++ sent', ?_⟩
          dsimp only
          rcases hrest : runSteps db dryRun rest later with ⟨ending, last⟩
          rw [hrest] at traces' results'
          cases ending with
          | raised f => exact ⟨traces.trans traces', fun _ h => nomatch h⟩
          | hung => exact ⟨traces.trans traces', fun _ h => nomatch h⟩
          | returned others =>
              refine ⟨traces.trans traces', ?_⟩
              intro results h
              cases h
              obtain ⟨outline, leaves⟩ := results found rfl
              obtain ⟨outlines, leaves'⟩ := results' others rfl
              exact ⟨by rw [Result.outlines, Plan.outlines, outline, outlines],
                by rw [Result.leavesOf, leaves, leaves', List.map_append]⟩

end

/-! ## Requests -/

/-- What is sent of a plan, with the answers: nothing before its transaction has begun, and then
its statements in their order, up to the first that is not done. -/
structure Sent (plan : Plan) (begun : Prop) (answers : List Answer) (transcript : Transcript) :
    Prop where
  /-- The database gets to see the statements of the plan from the first one on, with their texts
  and their parameters. -/
  seen : transcript.wires <+: plan.leaves.map Statement.wire
  inOrder : begun → ∃ ending, Proceeds plan.leaves answers transcript.statements ending
  idle : ¬ begun → transcript.statements = [] ∧ answers = []

/-- What is told of a plan, with the answers. -/
structure Tells (plan : Plan) (dryRun : Bool) (answers : List Answer) (transcript : Transcript)
    (trace : List TraceEntry) (outcome : Except ErrorDetail Result) : Prop where
  traced : trace = Answer.traceFrom dryRun 0 answers
  /-- A success means that all statements were sent and done, and its result has their shape. -/
  succeeded : ∀ result, outcome = .ok result →
    answers.map Answer.statement = plan.leaves ∧
      transcript.statements = answers.map Answer.exchange ∧
      result.outline = plan.outline ∧ result.leaves = answers.map Answer.result

theorem Sent.of_proceeds {plan : Plan} {begun : Prop} {answers : List Answer}
    {transcript sent : Transcript} {ending : Ending Unit}
    (h : Proceeds plan.leaves answers sent ending) (hsent : transcript.statements = sent)
    (hbegun : begun) : Sent plan begun answers transcript where
  seen := by
    rw [← Transcript.wires_statements, hsent]
    exact h.wires_prefix
  inOrder _ := ⟨ending, hsent ▸ h⟩
  idle h := absurd hbegun h

/-- A request that never gets to its statements sends and tells nothing of them. -/
theorem Sent.of_unbegun {plan : Plan} {begun : Prop} {transcript : Transcript}
    (hstatements : transcript.statements = []) (hbegun : ¬ begun) :
    Sent plan begun [] transcript where
  seen := by
    rw [← Transcript.wires_statements, hstatements]
    exact List.nil_prefix
  inOrder h := absurd h hbegun
  idle _ := ⟨hstatements, rfl⟩

/-- What else is sent besides the statements makes no difference. -/
theorem Sent.recast {plan : Plan} {begun begun' : Prop} {answers : List Answer}
    {transcript outer : Transcript} (h : Sent plan begun answers transcript)
    (hstatements : outer.statements = transcript.statements) (hbegun : begun' ↔ begun) :
    Sent plan begun' answers outer where
  seen := by
    rw [← Transcript.wires_statements, hstatements, Transcript.wires_statements]
    exact h.seen
  inOrder h' := hstatements ▸ h.inOrder (hbegun.mp h')
  idle h' := hstatements ▸ h.idle (mt hbegun.mpr h')

theorem Tells.of_error {plan : Plan} {dryRun : Bool} {answers : List Answer}
    {transcript : Transcript} {trace : List TraceEntry} {e : ErrorDetail}
    (h : trace = Answer.traceFrom dryRun 0 answers) :
    Tells plan dryRun answers transcript trace (.error e) where
  traced := h
  succeeded _ h := nomatch h

theorem wire?_finishing (dryRun : Bool) : (finishing dryRun).wire? = none := by
  cases dryRun <;> rfl

/-- Finishing a transaction sends one event, and tells the trace there is, with the result there is
or with a failure. -/
theorem tells_finish (dryRun : Bool) (result : Result) (p : Progress σ) :
    ∃ reply, p.session.Exchanges db [(finishing dryRun, reply)] (finish db dryRun result p).2 ∧
      ∀ done, (finish db dryRun result p).1 = .returned done →
        done.trace = p.trace ∧ ∀ found, done.outcome = .ok found → found = result := by
  obtain ⟨reply, last, hfinish, finished⟩ := exchanges_perform db p.session (finishing dryRun)
  rw [finishing] at hfinish
  rw [finish, hfinish]
  refine ⟨reply, ?_⟩
  cases reply with
  | silent => exact ⟨finished, fun _ h => by cases h⟩
  | failed f =>
      refine ⟨finished, fun done h => ?_⟩
      cases h
      exact ⟨rfl, fun _ h => by cases h⟩
  | done r =>
      refine ⟨finished, fun done h => ?_⟩
      cases h
      exact ⟨rfl, fun _ h => (Except.ok.inj h).symm⟩

/-- A transaction of one's own on an open connection. -/
theorem tells_runOwned (dryRun : Bool) (plan : Plan) (session : Session σ) :
    ∃ answers transcript,
      session.Exchanges db transcript (runOwned db dryRun plan session).2 ∧
      Sent plan (transcript.Did .begin) answers transcript ∧
      ∀ done, (runOwned db dryRun plan session).1 = .returned done →
        Tells plan dryRun answers transcript done.trace done.outcome := by
  obtain ⟨reply, opened, hbegin, begun⟩ := exchanges_perform db session .begin
  have unbegun (hreply : reply.isDone = false) :
      Sent plan (Transcript.Did [(.begin, reply)] .begin) [] [(.begin, reply)] :=
    .of_unbegun (Transcript.statements_cons_of_not rfl) (by simp [hreply])
  rw [runOwned, hbegin]
  cases reply with
  | failed f =>
      refine ⟨[], _, begun, unbegun rfl, ?_⟩
      intro done h
      cases h
      exact .of_error rfl
  | silent => exact ⟨[], _, begun, unbegun rfl, fun _ h => by cases h⟩
  | done b =>
      obtain ⟨answers, sent, ⟨run, proceeds, traced⟩, results⟩ :=
        traces_runPlan db dryRun plan ⟨opened, []⟩
      have only := Transcript.statements_of_forall proceeds.isStatement
      dsimp only [Reply.ending]
      rcases hrun : runPlan db dryRun plan ⟨opened, []⟩ with ⟨ending, p⟩
      rw [hrun] at run proceeds traced results
      have reached := begun.trans run
      have trace : p.trace = Answer.traceFrom dryRun 0 answers := traced
      have conversation (e : Event) (reply : Reply) (he : e.wire? = none) :
          Sent plan (Transcript.Did ((.begin, .done b) :: (sent ++ [(e, reply)])) .begin) answers
            ((.begin, .done b) :: (sent ++ [(e, reply)])) :=
        .of_proceeds proceeds ((Transcript.statements_around _ _ rfl he).trans only)
          (by simp [Reply.isDone])
      cases ending with
      | hung =>
          refine ⟨answers, _, reached, .of_proceeds proceeds ?_ (by simp [Reply.isDone]), ?_⟩
          · rw [List.singleton_append, Transcript.statements_cons_of_not rfl, only]
          · exact fun _ h => by cases h
      | raised f =>
          obtain ⟨reply, last, hundo, undone⟩ := exchanges_perform db p.session .rollback
          refine ⟨answers, _, ?_, conversation .rollback reply rfl, ?_⟩
          · dsimp only
            rw [hundo]
            cases reply <;> exact reached.trans undone
          · intro done h
            dsimp only at h
            rw [hundo] at h
            -- whether undoing fails is not told, so only silence makes a difference here
            cases reply <;> cases h <;> exact .of_error trace
      | returned result =>
          obtain ⟨reply, finished, told⟩ := tells_finish db dryRun result p
          have around : Transcript.statements
              ((.begin, .done b) :: (sent ++ [(finishing dryRun, reply)])) = sent.statements :=
            Transcript.statements_around _ _ rfl (wire?_finishing dryRun)
          refine ⟨answers, _, reached.trans finished,
            conversation _ reply (wire?_finishing dryRun), fun done h => ?_⟩
          obtain ⟨traces, found⟩ := told done h
          refine ⟨traces.trans trace, fun result' h => ?_⟩
          obtain rfl := found result' h
          obtain ⟨leaves, sent_eq⟩ := proceeds.eq_of_returned
          obtain ⟨outline, found⟩ := results result' rfl
          exact ⟨leaves, around.trans (only.trans sent_eq), outline, found⟩

/-- What the response to a request recounts of the plan, with the answers. -/
structure Recounts (command : Command) (plan : Plan) (dryRun : Bool) (answers : List Answer)
    (transcript : Transcript) (response : Response) : Prop where
  /-- The trace has one entry for each answer, and they are numbered from zero. -/
  traced : response.trace = Answer.traceFrom dryRun 0 answers
  /-- A success means that all statements were sent and done, and the result is a tree of the shape
  of the command with one answer at each leaf. -/
  succeeded : response.success = true →
    answers.map Answer.statement = plan.leaves ∧
      transcript.statements = answers.map Answer.exchange ∧
      ∃ result, response.result? = some result ∧ result.outline = command.outline ∧
        result.leaves = answers.map Answer.result

theorem Tells.recounts {k : Compiler} {r : Request} {plan : Plan} {dryRun : Bool}
    {answers : List Answer} {transcript : Transcript} {response : Response}
    (hplan : k.compile r.scope r.command = .ok plan)
    (h : Tells plan dryRun answers transcript response.trace response.outcome) :
    Recounts r.command plan dryRun answers transcript response where
  traced := h.traced
  succeeded hsuccess := by
    unfold Response.success at hsuccess
    unfold Response.result?
    cases houtcome : response.outcome with
    | error e =>
        rw [houtcome] at hsuccess
        cases hsuccess
    | ok result =>
        obtain ⟨leaves, sent, outline, found⟩ := h.succeeded result houtcome
        rw [Compiler.outline_of_compile r.command hplan] at outline
        exact ⟨leaves, sent, result, rfl, outline, found⟩

/-- A guest in a transaction that somebody else has opened. -/
theorem recounts_executeInTransaction {k : Compiler} {r : Request} {plan : Plan}
    (hplan : k.compile r.scope r.command = .ok plan) (id : String) (session : Session σ) :
    ∃ answers transcript,
      session.Exchanges db transcript (executeInTransaction db k r id session).2 ∧
      Sent plan True answers transcript ∧
      ∀ response, (executeInTransaction db k r id session).1 = .returned response →
        Recounts r.command plan false answers transcript response := by
  obtain ⟨answers, sent, ⟨run, proceeds, traced⟩, results⟩ :=
    traces_runPlan db false plan ⟨session, []⟩
  have only := Transcript.statements_of_forall proceeds.isStatement
  refine ⟨answers, sent, ?_⟩
  rw [executeInTransaction, hplan]
  dsimp only
  rcases hrun : runPlan db false plan ⟨session, []⟩ with ⟨ending, p⟩
  rw [hrun] at run proceeds traced results
  have trace : p.trace = Answer.traceFrom false 0 answers := traced
  cases ending with
  | hung => exact ⟨run, .of_proceeds proceeds only trivial, fun _ h => by cases h⟩
  | raised f =>
      refine ⟨run, .of_proceeds proceeds only trivial, ?_⟩
      intro response h
      cases h
      exact (Tells.of_error trace).recounts hplan
  | returned result =>
      refine ⟨run, .of_proceeds proceeds only trivial, ?_⟩
      intro response h
      cases h
      obtain ⟨leaves, sent_eq⟩ := proceeds.eq_of_returned
      obtain ⟨outline, found⟩ := results result rfl
      have tells : Tells plan false answers sent p.trace (.ok result) := by
        refine ⟨trace, fun _ h => ?_⟩
        cases h
        exact ⟨leaves, only.trans sent_eq, outline, found⟩
      exact tells.recounts hplan

/-- A request in a transaction of its own. -/
theorem recounts_execute {k : Compiler} {r : Request} {plan : Plan}
    (hplan : k.compile r.scope r.command = .ok plan) (id : String) (session : Session σ) :
    ∃ answers transcript, session.Exchanges db transcript (execute db k r id session).2 ∧
      Sent plan (transcript.Did .begin) answers transcript ∧
      ∀ response, (execute db k r id session).1 = .returned response →
        Recounts r.command plan r.isDryRun answers transcript response := by
  obtain ⟨reply, opened, hconnect, connected⟩ := exchanges_perform db session .connect
  rw [execute, hplan]
  dsimp only
  rw [hconnect]
  have unconnected :
      Sent plan (Transcript.Did [(.connect, reply)] .begin) [] [(.connect, reply)] :=
    .of_unbegun (Transcript.statements_cons_of_not rfl) (by simp)
  cases reply with
  | silent => exact ⟨[], _, connected, unconnected, fun _ h => by cases h⟩
  | failed f =>
      refine ⟨[], _, connected, unconnected, ?_⟩
      intro response h
      cases h
      exact (Tells.of_error rfl).recounts hplan
  | done c =>
      obtain ⟨answers, inner, run, sent, tells⟩ := tells_runOwned db r.isDryRun plan opened
      dsimp only [Reply.ending]
      rcases hrun : runOwned db r.isDryRun plan opened with ⟨ending, ended⟩
      rw [hrun] at run tells
      have reached := connected.trans run
      have opening : Sent plan (Transcript.Did ((.connect, .done c) :: inner) .begin) answers
          ((.connect, .done c) :: inner) :=
        sent.recast (Transcript.statements_cons_of_not rfl) (by simp)
      cases ending with
      | raised f => exact ⟨answers, _, reached, opening, fun _ h => by cases h⟩
      | hung => exact ⟨answers, _, reached, opening, fun _ h => by cases h⟩
      | returned done =>
          obtain ⟨reply, last, hclose, closed⟩ := exchanges_perform db ended .close
          have around : Transcript.statements
              ((.connect, .done c) :: (inner ++ [(.close, reply)])) = inner.statements :=
            Transcript.statements_around _ _ rfl rfl
          have conversation : Sent plan
              (Transcript.Did ((.connect, .done c) :: (inner ++ [(.close, reply)])) .begin) answers
              ((.connect, .done c) :: (inner ++ [(.close, reply)])) :=
            sent.recast around (by simp)
          obtain ⟨trace, succeeded⟩ := tells done rfl
          dsimp only
          rw [hclose]
          refine ⟨answers, _, ?_, conversation, ?_⟩
          · cases reply <;> exact reached.trans closed
          · intro response h
            cases reply with
            | silent => cases h
            | failed f =>
                cases h
                exact (Tells.of_error trace).recounts hplan
            | done r' =>
                cases h
                have told : Tells plan r.isDryRun answers
                    ((.connect, .done c) :: (inner ++ [(.close, .done r')])) done.trace
                    done.outcome :=
                  ⟨trace, fun result h => by rw [around]; exact succeeded result h⟩
                exact told.recounts hplan

/-- What a request sends of its plan is the beginning of the list of its statements, up to the first
that is not done, and what its response tells is read off what the statements came back with: the
trace from those that were done, and the result of a success from all of them. It is so in a
transaction of its own, as soon as that has begun, and as a guest. A request that is refused sends
nothing. -/
theorem response_recounts_plan (db : Database σ) (k : Compiler) (r : Request) (id : String)
    (session : Session σ) :
    match k.compile r.scope r.command with
    | .error _ =>
        (execute db k r id session).2 = session ∧
          (executeInTransaction db k r id session).2 = session
    | .ok plan =>
        (∃ answers transcript, session.Exchanges db transcript (execute db k r id session).2 ∧
          Sent plan (transcript.Did .begin) answers transcript ∧
          ∀ response, (execute db k r id session).1 = .returned response →
            Recounts r.command plan r.isDryRun answers transcript response) ∧
        (∃ answers transcript,
          session.Exchanges db transcript (executeInTransaction db k r id session).2 ∧
          Sent plan True answers transcript ∧
          ∀ response, (executeInTransaction db k r id session).1 = .returned response →
            Recounts r.command plan false answers transcript response) := by
  cases hplan : k.compile r.scope r.command with
  | error refusal => simp only [execute, executeInTransaction, hplan, and_self]
  | ok plan =>
      exact ⟨recounts_execute db hplan id session,
        recounts_executeInTransaction db hplan id session⟩

end Execution

end Tenancy
