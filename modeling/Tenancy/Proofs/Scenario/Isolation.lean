/-
# Scenarios apart

Scenarios are run one after the other over the same database, and each of them is accounted for on
its own. A scenario has one result, whatever it comes to: it cannot be translated, the translator
breaks down, it is not carried out, or it is carried out and fails or succeeds. What the others
come to shows in it only through the state in which they leave the database, and through the
number of ids that they have used up. So a scenario may as well be run alone, in that state and
with what is left of the ids, and what all scenarios send is what each of them sends, in order.

A run comes back unless the database leaves an event without a reply. It never raises.
-/

import Tenancy.Proofs.Execution.History
import Tenancy.Proofs.Execution.Protocol
import Tenancy.Proofs.Scenario.Events

namespace Tenancy

open Session

/-! ## Ids -/

/-- What is left of a source once some of its ids have been given out. -/
def IdSource.dropping (ids : IdSource) (issued : Nat) : IdSource :=
  fun n => ids (issued + n)

theorem IdSource.ofRequest_dropping (ids : IdSource) (r : Request) (issued : Nat) :
    ((ids.dropping issued).ofRequest r 0).1 = (ids.ofRequest r issued).1 ∧
      issued + ((ids.dropping issued).ofRequest r 0).2 = (ids.ofRequest r issued).2 := by
  rw [ofRequest, ofRequest]
  cases r.requestId <;> exact ⟨rfl, rfl⟩

namespace ScenarioReport

/-- Every result counts as a success or as a failure. -/
theorem succeeded_add_failed (r : ScenarioReport) :
    r.succeeded + r.failed = r.results.length :=
  Nat.add_sub_cancel' List.countP_le_length

theorem success_iff (r : ScenarioReport) : r.success = true ↔ r.failed = 0 := by
  have total := r.succeeded_add_failed
  rw [success, beq_iff_eq]
  omega

end ScenarioReport

namespace ScenarioRunner

variable {σ : Type} (runner : ScenarioRunner σ)

/-- The id of the result of a scenario with the given index. -/
def idOf (index : Nat) (s : Scenario) : String :=
  s.id.getD ("scenario-" ++ toString (index + 1))

/-! ## One scenario -/

/-- The runner whose source of ids has given some of them out. -/
def resuming (issued : Nat) : ScenarioRunner σ :=
  { runner with ids := runner.ids.dropping issued }

/-- The request that is carried out for a scenario, if any is. It has to be wanted, and it is the
literal request under the scopes and the flags laid over one another, or what the translator has
answered, unless the translator has failed or has broken down. -/
def carried? (d : ScenarioDefaults) (s : Scenario) : Option Request :=
  let own := s.scope.getD Scope.none
  if s.execute then
    match s.request with
    | some given =>
        some { given with
          dryRun := some ((s.dryRun.or given.dryRun).getD d.dryRun)
          scope := own.laidOver (given.scope.laidOver d.scope) }
    | none =>
        match runner.translator
          { input := s.prompt.getD "", dryRun := s.dryRun.getD d.dryRun
            scope := own.laidOver d.scope, options := none } with
        | .ok answer => if answer.success then answer.request else none
        | .error _ => none
  else none

/-- A request is carried out if a scenario asks for one and for it to be carried out. -/
theorem carried?_eq (d : ScenarioDefaults) (s : Scenario) :
    runner.carried? d s =
      match runner.plan d s with
      | .request _ r => if s.execute then some r else none
      | .untranslated _ | .crashed _ => none := by
  unfold carried?
  cases s.execute with
  | false => cases runner.plan d s <;> rfl
  | true =>
      rw [plan]
      cases s.request with
      | some given =>
          dsimp only
          rw [if_pos rfl, if_pos rfl, literalDryRun, literalScope]
          cases s.dryRun <;> rfl
      | none =>
          dsimp only
          rw [if_pos rfl, asked]
          cases runner.translator _ with
          | error breakdown => rfl
          | ok answer =>
              dsimp only
              rw [Translation.usable?]
              cases answer.success <;> cases answer.request <;> rfl

/-- What a scenario sends: what carrying out its request sends, if any is carried out, and nothing
otherwise. -/
def sent (d : ScenarioDefaults) (s : Scenario) (issued : Nat) (state : σ) : List Event :=
  match runner.carried? d s with
  | some r =>
      (Execution.execute runner.database runner.compiler r (runner.ids.ofRequest r issued).1
        ⟨state, []⟩).2.log
  | none => []

/-- Whatever happened before a scenario matters only through the state of the database and the
number of ids that are used up. The scenario's own id matters only through that of its result. -/
theorem runOne_eq_resuming (d : ScenarioDefaults) (id : String) (s : Scenario)
    (other : Option String) (issued : Nat) (session : Session σ) :
    runner.runOne d id s issued session =
      let alone := (runner.resuming issued).runOne d id { s with id := other } 0 ⟨session.state, []⟩
      (alone.1, issued + alone.2.1, alone.2.2.behind session.log) := by
  have plan : (runner.resuming issued).plan d { s with id := other } = runner.plan d s := rfl
  have kept : behind session.log ⟨session.state, []⟩ = session := behind_log session
  rw [runOne, runOne, plan]
  cases runner.plan d s with
  | crashed message =>
      dsimp only
      rw [kept]
      rfl
  | untranslated t =>
      dsimp only
      rw [kept]
      rfl
  | request translation r =>
      dsimp only
      cases s.execute with
      | false =>
          rw [Bool.not_false, if_pos rfl, if_pos rfl]
          rw [kept]
          rfl
      | true =>
          obtain ⟨hid, hissued⟩ := runner.ids.ofRequest_dropping r issued
          rw [Bool.not_true, if_neg Bool.false_ne_true, if_neg Bool.false_ne_true,
            Execution.execute_eq_behind, ← hid, ← hissued]
          dsimp only [resuming]
          rcases Execution.execute runner.database runner.compiler r
            ((runner.ids.dropping issued).ofRequest r 0).1 ⟨session.state, []⟩ with ⟨ending, last⟩
          cases ending <;> rfl

/-- What a scenario sends is put behind the events that were sent before. -/
theorem log_runOne (d : ScenarioDefaults) (id : String) (s : Scenario) (issued : Nat)
    (session : Session σ) :
    (runner.runOne d id s issued session).2.2.log =
      session.log ++ runner.sent d s issued session.state := by
  rw [runOne, sent, carried?_eq]
  cases runner.plan d s with
  | crashed message => exact (List.append_nil _).symm
  | untranslated t => exact (List.append_nil _).symm
  | request translation r =>
      dsimp only
      cases s.execute with
      | false => exact (List.append_nil _).symm
      | true =>
          rw [Bool.not_true, if_neg Bool.false_ne_true, if_pos rfl, Execution.execute_eq_behind]
          dsimp only
          rcases Execution.execute runner.database runner.compiler r
            (runner.ids.ofRequest r issued).1 ⟨session.state, []⟩ with ⟨ending, last⟩
          cases ending <;> rfl

/-- A scenario never raises. It comes back, with one result under its id, unless the database
leaves an event without a reply. -/
theorem exchanges_runOne (d : ScenarioDefaults) (id : String) (s : Scenario) (issued : Nat)
    (session : Session σ) :
    ∃ transcript,
      session.Exchanges runner.database transcript (runner.runOne d id s issued session).2.2 ∧
      ((runner.runOne d id s issued session).1 = .hung ∧ transcript.Unanswered ∨
        ∃ result, (runner.runOne d id s issued session).1 = .returned result ∧ result.id = id ∧
          ¬ transcript.Unanswered) := by
  rw [runOne]
  cases runner.plan d s with
  | crashed message => exact ⟨[], .nil _, .inr ⟨_, rfl, rfl, Transcript.not_unanswered_nil⟩⟩
  | untranslated t => exact ⟨[], .nil _, .inr ⟨_, rfl, rfl, Transcript.not_unanswered_nil⟩⟩
  | request translation r =>
      dsimp only
      cases s.execute with
      | false => exact ⟨[], .nil _, .inr ⟨_, rfl, rfl, Transcript.not_unanswered_nil⟩⟩
      | true =>
          obtain ⟨transcript, exchanged, -, silent, ending⟩ :=
            Execution.execute_keeps_protocol runner.database runner.compiler r
              (runner.ids.ofRequest r issued).1 session
          rw [Bool.not_true, if_neg Bool.false_ne_true]
          rcases hrun : Execution.execute runner.database runner.compiler r
            (runner.ids.ofRequest r issued).1 session with ⟨ended, last⟩
          rw [hrun] at exchanged silent ending
          cases ended with
          | hung => exact ⟨transcript, exchanged, .inl ⟨rfl, silent.mp rfl⟩⟩
          | returned response =>
              refine ⟨transcript, exchanged, .inr ⟨_, rfl, rfl, fun unanswered => ?_⟩⟩
              cases silent.mpr unanswered
          | raised f =>
              rcases ending with h | ⟨response, h, -⟩
              · cases h
              · cases h

/-! ## One after the other -/

section RunFrom

variable {d : ScenarioDefaults} {index : Nat} {s : Scenario} {rest : List Scenario}
  {issued issued' : Nat} {session later : Session σ} {result : ScenarioResult}

/-- Where one scenario comes back, the others are run from there. -/
theorem runFrom_cons_of_returned
    (h : runner.runOne d (idOf index s) s issued session = (.returned result, issued', later)) :
    runner.runFrom d index (s :: rest) issued session =
      ((runner.runFrom d (index + 1) rest issued' later).1.map (result :: ·),
        (runner.runFrom d (index + 1) rest issued' later).2) := by
  rw [idOf] at h
  rw [runFrom, h]
  dsimp only
  rcases runner.runFrom d (index + 1) rest issued' later with ⟨ending, out⟩
  cases ending <;> rfl

/-- Where one scenario does not come back, the others are not run. -/
theorem runFrom_cons_of_hung
    (h : runner.runOne d (idOf index s) s issued session = (.hung, issued', later)) :
    runner.runFrom d index (s :: rest) issued session = (.hung, issued', later) := by
  rw [idOf] at h
  rw [runFrom, h]

end RunFrom

/-- Scenarios never raise. They come back unless the database leaves an event without a reply. -/
theorem exchanges_runFrom (d : ScenarioDefaults) (index : Nat) (scenarios : List Scenario)
    (issued : Nat) (session : Session σ) :
    ∃ transcript,
      session.Exchanges runner.database transcript
        (runner.runFrom d index scenarios issued session).2.2 ∧
      ((runner.runFrom d index scenarios issued session).1 = .hung ∧ transcript.Unanswered ∨
        ∃ results, (runner.runFrom d index scenarios issued session).1 = .returned results ∧
          ¬ transcript.Unanswered) := by
  induction scenarios generalizing index issued session with
  | nil => exact ⟨[], .nil _, .inr ⟨[], rfl, Transcript.not_unanswered_nil⟩⟩
  | cons s rest ih =>
      obtain ⟨transcript, exchanged, ended⟩ :=
        runner.exchanges_runOne d (idOf index s) s issued session
      rcases hrun : runner.runOne d (idOf index s) s issued session with ⟨ending, issued', later⟩
      rw [hrun] at exchanged ended
      rcases ended with ⟨rfl, silent⟩ | ⟨result, rfl, -, answered⟩
      · rw [runner.runFrom_cons_of_hung hrun]
        exact ⟨transcript, exchanged, .inl ⟨rfl, silent⟩⟩
      · obtain ⟨others, exchanged', ended'⟩ := ih (index + 1) issued' later
        rw [runner.runFrom_cons_of_returned hrun]
        refine ⟨transcript ++ others, exchanged.trans exchanged', ?_⟩
        rw [Transcript.unanswered_append]
        rcases ended' with ⟨hung, silent⟩ | ⟨results, returned, answered'⟩
        · exact .inl ⟨by rw [hung]; rfl, .inr silent⟩
        · exact .inr ⟨_, by rw [returned]; rfl, not_or.mpr ⟨answered, answered'⟩⟩

/-- Scenarios that came back did so one by one: the first has the first result, and the others
have the other results, run from where the first came back to. -/
theorem of_runFrom_cons {d : ScenarioDefaults} {index : Nat} {s : Scenario} {rest : List Scenario}
    {issued : Nat} {session : Session σ} {results : List ScenarioResult}
    (h : (runner.runFrom d index (s :: rest) issued session).1 = .returned results) :
    ∃ result issued' later others,
      runner.runOne d (idOf index s) s issued session = (.returned result, issued', later) ∧
      result.id = idOf index s ∧ results = result :: others ∧
      (runner.runFrom d (index + 1) rest issued' later).1 = .returned others := by
  obtain ⟨transcript, -, ended⟩ := runner.exchanges_runOne d (idOf index s) s issued session
  rcases hrun : runner.runOne d (idOf index s) s issued session with ⟨ending, issued', later⟩
  rw [hrun] at ended
  rcases ended with ⟨rfl, -⟩ | ⟨result, rfl, hid, -⟩
  · rw [runner.runFrom_cons_of_hung hrun] at h
    cases h
  · rw [runner.runFrom_cons_of_returned hrun] at h
    dsimp only at h
    cases hothers : (runner.runFrom d (index + 1) rest issued' later).1 with
    | raised f =>
        rw [hothers] at h
        cases h
    | hung =>
        rw [hothers] at h
        cases h
    | returned others =>
        rw [hothers] at h
        cases h
        exact ⟨result, issued', later, others, rfl, hid, rfl, hothers⟩

theorem length_of_runFrom {d : ScenarioDefaults} {index : Nat} {scenarios : List Scenario}
    {issued : Nat} {session : Session σ} {results : List ScenarioResult}
    (h : (runner.runFrom d index scenarios issued session).1 = .returned results) :
    results.length = scenarios.length := by
  induction scenarios generalizing index issued session results with
  | nil =>
      cases h
      rfl
  | cons s rest ih =>
      obtain ⟨result, issued', later, others, -, -, rfl, hothers⟩ := runner.of_runFrom_cons h
      rw [List.length_cons, List.length_cons, ih hothers]

/-- Each of the scenarios that came back was run from where its predecessors came back to, has the
result in its own place, and leaves what its successors are run from. -/
theorem turn_of_runFrom {d : ScenarioDefaults} {index : Nat} {scenarios : List Scenario}
    {issued : Nat} {session : Session σ} {results : List ScenarioResult}
    (h : (runner.runFrom d index scenarios issued session).1 = .returned results)
    {n : Nat} {s : Scenario} (hs : scenarios[n]? = some s) :
    ∃ result, results[n]? = some result ∧ result.id = idOf (index + n) s ∧
      runner.runOne d (idOf (index + n) s) s
          (runner.runFrom d index (scenarios.take n) issued session).2.1
          (runner.runFrom d index (scenarios.take n) issued session).2.2 =
        (.returned result, (runner.runFrom d index (scenarios.take (n + 1)) issued session).2) := by
  induction scenarios generalizing index issued session results n with
  | nil => cases hs
  | cons first rest ih =>
      obtain ⟨result, issued', later, others, hrun, hid, rfl, hothers⟩ := runner.of_runFrom_cons h
      cases n with
      | zero =>
          obtain rfl : first = s := by simpa using hs
          refine ⟨result, rfl, hid, ?_⟩
          rw [List.take_succ_cons, runner.runFrom_cons_of_returned hrun]
          exact hrun
      | succ n =>
          obtain ⟨found, hfound, hfoundId, turn⟩ := ih hothers (n := n) (by simpa using hs)
          have place : index + 1 + n = index + (n + 1) := by omega
          rw [place] at hfoundId turn
          refine ⟨found, hfound, hfoundId, ?_⟩
          rw [List.take_succ_cons, List.take_succ_cons, runner.runFrom_cons_of_returned hrun,
            runner.runFrom_cons_of_returned hrun]
          exact turn

/-! ## Reports -/

/-- A run ends as its scenarios do, with a report of their results. -/
theorem run_eq_map (request : ScenarioRequest) (session : Session σ) :
    runner.run request session =
      ((runner.runFrom request.defaults 0 request.scenarios 0 session).1.map ScenarioReport.mk,
        (runner.runFrom request.defaults 0 request.scenarios 0 session).2.2) := by
  rw [run]
  rcases runner.runFrom request.defaults 0 request.scenarios 0 session with ⟨ending, issued, last⟩
  cases ending <;> rfl

theorem runFrom_of_run {request : ScenarioRequest} {session : Session σ} {report : ScenarioReport}
    (h : (runner.run request session).1 = .returned report) :
    (runner.runFrom request.defaults 0 request.scenarios 0 session).1 =
      .returned report.results := by
  rw [run_eq_map] at h
  cases hresults : (runner.runFrom request.defaults 0 request.scenarios 0 session).1 with
  | raised f =>
      rw [hresults] at h
      cases h
  | hung =>
      rw [hresults] at h
      cases h
  | returned results =>
      rw [hresults] at h
      cases h
      rfl

/-- A run of one scenario comes back with its result. -/
theorem runSingle_of_returned {d : ScenarioDefaults} {s : Scenario} {issued : Nat}
    {session last : Session σ} {result : ScenarioResult}
    (h : runner.runOne d (idOf 0 s) s 0 session = (.returned result, issued, last)) :
    runner.run ⟨[s], d⟩ session = (.returned ⟨[result]⟩, last) := by
  rw [run_eq_map, runFrom_cons_of_returned _ h]
  rfl

/-! ## Scenarios alone -/

section Alone

variable (request : ScenarioRequest) (session : Session σ)

/-- How many ids the first scenarios use up, as many of them as the number says. -/
def issuedAfter (n : Nat) : Nat :=
  (runner.runFrom request.defaults 0 (request.scenarios.take n) 0 session).2.1

/-- The state in which the first scenarios leave the database, as many of them as the number
says. -/
def stateAfter (n : Nat) : σ :=
  (runner.after request n session).state

/-- A run of one scenario alone, which keeps its id, in the state in which its predecessors leave
the database and with what they leave of the ids. -/
def alone (n : Nat) (s : Scenario) : Ending ScenarioReport × Session σ :=
  (runner.resuming (runner.issuedAfter request session n)).run
    { request with scenarios := [{ s with id := some (idOf n s) }] }
    ⟨runner.stateAfter request session n, []⟩

/-- What a scenario sends in the state in which its predecessors leave the database. -/
def sentAt (n : Nat) (s : Scenario) : List Event :=
  runner.sent request.defaults s (runner.issuedAfter request session n)
    (runner.stateAfter request session n)

/-- All scenarios are accounted for: there is one result for each, in order and under its id, it is
the result of the scenario run alone, and what was sent is what they send, in order. -/
structure Accounts (report : ScenarioReport) (last : Session σ) : Prop where
  total : report.results.length = request.scenarios.length
  counted : report.succeeded + report.failed = report.results.length
  success : report.success = true ↔ report.failed = 0
  turn : ∀ n s, request.scenarios[n]? = some s → ∃ result, report.results[n]? = some result ∧
    result.id = idOf n s ∧
    runner.alone request session n s =
      (.returned ⟨[result]⟩,
        ⟨runner.stateAfter request session (n + 1), runner.sentAt request session n s⟩)
  log : last.log =
    session.log ++ (request.scenarios.mapIdx (runner.sentAt request session)).flatten

variable {request session} {report : ScenarioReport} {n : Nat} {s : Scenario}

/-- A scenario that was run in its turn has the same result when it is run alone, leaves the
database in the same state and sends the same events. -/
theorem alone_eq_of_turn {result : ScenarioResult}
    (turn : runner.runOne request.defaults (idOf n s) s (runner.issuedAfter request session n)
        (runner.after request n session) =
      (.returned result, runner.issuedAfter request session (n + 1),
        runner.after request (n + 1) session)) :
    runner.alone request session n s =
      (.returned ⟨[result]⟩,
        ⟨runner.stateAfter request session (n + 1), runner.sentAt request session n s⟩) := by
  have log := runner.log_runOne request.defaults (idOf n s) s
    (runner.issuedAfter request session n) (runner.after request n session)
  rw [turn] at log
  rw [runOne_eq_resuming _ _ _ _ (some (idOf n s))] at turn
  rcases hrun : (runner.resuming (runner.issuedAfter request session n)).runOne request.defaults
    (idOf n s) { s with id := some (idOf n s) } 0 ⟨runner.stateAfter request session n, []⟩
    with ⟨ending, issued, last⟩
  rw [stateAfter] at hrun
  rw [hrun] at turn
  obtain ⟨rfl, -, hlast⟩ : ending = .returned result ∧ _ ∧
      last.behind (runner.after request n session).log = runner.after request (n + 1) session := by
    simpa using turn
  -- both logs have the same events in front, so the scenario sent the same
  rw [← hlast] at log
  have sent : last.log = runner.sentAt request session n s := List.append_cancel_left log
  have state : last.state = runner.stateAfter request session (n + 1) := by
    rw [stateAfter, ← hlast]
    rfl
  rw [alone, ← sent, ← state]
  exact runSingle_of_returned _ (s := { s with id := some (idOf n s) }) hrun

/-- A scenario that came back in its turn has a result in its own place, which it also has alone. -/
theorem exists_turn (h : (runner.run request session).1 = .returned report)
    (hs : request.scenarios[n]? = some s) :
    ∃ result, report.results[n]? = some result ∧ result.id = idOf n s ∧
      runner.runOne request.defaults (idOf n s) s (runner.issuedAfter request session n)
          (runner.after request n session) =
        (.returned result, runner.issuedAfter request session (n + 1),
          runner.after request (n + 1) session) := by
  have turn := runner.turn_of_runFrom (runFrom_of_run runner h) hs
  rwa [Nat.zero_add] at turn

/-- The log grows by what each scenario sends in its turn. -/
theorem log_after (h : (runner.run request session).1 = .returned report)
    (hn : n ≤ request.scenarios.length) :
    (runner.after request n session).log =
      session.log ++
        ((request.scenarios.take n).mapIdx (runner.sentAt request session)).flatten := by
  induction n with
  | zero => simp [after_zero]
  | succ n ih =>
      obtain ⟨s, hs⟩ : ∃ s, request.scenarios[n]? = some s :=
        ⟨_, List.getElem?_eq_getElem (Nat.lt_of_succ_le hn)⟩
      obtain ⟨result, -, -, turn⟩ := runner.exists_turn h hs
      have sent := runner.log_runOne request.defaults (idOf n s) s
        (runner.issuedAfter request session n) (runner.after request n session)
      rw [turn] at sent
      have place : (request.scenarios.take n).length = n :=
        List.length_take_of_le (Nat.le_of_succ_le hn)
      rw [List.take_add_one, hs, Option.toList_some, List.mapIdx_append, List.flatten_append,
        ← List.append_assoc, ← ih (Nat.le_of_succ_le hn)]
      simpa [place, sentAt, stateAfter] using sent

end Alone

/-- **Scenarios are isolated and all accounted for.** Whatever the translator and the database do,
a run does not raise, and it comes back unless the database leaves an event without a reply. When
it comes back, there is one result for each scenario, which is that of the scenario run alone, and
what was sent is what each scenario sends, in order. -/
theorem run_accounts (request : ScenarioRequest) (session : Session σ) :
    ∃ transcript,
      session.Exchanges runner.database transcript (runner.run request session).2 ∧
      ((runner.run request session).1 = .hung ∧ transcript.Unanswered ∨
        ∃ report, (runner.run request session).1 = .returned report ∧ ¬ transcript.Unanswered ∧
          runner.Accounts request session report (runner.run request session).2) := by
  obtain ⟨transcript, exchanged, ended⟩ :=
    runner.exchanges_runFrom request.defaults 0 request.scenarios 0 session
  rw [run_eq_map]
  refine ⟨transcript, exchanged, ?_⟩
  rcases ended with ⟨hung, silent⟩ | ⟨results, returned, answered⟩
  · exact .inl ⟨by rw [hung]; rfl, silent⟩
  · have came : (runner.run request session).1 = .returned ⟨results⟩ := by
      rw [run_eq_map, returned]
      rfl
    refine .inr ⟨⟨results⟩, by rw [returned]; rfl, answered, ?_⟩
    exact
      { total := runner.length_of_runFrom returned
        counted := ScenarioReport.succeeded_add_failed _
        success := ScenarioReport.success_iff _
        turn := fun n s hs => by
          obtain ⟨result, hresult, hid, turn⟩ := runner.exists_turn came hs
          exact ⟨result, hresult, hid, runner.alone_eq_of_turn turn⟩
        log := by
          have log := runner.log_after came (Nat.le_refl _)
          rwa [List.take_length, after_length, run_eq_map] at log }

end ScenarioRunner

end Tenancy
