/-
# The events of scenarios

Scenarios are run one after the other, so what is sent during one of them lies between the session
that the earlier ones leave and the session that it leaves itself. Whatever the others are, that is
nothing but what carries out the request which the scenario asks for, in a transaction of its own. A
scenario that asks for nothing is silent, and so is every scenario after one that never comes back.
-/

import Tenancy.Proofs.Execution.Events
import Tenancy.Scenario.Run

namespace Tenancy.ScenarioRunner

open Session

variable {σ : Type} (runner : ScenarioRunner σ)

/-! ## One scenario -/

variable {runner} in
/-- What a scenario asks for is its literal request, with its own flag and scope, or else what the
translator answers. -/
theorem plan_cases {d : ScenarioDefaults} {s : Scenario} {translation : Option Translation}
    {r : Request} (h : runner.plan d s = .request translation r) :
    (∃ given, s.request = some given ∧
      r = { given with
        dryRun := some (literalDryRun d s given), scope := literalScope d s given }) ∨
    (s.request = none ∧ ∃ t, runner.translator (asked d s) = .ok t ∧ t.usable? = some r) := by
  unfold plan at h
  split at h
  · rename_i given hrequest
    cases h
    exact .inl ⟨given, hrequest, rfl⟩
  · rename_i hrequest
    split at h
    · cases h
    · rename_i t ht
      split at h
      · rename_i answer hanswer
        cases h
        exact .inr ⟨hrequest, t, ht, hanswer⟩
      · cases h

/-- The event belongs to carrying out what a scenario asks for. -/
def Serves (d : ScenarioDefaults) (s : Scenario) (e : Event) : Prop :=
  ∃ translation r, runner.plan d s = .request translation r ∧
    Execution.Conducts runner.compiler r e

/-- A scenario sends nothing but what carries out the request it asks for. -/
theorem follows_runOne (d : ScenarioDefaults) (id : String) (s : Scenario) (issued : Nat)
    (session : Session σ) :
    session.Follows (runner.Serves d s) (runner.runOne d id s issued session).2.2 := by
  rw [runOne]
  cases hplan : runner.plan d s with
  | crashed message => exact Follows.refl _ session
  | untranslated t => exact Follows.refl _ session
  | request translation r =>
      cases s.execute with
      | false => exact Follows.refl _ session
      | true =>
          let requestId := (runner.ids.ofRequest r issued).1
          have run : session.Follows (runner.Serves d s)
              (Execution.execute runner.database runner.compiler r requestId session).2 :=
            (Execution.conducts_execute runner.database runner.compiler r requestId session).mono
              fun e he => ⟨translation, r, hplan, he⟩
          dsimp only
          rw [Bool.not_true, if_neg Bool.false_ne_true]
          rcases hrun : Execution.execute runner.database runner.compiler r requestId session with
            ⟨ending, later⟩
          rw [hrun] at run
          cases ending with
          | returned response => exact run
          | raised f => exact run
          | hung => exact run

/-! ## One after the other -/

/-- The session that the first scenarios leave, as many of them as the number says. -/
def after (request : ScenarioRequest) (n : Nat) (session : Session σ) : Session σ :=
  (runner.runFrom request.defaults 0 (request.scenarios.take n) 0 session).2.2

theorem after_zero (request : ScenarioRequest) (session : Session σ) :
    runner.after request 0 session = session := rfl

/-- The session that all scenarios leave is that of the whole run. -/
theorem after_length (request : ScenarioRequest) (session : Session σ) :
    runner.after request request.scenarios.length session = (runner.run request session).2 := by
  rw [after, run, List.take_length]
  rcases runner.runFrom request.defaults 0 request.scenarios 0 session with ⟨ending, issued, later⟩
  cases ending <;> rfl

/-- One more scenario is run from where the others have come back to, and not at all if they have
not. -/
theorem runFrom_concat (d : ScenarioDefaults) (index : Nat) (scenarios : List Scenario)
    (s : Scenario) (issued : Nat) (session : Session σ) :
    (runner.runFrom d index (scenarios ++ [s]) issued session).2.2 =
      match runner.runFrom d index scenarios issued session with
      | (.returned _, issued, session) =>
          (runner.runOne d (s.id.getD ("scenario-" ++ toString (index + scenarios.length + 1))) s
            issued session).2.2
      | (_, _, session) => session := by
  induction scenarios generalizing index issued session with
  | nil =>
      rw [List.nil_append, runFrom, runFrom, List.length_nil, Nat.add_zero]
      dsimp only
      rcases runner.runOne d (s.id.getD ("scenario-" ++ toString (index + 1))) s issued session with
        ⟨ending, issued', later⟩
      cases ending <;> rfl
  | cons first rest ih =>
      rw [List.cons_append, runFrom, runFrom]
      rcases runner.runOne d (first.id.getD ("scenario-" ++ toString (index + 1))) first issued
        session with ⟨ending, issued', later⟩
      cases ending with
      | raised f => rfl
      | hung => rfl
      | returned r =>
          have place : index + 1 + rest.length = index + (first :: rest).length := by
            rw [List.length_cons]
            omega
          have others := ih (index + 1) issued' later
          rw [place] at others
          dsimp only
          rcases hall : runner.runFrom d (index + 1) (rest ++ [s]) issued' later with
            ⟨ending, issued'', last⟩
          rw [hall] at others
          rcases hrest : runner.runFrom d (index + 1) rest issued' later with
            ⟨ending', issued''', last'⟩
          rw [hrest] at others
          -- how the others end is handed on either way, and the session with it
          cases ending <;> cases ending' <;> exact others

/-- What is sent during a scenario belongs to it. -/
theorem follows_after {request : ScenarioRequest} {n : Nat} {s : Scenario}
    (h : request.scenarios[n]? = some s) (session : Session σ) :
    (runner.after request n session).Follows (runner.Serves request.defaults s)
      (runner.after request (n + 1) session) := by
  rw [after, after, List.take_add_one, h, Option.toList_some, runFrom_concat]
  rcases runner.runFrom request.defaults 0 (request.scenarios.take n) 0 session with
    ⟨ending, issued, later⟩
  cases ending with
  -- a run that has stopped before the scenario does not reach it
  | raised f => exact Follows.refl _ later
  | hung => exact Follows.refl _ later
  | returned results => exact runner.follows_runOne _ _ s issued later

end Tenancy.ScenarioRunner
