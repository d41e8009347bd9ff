/-
# The variables of a run

All steps of a run share one bag of variables. It starts with the id and the time of the run and the
variables of the request, and only captures write to it: those of each step, when the step is judged
and whether it passes or fails. So what a run reports as its variables is what it started with,
overwritten by the captures of the steps it reports.

There is one exception, which goes back to the captures being written at once. A step that cannot be
judged breaks the run off and is not reported, but what it had captured until then stays.

While a step is prepared the variables do not change. So its tokens are looked up among what the run
started with and what the steps before it have captured. A token may lead to the variables as a
whole, and then what it stands for is the bag itself, which shows later captures to whoever looks at
it later.
-/

import Tenancy.Proofs.Catalog.Resolution
import Tenancy.Proofs.Lifecycle.Records
import Tenancy.Proofs.Template.Resolution

namespace Tenancy

open Template

/-! ## Preparing a step -/

/-- The tokens of a step, in the order in which they are resolved: those of its scope, and then
those of its request or its prompt. -/
def LifecycleStep.tokens (s : LifecycleStep) : List (List Char) :=
  tokensOfFields ((s.scope.map Scope.stated).getD []) ++
    match s.request with
    | some accepted => tokensOf (accepted.given.value .null)
    | none => tokensOfText (s.prompt.getD "")

namespace Prepared

open Interpreter

/-- How preparing has resolved tokens, and that a token that fails is the error of the step. -/
def Resolving (ids : IdSource) (t : Interpreter) (tokens : List (List Char))
    (prepared : Prepared × Interpreter) : Prop :=
  ∃ failure, Works ids t tokens failure prepared.2 ∧
    ∀ e, failure = some e → prepared.1 = failed e.message

variable {ids : IdSource}

theorem resolving_literal (defaultScope stepScope : Named Live) (given : Json) (t : Interpreter) :
    Resolving ids t (tokensOf given) (literal ids defaultScope stepScope given t) := by
  unfold literal
  rcases h : t.interpolate ids given with ⟨outcome, after⟩
  have works := works_interpolateWithin _ _ h
  cases outcome with
  | error e =>
      refine ⟨_, works, fun e' he' => ?_⟩
      rw [← Option.some.inj he']
  | ok resolved =>
      dsimp only
      split <;> exact ⟨_, works, fun e he => nomatch he⟩

theorem resolving_prompt (translator : Translator) (defaultScope stepScope : Named Live)
    (text : String) (t : Interpreter) :
    Resolving ids t (tokensOfText text) (prompt ids translator defaultScope stepScope text t) := by
  unfold prompt
  rcases h : t.interpolateText ids t.stack.search text with ⟨outcome, after⟩
  have works := works_interpolateText h
  cases outcome with
  | error e =>
      refine ⟨_, works, fun e' he' => ?_⟩
      rw [← Option.some.inj he']
  | ok resolved =>
      dsimp only
      split <;> exact ⟨_, works, fun e he => nomatch he⟩

/-- Preparing a step resolves its tokens. -/
theorem resolving_step (ids : IdSource) (translator : Translator) (defaultScope : Named Live)
    (s : LifecycleStep) (t : Interpreter) :
    Resolving ids t s.tokens (step ids translator defaultScope s t) := by
  unfold step LifecycleStep.tokens
  rcases hscope : interpolateFields ids ((s.scope.map Scope.stated).getD []) t with ⟨outcome, mid⟩
  have first := works_interpolateFields hscope
  cases outcome with
  | error e =>
      refine ⟨_, first.fail _, fun e' he' => ?_⟩
      rw [← Option.some.inj he']
  | ok stepScope =>
      dsimp only
      cases s.request with
      | some accepted =>
          obtain ⟨failure, works, failed⟩ :=
            resolving_literal defaultScope stepScope (accepted.given.value .null) mid
          exact ⟨failure, first.append works, failed⟩
      | none =>
          obtain ⟨failure, works, failed⟩ :=
            resolving_prompt translator defaultScope stepScope (s.prompt.getD "") mid
          exact ⟨failure, first.append works, failed⟩

end Prepared

/-! ## The bag -/

/-- A bag after steps have written their captures to it, one step after the other. -/
def Bag.afterSteps (bag : Bag) (steps : List StepResult) : Bag :=
  steps.foldl (fun bag r => bag.overlay (Live.ofFields r.captures)) bag

namespace Lifecycle

open Interpreter

variable {σ : Type} (l : Lifecycle σ)

/-- The variables a run starts with: its id and its time, overwritten by the variables of the
request with their tokens resolved, unless resolving them fails. -/
def seeds (request : LifecycleRequest) : Bag :=
  let own := seedVariables (IdSource.grouped (l.ids 1)) l.now
  match (interpolateFields l.ids request.vars
      { vars := own, memo := [], issued := 1, now := l.now, stack := l.stack }).1 with
  | .ok vars => own.overlay vars
  | .error _ => own

/-- In this state a step is prepared with these variables: each of its tokens that is resolved and
names a variable or a path is looked up among them, and what it finds is settled unless it refers to
the variables as a whole. -/
structure PreparesWith (state : RunState σ) (bag : Bag) (s : LifecycleStep)
    (done : List Resolved) : Prop where
  vars : state.interpreter.vars = bag
  resolved : ∃ failure,
    Passes l.ids state.interpreter s.tokens failure done
      (Prepared.step l.ids l.translator state.defaultScope s state.interpreter).2 ∧
    ∀ e, failure = some e →
      (Prepared.step l.ids l.translator state.defaultScope s state.interpreter).1 =
        Prepared.failed e.message
  looked_up : ∀ x ∈ done, x.Names → x.outcome = state.interpreter.lookup x.expression
  settled : ∀ x ∈ done, ∀ v, x.outcome = .ok v → v.refers = false →
    ∀ later, v.now? later = v.now? bag

theorem exists_preparesWith {state : RunState σ} (hgenerated : state.interpreter.Generated)
    (s : LifecycleStep) :
    ∃ done, l.PreparesWith state state.interpreter.vars s done := by
  obtain ⟨failure, ⟨done, passes⟩, failed⟩ :=
    Prepared.resolving_step l.ids l.translator state.defaultScope s state.interpreter
  obtain ⟨-, -, lookedUp⟩ := passes.resolves.looked_up hgenerated
  refine ⟨done, rfl, ⟨failure, passes, failed⟩, lookedUp, fun x _ v _ hfixed later => ?_⟩
  rw [Live.now?, Live.now?, hfixed]
  rfl

/-- Preparing a step leaves the variables as they are. -/
theorem interpreter_prepared {state : RunState σ} (hgenerated : state.interpreter.Generated)
    (s : LifecycleStep) {p : Prepared} {after : Interpreter}
    (h : Prepared.step l.ids l.translator state.defaultScope s state.interpreter = (p, after)) :
    after.vars = state.interpreter.vars ∧ after.Generated := by
  obtain ⟨failure, ⟨done, passes⟩, -⟩ :=
    Prepared.resolving_step l.ids l.translator state.defaultScope s state.interpreter
  rw [h] at passes
  obtain ⟨vars, generated, -⟩ := passes.resolves.looked_up hgenerated
  exact ⟨vars, generated⟩

/-- Carrying out a request leaves the variables as they are, and what is remembered. -/
theorem interpreter_carryOut (useSavepoint execute : Bool) (p : Prepared) (state : RunState σ) :
    ∃ issued, (l.carryOut useSavepoint execute p state).2.interpreter =
      { state.interpreter with issued } := by
  unfold carryOut
  split
  · dsimp only
    split
    · split <;> exact ⟨_, rfl⟩
    · exact ⟨_, rfl⟩
  · exact ⟨_, rfl⟩

/-- What a step captures that is judged, up to the first capture that cannot be taken; nothing if
there is something about the step that cannot be written down. -/
def capturedBy (p : Prepared) (s : LifecycleStep) (response : Option Response) (vars : Bag) :
    Fields :=
  match context p s response vars with
  | .ok before => (Captured.takeAll before s.captures).1.values
  | .error _ => []

/-- What a step captures that is run in this state; nothing if it does not come to be judged. -/
def captured (options : LifecycleOptions) (state : RunState σ) (s : LifecycleStep) : Fields :=
  let (p, interpreter) := Prepared.step l.ids l.translator state.defaultScope s state.interpreter
  match l.carryOut options.stepSavepoints s.execute p { state with interpreter } with
  | (.returned response, mid) => capturedBy p s response mid.interpreter.vars
  | _ => []

/-- Judging a step writes to the variables what it captures, and nothing else. -/
theorem interpreter_judge (place : StepPlace) (includeTrace : Bool) (p : Prepared)
    (s : LifecycleStep) (response : Option Response) (state : RunState σ) :
    (l.judge place includeTrace p s response state).2.interpreter =
        { state.interpreter with
          vars := state.interpreter.vars.overlay
            (Live.ofFields (capturedBy p s response state.interpreter.vars)) } ∧
      ∀ r, (l.judge place includeTrace p s response state).1 = .returned r →
        r.captures = capturedBy p s response state.interpreter.vars := by
  unfold judge capturedBy
  cases context p s response state.interpreter.vars with
  | error u => exact ⟨rfl, fun r h => nomatch h⟩
  | ok before =>
      dsimp only
      refine ⟨by split <;> rfl, fun r h => ?_⟩
      split at h
      · cases h
      · cases h
      · rw [← Ending.returned.inj h]

/-- Running a step writes to the variables what it captures, and nothing else, however it ends. -/
theorem vars_runStep (options : LifecycleOptions) {state : RunState σ}
    (hgenerated : state.interpreter.Generated) (place : StepPlace) (s : LifecycleStep) :
    (l.runStep options place s state).2.interpreter.vars =
        state.interpreter.vars.overlay (Live.ofFields (l.captured options state s)) ∧
      (l.runStep options place s state).2.interpreter.Generated ∧
      ∀ r, (l.runStep options place s state).1 = .returned r →
        r.captures = l.captured options state s := by
  rw [runStep, captured]
  rcases hprepared : Prepared.step l.ids l.translator state.defaultScope s state.interpreter with
    ⟨p, after⟩
  obtain ⟨vars, generated⟩ := l.interpreter_prepared hgenerated s hprepared
  obtain ⟨issued, carried⟩ := l.interpreter_carryOut options.stepSavepoints s.execute p
    { state with interpreter := after }
  dsimp only
  rcases hcarried : l.carryOut options.stepSavepoints s.execute p
    { state with interpreter := after } with ⟨ending, mid⟩
  rw [hcarried] at carried
  have kept : mid.interpreter.vars = state.interpreter.vars ∧ mid.interpreter.Generated := by
    rw [carried]
    exact ⟨vars, generated⟩
  cases ending with
  | raised f => exact ⟨kept.1, kept.2, fun r h => by cases h⟩
  | hung => exact ⟨kept.1, kept.2, fun r h => by cases h⟩
  | returned response =>
      obtain ⟨hjudged, hcaptures⟩ :=
        l.interpreter_judge place options.includeStepTrace p s response mid
      dsimp only
      exact ⟨by rw [hjudged, ← kept.1], by rw [hjudged]; exact kept.2, hcaptures⟩

variable {l} {options : LifecycleOptions}

/-! ## The visits of a run -/

/-- Going from step to step, only captures change the variables. -/
theorem Visits.vars_eq {state after : RunState σ} {visits : List Visit}
    (h : l.Visits options state visits after) (hgenerated : state.interpreter.Generated) :
    after.interpreter.vars = state.interpreter.vars.afterSteps (visits.map Visit.result) ∧
      after.interpreter.Generated := by
  induction h with
  | nil => exact ⟨rfl, hgenerated⟩
  | @step state mid later after place v rest hprepared hcarried hjudged hrest ih =>
      have run : l.runStep options place v.step state = (.returned v.result, later) := by
        rw [runStep, hprepared]
        dsimp only
        rw [hcarried]
        exact hjudged
      obtain ⟨vars, generated, captures⟩ := l.vars_runStep options hgenerated place v.step
      rw [run] at vars generated captures
      rw [← captures v.result rfl] at vars
      obtain ⟨rest, last⟩ := ih generated
      exact ⟨by rw [rest]; exact congrArg (Bag.afterSteps · _) vars, last⟩
  | summary _ ih => exact ih hgenerated

/-- The visits of a run come one after the other: each starts in the state that those before it have
left. -/
theorem Visits.visit_at {state after : RunState σ} {visits : List Visit}
    (h : l.Visits options state visits after) {k : Nat} {v : Visit} (hv : visits[k]? = some v) :
    ∃ before, l.Visits options state (visits.take k) before ∧
      Prepared.step l.ids l.translator before.defaultScope v.step before.interpreter =
        (v.prepared, v.interpreter) := by
  induction h generalizing k with
  | nil => cases hv
  | @step state mid later after place first rest hprepared hcarried hjudged hrest ih =>
      cases k with
      | zero =>
          obtain rfl := Option.some.inj hv
          exact ⟨state, .nil state, hprepared⟩
      | succ k =>
          obtain ⟨before, hbefore, hthen⟩ := ih hv
          exact ⟨before, .step hprepared hcarried hjudged hbefore, hthen⟩
  | summary _ ih =>
      obtain ⟨before, hbefore, hthen⟩ := ih hv
      exact ⟨before, .summary hbefore, hthen⟩

/-- What comes after the last visit is not recorded. -/
theorem Ends.steps_eq {mid after : RunState σ} {last : Option LifecycleStep}
    (h : l.Ends options mid last after) : after.steps = mid.steps := by
  have quiet (place : StepPlace) (s : LifecycleStep) :=
    (RunState.ledger_eq_iff.mp (l.ledger_runStep options place s mid)).1
  cases h with
  | ended => rfl
  | @raised place s _ _ f h => simpa only [h] using quiet place s
  | @hung place s _ _ h => simpa only [h] using quiet place s

/-- What comes after the last visit writes to the variables what the step that breaks the run off
captures, if there is one. -/
theorem Ends.vars_eq {mid after : RunState σ} {last : Option LifecycleStep}
    (h : l.Ends options mid last after) (hgenerated : mid.interpreter.Generated) :
    after.interpreter.vars = mid.interpreter.vars.overlay
      (Live.ofFields ((last.map (l.captured options mid)).getD [])) := by
  cases h with
  | ended => rfl
  | @raised place s _ _ f h =>
      obtain ⟨vars, -, -⟩ := l.vars_runStep options hgenerated place s
      rwa [h] at vars
  | @hung place s _ _ h =>
      obtain ⟨vars, -, -⟩ := l.vars_runStep options hgenerated place s
      rwa [h] at vars

/-! ## The whole run -/

/-- Seeding leaves the variables that a run starts with. -/
theorem interpreter_seed (l : Lifecycle σ) (request : LifecycleRequest) (session : Session σ) :
    (l.seed request (l.initial session)).2.interpreter.vars = l.seeds request ∧
      (l.seed request (l.initial session)).2.interpreter.Generated := by
  have fresh : (l.initial session).interpreter.Generated := fun m hm => nomatch hm
  have kept (fields : Fields) {t : Interpreter} (ht : t.Generated) :
      (interpolateFields l.ids fields t).2.vars = t.vars ∧
        (interpolateFields l.ids fields t).2.Generated := by
    obtain ⟨done, passes⟩ : Works l.ids t (tokensOfFields fields) _
      (interpolateFields l.ids fields t).2 := works_interpolateFields rfl
    obtain ⟨vars, generated, -⟩ := passes.resolves.looked_up ht
    exact ⟨vars, generated⟩
  obtain ⟨vars, generated⟩ := kept request.vars fresh
  rcases hvars : interpolateFields l.ids request.vars (l.initial session).interpreter with
    ⟨outcome, t⟩
  have same : (interpolateFields l.ids request.vars
      { vars := seedVariables (IdSource.grouped (l.ids 1)) l.now, memo := [], issued := 1
        now := l.now, stack := l.stack }).1 = outcome := congrArg Prod.fst hvars
  rw [hvars] at vars generated
  rw [seed, hvars, seeds]
  dsimp only
  rw [same]
  cases outcome with
  | error e => exact ⟨vars, generated⟩
  | ok fields =>
      have overwritten : t.vars.overlay fields =
          Named.overlay (seedVariables (IdSource.grouped (l.ids 1)) l.now) fields :=
        congrArg (Named.overlay · fields) vars
      have start : ({ t with vars := t.vars.overlay fields } : Interpreter).Generated := generated
      obtain ⟨resolved, last⟩ := kept request.defaults.scope.stated start
      dsimp only
      rcases hscope : interpolateFields l.ids request.defaults.scope.stated
        { t with vars := t.vars.overlay fields } with ⟨outcome, t'⟩
      rw [hscope] at resolved last
      cases outcome <;> exact ⟨resolved.trans overwritten, last⟩

/-- What the variables of a run have to do with the steps it visits, from the state in which its
phases start to the one in which they are left by the last visit or by a step that breaks the run
off. -/
structure KeepsVariables (l : Lifecycle σ) (request : LifecycleRequest) (result : LifecycleResult)
    (state : RunState σ) (visits : List Visit) (mid : RunState σ) (last : Option LifecycleStep) :
    Prop where
  visited : l.Visits request.options state visits mid
  reported : visits.map Visit.result = result.steps
  ordered : (visits.map Visit.step ++ last.toList).Sublist
    (request.phases.flatMap LifecyclePhase.steps)
  fatal : last.isSome = true → result.status = .fatal
  vars : result.vars = ((l.seeds request).afterSteps result.steps).overlay
    (Live.ofFields ((last.map (l.captured request.options mid)).getD []))
  /-- Each step is prepared with the captures of the steps reported before it, and no others. -/
  prepared : ∀ k v, visits[k]? = some v → ∃ before done,
    l.Visits request.options state (visits.take k) before ∧
    Prepared.step l.ids l.translator before.defaultScope v.step before.interpreter =
      (v.prepared, v.interpreter) ∧
    l.PreparesWith before ((l.seeds request).afterSteps (result.steps.take k)) v.step done
  brokenOff : ∀ s, last = some s →
    ∃ done, l.PreparesWith mid ((l.seeds request).afterSteps result.steps) s done

/-- The variables that a run reports are those it started with, overwritten in order by the captures
of the steps it reports, and, if a step breaks it off while it is judged, by what that step had
captured. While a step is prepared, tokens that name variables or paths are looked up among those it
started with, overwritten by the captures of the steps before. -/
theorem variables_are_seeds_and_captures (l : Lifecycle σ) (request : LifecycleRequest)
    (session : Session σ) :
    l.HungIffStalled request session ∧
      ((l.run request session).1 = .hung ∨
        ∃ result, (l.run request session).1 = .returned result ∧
          ((result.steps = [] ∧ result.vars = l.seeds request) ∨
            ∃ state visits mid last, l.begun? request session = some state ∧
              l.KeepsVariables request result state visits mid last)) := by
  refine ⟨hungIffStalled l request session, (hung_or_protocol l request session).imp_right ?_⟩
  rintro ⟨result, transcript, hresult, protocol⟩
  refine ⟨result, hresult, ?_⟩
  obtain ⟨seeded, fresh⟩ := interpreter_seed l request session
  obtain ⟨after, status, warnings, hreport, source⟩ := protocol.source
  have told : result.steps = after.steps ∧ result.vars = after.interpreter.vars := by
    rw [hreport]
    exact ⟨rfl, rfl⟩
  obtain ⟨hsteps, hvars⟩ := told
  cases source with
  | unstarted hledger hinterpreter =>
      refine .inl ⟨hsteps.trans (RunState.ledger_eq_iff.mp hledger).1, ?_⟩
      rw [hvars, hinterpreter, seeded]
  | @started state ending hbegun hphases hending =>
      refine .inr ?_
      obtain ⟨hledger, hinterpreter⟩ := seeded_of_begun? hbegun
      rw [← hinterpreter] at seeded fresh
      obtain ⟨visits, mid, last, hvisits, hends, hordered, hlast⟩ := goes_of_runPhases hphases
      have reported : visits.map Visit.result = result.steps := by
        rw [hsteps, hends.steps_eq, hvisits.steps_eq, (RunState.ledger_eq_iff.mp hledger).1]
        rfl
      obtain ⟨written, generated⟩ := hvisits.vars_eq fresh
      rw [seeded, reported] at written
      refine ⟨state, visits, mid, last, hbegun,
        { visited := hvisits
          reported := reported
          ordered := hordered
          fatal := fun hsome => ?_
          vars := by rw [hvars, hends.vars_eq generated, written]
          prepared := fun k v hv => ?_
          brokenOff := fun s _ => ?_ }⟩
      · refine protocol.status_eq_fatal.mpr (Option.isSome_iff_ne_none.mpr fun hnone => ?_)
        rw [hlast.mpr (hending hnone)] at hsome
        cases hsome
      · obtain ⟨before, hbefore, hprepared⟩ := hvisits.visit_at hv
        obtain ⟨vars, generated⟩ := hbefore.vars_eq fresh
        rw [seeded, List.map_take, reported] at vars
        obtain ⟨done, hdone⟩ := l.exists_preparesWith generated v.step
        exact ⟨before, done, hbefore, hprepared, vars ▸ hdone⟩
      · obtain ⟨done, hdone⟩ := l.exists_preparesWith generated s
        exact ⟨done, written ▸ hdone⟩

/-! ## A step that cannot be judged

A capture whose path has an index with too many digits cannot be taken, and what a step has captured
before it stays. -/

/-- The path to the element of an array whose index is written with `n` digits. -/
def pathOfDigits (n : Nat) : String :=
  String.ofList ('[' :: (List.replicate n '1' ++ [']']))

theorem scan_of_length_le {cs : List Char} {skip : Nat} (h : cs.length ≤ skip) :
    Path.scan skip [] cs = [] := by
  induction cs generalizing skip with
  | nil => cases skip <;> rfl
  | cons c rest ih =>
      cases skip with
      | zero => cases h
      | succ skip => exact ih (Nat.le_of_succ_le_succ h)

theorem segments_pathOfDigits {n : Nat} (h : OversizedIndex.limit < n) :
    Path.segments (pathOfDigits n) = .error ⟨n⟩ := by
  have digits : ∀ c ∈ List.replicate n '1', Text.isDigit c = true := by
    intro c hc
    obtain rfl := List.eq_of_mem_replicate hc
    decide
  have cleaned : Path.clean ('[' :: (List.replicate n '1' ++ [']'])) =
      '[' :: (List.replicate n '1' ++ [']']) := by
    have trimmed : Text.trim ('[' :: (List.replicate n '1' ++ [']'])) =
        '[' :: (List.replicate n '1' ++ [']']) := by
      refine Name.strip_of_forall_not fun c hc => ?_
      simp only [List.mem_cons, List.mem_append, List.mem_replicate, List.not_mem_nil,
        or_false] at hc
      rcases hc with rfl | ⟨-, rfl⟩ | rfl <;> decide
    rw [Path.clean, trimmed]
    rfl
  have ahead : Path.indexAhead? (List.replicate n '1' ++ [']']) = some (List.replicate n '1') := by
    have bracket : Text.isDigit ']' = false := by decide
    have some_digits : (List.replicate n '1').isEmpty = false := by
      cases n with
      | zero => cases h
      | succ n => rfl
    rw [Path.indexAhead?, List.takeWhile_append_of_pos digits, List.dropWhile_append_of_pos digits]
    simp [some_digits, bracket]
  rw [Path.segments, pathOfDigits, String.toList_ofList, cleaned, Path.scan, if_pos rfl, ahead]
  dsimp only
  rw [scan_of_length_le (by simp)]
  simp [Path.pending, Path.Token.segment, h, bind, Except.bind]

/-- A run whose phases are broken off, and whose database still does what it is asked then, comes
back with what was recorded until then. -/
theorem returned_of_brokenOff {request : LifecycleRequest} {seeded after : RunState σ}
    {session connected opened undone closed : Session σ} {message : String}
    (hseed : l.seed request (l.initial session) = (.ok (), seeded))
    (hconnect : seeded.session.perform l.database .connect = (.returned (), connected))
    (hbegin : connected.perform l.database .begin = (.returned (), opened))
    (hloop : l.runLoop request { seeded with session := opened } = (.brokenOff message, after))
    (hundo : after.session.perform l.database .rollback = (.returned (), undone))
    (hclose : undone.perform l.database .close = (.returned (), closed)) :
    (l.run request session).1 =
      .returned (l.report request { after with session := closed } .running (some message) []) := by
  have transaction : l.runTransaction request { seeded with session := connected } =
      (.returned (.brokeDown message), { after with session := undone }) := by
    rw [runTransaction, hbegin]
    dsimp only
    rw [hloop]
    dsimp only
    rw [abandon, hundo]
  rw [run, complete, hseed]
  dsimp only
  rw [runConnected, hconnect]
  dsimp only
  rw [transaction]
  dsimp only
  rw [hclose]
  rfl

/-- A database that does whatever it is asked. -/
def obliging : Database Unit :=
  ⟨fun _ _ => (.done ⟨none, none⟩, ())⟩

/-- The parts of a run in which nothing goes wrong by itself. -/
def obligingLifecycle : Lifecycle Unit :=
  ⟨obliging, Compiler.demo, .unavailable, .counting, ⟨0⟩⟩

/-- A capture that finds nothing in the error of a step and keeps its default. -/
def noteCapture : Capture :=
  ⟨"note", .error, "missing", true, some (.text "kept")⟩

/-- A step that is not carried out, on a prompt whose only token means nothing. Its first capture is
taken, and the second one has the given path. -/
def lostStep (path : String) : LifecycleStep :=
  { id := none, name := "look", description := none, prompt := some "\x7b\x7bmissing\x7d\x7d"
    request := none, execute := false, scope := none, expect := none
    captures := [noteCapture, ⟨"other", .error, path, true, none⟩], tags := [] }

/-- A step that is not carried out, on a request that holds the variables as a whole. -/
def mirrorStep : LifecycleStep :=
  { id := none, name := "look", description := none, prompt := none
    request := some (.plain Compiler.demoRequest (.object
      [("command", .object [("kind", .text "query"), ("table", .text "bizes")]),
        ("metadata", .object [("m", .text "\x7b\x7b$\x7d\x7d")])]))
    execute := false, scope := none, expect := none, captures := [noteCapture], tags := [] }

/-- The phase of a single step. -/
def solePhase (s : LifecycleStep) : LifecyclePhase :=
  { id := some "phase", name := "p", description := none, continueOnFailure := true, steps := [s] }

/-- A run of a single step that reports requests. -/
def soleRun (s : LifecycleStep) : LifecycleRequest :=
  { defaults := ⟨true, Scope.none, true⟩, vars := [], phases := [solePhase s]
    options :=
      { rollbackOnFailure := false, includeStepTrace := true, stepSavepoints := true
        timeoutMs := none } }

section Lost

variable {path : String} {e : OversizedIndex} (h : Path.segments path = .error e)
include h

/-- The first capture of the step is taken, and the second one is an obstacle. -/
theorem takeAll_lostStep {c : StepContext} {result : Json} {text : String}
    (hresult : c.result = .ok result) (herror : c.error = .text text) :
    Captured.takeAll c (lostStep path).captures =
      (⟨[("note", .text "kept")], []⟩, some (.oversizedIndex e)) := by
  have missing : Path.segments "missing" = .ok [.key "missing"] := by decide +kernel
  have first : Captured.take c .start noteCapture = .ok ⟨[("note", .text "kept")], []⟩ := by
    simp [Captured.take, noteCapture, StepContext.source, herror, Json.at?, missing, Json.follow,
      Except.map, Except.mapError, bind, Except.bind, pure, Except.pure, Captured.start,
      Captured.keep, Named.put]
  have second (s : Captured) :
      Captured.take c s ⟨"other", .error, path, true, none⟩ = .error (.oversizedIndex e) := by
    simp [Captured.take, StepContext.source, Json.at?, h, Except.map, Except.mapError, bind,
      Except.bind]
  simp [Captured.takeAll, hresult, lostStep, Captured.takeFrom, first, second]

omit h in
/-- The token of the prompt is looked for in vain. -/
theorem prepared_lostStep (path : String) (session : Session Unit) :
    ∃ text after, Prepared.step obligingLifecycle.ids obligingLifecycle.translator []
      (lostStep path) (obligingLifecycle.initial session).interpreter =
        (⟨none, none, none, some text⟩, after) := by
  have same : Prepared.step obligingLifecycle.ids obligingLifecycle.translator []
      (lostStep path) (obligingLifecycle.initial session).interpreter =
        Prepared.step obligingLifecycle.ids obligingLifecycle.translator [] (lostStep "")
          (obligingLifecycle.initial ⟨(), []⟩).interpreter := rfl
  have failed : (fun p : Prepared => p.resolvedPrompt.isNone && p.translation.isNone &&
      p.request.isNone && p.error.isSome) (Prepared.step obligingLifecycle.ids
        obligingLifecycle.translator [] (lostStep "")
        (obligingLifecycle.initial ⟨(), []⟩).interpreter).1 = true := by
    decide +kernel
  rw [same]
  rcases hprepared : Prepared.step obligingLifecycle.ids obligingLifecycle.translator []
    (lostStep "") (obligingLifecycle.initial ⟨(), []⟩).interpreter with
    ⟨⟨resolved, translation, request, error⟩, t⟩
  rw [hprepared] at failed
  simp only [Bool.and_eq_true, Option.isNone_iff_eq_none, Option.isSome_iff_exists] at failed
  obtain ⟨⟨⟨rfl, rfl⟩, rfl⟩, text, rfl⟩ := failed
  exact ⟨text, t, rfl⟩

/-- The step breaks the run off and leaves its first capture behind. -/
theorem runStep_lostStep (options : LifecycleOptions) (place : StepPlace) (session : Session Unit) :
    ∃ f after, obligingLifecycle.runStep options place (lostStep path)
        (obligingLifecycle.initial session) = (.raised f, after) ∧ after.steps = [] ∧
      after.interpreter.vars = (obligingLifecycle.initial session).interpreter.vars.overlay
        (Live.ofFields [("note", .text "kept")]) := by
  have start : (obligingLifecycle.initial session).interpreter.Generated := fun m hm => nomatch hm
  have quiet := obligingLifecycle.ledger_runStep options place (lostStep path)
    (obligingLifecycle.initial session)
  obtain ⟨vars, -, -⟩ := obligingLifecycle.vars_runStep options start place (lostStep path)
  obtain ⟨text, t, hprepared⟩ := prepared_lostStep path session
  replace hprepared : Prepared.step obligingLifecycle.ids obligingLifecycle.translator
      (obligingLifecycle.initial session).defaultScope (lostStep path)
      (obligingLifecycle.initial session).interpreter = (⟨none, none, none, some text⟩, t) :=
    hprepared
  obtain ⟨c, hcontext, hcaptured⟩ : ∃ c,
      context ⟨none, none, none, some text⟩ (lostStep path) none t.vars = .ok c ∧
        Captured.takeAll c (lostStep path).captures =
          (⟨[("note", .text "kept")], []⟩, some (.oversizedIndex e)) :=
    ⟨_, rfl, takeAll_lostStep h rfl rfl⟩
  have captured : obligingLifecycle.captured options (obligingLifecycle.initial session)
      (lostStep path) = [("note", .text "kept")] := by
    simp only [captured, hprepared, carryOut, capturedBy, hcontext, hcaptured]
  have raised : (obligingLifecycle.runStep options place (lostStep path)
      (obligingLifecycle.initial session)).1 =
        .raised (.other (Obstacle.oversizedIndex e).message) := by
    simp only [runStep, hprepared, carryOut, judge, hcontext, hcaptured]
  rw [captured] at vars
  exact ⟨_, _, Prod.ext raised rfl, (RunState.ledger_eq_iff.mp quiet).1, vars⟩

/-- A run of this step reports no step, and the first capture of this one. -/
theorem run_lostStep (session : Session Unit) :
    ∃ result, (obligingLifecycle.run (soleRun (lostStep path)) session).1 = .returned result ∧
      result.steps = [] ∧
      result.vars = (obligingLifecycle.seeds (soleRun (lostStep path))).overlay
        (Live.ofFields [("note", .text "kept")]) := by
  let request := soleRun (lostStep path)
  let begun : Session Unit := ⟨(), session.log ++ [.connect] ++ [.begin]⟩
  obtain ⟨f, after, hstep, hsteps, hvars⟩ := runStep_lostStep h request.options
    (place "phase" (solePhase (lostStep path)) 0 (lostStep path)) begun
  have steps : obligingLifecycle.runSteps request (solePhase (lostStep path)) "phase" 0
      [lostStep path] ⟨0, 0, false⟩ (obligingLifecycle.initial begun) = (.raised f, after) := by
    rw [runSteps, hstep]
  have phases : obligingLifecycle.runPhases request 0 [solePhase (lostStep path)]
      (obligingLifecycle.initial begun) = (.raised f, after) := by
    rw [solePhase] at steps ⊢
    rw [runPhases]
    dsimp only [Option.getD_some]
    rw [steps]
  have loop : obligingLifecycle.runLoop request (obligingLifecycle.initial begun) =
      (.brokenOff (phaseFaultText none f), after) := by
    rw [runLoop, show request.phases = [solePhase (lostStep path)] from rfl, phases]
    rfl
  exact ⟨_, returned_of_brokenOff rfl rfl rfl loop rfl rfl, hsteps, hvars⟩

end Lost

/-- What a report shows at a path, if it is a text. -/
def shownText (result : LifecycleResult) (path : List Segment) : Option String :=
  (result.form.write result.vars).toOption.bind fun j => (Json.follow path j).bind Json.text?

/-- Whether a run comes back and shows a text at a path. -/
def shows (path : List Segment) (text : String) : Ending LifecycleResult → Bool
  | .returned result => shownText result path == some text
  | _ => false

/-- The variables of a run are not always those it starts with and the captures of the steps it
reports: a step that breaks the run off leaves what it captured. And what a token stands for may
show later captures: a request that holds the variables as a whole shows what its own step
captures. -/
theorem captures_outlast_steps :
    (∃ result, (obligingLifecycle.run (soleRun (lostStep (pathOfDigits 4301))) ⟨(), []⟩).1 =
        .returned result ∧
      result.vars ≠ (obligingLifecycle.seeds (soleRun (lostStep (pathOfDigits 4301)))).afterSteps
        result.steps) ∧
    ((obligingLifecycle.seeds (soleRun mirrorStep)).has "note" = false ∧
      ∃ result, (obligingLifecycle.run (soleRun mirrorStep) ⟨(), []⟩).1 = .returned result ∧
        shownText result [.key "steps", .index 0, .key "request", .key "metadata", .key "m",
          .key "note"] = some "kept") := by
  refine ⟨?_, by decide +kernel, ?_⟩
  · have overlong : OversizedIndex.limit < 4301 := by decide
    obtain ⟨result, hresult, hsteps, hvars⟩ :=
      run_lostStep (segments_pathOfDigits overlong) ⟨(), []⟩
    refine ⟨result, hresult, fun heq => ?_⟩
    have unseeded :
        ((obligingLifecycle.seeds (soleRun (lostStep ""))).get? "note").isNone = true := by
      decide +kernel
    have kept : (result.vars.get? "note").isNone = false := by
      rw [hvars]
      exact congrArg Option.isNone (Named.get?_put_self _ _ _)
    rw [heq, hsteps] at kept
    exact Bool.noConfusion (kept.symm.trans unseeded)
  · have shown : shows [.key "steps", .index 0, .key "request", .key "metadata", .key "m",
        .key "note"] "kept" (obligingLifecycle.run (soleRun mirrorStep) ⟨(), []⟩).1 = true := by
      decide +kernel
    cases hresult : (obligingLifecycle.run (soleRun mirrorStep) ⟨(), []⟩).1 with
    | raised f => rw [hresult] at shown; cases shown
    | hung => rw [hresult] at shown; cases shown
    | returned result =>
        rw [hresult, shows, beq_iff_eq] at shown
        exact ⟨result, rfl, shown⟩

end Lifecycle

end Tenancy
