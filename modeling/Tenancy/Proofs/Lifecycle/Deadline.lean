/-
# What is taken for a deadline

A run with a deadline that passes is broken off and says so. It also says so where there was
nothing but a fault of the kind that a database raises when it has waited too long, if that fault
stands around the statements of a step: the run cannot tell one from the other. So the text of a
deadline is reported by runs that have none. A statement of a step that fails in this way is not
concerned, since it is reported by its step.

Nothing else is reported as a deadline, whatever the database, the translator and the script are,
except for a fault whose own text happens to read like one.
-/

import Tenancy.Proofs.Lifecycle.Fatal
import Tenancy.Proofs.Service.Persistence

namespace Tenancy

namespace Lifecycle

open Session

variable {σ : Type}

/-! ## Texts that are no deadlines -/

theorem head?_toList_append {first rest : String} {c : Char} (h : first.toList.head? = some c) :
    (first ++ rest).toList.head? = some c := by
  rw [String.toList_append, List.head?_append, h]
  rfl

theorem head?_deadlineText (ms : Option Int) : (deadlineText ms).toList.head? = some 'L' :=
  head?_toList_append (head?_toList_append (by decide))

theorem deadlineText_ne {ms : Option Int} {text : String} {c : Char}
    (h : text.toList.head? = some c) (hc : c ≠ 'L') : deadlineText ms ≠ text := by
  rintro rfl
  exact hc (Option.some.inj (h.symm.trans (head?_deadlineText ms)))

/-- What stands for a step that cannot be judged does not read like a deadline. -/
theorem deadlineText_ne_unjudged {ms : Option Int} {f : Fault} (h : f.Unjudged) :
    deadlineText ms ≠ f.text := by
  cases h with
  | obstacle o =>
      cases o with
      | oversizedIndex e =>
          exact deadlineText_ne
            (head?_toList_append (head?_toList_append (c := 'E') (by decide))) (by decide)
      | endless => exact deadlineText_ne (c := 'C') (by decide) (by decide)
      | fieldless => exact deadlineText_ne (c := 'A') (by decide) (by decide)
      | unsearchable => exact deadlineText_ne (c := 'A') (by decide) (by decide)
      | noCode => exact deadlineText_ne (c := 'A') (by decide) (by decide)
  | unwritable u =>
      cases u with
      | tooDeep => exact deadlineText_ne (c := 'M') (by decide) (by decide)
      | endless => exact deadlineText_ne (c := 'C') (by decide) (by decide)

/-- A fault that is told like a deadline has that very text. -/
theorem text_of_fatalText {ms : Option Int} {f : Fault} (h : deadlineText ms = fatalText f) :
    f.text = deadlineText ms := by
  rw [fatalText] at h
  split at h
  · exact absurd h (deadlineText_ne (c := 'u') (by decide) (by decide))
  · exact h.symm

/-- What is told like a deadline is one, or a fault that is taken for one, or a fault outside of any
statement with that very text. -/
theorem Cause.of_deadlineText {timeoutMs ms : Option Int} {transcript : Transcript}
    (h : Cause timeoutMs transcript (deadlineText ms)) :
    transcript.Overran timeoutMs ∨
      (∃ e m, e.IsBracket ∧ (e, .failed (.timeout m)) ∈ transcript) ∨
      ∃ e f, ¬ e.IsStatement ∧ (e, .failed f) ∈ transcript ∧ f.text = deadlineText ms := by
  generalize htext : deadlineText ms = text at h
  cases h with
  | unseeded e =>
      exact absurd htext (deadlineText_ne (head?_toList_append (c := 'F') (by decide)) (by decide))
  | unreachable => exact absurd htext (deadlineText_ne (c := 'i') (by decide) (by decide))
  | overran h => exact .inl h
  | unjudged h => exact absurd (text_of_fatalText htext).symm (deadlineText_ne_unjudged h)
  | outside e he hmem =>
      have other : ¬ e.IsStatement := fun h => he (Event.isGuest_iff.mpr (.inr h))
      rw [← htext]
      exact .inr (.inr ⟨e, _, other, hmem, text_of_fatalText htext⟩)
  | @bracket f e he hmem =>
      rw [← htext]
      cases f with
      | timeout m => exact .inr (.inl ⟨e, m, he, hmem⟩)
      | database m code =>
          exact .inr (.inr ⟨e, _, he.not_isStatement, hmem, text_of_fatalText htext⟩)
      | other m => exact .inr (.inr ⟨e, _, he.not_isStatement, hmem, text_of_fatalText htext⟩)

/-! ## What a run reports -/

/-- What a run with or without a deadline reports about it. -/
structure BlamesDeadline (timeoutMs : Option Int) (transcript : Transcript)
    (fatal : Option String) : Prop where
  /-- A deadline that has passed is reported. -/
  passed : transcript.Overran timeoutMs → fatal = some (deadlineText timeoutMs)
  /-- A fault around the statements of a step is reported by its own text, with one exception. -/
  own : ∀ e f, e.IsBracket → (e, .failed f) ∈ transcript → (∀ m, f ≠ .timeout m) →
    fatal = some (fatalText f)
  /-- One that says that something took too long is taken for the deadline, if there is any. -/
  mistaken : ∀ e m, e.IsBracket → (e, .failed (.timeout m)) ∈ transcript →
    fatal = some (deadlineText timeoutMs)
  /-- Nothing else is reported as a deadline, unless its own text reads like one. -/
  only : ∀ ms, fatal = some (deadlineText ms) →
    transcript.Overran timeoutMs ∨
      (∃ e m, e.IsBracket ∧ (e, .failed (.timeout m)) ∈ transcript) ∨
      ∃ e f, ¬ e.IsStatement ∧ (e, .failed f) ∈ transcript ∧ f.text = deadlineText ms

theorem Explains.blamesDeadline {timeoutMs : Option Int} {transcript : Transcript}
    {fatal : Option String} (h : Explains timeoutMs transcript fatal) :
    BlamesDeadline timeoutMs transcript fatal where
  passed := h.overran
  own e f he hmem hf := by
    rw [h.bracket e f he hmem]
    cases f with
    | timeout m => exact absurd rfl (hf m)
    | database m code => rfl
    | other m => rfl
  mistaken e m he hmem := h.bracket e _ he hmem
  only ms hms := (h.caused _ hms).of_deadlineText

/-- A run reports a deadline that has passed, and a fault around the statements of a step by its own
text. But if that fault says that something took too long, the run reports a deadline, even one that
it does not have; and it reports no deadline besides. -/
theorem timeout_around_statements_reported_as_deadline (l : Lifecycle σ)
    (request : LifecycleRequest) (session : Session σ) :
    ∃ transcript later vars,
      session.Exchanges l.database transcript later ∧
      (l.run request session).2 = later.settled vars ∧
      ((l.run request session).1 = .hung ↔ transcript.Stalls request.options.timeoutMs) ∧
      ((l.run request session).1 = .hung ∨
        ∃ result, (l.run request session).1 = .returned result ∧
          BlamesDeadline request.options.timeoutMs transcript result.fatalError) := by
  obtain ⟨transcript, talk, hung_iff, hung | ⟨result, hresult, reports⟩⟩ :=
    explains_of_complete l request session
  · exact ⟨transcript, _, _, talk, rfl, hung_iff, .inl hung⟩
  · exact ⟨transcript, _, _, talk, rfl, hung_iff, .inr ⟨result, hresult, reports.blamesDeadline⟩⟩

/-! ## A savepoint that cannot be set -/

/-- A database that cannot set a savepoint. -/
def unsaved (f : Fault) : Database Unit :=
  failing fun
    | .savepoint => some f
    | _ => none

/-- The parts of a run on such a database whose every prompt adds a location. -/
def unsavedLifecycle (f : Fault) : Lifecycle Unit :=
  ⟨unsaved f, Compiler.demo, .always Compiler.demoRequest, .counting, ⟨0⟩⟩

/-- What comes of adding a location for good on such a database. -/
def unsavedRun (f : Fault) : Ending LifecycleResult × Session Unit :=
  (unsavedLifecycle f).run lastingRun ⟨(), []⟩

theorem kind_settled (vars : Bag) (e : Event) : (e.settled vars).kind = e.kind := by
  cases e <;> rfl

/-- Where the log of such a run shows a savepoint, setting it has failed. -/
theorem failed_savepoint {f : Fault} {transcript : Transcript} {later : Session Unit} {vars : Bag}
    (h : Session.Exchanges (unsaved f) ⟨(), []⟩ transcript later)
    (hlater : (unsavedRun f).2 = later.settled vars)
    (hsent : .savepoint ∈ (unsavedRun f).2.log.map Event.kind) :
    (.savepoint, .failed f) ∈ transcript := by
  have kinds : Event.kind ∘ Event.settled vars = Event.kind := funext (kind_settled vars)
  rw [hlater, settled, List.map_map, kinds] at hsent
  obtain ⟨e, he, hmem⟩ := failed_of_kind h rfl rfl hsent
  cases e with
  | savepoint => exact hmem
  | _ => cases he

/-- Without a deadline, a savepoint that cannot be set is reported by the text of its fault. -/
theorem fatalError_of_failed_savepoint :
    ∃ (transcript : Transcript) (result : LifecycleResult),
      (.savepoint, .failed (.other "no savepoint")) ∈ transcript ∧
      (unsavedRun (.other "no savepoint")).1 = .returned result ∧
      result.fatalError = some "no savepoint" := by
  obtain ⟨transcript, later, vars, talk, hlater, -, ends⟩ :=
    timeout_around_statements_reported_as_deadline (unsavedLifecycle (.other "no savepoint"))
      lastingRun ⟨(), []⟩
  have sent : .savepoint ∈ (unsavedRun (.other "no savepoint")).2.log.map Event.kind := by
    decide +kernel
  have returns : (unsavedRun (.other "no savepoint")).1.any (fun _ => true) = true := by
    decide +kernel
  have failed := failed_savepoint talk hlater sent
  obtain ⟨result, hresult, -⟩ := Ending.exists_of_any returns
  rcases ends with hung | ⟨other, hother, blames⟩
  · exact absurd (hung.symm.trans hresult) (fun h => nomatch h)
  · have told := blames.own .savepoint (.other "no savepoint") trivial failed fun _ h => nomatch h
    exact ⟨transcript, other, failed, hother, told⟩

/-- Without a deadline, a savepoint that could not be set in time is reported as a deadline that
there is not. -/
theorem savepoint_timeout_reported_as_no_deadline :
    lastingRun.options.timeoutMs = none ∧
      ∃ (transcript : Transcript) (later : Session Unit) (vars : Bag) (result : LifecycleResult),
        Session.Exchanges (unsaved (.timeout "lock wait timed out")) ⟨(), []⟩ transcript later ∧
        (unsavedRun (.timeout "lock wait timed out")).2 = later.settled vars ∧
        (.savepoint, .failed (.timeout "lock wait timed out")) ∈ transcript ∧
        (unsavedRun (.timeout "lock wait timed out")).1 = .returned result ∧
        result.fatalError = some "Lifecycle run exceeded its deadline of None ms." := by
  obtain ⟨transcript, later, vars, talk, hlater, -⟩ :=
    (unsavedLifecycle (.timeout "lock wait timed out")).persisted_run_iff lastingRun ⟨(), []⟩
  have sent : .savepoint ∈ (unsavedRun (.timeout "lock wait timed out")).2.log.map Event.kind := by
    decide +kernel
  have failed := failed_savepoint talk hlater sent
  have told : (unsavedRun (.timeout "lock wait timed out")).1.any (fun result =>
      result.fatalError == some "Lifecycle run exceeded its deadline of None ms.") = true := by
    decide +kernel
  obtain ⟨result, hresult, htold⟩ := Ending.exists_of_any told
  exact ⟨rfl, transcript, later, vars, result, talk, hlater, failed, hresult, eq_of_beq htold⟩

end Lifecycle

end Tenancy
