/-
# What a judgement reports

An expectation is a list of checks, and most of them are optional: what is not declared is not
checked. Here the list is written out, and it is said of each check when it holds and what is
reported if it does not, by a reading of the step that is taken once and that no check changes. A
judgement then reports the checks that do not hold, one failure for each and in their order. So no
check can hide another, and a step passes exactly where all of its checks hold.

A judgement comes to no end where a step cannot be read: where a context has not the shape of a
step, where an index has too many digits, or where the text of a value is asked for that contains
itself. When it does come to an end is part of the main statement.
-/

import Tenancy.Proofs.Expectation.Checks
import Tenancy.Proofs.Number.Amount

namespace Tenancy

/-! ## Scalars that are the same -/

namespace Json

/-- What a number amounts to. -/
def amount? : Json → Option Amount
  | .int n => some (.finite n)
  | .float x => x.amount?
  | _ => none

/-- A number with a point has the form that rounding gives it. -/
def Standard : Json → Prop
  | .float x => x.Standard
  | _ => True

/-- Two scalars are the same. Truth values and texts are only the same as themselves, and numbers
are where they amount to the same. -/
inductive Same : Json → Json → Prop
  | null : Same .null .null
  | bool (b : Bool) : Same (.bool b) (.bool b)
  | text (s : String) : Same (.text s) (.text s)
  | number {j k : Json} {a : Amount} (hj : j.amount? = some a) (hk : k.amount? = some a) : Same j k

/-- Strict equality is being the same. -/
theorem strictlyEquals_iff {j k : Json} (hj : j.Standard) (hk : k.Standard) :
    j.strictlyEquals k = true ↔ Same j k := by
  constructor
  · intro h
    unfold strictlyEquals at h
    split at h
    · exact beq_iff_eq.mp h ▸ .bool _
    · exact .number rfl (beq_iff_eq.mp h ▸ rfl)
    · exact .number rfl ((Binary64.equalsInt_iff _ _).mp h)
    · exact .number ((Binary64.equalsInt_iff _ _).mp h) rfl
    · obtain ⟨a, hx, hy⟩ := (Binary64.sameNumber_iff hj hk).mp h
      exact .number hx hy
    · exact beq_iff_eq.mp h ▸ .text _
    · exact .null
    · cases h
  · rintro (_ | b | s | ⟨hx, hy⟩)
    · rfl
    · exact beq_self_eq_true b
    · exact beq_self_eq_true s
    · rename_i a
      -- only numbers amount to anything
      cases j with
      | int n =>
          cases k with
          | int m =>
              have same : (n : ℚ) = m := by injection Option.some.inj (hx.trans hy.symm)
              exact beq_iff_eq.mpr (by exact_mod_cast same)
          | float y => exact (Binary64.equalsInt_iff y n).mpr (hy.trans hx.symm)
          | _ => cases hy
      | float x =>
          cases k with
          | int m => exact (Binary64.equalsInt_iff x m).mpr (hx.trans hy.symm)
          | float y => exact (Binary64.sameNumber_iff hj hk).mpr ⟨a, hx, hy⟩
          | _ => cases hy
      | _ => cases hx

end Json

/-! ## Paths that can be read -/

namespace Path

/-- No index of a path has more digits than are ever read. -/
def Readable (path : String) : Prop :=
  ∀ ds, Token.index ds ∈ scan 0 [] (clean path.toList) → ds.length ≤ OversizedIndex.limit

theorem exists_segments_iff {path : String} :
    (∃ steps, segments path = .ok steps) ↔ Readable path := by
  constructor
  · rintro ⟨steps, hsteps⟩ ds hds
    obtain ⟨step, -, hstep⟩ := exists_mem_of_mapM hsteps hds
    rw [Token.segment] at hstep
    split at hstep
    · cases hstep
    · rename_i hlength
      exact Nat.le_of_not_lt hlength
  · intro hreadable
    cases hsteps : segments path with
    | ok steps => exact ⟨steps, rfl⟩
    | error e =>
        obtain ⟨before, token, after, htokens, -, htoken⟩ := mapM_eq_error.mp hsteps
        cases token with
        | key cs => cases htoken
        | index ds =>
            have short := hreadable ds (htokens ▸ List.mem_append_right _ List.mem_cons_self)
            rw [Token.segment, if_neg (Nat.not_lt.mpr short)] at htoken
            cases htoken

end Path

/-! ## Reading a step -/

/-- What there is to be looked at in a step. -/
structure Reading where
  succeeded : Bool
  /-- The number of rows as its result states it, and null where it states none. -/
  rowCount : Json
  /-- Its error text. -/
  message : Json
  /-- What paths lead through. -/
  root : Live
  /-- The variables, which live values refer to. -/
  vars : Bag

namespace StepContext

/-- The most specific error text that says anything: that of the response, or else of the
translation, or else of the step, empty where it has none. -/
inductive Complaint (c : StepContext) : Json → Prop
  | response {said : Json} (h : messageIn c.response = .ok said) (htold : said.truthy = true) :
      Complaint c said
  | translation {silent said : Json} (hsilent : messageIn c.response = .ok silent)
      (hempty : silent.truthy = false) (h : messageIn c.translation = .ok said)
      (htold : said.truthy = true) : Complaint c said
  | step {silent silent' : Json} (hsilent : messageIn c.response = .ok silent)
      (hempty : silent.truthy = false) (hsilent' : messageIn c.translation = .ok silent')
      (hempty' : silent'.truthy = false) : Complaint c (.text c.error.toMessage)

theorem errorMessage_eq_ok_iff {c : StepContext} {message : Json} :
    c.errorMessage = .ok message ↔ c.Complaint message := by
  constructor
  · intro h
    unfold errorMessage at h
    obtain ⟨responded, hresponded, h⟩ := bind_eq_ok.mp h
    split at h
    · rename_i htold
      exact pure_eq_ok.mp h ▸ .response hresponded htold
    · rename_i hempty
      rw [Bool.not_eq_true] at hempty
      obtain ⟨translated, htranslated, h⟩ := bind_eq_ok.mp h
      obtain rfl := pure_eq_ok.mp h
      split
      · rename_i htold
        exact .translation hresponded hempty htranslated htold
      · rename_i hempty'
        exact .step hresponded hempty htranslated (Bool.not_eq_true _ ▸ hempty')
  · intro h
    unfold errorMessage
    cases h with
    | response h htold =>
        rw [h]
        exact if_pos htold
    | translation hsilent hempty h htold =>
        rw [hsilent, h]
        simp [bind, Except.bind, pure, Except.pure, hempty, htold]
    | step hsilent hempty hsilent' hempty' =>
        rw [hsilent, hsilent']
        simp [bind, Except.bind, pure, Except.pure, hempty, hempty']

/-- This is what can be read of the step. -/
structure Reads (c : StepContext) (r : Reading) : Prop where
  succeeded : c.succeeded = .ok r.succeeded
  rowCount : c.statedRowCount = .ok r.rowCount
  message : c.Complaint r.message
  root : c.root = .ok r.root
  vars : c.vars = r.vars

/-- A step can be read in one way only. -/
theorem Reads.unique {c : StepContext} {r r' : Reading} (h : c.Reads r) (h' : c.Reads r') :
    r = r' := by
  obtain ⟨succeeded, rowCount, message, root, vars⟩ := r
  obtain ⟨succeeded', rowCount', message', root', vars'⟩ := r'
  obtain rfl : succeeded = succeeded' := Except.ok.inj (h.succeeded.symm.trans h'.succeeded)
  obtain rfl : rowCount = rowCount' := Except.ok.inj (h.rowCount.symm.trans h'.rowCount)
  obtain rfl : message = message' := Except.ok.inj
    ((errorMessage_eq_ok_iff.mpr h.message).symm.trans (errorMessage_eq_ok_iff.mpr h'.message))
  obtain rfl : root = root' := Except.ok.inj (h.root.symm.trans h'.root)
  obtain rfl : vars = vars' := h.vars.symm.trans h'.vars
  rfl

/-- A translation or response is missing or an object, and so is the error inside it. -/
inductive HasForm : Json → Prop
  | missing : HasForm .null
  | silent {fields : Fields} (h : (Named.get? fields "error").getD .null = .null) :
      HasForm (.object fields)
  | complaining {fields error : Fields} (h : Named.get? fields "error" = some (.object error)) :
      HasForm (.object fields)

theorem HasForm.null_or_object {j : Json} (h : HasForm j) :
    j = .null ∨ ∃ fields, j = .object fields := by
  cases h with
  | missing => exact .inl rfl
  | silent => exact .inr ⟨_, rfl⟩
  | complaining => exact .inr ⟨_, rfl⟩

theorem exists_messageIn {j : Json} (h : HasForm j) : ∃ message, messageIn j = .ok message := by
  cases h with
  | missing => exact ⟨_, rfl⟩
  | silent h => exact ⟨.null, by rw [messageIn, part, h]; rfl⟩
  | complaining h => exact ⟨_, by rw [messageIn, part, h]; rfl⟩

/-- A step whose translation and response have their form can be read. -/
theorem exists_reads {c : StepContext} (htranslation : HasForm c.translation)
    (hresponse : HasForm c.response) : ∃ r, c.Reads r := by
  obtain ⟨responded, hresponded⟩ := exists_messageIn hresponse
  obtain ⟨translated, htranslated⟩ := exists_messageIn htranslation
  obtain ⟨message, hmessage⟩ : ∃ message, c.Complaint message := by
    cases htold : responded.truthy with
    | true => exact ⟨_, .response hresponded htold⟩
    | false =>
        cases htold' : translated.truthy with
        | true => exact ⟨_, .translation hresponded htold htranslated htold'⟩
        | false => exact ⟨_, .step hresponded htold htranslated htold'⟩
  obtain ⟨result, hresult⟩ : ∃ result, c.result = .ok result := by
    rw [result]
    obtain h | ⟨fields, h⟩ := hresponse.null_or_object <;> exact ⟨_, by rw [h]; rfl⟩
  obtain ⟨untranslated, huntranslated⟩ : ∃ failed, c.untranslated = .ok failed := by
    rw [untranslated]
    obtain h | ⟨fields, h⟩ := htranslation.null_or_object <;> exact ⟨_, by rw [h]; rfl⟩
  obtain ⟨succeeded, hsucceeded⟩ : ∃ succeeded, c.succeeded = .ok succeeded := by
    rw [succeeded, huntranslated]
    obtain h | ⟨fields, h⟩ := hresponse.null_or_object <;> exact ⟨_, by rw [h]; rfl⟩
  exact ⟨⟨succeeded, _, message, _, c.vars⟩, hsucceeded, by rw [statedRowCount, hresult]; rfl,
    hmessage, by rw [root, hresult]; rfl, rfl⟩

end StepContext

namespace Reading

/-- The value at a path; null where the path leads nowhere. -/
def value (r : Reading) (path : String) : Live :=
  match r.root.at? r.vars path with
  | .ok (some v) => v
  | _ => .plain .null

/-- The value at a path as it is now. -/
def shown? (r : Reading) (path : String) : Option Json :=
  (r.value path).now? r.vars

theorem value_eq {r : Reading} {path : String} {found : Option Live}
    (h : r.root.at? r.vars path = .ok found) : r.value path = found.getD (.plain .null) := by
  rw [value, h]
  cases found <;> rfl

end Reading

/-! ## Checks -/

/-- One thing that a step is held against. -/
inductive Check where
  | success (expected : Bool)
  | rowCountEq (expected : Int)
  | rowCountGte (expected : Int)
  | rowCountLte (expected : Int)
  | errorContains (needle : String)
  | existing (path : String) (expected : Bool)
  | equals (path : String) (expected : Json)
  | contains (path needle : String)

namespace Check

/-- Whether a check holds. A bound on the number of rows needs one to be stated, and what refers to
the variables as a whole is no scalar. -/
def holds (r : Reading) : Check → Bool
  | .success expected => r.succeeded == expected
  | .rowCountEq n => (Expectation.rowCount? r.rowCount).any fun found => found == n
  | .rowCountGte n => (Expectation.rowCount? r.rowCount).any fun found => decide (n ≤ found)
  | .rowCountLte n => (Expectation.rowCount? r.rowCount).any fun found => decide (found ≤ n)
  | .errorContains needle => r.message.includes? needle == some true
  | .existing path expected => (!(r.value path).isNull) == expected
  | .equals path expected =>
      match r.value path with
      | .plain j => j.strictlyEquals expected
      | _ => false
  | .contains path needle => (r.shown? path).any fun j => Text.contains j.toMessage needle

/-- What a check looks at can be looked at: an error text can be searched, and a value that has to
be compared or shown has an end. -/
def Legible (r : Reading) : Check → Prop
  | .errorContains needle => (r.message.includes? needle).isSome = true
  | .equals path _ | .contains path _ => (r.shown? path).isSome = true
  | _ => True

instance decidableLegible (r : Reading) : (k : Check) → Decidable (k.Legible r)
  | .errorContains needle =>
      inferInstanceAs (Decidable ((r.message.includes? needle).isSome = true))
  | .equals path _ => inferInstanceAs (Decidable ((r.shown? path).isSome = true))
  | .contains path _ => inferInstanceAs (Decidable ((r.shown? path).isSome = true))
  | .success _ | .rowCountEq _ | .rowCountGte _ | .rowCountLte _ | .existing _ _ =>
      inferInstanceAs (Decidable True)

/-- What a check that holds looks at can be looked at. -/
theorem legible_of_holds {r : Reading} {k : Check} (h : k.holds r = true) : k.Legible r := by
  cases k with
  | errorContains needle =>
      rw [Legible, beq_iff_eq.mp h]
      rfl
  | equals path expected =>
      rw [holds] at h
      split at h
      · rename_i j hplain
        rw [Legible, Reading.shown?, hplain]
        rfl
      · cases h
  | contains path needle =>
      rw [holds] at h
      rw [Legible]
      cases hshown : r.shown? path with
      | none => rw [hshown] at h; cases h
      | some j => rfl
  | _ => trivial

/-- What is reported of a check that does not hold. -/
def failure (r : Reading) : Check → CheckFailure
  | .success expected => .success expected r.succeeded
  | .rowCountEq n => .rowCountEq n r.rowCount
  | .rowCountGte n => .rowCountGte n r.rowCount
  | .rowCountLte n => .rowCountLte n r.rowCount
  | .errorContains needle => .errorContains needle r.message
  | .existing path expected => .existing path expected (!(r.value path).isNull)
  | .equals path expected => .equals path expected ((r.shown? path).getD .null)
  | .contains path needle => .contains path needle ((r.shown? path).getD .null).toMessage

end Check

/-- The checks of an assertion, in order. -/
def PathAssertion.checks (a : PathAssertion) : List Check :=
  (a.existing.map (.existing a.path)).toList ++ (a.equals.map (.equals a.path)).toList ++
    (a.contains.map (.contains a.path)).toList

namespace Expectation

/-- The checks of the number of rows, in order. -/
def rowChecks (e : Expectation) : List Check :=
  (e.rowCountEq.map .rowCountEq).toList ++ (e.rowCountGte.map .rowCountGte).toList ++
    (e.rowCountLte.map .rowCountLte).toList

/-- The checks of an expectation, in order. That of success is always among them. -/
def checks (e : Expectation) : List Check :=
  .success e.wantsSuccess :: (e.rowChecks ++ (e.errorContains.getD []).map .errorContains ++
    e.asserts.flatMap PathAssertion.checks)

end Expectation

namespace Reading

variable {r : Reading} {checks later : List Check}

/-- What is reported of checks: those that do not hold, in order. -/
def violations (r : Reading) (checks : List Check) : List CheckFailure :=
  (checks.filter fun k => !k.holds r).map (Check.failure r)

@[simp] theorem violations_nil : r.violations [] = [] := rfl

theorem violations_cons (k : Check) :
    r.violations (k :: checks) =
      (if k.holds r then [] else [k.failure r]) ++ r.violations checks := by
  cases h : k.holds r <;> simp [violations, h]

@[simp] theorem violations_append :
    r.violations (checks ++ later) = r.violations checks ++ r.violations later := by
  simp [violations]

/-- Nothing is reported of checks that all hold, and of no others. -/
theorem violations_eq_nil_iff :
    r.violations checks = [] ↔ ∀ k ∈ checks, k.holds r = true := by
  simp [violations]

/-- What is reported of some of the checks is reported of all of them. -/
theorem violations_sublist (h : checks.Sublist later) :
    (r.violations checks).Sublist (r.violations later) :=
  (h.filter _).map _

end Reading

namespace Expectation

variable {r : Reading} {failures : List CheckFailure}

/-! ## Check by check -/

theorem successFailures_eq (e : Expectation) :
    e.successFailures r.succeeded = r.violations [.success e.wantsSuccess] := by
  rw [Reading.violations_cons, Reading.violations_nil, List.append_nil]
  rfl

/-- The three bounds on the number of rows are checked alike. -/
theorem boundFailure_eq {ok : Int → Int → Bool} {failure : Int → Json → CheckFailure}
    (check : Int → Check)
    (hholds : ∀ n, (check n).holds r = (rowCount? r.rowCount).any fun found => ok found n)
    (hfailure : ∀ n, (check n).failure r = failure n r.rowCount) (bound : Option Int) :
    boundFailure bound ok failure r.rowCount = r.violations (bound.map check).toList := by
  cases bound with
  | none => rfl
  | some n =>
      rw [Option.map_some, Option.toList_some, Reading.violations_cons, Reading.violations_nil,
        List.append_nil, hholds, hfailure, boundFailure]
      cases rowCount? r.rowCount <;> rfl

theorem rowCountFailures_eq_violations (e : Expectation) :
    e.rowCountFailures r.rowCount = r.violations e.rowChecks := by
  rw [rowCountFailures, boundFailure_eq .rowCountEq (fun _ => rfl) fun _ => rfl,
    boundFailure_eq .rowCountGte (fun _ => rfl) fun _ => rfl,
    boundFailure_eq .rowCountLte (fun _ => rfl) fun _ => rfl, rowChecks,
    Reading.violations_append, Reading.violations_append]

/-- A number of rows can always be looked at. -/
theorem legible_of_mem_rowChecks {e : Expectation} : ∀ k ∈ e.rowChecks, k.Legible r := by
  intro k hk
  simp only [rowChecks, List.mem_append, Option.mem_toList, Option.map_eq_some_iff] at hk
  obtain (⟨n, -, rfl⟩ | ⟨n, -, rfl⟩) | ⟨n, -, rfl⟩ := hk <;> trivial

theorem errorFailures_eq_ok_iff {needles : List String} :
    errorFailures r.message needles = .ok failures ↔
      (∀ k ∈ needles.map Check.errorContains, k.Legible r) ∧
        failures = r.violations (needles.map .errorContains) := by
  induction needles generalizing failures with
  | nil => exact ⟨fun h => ⟨List.forall_mem_nil _, (Except.ok.inj h).symm⟩, fun h => h.2 ▸ rfl⟩
  | cons needle rest ih =>
      rw [errorFailures, List.map_cons, Reading.violations_cons, List.forall_mem_cons, Check.holds,
        Check.Legible]
      cases r.message.includes? needle with
      | none =>
          refine iff_of_false (fun h => ?_) fun h => ?_
          · cases h
          · cases h.1.1
      | some found =>
          rw [map_eq_ok]
          constructor
          · rintro ⟨later, hlater, rfl⟩
            obtain ⟨hlegible, rfl⟩ := ih.mp hlater
            exact ⟨⟨rfl, hlegible⟩, by cases found <;> rfl⟩
          · rintro ⟨⟨-, hlegible⟩, rfl⟩
            exact ⟨_, ih.mpr ⟨hlegible, rfl⟩, by cases found <;> rfl⟩

section Assertions

variable (a : PathAssertion)

theorem existenceFailures_eq :
    existenceFailures a (r.value a.path) =
      r.violations (a.existing.map (Check.existing a.path)).toList := by
  rw [existenceFailures]
  cases a.existing with
  | none => rfl
  | some expected =>
      rw [Option.map_some, Option.toList_some, Reading.violations_cons, Reading.violations_nil,
        List.append_nil]
      rfl

theorem equalityFailures_eq_ok_iff :
    equalityFailures a r.vars (r.value a.path) = .ok failures ↔
      (∀ k ∈ (a.equals.map (Check.equals a.path)).toList, k.Legible r) ∧
        failures = r.violations (a.equals.map (Check.equals a.path)).toList := by
  unfold equalityFailures
  split
  · rename_i hequals
    rw [hequals, Except.ok.injEq, eq_comm]
    simp
  · rename_i expected j hequals hplain
    have shown : r.shown? a.path = some j := by rw [Reading.shown?, hplain, Live.now?_plain]
    rw [hequals, Except.ok.injEq, eq_comm, Option.map_some, Option.toList_some,
      List.forall_mem_singleton, Reading.violations_cons, Reading.violations_nil, List.append_nil,
      Check.holds, Check.failure, Check.Legible, shown, hplain]
    simp
  · rename_i expected hequals hplain
    have different : (Check.equals a.path expected).holds r = false := by
      rw [Check.holds]
      split
      · rename_i j hj
        exact absurd hj (hplain j)
      · rfl
    rw [hequals, Option.map_some, Option.toList_some, List.forall_mem_singleton,
      Reading.violations_cons, Reading.violations_nil, List.append_nil, different, Check.failure,
      Check.Legible, Reading.shown?, shown]
    cases (r.value a.path).now? r.vars with
    | none => exact iff_of_false (fun h => nomatch h) fun ⟨h, _⟩ => nomatch h
    | some j => exact ⟨fun h => ⟨rfl, (Except.ok.inj h).symm⟩, fun ⟨_, h⟩ => h ▸ rfl⟩

theorem textFailures_eq_ok_iff :
    textFailures a r.vars (r.value a.path) = .ok failures ↔
      (∀ k ∈ (a.contains.map (Check.contains a.path)).toList, k.Legible r) ∧
        failures = r.violations (a.contains.map (Check.contains a.path)).toList := by
  unfold textFailures
  cases a.contains with
  | none => simp [eq_comm]
  | some needle =>
      rw [Option.map_some, Option.toList_some, List.forall_mem_singleton, Reading.violations_cons,
        Reading.violations_nil, List.append_nil, Check.holds, Check.failure, Check.Legible,
        Reading.shown?, shown]
      cases (r.value a.path).now? r.vars with
      | none => exact iff_of_false (fun h => nomatch h) fun ⟨h, _⟩ => nomatch h
      | some j => exact ⟨fun h => ⟨rfl, (Except.ok.inj h).symm⟩, fun ⟨_, h⟩ => h ▸ rfl⟩

theorem assertionFailures_eq_ok_iff :
    assertionFailures a r.vars (r.value a.path) = .ok failures ↔
      (∀ k ∈ a.checks, k.Legible r) ∧ failures = r.violations a.checks := by
  have existing : ∀ k ∈ (a.existing.map (Check.existing a.path)).toList, k.Legible r := by
    cases a.existing with
    | none => exact fun _ hk => nomatch hk
    | some expected => exact fun k hk => List.mem_singleton.mp hk ▸ trivial
  rw [assertionFailures, PathAssertion.checks, List.forall_mem_append, List.forall_mem_append,
    Reading.violations_append, Reading.violations_append, existenceFailures_eq]
  simp only [bind_eq_ok, pure_eq_ok, equalityFailures_eq_ok_iff, textFailures_eq_ok_iff]
  constructor
  · rintro ⟨unequal, ⟨hequals, rfl⟩, lacking, ⟨hcontains, rfl⟩, rfl⟩
    exact ⟨⟨⟨existing, hequals⟩, hcontains⟩, rfl⟩
  · rintro ⟨⟨⟨-, hequals⟩, hcontains⟩, rfl⟩
    exact ⟨_, ⟨hequals, rfl⟩, _, ⟨hcontains, rfl⟩, rfl⟩

end Assertions

theorem assertsFailures_eq_ok_iff {asserts : List PathAssertion}
    (hpaths : ∀ a ∈ asserts, Path.Readable a.path) :
    assertsFailures r.root r.vars asserts = .ok failures ↔
      (∀ k ∈ asserts.flatMap PathAssertion.checks, k.Legible r) ∧
        failures = r.violations (asserts.flatMap PathAssertion.checks) := by
  induction asserts generalizing failures with
  | nil => exact ⟨fun h => ⟨List.forall_mem_nil _, (Except.ok.inj h).symm⟩, fun h => h.2 ▸ rfl⟩
  | cons a rest ih =>
      obtain ⟨hpath, hrest⟩ := List.forall_mem_cons.mp hpaths
      obtain ⟨steps, hsteps⟩ := Path.exists_segments_iff.mpr hpath
      have found : r.root.at? r.vars a.path = .ok (Live.follow r.vars steps r.root) := by
        rw [Live.at?, hsteps]
        rfl
      rw [assertsFailures, found, List.flatMap_cons, List.forall_mem_append,
        Reading.violations_append]
      change (assertionFailures a r.vars _ >>= _) = _ ↔ _
      rw [← Reading.value_eq found]
      simp only [bind_eq_ok, pure_eq_ok, assertionFailures_eq_ok_iff, ih hrest]
      constructor
      · rintro ⟨first, ⟨hfirst, rfl⟩, later, ⟨hlater, rfl⟩, rfl⟩
        exact ⟨⟨hfirst, hlater⟩, rfl⟩
      · rintro ⟨⟨hfirst, hlater⟩, rfl⟩
        exact ⟨_, ⟨hfirst, rfl⟩, _, ⟨hlater, rfl⟩, rfl⟩

/-! ## All checks -/

/-- A judgement comes to its end where the step can be read and so can what the checks look at. It
then reports the checks that do not hold. -/
theorem evaluate_eq_ok_iff {e : Expectation} {c : StepContext}
    (hpaths : ∀ a ∈ e.asserts, Path.Readable a.path) :
    e.evaluate c = .ok failures ↔
      ∃ r, c.Reads r ∧ (∀ k ∈ e.checks, k.Legible r) ∧ failures = r.violations e.checks := by
  have checks_eq (r : Reading) : r.violations e.checks =
      e.successFailures r.succeeded ++ e.rowCountFailures r.rowCount ++
        r.violations ((e.errorContains.getD []).map .errorContains) ++
        r.violations (e.asserts.flatMap PathAssertion.checks) := by
    rw [successFailures_eq, rowCountFailures_eq_violations, checks, ← List.singleton_append,
      Reading.violations_append, Reading.violations_append, Reading.violations_append,
      List.append_assoc, List.append_assoc, List.append_assoc]
  have legible_iff (r : Reading) : (∀ k ∈ e.checks, k.Legible r) ↔
      (∀ k ∈ (e.errorContains.getD []).map Check.errorContains, k.Legible r) ∧
        ∀ k ∈ e.asserts.flatMap PathAssertion.checks, k.Legible r := by
    rw [checks, List.forall_mem_cons, List.forall_mem_append, List.forall_mem_append]
    exact ⟨fun ⟨_, ⟨_, h⟩, h'⟩ => ⟨h, h'⟩,
      fun ⟨h, h'⟩ => ⟨trivial, ⟨legible_of_mem_rowChecks, h⟩, h'⟩⟩
  unfold evaluate
  constructor
  · intro h
    obtain ⟨succeeded, hsucceeded, h⟩ := bind_eq_ok.mp h
    obtain ⟨rowCount, hrowCount, h⟩ := bind_eq_ok.mp h
    obtain ⟨message, hmessage, h⟩ := bind_eq_ok.mp h
    obtain ⟨unmentioned, hunmentioned, h⟩ := bind_eq_ok.mp h
    obtain ⟨root, hroot, h⟩ := bind_eq_ok.mp h
    obtain ⟨asserted, hasserted, h⟩ := bind_eq_ok.mp h
    let r : Reading := ⟨succeeded, rowCount, message, root, c.vars⟩
    obtain ⟨searched, rfl⟩ := (errorFailures_eq_ok_iff (r := r)).mp hunmentioned
    obtain ⟨shown, rfl⟩ := (assertsFailures_eq_ok_iff (r := r) hpaths).mp hasserted
    exact ⟨r, ⟨hsucceeded, hrowCount, StepContext.errorMessage_eq_ok_iff.mp hmessage, hroot, rfl⟩,
      (legible_iff r).mpr ⟨searched, shown⟩, (pure_eq_ok.mp h).symm.trans (checks_eq r).symm⟩
  · rintro ⟨r, hr, hlegible, rfl⟩
    obtain ⟨searched, shown⟩ := (legible_iff r).mp hlegible
    rw [hr.succeeded, hr.rowCount, StepContext.errorMessage_eq_ok_iff.mpr hr.message, hr.root,
      hr.vars]
    exact bind_eq_ok.mpr ⟨_, rfl, bind_eq_ok.mpr ⟨_, rfl, bind_eq_ok.mpr ⟨_, rfl,
      bind_eq_ok.mpr ⟨_, errorFailures_eq_ok_iff.mpr ⟨searched, rfl⟩, bind_eq_ok.mpr ⟨_, rfl,
        bind_eq_ok.mpr ⟨_, (assertsFailures_eq_ok_iff hpaths).mpr ⟨shown, rfl⟩,
          congrArg Except.ok (checks_eq r).symm⟩⟩⟩⟩⟩⟩

theorem readable_of_assertsFailures {root : Live} {vars : Bag} {asserts : List PathAssertion}
    (h : assertsFailures root vars asserts = .ok failures) :
    ∀ a ∈ asserts, Path.Readable a.path := by
  induction asserts generalizing failures with
  | nil => exact List.forall_mem_nil _
  | cons a rest ih =>
      rw [assertsFailures] at h
      obtain ⟨found, hfound, h⟩ := bind_eq_ok.mp h
      obtain ⟨first, -, h⟩ := bind_eq_ok.mp h
      obtain ⟨later, hlater, -⟩ := bind_eq_ok.mp h
      refine List.forall_mem_cons.mpr ⟨Path.exists_segments_iff.mp ?_, ih hlater⟩
      rw [Live.at?] at hfound
      cases hsteps : Path.segments a.path with
      | ok steps => exact ⟨steps, rfl⟩
      | error e => rw [hsteps] at hfound; cases hfound

/-- What a judgement has reported are checks that do not hold. -/
theorem violations_of_evaluate {e : Expectation} {c : StepContext}
    (h : e.evaluate c = .ok failures) : ∃ r, c.Reads r ∧ failures = r.violations e.checks := by
  have hpaths : ∀ a ∈ e.asserts, Path.Readable a.path := by
    have chain := h
    unfold evaluate at chain
    obtain ⟨succeeded, -, chain⟩ := bind_eq_ok.mp chain
    obtain ⟨stated, -, chain⟩ := bind_eq_ok.mp chain
    obtain ⟨message, -, chain⟩ := bind_eq_ok.mp chain
    obtain ⟨unmentioned, -, chain⟩ := bind_eq_ok.mp chain
    obtain ⟨root, -, chain⟩ := bind_eq_ok.mp chain
    obtain ⟨asserted, hasserted, -⟩ := bind_eq_ok.mp chain
    exact readable_of_assertsFailures hasserted
  obtain ⟨r, hr, -, hfailures⟩ := (evaluate_eq_ok_iff hpaths).mp h
  exact ⟨r, hr, hfailures⟩

/-- A step passes if and only if each of its checks holds, and otherwise what is reported are the
checks that do not, one failure for each and in their order, so that what is reported stays reported
when checks are added. A step can be read unless something in it has not its form, and equality is
that of scalars of the same kind, or of numbers that amount to the same, in the form in which every
numeral is read. -/
theorem judgement_lists_violations {e : Expectation} {c : StepContext}
    (hpaths : ∀ a ∈ e.asserts, Path.Readable a.path) :
    (e.evaluate c = .ok [] ↔ ∃ r, c.Reads r ∧ ∀ k ∈ e.checks, k.holds r = true) ∧
      (∀ failures, e.evaluate c = .ok failures ↔
        ∃ r, c.Reads r ∧ (∀ k ∈ e.checks, k.Legible r) ∧ failures = r.violations e.checks) ∧
      (∀ (e' : Expectation) (failures' : List CheckFailure),
        (∀ a ∈ e'.asserts, Path.Readable a.path) → e.checks.Sublist e'.checks →
          e'.evaluate c = .ok failures' →
            ∃ failures, e.evaluate c = .ok failures ∧ failures.Sublist failures') ∧
      (StepContext.HasForm c.translation → StepContext.HasForm c.response → ∃ r, c.Reads r) ∧
      (∀ n : Numeral, (Json.float n.toBinary64).Standard) ∧
      ∀ j k : Json, j.Standard → k.Standard → (j.strictlyEquals k = true ↔ Json.Same j k) := by
  refine ⟨?passes, fun failures => evaluate_eq_ok_iff hpaths, ?grows,
    StepContext.exists_reads, fun n => Binary64.standard_ofDecimal _ _ _,
    fun j k => Json.strictlyEquals_iff⟩
  case passes =>
    rw [evaluate_eq_ok_iff hpaths]
    refine exists_congr fun r => and_congr_right fun _ => ?_
    rw [eq_comm, Reading.violations_eq_nil_iff]
    exact ⟨fun ⟨_, hholds⟩ => hholds,
      fun hholds => ⟨fun k hk => Check.legible_of_holds (hholds k hk), hholds⟩⟩
  case grows =>
    intro e' failures' hpaths' hchecks h
    obtain ⟨r, hr, hlegible, rfl⟩ := (evaluate_eq_ok_iff hpaths').mp h
    exact ⟨_, (evaluate_eq_ok_iff hpaths).mpr
      ⟨r, hr, fun k hk => hlegible k (hchecks.subset hk), rfl⟩, Reading.violations_sublist hchecks⟩

/-- A step whose insert was rejected. -/
def rejection : StepContext where
  prompt := .null
  translation := .null
  request := .null
  response := .object [("success", .bool false),
    ("error", .object [("message", .text "duplicate key value"), ("code", .text "DATABASE_ERROR")])]
  error := .null
  captures := .object []
  varsRoot := .object []
  vars := []

/-- An insert is expected to be rejected by name, and no rows to be there. -/
def rejects : Expectation where
  success := some false
  rowCountEq := some 0
  rowCountGte := none
  rowCountLte := none
  errorContains := some ["duplicate key"]
  asserts := [⟨"response.error.code", some (.text "DATABASE_ERROR"), some true, none⟩]

/-- All holds but that the number of rows is not stated. -/
theorem judgement_of_rejection :
    (∀ a ∈ rejects.asserts, Path.Readable a.path) ∧
      rejects.evaluate rejection = .ok [.rowCountEq 0 .null] := by
  have readable : ∀ a ∈ rejects.asserts, Path.Readable a.path :=
    List.forall_mem_singleton.mpr (Path.exists_segments_iff.mp ⟨_, rfl⟩)
  exact ⟨readable, ((judgement_lists_violations readable).2.1 _).mpr ⟨⟨false, .null,
    .text "duplicate key value", _, []⟩, ⟨rfl, rfl, .response rfl rfl, rfl, rfl⟩,
    by decide +kernel, rfl⟩⟩

end Expectation

end Tenancy
