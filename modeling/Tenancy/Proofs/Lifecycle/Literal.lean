/-
# Literal requests without tokens

A literal request goes a long way before it is carried out: what was given of it is written down,
searched for tokens, put under the scopes of the run and of the step, read again and given the
values that stand in its payload. This module shows that where there are no tokens the command comes
out of this as it was submitted, and compiles to the same statements.

Two things stand in the way of saying so of every request. The merged scope may be refused, and the
request may be nested more deeply than it is searched. The second one is a matter of how far the
stack reaches, and a tree of batches that is read without complaint can be too deep for it.
-/

import Tenancy.Lifecycle.Prepare
import Tenancy.Proofs.Command.Rereading
import Tenancy.Proofs.Statement.Settling
import Tenancy.Proofs.Template.Plain
import Tenancy.Proofs.Template.Resolution

namespace Tenancy

open Validation Template

/-! ## Parts of what was put together again -/

namespace Json

theorem get?_reassembledFields (fields : Fields) (name : String) :
    Named.get? (reassembledFields fields) name = (Named.get? fields name).map reassembled := by
  induction fields with
  | nil => rfl
  | cons f rest ih =>
      rw [reassembledFields, Named.get?_cons, Named.get?_cons, ih, apply_ite (Option.map _)]
      rfl

theorem part_reassembled {fields : Fields} {name : String} {j : Json}
    (h : Named.get? fields name = some j) :
    (Json.object fields).reassembled.part name = j.reassembled := by
  rw [reassembled, Live.part, Live.fields, get?_reassembledFields, h]
  rfl

theorem items_reassembled_list (items : List Json) :
    (Json.list items).reassembled.items = items.map reassembled :=
  reassembledItems_eq_map items

/-- Fields that were put together again do not refer to the variables. -/
theorem stand_reassembledFields (fields : Fields) : Compiler.Stand (reassembledFields fields) := by
  intro f hf
  rw [reassembledFields_eq_map] at hf
  obtain ⟨_, -, rfl⟩ := List.mem_map.mp hf
  exact refers_reassembled _

theorem settled_reassembledFields (vars : Bag) (fields : Fields) :
    Named.settled vars (reassembledFields fields) = Live.ofFields fields := by
  rw [reassembledFields_eq_map, Named.settled, List.map_map, Live.ofFields]
  apply List.map_congr_left
  intro f _
  show (f.1, Live.settled vars f.2.reassembled) = _
  rw [Live.settled, fill_reassembled]

end Json

/-! ## Commands with the values of their payloads -/

namespace Command

/-- No value in the command refers to the variables, and whatever these are, the command shows the
other one. -/
structure Shows (c shown : Command) : Prop where
  standing : c.Standing
  settled : ∀ vars, c.settled vars = shown

/-- What the reader accepts is shown by the command with the values that stand in the payload, once
this has been put together again. -/
def Shown (r : Reader Command) : Prop :=
  ∀ j a, r j = .ok a → (a.value.livened j.reassembled).Shows a.value

theorem shown_query : Shown (Query.reader.map Command.query) := by
  intro j a h
  obtain ⟨q, -, rfl⟩ := map_eq_ok.mp h
  exact ⟨trivial, fun _ => rfl⟩

/-- The values of a mutation that is read from a payload are the plain ones that stand in it. -/
theorem values_of_reader {fs : Fields} {m : Accepted Mutation}
    (h : Mutation.reader (.object fs) = .ok m) {values : Named Live}
    (hvalues : m.value.values = some values) :
    ∃ given, Named.get? fs "values" = some (.object given) ∧ values = Live.ofFields given := by
  rw [Mutation.reader, Reader.object] at h
  obtain ⟨_, taken, hfs, htaken, -, rfl⟩ := Reader.record_eq_ok h
  cases hfs
  obtain ⟨t₅, _, h₅, -, rfl⟩ := FieldReader.seq_eq_ok.mp htaken
  obtain ⟨t₄, _, h₄, -, rfl⟩ := FieldReader.seq_eq_ok.mp h₅
  obtain ⟨t₃, read, h₃, hread, rfl⟩ := FieldReader.seq_eq_ok.mp h₄
  obtain ⟨t₂, _, h₂, -, rfl⟩ := FieldReader.seq_eq_ok.mp h₃
  obtain ⟨t₁, _, h₁, -, rfl⟩ := FieldReader.seq_eq_ok.mp h₂
  obtain ⟨_, -, rfl⟩ := FieldReader.map_eq_ok.mp h₁
  obtain ⟨j, a, hj, ha, rfl⟩ := maybe_eq_some rfl hread hvalues
  obtain ⟨given, hgiven, rfl⟩ := map_eq_ok.mp ha
  rw [(Reader.fields_eq_ok hgiven).1] at hj
  exact ⟨given.value, hj, rfl⟩

/-- Values that stand for themselves may take the place of the values that they show. -/
theorem shows_livened_mutate {payload : Live} {m : Mutation}
    (h : ∀ values, m.values = some values → Compiler.Stand (payload.part "values").fields ∧
      ∀ vars, Named.settled vars (payload.part "values").fields = values) :
    ((Command.mutate m).livened payload).Shows (.mutate m) := by
  obtain ⟨action, table, values, filters, returning⟩ := m
  cases values with
  | none => exact ⟨List.forall_mem_nil _, fun _ => rfl⟩
  | some values =>
      obtain ⟨hstand, hsettled⟩ := h values rfl
      constructor
      · exact hstand
      · intro vars
        show Command.mutate ⟨action, table, some (Named.settled vars _), filters, returning⟩ = _
        rw [hsettled]

theorem shown_mutate : Shown (Mutation.reader.map Command.mutate) := by
  intro j a h
  obtain ⟨m, hm, rfl⟩ := map_eq_ok.mp h
  obtain ⟨fs, rfl, -⟩ := Mutation.tagged_reader j m hm
  apply shows_livened_mutate
  intro values hvalues
  obtain ⟨given, hgiven, rfl⟩ := values_of_reader hm hvalues
  rw [Json.part_reassembled hgiven]
  exact ⟨Json.stand_reassembledFields given, fun vars => Json.settled_reassembledFields vars given⟩

theorem shown_level {r : Reader Command} (h : Shown r) : Shown r.level := by
  intro j a ha
  obtain ⟨b, hb, rfl⟩ := map_eq_ok.mp ha
  exact h j b hb

/-- The steps of a batch are shown one by one. -/
theorem shows_livenedSteps {step : Reader Command} (h : Shown step) {js : List Json} {i : Nat}
    {as : List (Accepted Command)} (has : step.items i js = .ok as) :
    StandingSteps (livenedSteps (js.map Json.reassembled) (as.map Accepted.value)) ∧
      ∀ vars, settledSteps vars (livenedSteps (js.map Json.reassembled) (as.map Accepted.value)) =
        as.map Accepted.value := by
  induction js generalizing i as with
  | nil =>
      cases has
      exact ⟨trivial, fun _ => rfl⟩
  | cons j rest ih =>
      obtain ⟨a, others, ha, hothers, rfl⟩ := Reader.items_cons_eq_ok.mp has
      obtain ⟨hstanding, hsettled⟩ := ih hothers
      have first := h j a ha
      constructor
      · exact ⟨first.standing, hstanding⟩
      · intro vars
        show (a.value.livened j.reassembled).settled vars :: settledSteps vars _ = _
        rw [first.settled, hsettled, List.map_cons]

theorem shown_batchReader {step : Reader Command} (h : Shown step) : Shown (batchReader step) := by
  apply shown_level
  intro j a ha
  rw [Reader.object] at ha
  obtain ⟨fs, taken, rfl, htaken, -, rfl⟩ := Reader.record_eq_ok ha
  obtain ⟨_, read, hkind, hread, rfl⟩ := FieldReader.seq_eq_ok.mp htaken
  obtain ⟨_, -, rfl⟩ := FieldReader.map_eq_ok.mp hkind
  obtain ⟨steps, b, hsteps, hb, hvalue⟩ := need_eq_ok rfl hread
  obtain ⟨js, as, rfl, has, rfl⟩ := Reader.list_eq_ok (Reader.guarded_eq_ok.mp hb).1
  obtain ⟨hstanding, hsettled⟩ := shows_livenedSteps h has
  show (Command.livened _ (Command.batch read.value)).Shows (.batch read.value)
  rw [← hvalue, livened, Json.part_reassembled hsteps, Json.items_reassembled_list]
  exact ⟨hstanding, fun vars => congrArg Command.batch (hsettled vars)⟩

theorem shown_readerWith {batch : Reader Command} (htagged : batch.Tagged "batch")
    (h : Shown batch) : Shown (readerWith batch) := by
  intro j a ha
  rcases (readerWith_eq_ok htagged).mp ha with ha | ha | ha
  · exact shown_query j a ha
  · exact shown_mutate j a ha
  · exact h j a ha

theorem shown_stepReader (batches : Nat) : Shown (stepReader batches) := by
  induction batches with
  | zero =>
      apply shown_readerWith
      · intro j a h
        cases h
      · intro j a h
        cases h
  | succ batches ih => exact shown_readerWith tagged_batchReader (shown_batchReader ih)

/-- What is read as the command of a request is shown by the command with the values that stand in
the payload. -/
theorem shown_partReader : Shown partReader :=
  shown_readerWith tagged_batchReader.level (shown_level (shown_batchReader (shown_stepReader _)))

end Command

/-! ## Requests and the steps they belong to -/

/-- The command of a request is read from its own field. -/
theorem Request.command_of_reader {fs : Fields} {a : Accepted Request}
    (h : Request.reader (.object fs) = .ok a) :
    ∃ j b, Named.get? fs "command" = some j ∧ Command.partReader j = .ok b ∧
      b.value = a.value.command := by
  rw [Request.reader, Reader.object] at h
  obtain ⟨_, taken, hfs, htaken, -, rfl⟩ := Reader.record_eq_ok h
  cases hfs
  obtain ⟨t₅, _, h₅, -, rfl⟩ := FieldReader.seq_eq_ok.mp htaken
  obtain ⟨t₄, command, h₄, hcommand, rfl⟩ := FieldReader.seq_eq_ok.mp h₅
  obtain ⟨t₃, _, h₃, -, rfl⟩ := FieldReader.seq_eq_ok.mp h₄
  obtain ⟨t₂, _, h₂, -, rfl⟩ := FieldReader.seq_eq_ok.mp h₃
  obtain ⟨t₁, _, h₁, -, rfl⟩ := FieldReader.seq_eq_ok.mp h₂
  obtain ⟨_, -, rfl⟩ := FieldReader.map_eq_ok.mp h₁
  exact need_eq_ok rfl hcommand

theorem Request.written_eq_object {payload : Json} {a : Accepted Request}
    (h : Request.reader payload = .ok a) : ∃ given, a.written = .object given := by
  rw [Request.reader, Reader.object] at h
  obtain ⟨_, taken, -, -, -, rfl⟩ := Reader.record_eq_ok h
  exact ⟨taken.written, rfl⟩

/-- The step is literal, and this is the request that was read as its own. -/
structure LifecycleStep.Submits (s : LifecycleStep) (submitted : Accepted Request) : Prop where
  literal : s.request = some submitted
  read : ∃ payload, Request.reader payload = .ok submitted

/-- A step that is read from a payload with a request submits that request. -/
theorem LifecycleStep.submits_of_reader {payload : Json} {s : Accepted LifecycleStep}
    (h : LifecycleStep.reader payload = .ok s) {submitted : Accepted Request}
    (hrequest : s.value.request = some submitted) : s.value.Submits submitted := by
  rw [LifecycleStep.reader] at h
  obtain ⟨fs, taken, rfl, htaken, -, rfl⟩ := Reader.record_eq_ok h
  obtain ⟨t₉, _, h₉, -, rfl⟩ := FieldReader.seq_eq_ok.mp htaken
  obtain ⟨t₈, _, h₈, -, rfl⟩ := FieldReader.seq_eq_ok.mp h₉
  obtain ⟨t₇, _, h₇, -, rfl⟩ := FieldReader.seq_eq_ok.mp h₈
  obtain ⟨t₆, _, h₆, -, rfl⟩ := FieldReader.seq_eq_ok.mp h₇
  obtain ⟨t₅, _, h₅, -, rfl⟩ := FieldReader.seq_eq_ok.mp h₆
  obtain ⟨t₄, read, h₄, hread, rfl⟩ := FieldReader.seq_eq_ok.mp h₅
  obtain ⟨t₃, _, h₃, -, rfl⟩ := FieldReader.seq_eq_ok.mp h₄
  obtain ⟨t₂, _, h₂, -, rfl⟩ := FieldReader.seq_eq_ok.mp h₃
  obtain ⟨t₁, _, h₁, -, rfl⟩ := FieldReader.seq_eq_ok.mp h₂
  obtain ⟨_, -, rfl⟩ := FieldReader.map_eq_ok.mp h₁
  obtain ⟨j, a, -, ha, rfl⟩ := maybe_eq_some rfl hread hrequest
  obtain ⟨b, hb, rfl⟩ := map_eq_ok.mp ha
  exact ⟨hrequest, j, hb⟩

/-- The payload of a step with nothing but a name and a literal request. -/
def literalStep (request : Json) : Json :=
  .object [("name", .text "literal"), ("request", request)]

theorem LifecycleStep.reader_literalStep {fs : Fields} {submitted : Accepted Request}
    (h : Request.reader (.object fs) = .ok submitted) :
    ∃ s, LifecycleStep.reader (literalStep (.object fs)) = .ok s ∧
      s.value.request = some submitted ∧ s.value.scope = none := by
  have kept : Request.reader.kept.nullable (.object fs) =
      .ok ⟨some submitted, submitted.full, submitted.given⟩ := by
    rw [Reader.nullable_of_ne_null Json.noConfusion, Reader.map, Reader.kept, h]
    rfl
  have request : maybe "request" Request.reader.kept
      [("name", .text "literal"), ("request", .object fs)] = .ok ⟨some submitted, _, _⟩ :=
    FieldName.take_of_eq_ok kept
  refine ⟨_, Reader.record_of_eq_ok (FieldReader.seq_eq_ok.mpr ⟨_, _, FieldReader.seq_eq_ok.mpr
    ⟨_, _, FieldReader.seq_eq_ok.mpr ⟨_, _, FieldReader.seq_eq_ok.mpr ⟨_, _,
    FieldReader.seq_eq_ok.mpr ⟨_, _, FieldReader.seq_eq_ok.mpr ⟨_, _, rfl, request, rfl⟩,
    rfl, rfl⟩, rfl, rfl⟩, rfl, rfl⟩, rfl, rfl⟩, rfl, rfl⟩) rfl, rfl, rfl⟩

namespace Prepared

/-! ## The payload of a request without tokens -/

theorem get?_fillFields (bag : Json) (fields : Named Live) (name : String) :
    Named.get? (Live.fillFields bag fields) name = (fields.get? name).map (Live.fill bag) := by
  induction fields with
  | nil => rfl
  | cons f rest ih =>
      rw [Live.fillFields, Named.get?_cons, Named.get?_cons, ih, apply_ite (Option.map _)]
      rfl

/-- The payload that a request without tokens is read from again. -/
def plainPayload (defaultScope stepScope : Named Live) (given : Json) : Live :=
  literalPayload defaultScope stepScope given.reassembled.fields

/-- The scope in that payload: the scope of the run, what is not null in the scope of the request,
and the scope of the step, the later ones winning. -/
def mergedScope (defaultScope stepScope : Named Live) (given : Json) : Live :=
  (plainPayload defaultScope stepScope given).part "scope"

variable (defaultScope stepScope : Named Live) (given : Fields)

theorem get?_plainPayload_scope :
    Named.get? (plainPayload defaultScope stepScope (.object given)).fields "scope" =
      some (mergedScope defaultScope stepScope (.object given)) := by
  rw [mergedScope, Live.part, plainPayload, literalPayload, Live.fields, Named.get?_put_self]
  rfl

theorem get?_plainPayload_dryRun :
    Named.get? (plainPayload defaultScope stepScope (.object given)).fields "dryRun" =
      some (.plain (.bool false)) := by
  rw [plainPayload, literalPayload, Live.fields, Named.get?_put_of_ne _ _ (by decide),
    Named.get?_put_self]

theorem get?_plainPayload {name : String} (hdryRun : name ≠ "dryRun") (hscope : name ≠ "scope") :
    Named.get? (plainPayload defaultScope stepScope (.object given)).fields name =
      (Named.get? given name).map Json.reassembled := by
  rw [plainPayload, literalPayload, Live.fields, Named.get?_put_of_ne _ _ hscope.symm,
    Named.get?_put_of_ne _ _ hdryRun.symm]
  exact Json.get?_reassembledFields given name

/-- What was given of a request is read once more from that payload, as the same request but for
what the payload puts in the place of the scope and of the dry run. -/
theorem reader_plainPayload {payload : Json} {submitted : Accepted Request}
    (hread : Request.reader payload = .ok submitted) (bag : Json) {scope : Accepted Scope}
    (hscope : Scope.reader ((mergedScope defaultScope stepScope submitted.written).fill bag) =
      .ok scope) :
    ∃ again, Request.reader ((plainPayload defaultScope stepScope submitted.written).fill bag) =
        .ok again ∧
      again.value = { submitted.value with dryRun := some false, scope := scope.value } ∧
      (again.value.livened (plainPayload defaultScope stepScope submitted.written)).command.Shows
        submitted.value.command := by
  obtain ⟨given, hgiven⟩ := Request.written_eq_object hread
  rw [hgiven] at hscope ⊢
  have filled (name : String) : Named.get? (Live.fillFields bag
      (plainPayload defaultScope stepScope (.object given)).fields) name =
        (Named.get? (plainPayload defaultScope stepScope (.object given)).fields name).map
          (Live.fill bag) := get?_fillFields bag _ name
  -- under the two fields that are put over it the payload holds what was given
  have kept (name : String) (hdryRun : name ≠ "dryRun") (hscope : name ≠ "scope") :
      submitted.written.field? name = Named.get? (Live.fillFields bag
        (plainPayload defaultScope stepScope (.object given)).fields) name := by
    rw [filled, get?_plainPayload _ _ _ hdryRun hscope, hgiven, Option.map_map]
    show Named.get? given name = (Named.get? given name).map fun j => j.reassembled.fill bag
    simp only [Json.fill_reassembled, Option.map_id']
  obtain ⟨again, hagain, hvalue⟩ := Request.reread hread
    (by rw [filled, get?_plainPayload_dryRun]; rfl) (by rw [filled, get?_plainPayload_scope]; rfl)
    hscope kept
  refine ⟨again, hagain, hvalue, ?_⟩
  -- the field that the command is read from is the one that its values are taken from
  obtain ⟨j, command, hj, hcommand, hsame⟩ := Request.command_of_reader hagain
  rw [← kept "command" (by decide) (by decide), hgiven] at hj
  have part : (plainPayload defaultScope stepScope (.object given)).part "command" =
      j.reassembled := by
    rw [Live.part, get?_plainPayload _ _ _ (by decide) (by decide),
      show Named.get? given "command" = some j from hj]
    rfl
  have shown := Command.shown_partReader j command hcommand
  rw [hsame, ← part] at shown
  rw [hvalue] at shown ⊢
  exact shown

/-! ## Literal steps -/

section Steps

variable {ids : IdSource} {translator : Translator} {s : LifecycleStep}
  {submitted : Accepted Request} {t mid : Interpreter}

/-- **A literal request without tokens is carried out as it was submitted.** Where the scope of the
step comes out and the merged scope is valid, preparing the step comes to a request under that scope
whose command shows the submitted command, and compiles under any scope as that one does: to
statements with the same texts, and with parameters that show the same. -/
theorem literal_as_submitted (hs : s.Submits submitted) (hplain : submitted.written.Unbraced)
    (hlevels : submitted.written.levels ≤ t.stack.search)
    (hscope : Interpreter.interpolateFields ids ((s.scope.map Scope.stated).getD []) t =
      (.ok stepScope, mid))
    {scope : Accepted Scope}
    (hmerged : Scope.reader ((mergedScope defaultScope stepScope submitted.written).fill
      mid.vars.outline) = .ok scope) :
    ∃ r, step ids translator defaultScope s t =
        ({ resolvedPrompt := none, translation := none, request := some r, error := none }, mid) ∧
      r.dryRun = some false ∧ r.scope = scope.value ∧ r.command.Shows submitted.value.command ∧
      ∀ (k : Compiler) (under : Scope) (vars : Bag), k.compile under submitted.value.command =
          (k.compile under r.command).map (Plan.settled vars) ∧
        ∀ plan, k.compile under submitted.value.command = .ok plan →
          ∃ own, k.compile under r.command = .ok own ∧
            plan.leaves.map Statement.sql = own.leaves.map Statement.sql ∧
            plan.leaves.map Statement.params =
              own.leaves.map fun s => s.params.map (Value.settled vars) := by
  obtain ⟨payload, hread⟩ := hs.read
  obtain ⟨again, hagain, hvalue, hshows⟩ :=
    reader_plainPayload defaultScope stepScope hread mid.vars.outline hmerged
  rw [← Interpreter.stack_interpolateFields hscope] at hlevels
  refine ⟨again.value.livened (plainPayload defaultScope stepScope submitted.written), ?_, ?_, ?_,
    hshows, ?_⟩
  · rw [step, hscope]
    dsimp only
    rw [hs.literal]
    show literal ids defaultScope stepScope submitted.written mid = _
    rw [literal, Interpreter.interpolate,
      Interpreter.interpolateWithin_of_unbraced ids mid _ _ hplain hlevels]
    dsimp only
    rw [← plainPayload, Reader.run, hagain]
  · rw [hvalue]
    rfl
  · rw [hvalue]
    rfl
  · intro k under vars
    have same : k.compile under submitted.value.command = (k.compile under
        (again.value.livened (plainPayload defaultScope stepScope submitted.written)).command).map
          (Plan.settled vars) := by
      rw [← k.compile_settled vars _ hshows.standing, hshows.settled]
    refine ⟨same, fun plan hplan => ?_⟩
    obtain ⟨own, hown, rfl⟩ := map_eq_ok.mp (same.symm.trans hplan)
    exact ⟨own, hown, own.written_settled vars⟩

/-- A request with a batch: a query with a null and with no operand at all, and an insertion of
values that only their types tell apart. -/
def demoSubmission : Fields :=
  [("command", .object [("kind", .text "batch"), ("steps", .list [
    .object [("kind", .text "query"), ("table", .text "locations"), ("filters", .list [
      .object [("column", .text "name"), ("op", .text "eq"), ("value", .null)],
      .object [("column", .text "slug"), ("op", .text "eq")]])],
    .object [("kind", .text "mutate"), ("action", .text "insert"), ("table", .text "locations"),
      ("values", .object [("slug", .text "1"), ("name", .int 1),
        ("settings", .list [.float (.finite false 1 0), .bool true])])]])])]

/-- What is known when a step begins. -/
def demoRun : Interpreter :=
  ⟨[("runId", .plain (.text "run"))], [], 0, ⟨0⟩⟩

theorem literal_as_submitted_demo : ∃ (s : Accepted LifecycleStep) (submitted : Accepted Request)
    (scope : Accepted Scope) (r : Request),
      LifecycleStep.reader (literalStep (.object demoSubmission)) = .ok s ∧
      s.value.Submits submitted ∧ submitted.written.Unbraced ∧
      submitted.written.levels ≤ demoRun.stack.search ∧
      Interpreter.interpolateFields .counting ((s.value.scope.map Scope.stated).getD []) demoRun =
        (.ok [], demoRun) ∧
      Scope.reader ((mergedScope [] [] submitted.written).fill demoRun.vars.outline) = .ok scope ∧
      (step .counting (fun _ => .error (.raised "none")) [] s.value demoRun).1.request = some r ∧
      r.command.Shows submitted.value.command := by
  obtain ⟨submitted, hread, hwritten⟩ : ∃ submitted,
      Request.reader (.object demoSubmission) = .ok submitted ∧
        submitted.written = .object demoSubmission := ⟨_, rfl, rfl⟩
  obtain ⟨s, hs, hrequest, hscope⟩ := LifecycleStep.reader_literalStep hread
  have hsubmits := LifecycleStep.submits_of_reader hs hrequest
  have hplain : submitted.written.Unbraced := by
    rw [hwritten]
    decide +kernel
  have hlevels : submitted.written.levels ≤ demoRun.stack.search := by
    rw [hwritten]
    decide +kernel
  have hfields : Interpreter.interpolateFields .counting
      ((s.value.scope.map Scope.stated).getD []) demoRun = (.ok [], demoRun) := by
    rw [hscope]
    rfl
  obtain ⟨scope, hmerged⟩ : ∃ scope, Scope.reader ((mergedScope [] [] submitted.written).fill
      demoRun.vars.outline) = .ok scope := by
    rw [hwritten]
    exact ⟨_, rfl⟩
  obtain ⟨r, hr, -, -, hshows, -⟩ :=
    literal_as_submitted [] [] hsubmits hplain hlevels hfields hmerged
  refine ⟨s, submitted, scope, r, hs, hsubmits, hplain, hlevels, hfields, hmerged, ?_, hshows⟩
  rw [hr]

/-! ## Trees that are too deep -/

/-- A literal request without tokens that is nested more deeply than it is searched is refused. -/
theorem literal_of_deep (hs : s.Submits submitted) (hplain : submitted.written.Unbraced)
    (hlevels : t.stack.search < submitted.written.levels)
    (hscope : Interpreter.interpolateFields ids ((s.scope.map Scope.stated).getD []) t =
      (.ok stepScope, mid)) :
    step ids translator defaultScope s t = (failed Failure.tooDeep.message, mid) := by
  rw [← Interpreter.stack_interpolateFields hscope] at hlevels
  rw [step, hscope]
  dsimp only
  rw [hs.literal]
  show literal ids defaultScope stepScope submitted.written mid = _
  rw [literal, Interpreter.interpolate,
    Interpreter.interpolateWithin_of_deep ids mid _ _ hplain hlevels]

end Steps

end Prepared

namespace Command

/-- The payload of a batch of one step. -/
def batchOf (step : Json) : Json :=
  .object [("kind", .text "batch"), ("steps", .list [step])]

/-- The payload of a command inside so many batches. -/
def batched : Nat → Json → Json
  | 0, j => j
  | batches + 1, j => batchOf (batched batches j)

theorem unbraced_batched {j : Json} (h : j.Unbraced) (batches : Nat) :
    (batched batches j).Unbraced := by
  induction batches with
  | zero => exact h
  | succ batches ih =>
      have kind : (Json.text "batch").Unbraced := by decide +kernel
      exact ⟨kind, ⟨ih, trivial⟩, trivial⟩

/-- Every batch adds two levels, its own and that of its steps. -/
theorem levels_batched (batches : Nat) (j : Json) :
    (batched batches j).levels = 2 * batches + j.levels := by
  induction batches with
  | zero => simp [batched]
  | succ batches ih =>
      show max 0 (max (max (batched batches j).levels 0 + 1) 0) + 1 = _
      rw [ih]
      omega

theorem batchReader_batchOf {step : Reader Command} {j : Json} {a : Accepted Command}
    (h : step j = .ok a) (hwritten : a.written = j) :
    ∃ b, batchReader step (batchOf j) = .ok b ∧ b.written = batchOf j := by
  have items : step.items 0 [j] = .ok [a] := Reader.items_cons_eq_ok.mpr ⟨a, [], h, rfl, rfl⟩
  have list : step.nonemptyList (.list [j]) = .ok (Reader.ofItems [a]) :=
    Reader.guarded_eq_ok.mpr ⟨map_eq_ok.mpr ⟨[a], items, rfl⟩, rfl⟩
  have steps : need "steps" step.nonemptyList [("kind", .text "batch"), ("steps", .list [j])] =
      .ok ⟨[a.value], _, _⟩ := FieldName.take_of_eq_ok list
  refine ⟨_, map_eq_ok.mpr ⟨_, Reader.record_of_eq_ok (FieldReader.seq_eq_ok.mpr
    ⟨_, _, FieldReader.map_eq_ok.mpr ⟨_, rfl, rfl⟩, steps, rfl⟩) rfl, rfl⟩, ?_⟩
  show Json.object [("kind", .text "batch"), ("steps", .list [a.written])] = _
  rw [hwritten]
  rfl

variable {j : Json} (h : ∀ batches, ∃ a, stepReader batches j = .ok a ∧ a.written = j)

include h in
/-- A command inside batches is read while these are not more than are allowed. -/
theorem stepReader_batched {inner batches : Nat} (hinner : inner ≤ batches) :
    ∃ a, stepReader batches (batched inner j) = .ok a ∧ a.written = batched inner j := by
  induction inner generalizing batches with
  | zero => exact h batches
  | succ inner ih =>
      obtain ⟨batches, rfl⟩ := Nat.exists_eq_add_of_le' hinner
      obtain ⟨a, ha, hwritten⟩ := ih (Nat.le_of_add_le_add_right hinner)
      obtain ⟨b, hb, hwritten⟩ := batchReader_batchOf ha hwritten
      exact ⟨b, Outcome.under_eq_ok.mpr hb, hwritten⟩

include h in
theorem partReader_batched {inner : Nat} (hpos : 0 < inner) (hinner : inner ≤ maxBatches) :
    ∃ a, partReader (batched inner j) = .ok a ∧ a.written = batched inner j := by
  obtain ⟨inner, rfl⟩ := Nat.exists_eq_add_of_le' hpos
  obtain ⟨a, ha, hwritten⟩ := stepReader_batched h (Nat.le_sub_one_of_lt hinner)
  obtain ⟨b, hb, hwritten⟩ := batchReader_batchOf ha hwritten
  exact ⟨b.level, Outcome.under_eq_ok.mpr (map_eq_ok.mpr ⟨b, hb, rfl⟩), hwritten⟩

end Command

theorem Request.reader_command {j : Json} {a : Accepted Command}
    (h : Command.partReader j = .ok a) (hwritten : a.written = j) :
    ∃ r, Request.reader (.object [("command", j)]) = .ok r ∧
      r.written = .object [("command", j)] := by
  have command : need "command" Command.partReader [("command", j)] = .ok ⟨a.value, _, _⟩ :=
    FieldName.take_of_eq_ok h
  rw [reader, Reader.object]
  refine ⟨_, Reader.record_of_eq_ok (FieldReader.seq_eq_ok.mpr ⟨_, _, FieldReader.seq_eq_ok.mpr
    ⟨_, _, rfl, command, rfl⟩, rfl, rfl⟩) rfl, ?_⟩
  show Json.object [("command", a.written)] = _
  rw [hwritten]

namespace Prepared

/-- A query with a list to compare with. -/
def demoQuery : Json :=
  .object [("kind", .text "query"), ("table", .text "bizes"), ("filters", .list [
    .object [("column", .text "id"), ("op", .text "in"), ("value", .list [.int 1])]])]

theorem stepReader_demoQuery (batches : Nat) :
    ∃ a, Command.stepReader batches demoQuery = .ok a ∧ a.written = demoQuery := by
  cases batches <;> exact ⟨_, rfl, rfl⟩

/-- A request with the query inside 252 batches, which are not too many to be read. -/
def deepSubmission : Fields :=
  [("command", Command.batched 252 demoQuery)]

/-- The tree of batches is read and has no tokens, and the merged scope is valid, but no request
comes of the step: the payload has 509 levels. -/
theorem deepSubmission_refused : ∃ (s : Accepted LifecycleStep) (submitted : Accepted Request)
    (scope : Accepted Scope),
      LifecycleStep.reader (literalStep (.object deepSubmission)) = .ok s ∧
      s.value.Submits submitted ∧ submitted.written.Unbraced ∧
      Interpreter.interpolateFields .counting ((s.value.scope.map Scope.stated).getD []) demoRun =
        (.ok [], demoRun) ∧
      Scope.reader ((mergedScope [] [] submitted.written).fill demoRun.vars.outline) = .ok scope ∧
      (step .counting (fun _ => .error (.raised "none")) [] s.value demoRun).1.request = none := by
  obtain ⟨command, hcommand, hwritten⟩ :=
    Command.partReader_batched stepReader_demoQuery (by decide : 0 < 252) (by decide)
  obtain ⟨submitted, hread, hsame⟩ := Request.reader_command hcommand hwritten
  obtain ⟨s, hs, hrequest, hscope⟩ := LifecycleStep.reader_literalStep hread
  have hsubmits := LifecycleStep.submits_of_reader hs hrequest
  have hplain : submitted.written.Unbraced := by
    rw [hsame]
    have hquery : demoQuery.Unbraced := by decide +kernel
    exact ⟨Command.unbraced_batched hquery 252, trivial⟩
  have hlevels : demoRun.stack.search < submitted.written.levels := by
    rw [hsame]
    show _ < max (Json.levels (Command.batched 252 demoQuery)) 0 + 1
    rw [Command.levels_batched]
    decide +kernel
  have hfields : Interpreter.interpolateFields .counting
      ((s.value.scope.map Scope.stated).getD []) demoRun = (.ok [], demoRun) := by
    rw [hscope]
    rfl
  obtain ⟨scope, hmerged⟩ : ∃ scope, Scope.reader ((mergedScope [] [] submitted.written).fill
      demoRun.vars.outline) = .ok scope := by
    rw [hsame]
    exact ⟨_, rfl⟩
  refine ⟨s, submitted, scope, hs, hsubmits, hplain, hfields, hmerged, ?_⟩
  rw [literal_of_deep [] [] hsubmits hplain hlevels hfields]
  rfl

end Prepared

end Tenancy
