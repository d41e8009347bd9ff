/-
# Batches compile leaf by leaf

A batch adds nothing to the commands in it but their order. What it compiles to has the shape of
the command, and its statements are what the commands in it compile to on their own. It is refused
exactly when one of them is, and then for the reason of the first one: nothing of a refused batch
is left over. The module compares the recursion over trees with going through the list of leaves,
which is a chain of steps like any other.
-/

import Tenancy.Proofs.Statement.Compiles

namespace Tenancy

/-- The shape of a tree, without what its leaves hold. -/
inductive Outline where
  | leaf
  | batch (steps : List Outline)

/- The shape of a command, by recursion on its steps. -/
mutual

/-- The shape of a command. -/
def Command.outline : Command → Outline
  | .query _ | .mutate _ | .other _ => .leaf
  | .batch steps => .batch (Command.outlines steps)

/-- The shapes of several commands. -/
def Command.outlines : List Command → List Outline
  | [] => []
  | step :: rest => step.outline :: Command.outlines rest

end

/- The shape of a plan, by recursion on its steps. -/
mutual

/-- The shape of a plan. -/
def Plan.outline : Plan → Outline
  | .leaf _ => .leaf
  | .batch steps => .batch (Plan.outlines steps)

/-- The shapes of several plans. -/
def Plan.outlines : List Plan → List Outline
  | [] => []
  | step :: rest => step.outline :: Plan.outlines rest

end

namespace Compiler

variable {k : Compiler} {scope : Scope}

/- A plan has the shape of its command, by recursion on the command. -/
mutual

theorem outline_of_compile : ∀ (c : Command) {plan : Plan}, k.compile scope c = .ok plan →
    plan.outline = c.outline
  | .query q, plan, h => by
      obtain ⟨s, -, rfl⟩ := map_eq_ok.mp h
      rfl
  | .mutate m, plan, h => by
      obtain ⟨s, -, rfl⟩ := map_eq_ok.mp h
      rfl
  | .batch steps, plan, h => by
      obtain ⟨plans, hsteps, rfl⟩ := map_eq_ok.mp h
      rw [Plan.outline, Command.outline, outlines_of_compileSteps steps hsteps]
  | .other kind, plan, h => by cases h

theorem outlines_of_compileSteps : ∀ (steps : List Command) {plans : List Plan},
    k.compileSteps scope steps = .ok plans → Plan.outlines plans = Command.outlines steps
  | [], plans, h => by
      cases h
      rfl
  | step :: rest, plans, h => by
      obtain ⟨plan, hplan, h⟩ := bind_eq_ok.mp h
      obtain ⟨others, hothers, h⟩ := bind_eq_ok.mp h
      obtain rfl := pure_eq_ok.mp h
      rw [Plan.outlines, Command.outlines, outline_of_compile step hplan,
        outlines_of_compileSteps rest hothers]

end

/- A tree compiles as the list of its leaves does, by recursion on the command. -/
mutual

/-- Compiling a command is compiling its leaves one after the other. -/
theorem leaves_compile : ∀ c : Command,
    (k.compile scope c).map (fun plan => plan.leaves.map .leaf) =
      c.leaves.mapM (k.compile scope)
  | .query q => by
      rw [Command.leaves, List.mapM_cons, compile]
      cases k.compileQuery q scope <;> rfl
  | .mutate m => by
      rw [Command.leaves, List.mapM_cons, compile]
      cases k.compileMutation m scope <;> rfl
  | .batch steps => by
      rw [Command.leaves, ← leavesOf_compileSteps steps, compile]
      cases k.compileSteps scope steps <;> rfl
  | .other kind => rfl

theorem leavesOf_compileSteps : ∀ steps : List Command,
    (k.compileSteps scope steps).map (fun plans => (Plan.leavesOf plans).map .leaf) =
      (Command.leavesOf steps).mapM (k.compile scope)
  | [] => rfl
  | step :: rest => by
      rw [Command.leavesOf, List.mapM_append, ← leaves_compile step, ← leavesOf_compileSteps rest,
        compileSteps]
      cases k.compile scope step with
      | error refusal => rfl
      | ok plan =>
          cases k.compileSteps scope rest with
          | error refusal => rfl
          | ok plans =>
              exact congrArg Except.ok List.map_append

end

/-- Compiling is leaf by leaf and all or nothing. A command compiles exactly when every leaf of it
does on its own. Its plan then has the shape of the command, and the statements of the plan are
what the leaves compile to, in their order. A refusal is that of the first leaf that is refused on
its own. -/
theorem compile_leaf_by_leaf (k : Compiler) (scope : Scope) (c : Command) :
    ((∃ plan, k.compile scope c = .ok plan) ↔
        ∀ leaf ∈ c.leaves, ∃ plan, k.compile scope leaf = .ok plan) ∧
      match k.compile scope c with
      | .ok plan => plan.outline = c.outline ∧
          List.Forall₂ (fun leaf s => k.compile scope leaf = .ok (.leaf s)) c.leaves plan.leaves
      | .error refusal => ∃ before leaf after, c.leaves = before ++ leaf :: after ∧
          (∀ earlier ∈ before, ∃ plan, k.compile scope earlier = .ok plan) ∧
          k.compile scope leaf = .error refusal := by
  have leaves : (k.compile scope c).map (fun plan => plan.leaves.map .leaf) =
      c.leaves.mapM (k.compile scope) := leaves_compile c
  cases hcompile : k.compile scope c with
  | ok plan =>
      rw [hcompile] at leaves
      have alone : List.Forall₂ (fun leaf own => k.compile scope leaf = .ok own) c.leaves
          (plan.leaves.map .leaf) := mapM_eq_ok.mp leaves.symm
      have every : ∀ leaf ∈ c.leaves, ∃ plan, k.compile scope leaf = .ok plan := by
        intro leaf hleaf
        obtain ⟨own, -, hown⟩ := exists_mem_of_mapM leaves.symm hleaf
        exact ⟨own, hown⟩
      exact ⟨⟨fun _ => every, fun _ => ⟨plan, rfl⟩⟩, outline_of_compile c hcompile,
        by rwa [List.forall₂_map_right_iff] at alone⟩
  | error refusal =>
      rw [hcompile] at leaves
      obtain ⟨before, leaf, after, hleaves, hbefore, hleaf⟩ := mapM_eq_error.mp leaves.symm
      refine ⟨⟨fun h => ?_, fun h => ?_⟩, before, leaf, after, hleaves, hbefore, hleaf⟩
      · obtain ⟨plan, h⟩ := h
        cases h
      · obtain ⟨plan, hplan⟩ := h leaf (by simp [hleaves])
        rw [hleaf] at hplan
        cases hplan

end Compiler

end Tenancy
