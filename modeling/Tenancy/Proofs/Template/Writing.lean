/-
# Writing a value down inside longer text

What stands for a token inside longer text is written down level by level, and that is stopped where
the stack does not reach any further or where the bag of variables is met inside itself, whichever
comes first. This module says when nothing stops it: the value shows something at all, and what it
shows is not nested more deeply than can be written at its place.
-/

import Tenancy.Proofs.Json.Live
import Tenancy.Template.Interpreter

namespace Tenancy.Template

/-- The failures of writing a value down. -/
def Failure.IsStop (e : Failure) : Prop :=
  e = .endless ∨ e = .tooDeep

variable {bag : Nat → Option Failure} {outside : Json} {ends : Prop}

/- What stops a value, by recursion on its parts. -/
mutual

theorem isStop_of_stop? (hbag : ∀ levels e, bag levels = some e → e.IsStop) :
    (levels : Nat) → (v : Live) → {e : Failure} → stop? bag levels v = some e → e.IsStop
  | levels, .plain j, e, h => by
      rw [stop?] at h
      split at h
      · exact .inr (Option.some.inj h).symm
      · cases h
  | levels, .bag, e, h => hbag levels e h
  | 0, .list _, e, h | 0, .object _, e, h => .inr (Option.some.inj h).symm
  | levels + 1, .list items, e, h => isStop_of_stopItems? hbag levels items h
  | levels + 1, .object fields, e, h => isStop_of_stopFields? hbag levels fields h

theorem isStop_of_stopItems? (hbag : ∀ levels e, bag levels = some e → e.IsStop) :
    (levels : Nat) → (items : List Live) → {e : Failure} →
    stopItems? bag levels items = some e → e.IsStop
  | levels, item :: rest, e, h => by
      rcases Option.or_eq_some_iff.mp h with hfirst | ⟨-, hrest⟩
      · exact isStop_of_stop? hbag levels item hfirst
      · exact isStop_of_stopItems? hbag levels rest hrest

theorem isStop_of_stopFields? (hbag : ∀ levels e, bag levels = some e → e.IsStop) :
    (levels : Nat) → (fields : List (String × Live)) → {e : Failure} →
    stopFields? bag levels fields = some e → e.IsStop
  | levels, (_, value) :: rest, e, h => by
      rcases Option.or_eq_some_iff.mp h with hfirst | ⟨-, hrest⟩
      · exact isStop_of_stop? hbag levels value hfirst
      · exact isStop_of_stopFields? hbag levels rest hrest

end

/- What nothing stops, by recursion on its parts. The bag is stopped unless it ends, and then it is
as deep as it looks from outside. -/
mutual

theorem stop?_eq_none_iff (hbag : ∀ levels, bag levels = none ↔ ends ∧ outside.levels ≤ levels) :
    (levels : Nat) → (v : Live) → (stop? bag levels v = none ↔
      (v.refers = true → ends) ∧ (v.fill outside).levels ≤ levels)
  | levels, .plain j => by
      rw [stop?, Live.fill, Live.refers]
      simp
  | levels, .bag => by
      rw [stop?, Live.fill, Live.refers, hbag]
      simp
  | 0, .list _ | 0, .object _ => by simp [stop?, Live.fill, Json.levels]
  | levels + 1, .list items => by
      rw [stop?, Live.fill, Live.refers, Json.levels, Nat.add_le_add_iff_right]
      exact stopItems?_eq_none_iff hbag levels items
  | levels + 1, .object fields => by
      rw [stop?, Live.fill, Live.refers, Json.levels, Nat.add_le_add_iff_right]
      exact stopFields?_eq_none_iff hbag levels fields

theorem stopItems?_eq_none_iff
    (hbag : ∀ levels, bag levels = none ↔ ends ∧ outside.levels ≤ levels) :
    (levels : Nat) → (items : List Live) → (stopItems? bag levels items = none ↔
      (Live.refersItems items = true → ends) ∧
        Json.levelsItems (Live.fillItems outside items) ≤ levels)
  | levels, [] => by simp [stopItems?, Live.refersItems, Live.fillItems, Json.levelsItems]
  | levels, item :: rest => by
      rw [stopItems?, Option.or_eq_none_iff, stop?_eq_none_iff hbag levels item,
        stopItems?_eq_none_iff hbag levels rest, Live.refersItems, Live.fillItems, Json.levelsItems,
        Nat.max_le, Bool.or_eq_true, or_imp]
      exact and_and_and_comm

theorem stopFields?_eq_none_iff
    (hbag : ∀ levels, bag levels = none ↔ ends ∧ outside.levels ≤ levels) :
    (levels : Nat) → (fields : List (String × Live)) → (stopFields? bag levels fields = none ↔
      (Live.refersFields fields = true → ends) ∧
        Json.levelsFields (Live.fillFields outside fields) ≤ levels)
  | levels, [] => by simp [stopFields?, Live.refersFields, Live.fillFields, Json.levelsFields]
  | levels, (_, value) :: rest => by
      rw [stopFields?, Option.or_eq_none_iff, stop?_eq_none_iff hbag levels value,
        stopFields?_eq_none_iff hbag levels rest, Live.refersFields, Live.fillFields,
        Json.levelsFields, Nat.max_le, Bool.or_eq_true, or_imp]
      exact and_and_and_comm

end

/-! ## The bag -/

theorem isStop_of_stopBag? {vars : Bag} {levels : Nat} {e : Failure}
    (h : stopBag? vars levels = some e) : e.IsStop := by
  cases levels with
  | zero => exact .inr (Option.some.inj h).symm
  | succ levels =>
      refine isStop_of_stopFields? (fun n e he => ?_) levels vars h
      obtain rfl := Option.some.inj he
      split
      · exact .inr rfl
      · exact .inl rfl

/-- The bag is written down if it does not contain itself and is not nested too deeply. -/
theorem stopBag?_eq_none_iff (vars : Bag) (levels : Nat) :
    stopBag? vars levels = none ↔ vars.fields?.isSome ∧ vars.outline.levels ≤ levels := by
  rw [Bag.outline, Json.levels, Bag.fields?]
  cases levels with
  | zero => simp [stopBag?]
  | succ levels =>
      -- met inside itself the bag never ends, so it may be filled with anything there
      have inside : stopBag? vars (levels + 1) = none ↔
          (Live.refersFields vars = true → False) ∧
            Json.levelsFields (Live.fillFields .null vars) ≤ levels :=
        stopFields?_eq_none_iff (by simp) levels vars
      rw [inside]
      cases Live.refersFields vars <;> simp

namespace Stack

variable {stack : Stack} {vars : Bag} {left : Nat} {v : Live}

theorem write_eq_error {e : Failure} (h : stack.write vars left v = .error e) : e.IsStop := by
  rw [write] at h
  split at h
  · rename_i hstop
    cases h
    exact isStop_of_stop? (fun _ _ => isStop_of_stopBag?) _ _ hstop
  · cases h

/-- A value is written down exactly if it shows something that is not nested too deeply. -/
theorem write_eq_ok_iff {j : Json} :
    stack.write vars left v = .ok j ↔ v.now? vars = some j ∧ j.levels ≤ stack.print left := by
  have unstopped := stop?_eq_none_iff (stopBag?_eq_none_iff vars) (stack.print left) v
  rw [write, Live.now?_eq_some_iff]
  split
  · rename_i hstop
    rw [hstop] at unstopped
    constructor
    · rintro ⟨⟩
    · rintro ⟨⟨ends, rfl⟩, deep⟩
      exact absurd (unstopped.mpr ⟨ends, deep⟩) nofun
  · rename_i hstop
    obtain ⟨ends, deep⟩ := unstopped.mp hstop
    rw [Except.ok.injEq]
    constructor
    · rintro rfl
      exact ⟨⟨ends, rfl⟩, deep⟩
    · rintro ⟨⟨-, rfl⟩, -⟩
      rfl

end Stack

end Tenancy.Template
