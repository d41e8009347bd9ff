/-
# What live values show

A value that does not refer to the bag of variables shows the same whatever the bag holds. One that
does shows the bag from outside, and nothing at all when the bag contains itself. Whether a value
shows anything is therefore a matter of two questions that have nothing to do with the rest of it.
-/

import Tenancy.Json.Live

namespace Tenancy.Live

/- What is put in the place of the bag does not matter where nothing refers to it, by recursion on
the parts of a value. -/
mutual

theorem fill_of_not_refers (bag bag' : Json) : (v : Live) → v.refers = false →
    v.fill bag = v.fill bag'
  | .plain _, _ => rfl
  | .list items, h => by
      rw [fill, fill, fillItems_of_not_refers bag bag' items h]
  | .object fields, h => by
      rw [fill, fill, fillFields_of_not_refers bag bag' fields h]

theorem fillItems_of_not_refers (bag bag' : Json) : (items : List Live) →
    refersItems items = false → fillItems bag items = fillItems bag' items
  | [], _ => rfl
  | item :: rest, h => by
      obtain ⟨hitem, hrest⟩ := Bool.or_eq_false_iff.mp h
      rw [fillItems, fillItems, fill_of_not_refers bag bag' item hitem,
        fillItems_of_not_refers bag bag' rest hrest]

theorem fillFields_of_not_refers (bag bag' : Json) : (fields : List (String × Live)) →
    refersFields fields = false → fillFields bag fields = fillFields bag' fields
  | [], _ => rfl
  | (_, value) :: rest, h => by
      obtain ⟨hvalue, hrest⟩ := Bool.or_eq_false_iff.mp h
      rw [fillFields, fillFields, fill_of_not_refers bag bag' value hvalue,
        fillFields_of_not_refers bag bag' rest hrest]

end

variable {bag : Bag} {v : Live}

/-- A value shows something unless it refers to a bag that contains itself, and then it shows the
bag from outside. -/
theorem now?_eq_some_iff {j : Json} :
    v.now? bag = some j ↔ (v.refers = true → bag.fields?.isSome) ∧ v.fill bag.outline = j := by
  rw [now?]
  cases hrefers : v.refers with
  | false => simp [fill_of_not_refers .null bag.outline v hrefers]
  | true =>
      rw [if_pos rfl, Bag.outline]
      cases bag.fields? <;> simp

theorem isNone_now?_iff :
    (v.now? bag).isNone = true ↔ v.refers = true ∧ bag.fields?.isNone = true := by
  rw [now?]
  cases v.refers <;> simp

end Tenancy.Live
