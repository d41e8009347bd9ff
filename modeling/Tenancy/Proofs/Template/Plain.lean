/-
# Interpolating what has no tokens

A token starts with two opening braces. Where no string has them, interpolating takes a value apart
and puts it together again: nothing is resolved, the interpreter stays as it is, and the result
shows what was interpolated and refers to no variables. The one thing that can go wrong is that the
value is nested more deeply than it is searched.
-/

import Mathlib.Order.MinMax
import Tenancy.Template.Interpreter
import Tenancy.Text.Search

namespace Tenancy

namespace Json

/- Putting a value together again, by recursion on its elements and fields. -/
mutual

/-- A value that has been put together from its parts. -/
def reassembled : Json → Live
  | .list items => .list (reassembledItems items)
  | .object fields => .object (reassembledFields fields)
  | j => .plain j

/-- Elements that have been put together from their parts. -/
def reassembledItems : List Json → List Live
  | [] => []
  | item :: rest => reassembled item :: reassembledItems rest

/-- Fields whose values have been put together from their parts. -/
def reassembledFields : List (String × Json) → List (String × Live)
  | [] => []
  | (name, value) :: rest => (name, reassembled value) :: reassembledFields rest

end

/- Braces in the strings of a value, by recursion on its elements and fields. -/
mutual

/-- No string inside a value has two opening braces in a row. The names of fields may. -/
def Unbraced : Json → Prop
  | .text s => Text.occursIn ['\x7b', '\x7b'] s.toList = false
  | .list items => UnbracedItems items
  | .object fields => UnbracedFields fields
  | _ => True

/-- No string inside the elements of an array has two opening braces in a row. -/
def UnbracedItems : List Json → Prop
  | [] => True
  | item :: rest => Unbraced item ∧ UnbracedItems rest

/-- No string inside the fields of an object has two opening braces in a row. -/
def UnbracedFields : List (String × Json) → Prop
  | [] => True
  | (_, value) :: rest => Unbraced value ∧ UnbracedFields rest

end

/- Looking for braces, by recursion on elements and fields. -/
mutual

/-- Whether no string inside a value has two opening braces in a row can be told. -/
instance decidableUnbraced : (j : Json) → Decidable j.Unbraced
  | .text s => inferInstanceAs (Decidable (Text.occursIn ['\x7b', '\x7b'] s.toList = false))
  | .list items => decidableUnbracedItems items
  | .object fields => decidableUnbracedFields fields
  | .null | .bool _ | .int _ | .float _ => inferInstanceAs (Decidable True)

instance decidableUnbracedItems : (items : List Json) → Decidable (UnbracedItems items)
  | [] => inferInstanceAs (Decidable True)
  | item :: rest =>
      @instDecidableAnd _ _ (decidableUnbraced item) (decidableUnbracedItems rest)

instance decidableUnbracedFields : (fields : List (String × Json)) →
    Decidable (UnbracedFields fields)
  | [] => inferInstanceAs (Decidable True)
  | (_, value) :: rest =>
      @instDecidableAnd _ _ (decidableUnbraced value) (decidableUnbracedFields rest)

end

/- What has been put together again shows what it was, by recursion on elements and fields. -/
mutual

theorem fill_reassembled (bag : Json) : (j : Json) → j.reassembled.fill bag = j
  | .list items => by rw [reassembled, Live.fill, fillItems_reassembled bag items]
  | .object fields => by rw [reassembled, Live.fill, fillFields_reassembled bag fields]
  | .null | .bool _ | .int _ | .float _ | .text _ => rfl

theorem fillItems_reassembled (bag : Json) : (items : List Json) →
    Live.fillItems bag (reassembledItems items) = items
  | [] => rfl
  | item :: rest => by
      rw [reassembledItems, Live.fillItems, fill_reassembled bag item,
        fillItems_reassembled bag rest]

theorem fillFields_reassembled (bag : Json) : (fields : List (String × Json)) →
    Live.fillFields bag (reassembledFields fields) = fields
  | [] => rfl
  | (name, value) :: rest => by
      rw [reassembledFields, Live.fillFields, fill_reassembled bag value,
        fillFields_reassembled bag rest]

end

/- What has been put together again refers to nothing, by recursion on elements and fields. -/
mutual

theorem refers_reassembled : (j : Json) → j.reassembled.refers = false
  | .list items => by rw [reassembled, Live.refers, refersItems_reassembled items]
  | .object fields => by rw [reassembled, Live.refers, refersFields_reassembled fields]
  | .null | .bool _ | .int _ | .float _ | .text _ => rfl

theorem refersItems_reassembled : (items : List Json) →
    Live.refersItems (reassembledItems items) = false
  | [] => rfl
  | item :: rest => by
      rw [reassembledItems, Live.refersItems, refers_reassembled item, refersItems_reassembled rest]
      rfl

theorem refersFields_reassembled : (fields : List (String × Json)) →
    Live.refersFields (reassembledFields fields) = false
  | [] => rfl
  | (_, value) :: rest => by
      rw [reassembledFields, Live.refersFields, refers_reassembled value,
        refersFields_reassembled rest]
      rfl

end

theorem reassembledItems_eq_map (items : List Json) :
    reassembledItems items = items.map reassembled := by
  induction items with
  | nil => rfl
  | cons item rest ih => rw [reassembledItems, ih, List.map_cons]

theorem reassembledFields_eq_map (fields : List (String × Json)) :
    reassembledFields fields = fields.map fun f => (f.1, f.2.reassembled) := by
  induction fields with
  | nil => rfl
  | cons f rest ih => rw [reassembledFields, ih, List.map_cons]

end Json

namespace Template

/-- A text without two opening braces in a row consists of characters. -/
theorem pieces_of_unbraced {cs : List Char}
    (h : Text.occursIn ['\x7b', '\x7b'] cs = false) : pieces 0 cs = cs.map .char := by
  induction cs with
  | nil => rfl
  | cons c rest ih =>
      obtain ⟨hstart, hrest⟩ := Bool.or_eq_false_iff.mp h
      have none : c = '\x7b' → tokenAhead? rest = none := by
        rintro rfl
        cases rest with
        | nil => rfl
        | cons d rest =>
            have hd : d ≠ '\x7b' := by
              rintro rfl
              simp [List.isPrefixOf] at hstart
            rw [tokenAhead?]
            rintro _ heq
            exact hd (List.cons.inj heq).1
      rw [pieces, ih hrest, List.map_cons]
      split
      · rename_i hc
        rw [none hc]
      · rfl

namespace Interpreter

variable (ids : IdSource)

theorem splice_chars (left : Nat) (t : Interpreter) (cs : List Char) :
    t.splice ids left (cs.map .char) = (.ok cs, t) := by
  induction cs with
  | nil => rfl
  | cons c rest ih => rw [List.map_cons, splice, ih]

theorem soleToken?_of_chars {cs : List Char} (h : pieces 0 cs = cs.map .char) :
    soleToken? cs = none := by
  rw [soleToken?, h]
  cases cs with
  | nil => rfl
  | cons c rest =>
      cases rest with
      | nil => rfl
      | cons d rest => cases rest <;> rfl

/-- A text that consists of characters comes out as it is. -/
theorem interpolateText_of_chars (left : Nat) (t : Interpreter) {s : String}
    (h : pieces 0 s.toList = s.toList.map .char) :
    t.interpolateText ids left s = (.ok (.plain (.text s)), t) := by
  rw [interpolateText, soleToken?_of_chars h]
  dsimp only
  rw [h, splice_chars]
  dsimp only
  rw [String.ofList_toList]

theorem interpolateText_of_unbraced (left : Nat) (t : Interpreter) {s : String}
    (h : Text.occursIn ['\x7b', '\x7b'] s.toList = false) :
    t.interpolateText ids left s = (.ok (.plain (.text s)), t) :=
  interpolateText_of_chars ids left t (pieces_of_unbraced h)

/- Interpolating a value, by recursion on its elements and fields. -/
mutual

/-- A value without tokens that is not nested too deeply is put together again. -/
theorem interpolateWithin_of_unbraced (t : Interpreter) : (levels : Nat) → (j : Json) →
    j.Unbraced → j.levels ≤ levels →
    interpolateWithin ids levels j t = (.ok j.reassembled, t)
  | levels, .text s, h, _ => by
      rw [interpolateWithin]
      exact interpolateText_of_unbraced ids levels t h
  | levels + 1, .list items, h, hlevels => by
      rw [interpolateWithin,
        itemsWithin_of_unbraced t levels items h (Nat.le_of_succ_le_succ hlevels)]
      rfl
  | levels + 1, .object fields, h, hlevels => by
      rw [interpolateWithin,
        fieldsWithin_of_unbraced t levels fields h (Nat.le_of_succ_le_succ hlevels)]
      rfl
  | _, .null, _, _ | _, .bool _, _, _ | _, .int _, _, _ | _, .float _, _, _ => rfl

theorem itemsWithin_of_unbraced (t : Interpreter) : (levels : Nat) → (items : List Json) →
    Json.UnbracedItems items → Json.levelsItems items ≤ levels →
    itemsWithin ids levels items t = (.ok (Json.reassembledItems items), t)
  | _, [], _, _ => rfl
  | levels, item :: rest, ⟨hitem, hrest⟩, hlevels => by
      obtain ⟨hfirst, hothers⟩ := Nat.max_le.mp hlevels
      rw [itemsWithin, interpolateWithin_of_unbraced t levels item hitem hfirst]
      dsimp only
      rw [itemsWithin_of_unbraced t levels rest hrest hothers]
      rfl

theorem fieldsWithin_of_unbraced (t : Interpreter) : (levels : Nat) →
    (fields : List (String × Json)) → Json.UnbracedFields fields →
    Json.levelsFields fields ≤ levels →
    fieldsWithin ids levels fields t = (.ok (Json.reassembledFields fields), t)
  | _, [], _, _ => rfl
  | levels, (name, value) :: rest, ⟨hvalue, hrest⟩, hlevels => by
      obtain ⟨hfirst, hothers⟩ := Nat.max_le.mp hlevels
      rw [fieldsWithin, interpolateWithin_of_unbraced t levels value hvalue hfirst]
      dsimp only
      rw [fieldsWithin_of_unbraced t levels rest hrest hothers]
      rfl

end

/- Interpolating a value that is nested too deeply, by recursion on its elements and fields. -/
mutual

/-- A value without tokens that is nested more deeply than it is searched is refused. -/
theorem interpolateWithin_of_deep (t : Interpreter) : (levels : Nat) → (j : Json) →
    j.Unbraced → levels < j.levels →
    interpolateWithin ids levels j t = (.error .tooDeep, t)
  | 0, .list _, _, _ | 0, .object _, _, _ => rfl
  | levels + 1, .list items, h, hlevels => by
      rw [interpolateWithin, itemsWithin_of_deep t levels items h (Nat.lt_of_succ_lt_succ hlevels)]
  | levels + 1, .object fields, h, hlevels => by
      rw [interpolateWithin,
        fieldsWithin_of_deep t levels fields h (Nat.lt_of_succ_lt_succ hlevels)]
  | _, .null, _, h | _, .bool _, _, h | _, .int _, _, h | _, .float _, _, h | _, .text _, _, h =>
      absurd h (Nat.not_lt_zero _)

theorem itemsWithin_of_deep (t : Interpreter) : (levels : Nat) → (items : List Json) →
    Json.UnbracedItems items → levels < Json.levelsItems items →
    itemsWithin ids levels items t = (.error .tooDeep, t)
  | _, [], _, h => absurd h (Nat.not_lt_zero _)
  | levels, item :: rest, ⟨hitem, hrest⟩, hlevels => by
      rw [itemsWithin]
      rcases Nat.lt_or_ge levels item.levels with hdeep | hfirst
      · rw [interpolateWithin_of_deep t levels item hitem hdeep]
      · rw [interpolateWithin_of_unbraced ids t levels item hitem hfirst]
        dsimp only
        have hdeep := (lt_max_iff.mp hlevels).resolve_left (Nat.not_lt.mpr hfirst)
        rw [itemsWithin_of_deep t levels rest hrest hdeep]

theorem fieldsWithin_of_deep (t : Interpreter) : (levels : Nat) →
    (fields : List (String × Json)) → Json.UnbracedFields fields →
    levels < Json.levelsFields fields →
    fieldsWithin ids levels fields t = (.error .tooDeep, t)
  | _, [], _, h => absurd h (Nat.not_lt_zero _)
  | levels, (name, value) :: rest, ⟨hvalue, hrest⟩, hlevels => by
      rw [fieldsWithin]
      rcases Nat.lt_or_ge levels value.levels with hdeep | hfirst
      · rw [interpolateWithin_of_deep t levels value hvalue hdeep]
      · rw [interpolateWithin_of_unbraced ids t levels value hvalue hfirst]
        dsimp only
        have hdeep := (lt_max_iff.mp hlevels).resolve_left (Nat.not_lt.mpr hfirst)
        rw [fieldsWithin_of_deep t levels rest hrest hdeep]

end

end Interpreter

end Template

end Tenancy
