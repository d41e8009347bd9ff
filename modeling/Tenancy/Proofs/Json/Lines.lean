/-
# Texts of one line

A message is meant to be one line, and it quotes values. The written form of a value never breaks a
line: it is plain ASCII, and whatever would not show is escaped. The form that a log would show
escapes less, but line breaks are escaped there as well. Only a text that is put into a message as
it stands can break its line, so a message is one line exactly where such texts are.
-/

import Tenancy.Json.Display
import Tenancy.Text.Search

namespace Tenancy

/-! ## Characters without a line break -/

namespace Text

/-- There is no line break among these characters. -/
def Unbroken (cs : List Char) : Prop :=
  ∀ c ∈ cs, isLineBreak c = false

/-- A text is one line. -/
def IsLine (s : String) : Prop :=
  Unbroken s.toList

instance decidableUnbroken (cs : List Char) : Decidable (Unbroken cs) :=
  -- by the characters of the text, and not by all the characters there are
  List.decidableBAll (fun c => isLineBreak c = false) cs

instance decidableIsLine (s : String) : Decidable (IsLine s) :=
  inferInstanceAs (Decidable (Unbroken s.toList))

variable {cs ds : List Char}

@[simp] theorem unbroken_nil : Unbroken [] :=
  List.forall_mem_nil _

@[simp] theorem unbroken_cons {c : Char} :
    Unbroken (c :: cs) ↔ isLineBreak c = false ∧ Unbroken cs :=
  List.forall_mem_cons

@[simp] theorem unbroken_append : Unbroken (cs ++ ds) ↔ Unbroken cs ∧ Unbroken ds :=
  List.forall_mem_append

theorem Unbroken.of_subset (h : Unbroken ds) (hsubset : cs ⊆ ds) : Unbroken cs :=
  fun c hc => h c (hsubset hc)

theorem unbroken_replicate {c : Char} (h : isLineBreak c = false) (n : Nat) :
    Unbroken (List.replicate n c) := by
  intro d hd
  rw [List.eq_of_mem_replicate hd]
  exact h

theorem unbroken_flatMap {f : Char → List Char} (h : ∀ c, Unbroken (f c)) (cs : List Char) :
    Unbroken (cs.flatMap f) := by
  intro d hd
  obtain ⟨c, -, hc⟩ := List.mem_flatMap.mp hd
  exact h c d hc

@[simp] theorem isLine_ofList : IsLine (String.ofList cs) ↔ Unbroken cs := by
  rw [IsLine, String.toList_ofList]

@[simp] theorem isLine_append {s t : String} : IsLine (s ++ t) ↔ IsLine s ∧ IsLine t := by
  rw [IsLine, String.toList_append, unbroken_append, IsLine, IsLine]

/-- The first line of a text is one line. -/
theorem isLine_firstLine (s : String) : IsLine (String.ofList (firstLine s.toList)) :=
  isLine_ofList.mpr fun _ => isLineBreak_of_mem_firstLine

/-- What shows in ASCII breaks no line. -/
theorem isLineBreak_of_ascii {c : Char} (least : 0x20 ≤ c.toNat) (greatest : c.toNat < 0x7f) :
    isLineBreak c = false := by
  simp [isLineBreak]
  omega

/-- What is visible breaks no line. -/
theorem isLineBreak_of_isVisible {c : Char} (h : isVisible c = true) : isLineBreak c = false := by
  by_cases hascii : c.toNat < 0x80
  · rw [isVisible, if_pos hascii, Bool.and_eq_true, decide_eq_true_eq, decide_eq_true_eq] at h
    exact isLineBreak_of_ascii h.1 h.2
  · rw [isVisible, if_neg hascii, Bool.not_eq_true'] at h
    -- beyond ASCII three characters break a line, and none of them is visible
    have shown (n : Nat) (hn : inRanges invisibleRanges n = true) : c.toNat ≠ n :=
      fun heq => Bool.false_ne_true (h.symm.trans (heq ▸ hn))
    have next := shown 0x85 (by decide +kernel)
    have line := shown 0x2028 (by decide +kernel)
    have paragraph := shown 0x2029 (by decide +kernel)
    simp only [isLineBreak, Bool.or_eq_false_iff, beq_eq_false_iff_ne, Bool.and_eq_false_iff,
      decide_eq_false_iff_not]
    omega

/-! ## Digits -/

theorem isLineBreak_digitChar (n : Nat) : isLineBreak (Nat.digitChar n) = false := by
  by_cases h : n < 16
  · revert n
    decide
  · rw [Nat.digitChar_eq_star.mpr (Nat.le_of_not_lt h)]
    decide

theorem unbroken_toDigits {b : Nat} (hb : 1 < b) (n : Nat) : Unbroken (Nat.toDigits b n) := by
  induction n using Nat.strongRecOn with
  | ind n ih =>
      rw [Nat.toDigits_eq_if hb]
      split
      · simp [isLineBreak_digitChar]
      · rename_i hlarge
        have smaller := ih (n / b) (Nat.div_lt_self (by omega) hb)
        simp [smaller, isLineBreak_digitChar]

theorem isLine_toString_nat (n : Nat) : IsLine (toString n) := by
  rw [IsLine, Nat.toString_eq_repr, Nat.toList_repr]
  exact unbroken_toDigits (by decide) n

theorem isLine_toString_int (n : Int) : IsLine (toString n) := by
  cases n with
  | ofNat n => exact isLine_toString_nat n
  | negSucc n =>
      have written : toString (Int.negSucc n) = "-" ++ toString (n + 1) := rfl
      rw [written, isLine_append]
      exact ⟨by decide, isLine_toString_nat _⟩

end Text

open Text

/-! ## Numbers with a point -/

namespace Binary64

theorem unbroken_dropTrailingZeros {digits : List Char} (h : Unbroken digits) :
    Unbroken (dropTrailingZeros digits) := by
  refine h.of_subset fun c hc => List.mem_reverse.mp ?_
  exact (List.dropWhile_sublist _).subset (List.mem_reverse.mp hc)

theorem unbroken_write (l : Layout) {digits : List Char} (h : Unbroken digits) (scale : Int) :
    Unbroken (l.write digits scale) := by
  have shown := unbroken_dropTrailingZeros h
  have zeros (n : Nat) : Unbroken (List.replicate n '0') := unbroken_replicate (by decide) n
  have zero : isLineBreak '0' = false := by decide
  have point : isLineBreak '.' = false := by decide
  rw [Layout.write]
  dsimp only
  generalize dropTrailingZeros digits = ds at shown
  split
  · split
    · simp [shown, zeros, zero, point]
    · generalize (scale + digits.length - 1).toNat + 1 = places
      have whole : Unbroken (ds.take places) := shown.of_subset (List.take_subset _ _)
      have fraction : Unbroken (ds.drop places) := shown.of_subset (List.drop_subset _ _)
      split <;> simp [whole, fraction, zeros, zero, point]
  · have sign (negative : Prop) [Decidable negative] :
        isLineBreak (if negative then '-' else '+') = false := by
      split <;> decide
    have mark : isLineBreak 'e' = false := by decide
    have places := unbroken_toDigits (b := 10) (by decide) (scale + digits.length - 1).natAbs
    rcases ds with _ | ⟨d, _ | ⟨d', rest⟩⟩
    · simp [zeros, zero, mark, sign, places]
    · simpa [zeros, mark, sign, places] using shown
    · simpa [zeros, point, mark, sign, places] using shown

theorem isLine_print (x : Binary64) : IsLine x.print := by
  have sign (negative : Bool) : IsLine (if negative then "-" else "") := by
    cases negative <;> decide
  cases x with
  | nan => decide
  | infinite negative => cases negative <;> decide
  | finite negative m q =>
      rw [print]
      dsimp only
      split
      · rw [isLine_append]
        exact ⟨sign negative, by decide⟩
      · rw [isLine_append, isLine_ofList]
        exact ⟨sign negative, unbroken_write _ (unbroken_toDigits (by decide) _) _⟩

end Binary64

namespace Json

/-! ## The written form -/

theorem unbroken_escapeUnit (n : Nat) : Unbroken (escapeUnit n) := by
  have backslash : isLineBreak '\\' = false := by decide
  have unit : isLineBreak 'u' = false := by decide
  simp [escapeUnit, hexUnit, isLineBreak_digitChar, backslash, unit]

theorem unbroken_escapeChar (c : Char) : Unbroken (escapeChar c) := by
  rw [escapeChar]
  iterate 7
    split
    · decide
  split
  · rename_i hascii
    exact unbroken_cons.mpr ⟨isLineBreak_of_ascii hascii.1 hascii.2, unbroken_nil⟩
  · split <;> simp [unbroken_escapeUnit]

theorem isLine_quote (s : String) : IsLine (quote s) := by
  rw [quote, isLine_ofList, unbroken_cons, unbroken_append]
  exact ⟨by decide, unbroken_flatMap unbroken_escapeChar _, by decide⟩

theorem isLine_printFloat (x : Binary64) : IsLine (printFloat x) := by
  cases x with
  | nan => decide
  | infinite negative => cases negative <;> decide
  | finite negative m q => exact (Binary64.finite negative m q).isLine_print

/- Nothing in a written value breaks the line, by recursion on its elements and fields. -/
mutual

theorem isLine_print : ∀ j : Json, IsLine j.print
  | .null => by decide
  | .bool b => by cases b <;> decide
  | .int n => isLine_toString_int n
  | .float x => isLine_printFloat x
  | .text s => isLine_quote s
  | .list items => by
      rw [print, isLine_append, isLine_append]
      exact ⟨⟨by decide, isLine_printItems items⟩, by decide⟩
  | .object fields => by
      rw [print, isLine_append, isLine_append]
      exact ⟨⟨by decide, isLine_printFields fields⟩, by decide⟩

theorem isLine_printItems : ∀ items : List Json, IsLine (printItems items)
  | [] => by decide
  | [item] => isLine_print item
  | item :: next :: rest => by
      rw [printItems, isLine_append, isLine_append]
      exact ⟨⟨isLine_print item, by decide⟩, isLine_printItems (next :: rest)⟩

theorem isLine_printFields : ∀ fields : List (String × Json), IsLine (printFields fields)
  | [] => by decide
  | [(name, value)] => by
      rw [printFields, isLine_append, isLine_append]
      exact ⟨⟨isLine_quote name, by decide⟩, isLine_print value⟩
  | (name, value) :: next :: rest => by
      rw [printFields, isLine_append, isLine_append, isLine_append, isLine_append]
      exact ⟨⟨⟨⟨isLine_quote name, by decide⟩, isLine_print value⟩, by decide⟩,
        isLine_printFields (next :: rest)⟩

end

/-! ## The form that a log shows -/

theorem unbroken_hexDigits (width n : Nat) : Unbroken (hexDigits width n) := by
  rw [hexDigits, unbroken_append]
  exact ⟨unbroken_replicate (by decide) _, unbroken_toDigits (by decide) n⟩

theorem unbroken_displayCode (n : Nat) : Unbroken (displayCode n) := by
  have escape : Unbroken ['\\', 'x', 'u', 'U'] := by decide
  rw [displayCode]
  split
  · simpa [unbroken_hexDigits] using ⟨escape '\\' (by decide), escape 'x' (by decide)⟩
  · split
    · simpa [unbroken_hexDigits] using ⟨escape '\\' (by decide), escape 'u' (by decide)⟩
    · simpa [unbroken_hexDigits] using ⟨escape '\\' (by decide), escape 'U' (by decide)⟩

theorem unbroken_displayChar (mark : Char) (hmark : isLineBreak mark = false) (c : Char) :
    Unbroken (displayChar mark c) := by
  rw [displayChar]
  split
  · rename_i hescaped
    have shown : isLineBreak c = false := by
      obtain rfl | rfl := hescaped
      · exact hmark
      · decide
    have backslash : isLineBreak '\\' = false := by decide
    simp [shown, backslash]
  · iterate 3
      split
      · decide
    split
    · rename_i hvisible
      exact unbroken_cons.mpr ⟨isLineBreak_of_isVisible hvisible, unbroken_nil⟩
    · exact unbroken_displayCode _

theorem isLine_displayQuoted (s : String) : IsLine (displayQuoted s) := by
  have marks (double : Bool) : isLineBreak (if double then '"' else '\'') = false := by
    cases double <;> decide
  rw [displayQuoted, isLine_ofList, unbroken_cons, unbroken_append, unbroken_cons]
  exact ⟨marks _, unbroken_flatMap (unbroken_displayChar _ (marks _)) _, marks _, unbroken_nil⟩

/- Nor in a value inside a log, by the same recursion. -/
mutual

theorem isLine_displayInner : ∀ j : Json, IsLine j.displayInner
  | .null => by decide
  | .bool b => by cases b <;> decide
  | .int n => isLine_toString_int n
  | .float x => x.isLine_print
  | .text s => isLine_displayQuoted s
  | .list items => by
      rw [displayInner, isLine_append, isLine_append]
      exact ⟨⟨by decide, isLine_displayItems items⟩, by decide⟩
  | .object fields => by
      rw [displayInner, isLine_append, isLine_append]
      exact ⟨⟨by decide, isLine_displayFields fields⟩, by decide⟩

theorem isLine_displayItems : ∀ items : List Json, IsLine (displayItems items)
  | [] => by decide
  | [item] => isLine_displayInner item
  | item :: next :: rest => by
      rw [displayItems, isLine_append, isLine_append]
      exact ⟨⟨isLine_displayInner item, by decide⟩, isLine_displayItems (next :: rest)⟩

theorem isLine_displayFields : ∀ fields : List (String × Json), IsLine (displayFields fields)
  | [] => by decide
  | [(name, value)] => by
      rw [displayFields, isLine_append, isLine_append]
      exact ⟨⟨isLine_displayQuoted name, by decide⟩, isLine_displayInner value⟩
  | (name, value) :: next :: rest => by
      rw [displayFields, isLine_append, isLine_append, isLine_append, isLine_append]
      exact ⟨⟨⟨⟨isLine_displayQuoted name, by decide⟩, isLine_displayInner value⟩, by decide⟩,
        isLine_displayFields (next :: rest)⟩

end

/-! ## Values in messages -/

/-- The text that a message holds as it stands if it quotes this value. -/
def bare : Json → List String
  | .text s => [s]
  | _ => []

/-- A value breaks the line of a message only where it is a text that does. -/
theorem isLine_toMessage_iff {j : Json} : IsLine j.toMessage ↔ ∀ s ∈ j.bare, IsLine s := by
  cases j with
  | text s => exact List.forall_mem_singleton.symm
  | null => exact iff_of_true (by decide) (List.forall_mem_nil _)
  | _ => exact iff_of_true (isLine_print _) (List.forall_mem_nil _)

theorem isLine_display_iff {j : Json} : IsLine j.display ↔ ∀ s ∈ j.bare, IsLine s := by
  cases j with
  | text s => exact List.forall_mem_singleton.symm
  | _ => exact iff_of_true (isLine_displayInner _) (List.forall_mem_nil _)

end Json

end Tenancy
