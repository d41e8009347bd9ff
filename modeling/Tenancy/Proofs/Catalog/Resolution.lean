/-
# Resolving names

A loose name resolves to a name of the catalog or to nothing, and only names that pass the
gate become identifiers. A name in lowercase snake case is its own reading as an identifier,
so it resolves to itself wherever it is the name of a column. This is what lets a condition on
the tenant column be added under that very name.
-/

import Tenancy.Catalog.Basic
import Tenancy.Catalog.Identifier
import Mathlib.Data.List.Basic

namespace Tenancy

/-! ## Snake case -/

/-- The code points of the characters of snake case. -/
theorem toNat_of_isNamePart {c : Char} (h : isNamePart c = true) :
    97 ≤ c.toNat ∧ c.toNat ≤ 122 ∨ 48 ≤ c.toNat ∧ c.toNat ≤ 57 ∨ c.toNat = 95 := by
  simp only [isNamePart, isNameStart, Bool.or_eq_true, Bool.and_eq_true, decide_eq_true_eq,
    beq_iff_eq] at h
  rcases h with (h | h) | rfl
  · exact .inl ⟨h.1, h.2⟩
  · exact .inr (.inl ⟨h.1, h.2⟩)
  · exact .inr (.inr rfl)

/-- A text in snake case holds nothing but name parts. -/
theorem isNamePart_of_isSnakeCase {cs : List Char} (h : isSnakeCase cs = true) :
    ∀ c ∈ cs, isNamePart c = true := by
  intro c hc
  cases cs with
  | nil => simp at hc
  | cons first rest =>
      simp only [isSnakeCase, Bool.and_eq_true, List.all_eq_true] at h
      rcases List.mem_cons.mp hc with rfl | hc
      · simp [isNamePart, h.1]
      · exact h.2 c hc

namespace Identifier

/-- Every character of an identifier is a name part, or the line feed that may end it. -/
theorem isNamePart_of_mem (i : Identifier) {c : Char} (h : c ∈ i.name.toList) :
    isNamePart c = true ∨ c = '\n' := by
  have admitted := i.admitted
  unfold admits dropFinalNewline at admitted
  split at admitted
  · rename_i hlast
    obtain ⟨front, hfront⟩ := List.getLast?_eq_some_iff.mp hlast
    rw [hfront, List.dropLast_concat] at admitted
    rw [hfront, List.mem_append, List.mem_singleton] at h
    exact h.imp (isNamePart_of_isSnakeCase admitted c) id
  · exact .inl (isNamePart_of_isSnakeCase admitted c h)

/-- An identifier holds no double quote. -/
theorem quote_not_mem (i : Identifier) : '"' ∉ i.name.toList := by
  intro h
  rcases i.isNamePart_of_mem h with part | newline
  · exact absurd part (by decide)
  · exact absurd newline (by decide)

end Identifier

namespace Name

open Text

theorem isSeparator_of_isNamePart {c : Char} (h : isNamePart c = true) : isSeparator c = false := by
  have bounds := toNat_of_isNamePart h
  have hyphen : (c == '-') = false := by
    rw [beq_eq_false_iff_ne]
    rintro rfl
    exact absurd h (by decide)
  simp only [isSeparator, isBlank, hyphen, Bool.or_false, Bool.or_eq_false_iff,
    Bool.and_eq_false_iff, decide_eq_false_iff_not, beq_eq_false_iff_ne]
  omega

theorem isBlank_of_isNamePart {c : Char} (h : isNamePart c = true) : isBlank c = false := by
  have := isSeparator_of_isNamePart h
  simp only [isSeparator, Bool.or_eq_false_iff] at this
  exact this.1

/-- Nothing is dropped from a text without characters to drop. -/
theorem strip_of_forall_not {p : Char → Bool} {cs : List Char} (h : ∀ c ∈ cs, p c = false) :
    strip p cs = cs := by
  have keep {ds : List Char} (hds : ∀ c ∈ ds, p c = false) : ds.dropWhile p = ds := by
    cases ds with
    | nil => rfl
    | cons d ds => simp [hds d (by simp)]
  rw [strip, keep h, keep (by simpa using h), List.reverse_reverse]

theorem lowerChar_of_isNamePart {c : Char} (h : isNamePart c = true) : lowerChar c = c := by
  have bounds := toNat_of_isNamePart h
  have small : c.toNat < 128 := by omega
  have notUpper : ¬ (65 ≤ c.val ∧ c.val ≤ 90) := by
    have : c.toNat = c.val.toNat := rfl
    rw [UInt32.le_iff_toNat_le, UInt32.le_iff_toNat_le]
    simp only [UInt32.reduceToNat]
    omega
  rw [lowerChar, if_pos small]
  exact dif_neg notUpper

/-- Text in snake case is lowercase already, whatever stands before it. -/
theorem lowerFrom_of_nameParts {cs : List Char} (h : ∀ c ∈ cs, isNamePart c = true)
    (before : List Char) : lowerFrom before cs = cs := by
  induction cs generalizing before with
  | nil => rfl
  | cons c cs ih =>
      have hc := h c (by simp)
      have sigma : c ≠ 'Σ' := by
        rintro rfl
        exact absurd hc (by decide)
      have dotted : c ≠ 'İ' := by
        rintro rfl
        exact absurd hc (by decide)
      rw [lowerFrom, if_neg sigma, if_neg dotted, lowerChar_of_isNamePart hc,
        ih fun d hd => h d (by simp [hd])]
      rfl

/-- A name in snake case is its own reading as an identifier. -/
theorem identifier_of_isSnakeCase {name : String} (h : isSnakeCase name.toList = true) :
    identifier name = name := by
  have parts := isNamePart_of_isSnakeCase h
  have trimmed : trim name.toList = name.toList :=
    strip_of_forall_not fun c hc => isBlank_of_isNamePart (parts c hc)
  have lowered : lower name.toList = name.toList := lowerFrom_of_nameParts parts []
  have squeezed : squeeze isSeparator '_' name.toList = name.toList :=
    squeezeFrom_of_forall_not isSeparator '_' false name.toList
      fun c hc => isSeparator_of_isNamePart (parts c hc)
  rw [identifier, onText, trimmed, lowered, squeezed, String.ofList_toList]

end Name

/-! ## Tables and columns -/

namespace Table

/-- A column exists by its name when it is found by it. -/
theorem hasColumn_iff {t : Table} {name : String} :
    t.hasColumn name = true ↔ ∃ c, t.column? name = some c := by
  simp [hasColumn, columnNames, column?, ← Option.isSome_iff_exists]

/-- A name in snake case resolves to itself where it is the name of a column. -/
theorem resolve?_of_isSnakeCase {t : Table} {name : String} (h : isSnakeCase name.toList = true)
    (hcolumn : t.hasColumn name = true) : t.resolve? name = some name := by
  simp [resolve?, Name.identifier_of_isSnakeCase h, hcolumn]

end Table

namespace Catalog

/-- A table is found under its own name. -/
theorem table?_name {c : Catalog} {name : String} {t : Table} (h : c.table? name = some t) :
    c.table? t.name = some t := by
  have : t.name = name := by simpa using List.find?_some h
  rwa [this]

/-- Columns of a table that is found under its own name are resolved by the table. -/
theorem resolveColumn?_of_table? {c : Catalog} {t : Table} (h : c.table? t.name = some t)
    (raw : String) : c.resolveColumn? t.name raw = t.resolve? raw := by
  simp [resolveColumn?, h]

end Catalog

end Tenancy
