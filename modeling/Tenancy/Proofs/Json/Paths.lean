/-
# Written paths

A path is written by putting its steps one behind the other: an index in brackets, and a key with a
point in front of it unless the key comes first. What is written reads back as the steps, whatever
the keys are made of, as long as none of the marks that separate steps is among their characters and
the ends of the text are not taken for something else. The sign for the root in front changes
nothing, with or without a point. A text of nothing but marks has no steps.

A path that has been read is followed one step at a time. It leads from a value to another one, or
it breaks off at a step that cannot be taken, because there is no such field or element or because
the value it has come to is no object or no array. What has fields and elements differs between
plain and live values, and nothing else about paths does, so what is said here is said of both.
-/

import Tenancy.Json.Live
import Tenancy.Proofs.Catalog.Spelling
import Tenancy.Proofs.Chains
import Tenancy.Proofs.Named

namespace Tenancy

/-! ## Paths without steps -/

namespace Path

/-- A character that only stands between the steps of a path. -/
def Separates (ch : Char) : Prop :=
  ch = '.' ∨ ch = '[' ∨ ch = ']'

instance decidableSeparates (ch : Char) : Decidable (Separates ch) :=
  inferInstanceAs (Decidable (ch = '.' ∨ ch = '[' ∨ ch = ']'))

/-- Some character of a path belongs to a step. -/
def HasStep (path : String) : Prop :=
  ∃ ch ∈ clean path.toList, ¬ Separates ch

instance decidableHasStep (path : String) : Decidable (HasStep path) :=
  List.decidableBEx (fun ch => ¬ Separates ch) (clean path.toList)

theorem pending_eq_nil_iff {read : List Char} : pending read = [] ↔ read = [] := by
  cases read <;> simp [pending]

theorem not_separates_of_isDigit {ch : Char} (h : Text.isDigit ch = true) : ¬ Separates ch := by
  rintro (rfl | rfl | rfl) <;> exact absurd h (by decide)

/-- An index begins with a digit. -/
theorem not_separates_of_indexAhead? {cs ds : List Char} (h : indexAhead? cs = some ds) :
    ¬ ∀ ch ∈ cs, Separates ch := by
  rw [indexAhead?] at h
  split at h
  · split at h
    · cases h
    · rename_i hdigits
      intro hseparates
      cases cs with
      | nil => exact hdigits rfl
      | cons ch rest =>
          cases hdigit : Text.isDigit ch with
          | true => exact not_separates_of_isDigit hdigit (hseparates ch List.mem_cons_self)
          | false => exact hdigits (by rw [List.takeWhile_cons, hdigit]; rfl)
  · cases h

/-- Nothing is read exactly where nothing was read before and what is left only separates. -/
theorem scan_eq_nil_iff {read cs : List Char} :
    scan 0 read cs = [] ↔ read = [] ∧ ∀ ch ∈ cs, Separates ch := by
  induction cs generalizing read with
  | nil => simp [scan, pending_eq_nil_iff]
  | cons ch rest ih =>
      rw [scan, List.forall_mem_cons]
      split
      · rename_i hopen
        split
        · rename_i ds hindex
          refine iff_of_false (fun h => List.cons_ne_nil _ _ (List.append_eq_nil_iff.mp h).2) ?_
          exact fun ⟨_, _, h⟩ => not_separates_of_indexAhead? hindex h
        · rw [List.append_eq_nil_iff, pending_eq_nil_iff, ih]
          simp [Separates, hopen]
      · rename_i hopen
        split
        · rename_i hmark
          rw [List.append_eq_nil_iff, pending_eq_nil_iff, ih]
          have separates : Separates ch := hmark.imp_right .inr
          simp [separates]
        · rename_i hmark
          have belongs : ¬ Separates ch := by
            rintro (h | h | h)
            · exact hmark (.inl h)
            · exact hopen h
            · exact hmark (.inr h)
          rw [ih]
          exact iff_of_false (fun h => List.cons_ne_nil _ _ h.1) fun h => belongs h.2.1

theorem segments_eq_nil_iff {path : String} : segments path = .ok [] ↔ ¬ HasStep path := by
  rw [segments, mapM_eq_ok, List.forall₂_nil_right_iff, scan_eq_nil_iff, HasStep]
  simp

end Path

/-! ## Numerals -/

namespace Text

theorem digitValue?_of_isDigit {c : Char} (h : c.isDigit = true) :
    digitValue? c = some (c.toNat - 48) := by
  have small : c.toNat < 128 := by
    simp only [Char.isDigit, Bool.and_eq_true, decide_eq_true_eq] at h
    exact Nat.lt_of_le_of_lt h.2 (by decide)
  rw [digitValue?, if_pos small, if_pos h]

theorem isDigit_of_mem_digitsOf {n : Nat} {c : Char} (h : c ∈ digitsOf n) : isDigit c = true := by
  rw [isDigit, digitValue?_of_isDigit (Nat.isDigit_of_mem_toDigits (by decide) (by decide) h)]
  rfl

/-- The digits of a number are read as that number. -/
theorem numeral_digitsOf (n : Nat) : numeral (digitsOf n) = n := by
  have digits : ∀ c ∈ digitsOf n, ∀ total,
      10 * total + (digitValue? c).getD 0 = 10 * total + (c.toNat - '0'.toNat) := by
    intro c hc total
    rw [digitValue?_of_isDigit (Nat.isDigit_of_mem_toDigits (by decide) (by decide) hc)]
    rfl
  calc
    numeral (digitsOf n) = Nat.ofDigitChars 10 (Nat.toDigits 10 n) 0 := by
      rw [numeral, Nat.ofDigitChars_eq_foldl]
      exact List.foldl_ext _ _ 0 fun total c hc => digits c hc total
    _ = n := Nat.ofDigitChars_ten_toDigits

end Text

/-! ## Writing a path -/

namespace Path

/-- A step that can be written: a key that is not empty and has no separating mark in it, or an
index with no more digits than are ever read. -/
def IsWritable : Segment → Prop
  | .key name => name ≠ "" ∧ ∀ ch ∈ name.toList, ¬ Separates ch
  | .index n => (Text.digitsOf n).length ≤ OversizedIndex.limit

instance decidableIsWritable : DecidablePred IsWritable
  | .key name => @instDecidableAnd (name ≠ "") _ inferInstance
      (List.decidableBAll (fun ch => ¬ Separates ch) name.toList)
  | .index n => inferInstanceAs (Decidable ((Text.digitsOf n).length ≤ OversizedIndex.limit))

/-- An index as it is written. -/
def bracketed (n : Nat) : List Char :=
  '[' :: (Text.digitsOf n ++ [']'])

/-- A step as it is written behind another one. -/
def written : Segment → List Char
  | .key name => '.' :: name.toList
  | .index n => bracketed n

/-- A path as it is written. A key that comes first has no point in front of it. -/
def render : List Segment → String
  | [] => ""
  | .key name :: rest => String.ofList (name.toList ++ rest.flatMap written)
  | .index n :: rest => String.ofList (bracketed n ++ rest.flatMap written)

/-- A step as it is read. -/
def tokenOf : Segment → Token
  | .key name => .key name.toList
  | .index n => .index (Text.digitsOf n)

variable {path : List Segment}

/-! ## Reading what is written -/

/-- The characters of a key are gathered. -/
theorem scan_key {name : List Char} (h : ∀ ch ∈ name, ¬ Separates ch) (read rest : List Char) :
    scan 0 read (name ++ rest) = scan 0 (name.reverse ++ read) rest := by
  induction name generalizing read with
  | nil => rfl
  | cons ch name ih =>
      obtain ⟨hch, hname⟩ := List.forall_mem_cons.mp h
      have notOpen : ¬ ch = '[' := fun heq => hch (.inr (.inl heq))
      have notMark : ¬ (ch = '.' ∨ ch = ']') := fun heq => hch (heq.imp_right .inr)
      rw [List.cons_append, scan, if_neg notOpen, if_neg notMark, ih hname, List.reverse_cons,
        List.append_assoc, List.singleton_append]

/-- The characters of an index that was read already are passed over. -/
theorem scan_length (passed read rest : List Char) :
    scan passed.length read (passed ++ rest) = scan 0 read rest := by
  induction passed with
  | nil => rfl
  | cons ch passed ih => exact ih

/-- A point ends the key before it. -/
theorem scan_point (read rest : List Char) :
    scan 0 read ('.' :: rest) = pending read ++ scan 0 [] rest := by
  rw [scan, if_neg (by decide), if_pos (.inl rfl)]

theorem indexAhead?_digitsOf (n : Nat) (rest : List Char) :
    indexAhead? (Text.digitsOf n ++ ']' :: rest) = some (Text.digitsOf n) := by
  have digits : ∀ c ∈ Text.digitsOf n, Text.isDigit c = true :=
    fun c => Text.isDigit_of_mem_digitsOf
  have closing : Text.isDigit ']' = false := by decide
  have nonempty : (Text.digitsOf n).isEmpty = false :=
    List.isEmpty_eq_false_iff.mpr Nat.toDigits_ne_nil
  rw [indexAhead?, List.takeWhile_append_of_pos digits, List.dropWhile_append_of_pos digits]
  simp [closing, nonempty]

/-- An index in brackets ends the key before it. -/
theorem scan_bracketed (n : Nat) (read rest : List Char) :
    scan 0 read (bracketed n ++ rest) =
      pending read ++ .index (Text.digitsOf n) :: scan 0 [] rest := by
  let passed := Text.digitsOf n ++ [']']
  have split : bracketed n ++ rest = '[' :: (passed ++ rest) := rfl
  have length : (Text.digitsOf n).length + 1 = passed.length := by simp [passed]
  have ahead : indexAhead? (passed ++ rest) = some (Text.digitsOf n) := by
    simpa [passed] using indexAhead?_digitsOf n rest
  rw [split, scan, if_pos rfl, ahead]
  dsimp only
  rw [length, scan_length]

/-- The key that was gathered is there as soon as it has a character. -/
theorem pending_reverse {name : String} (h : name ≠ "") :
    pending name.toList.reverse = [.key name.toList] := by
  have nonempty : name.toList ≠ [] := by simpa using h
  simp [pending, nonempty]

/-- Steps that are written one behind the other are read one after the other, the first of them
ending the key before it. -/
theorem scan_written (h : ∀ s ∈ path, IsWritable s) (read : List Char) :
    scan 0 read (path.flatMap written) = pending read ++ path.map tokenOf := by
  induction path generalizing read with
  | nil => rw [List.flatMap_nil, scan, List.map_nil, List.append_nil]
  | cons s rest ih =>
      obtain ⟨hs, hrest⟩ := List.forall_mem_cons.mp h
      rw [List.flatMap_cons, List.map_cons]
      cases s with
      | key name =>
          rw [written, List.cons_append, scan_point, scan_key hs.2, List.append_nil, ih hrest,
            pending_reverse hs.1]
          rfl
      | index n =>
          rw [written, scan_bracketed, ih hrest]
          rfl

theorem scan_render (h : ∀ s ∈ path, IsWritable s) :
    scan 0 [] (render path).toList = path.map tokenOf := by
  cases path with
  | nil => rfl
  | cons s rest =>
      obtain ⟨hs, hrest⟩ := List.forall_mem_cons.mp h
      cases s with
      | key name =>
          rw [render, String.toList_ofList, scan_key hs.2, List.append_nil, scan_written hrest,
            pending_reverse hs.1]
          rfl
      | index n =>
          rw [render, String.toList_ofList, scan_bracketed, scan_written hrest]
          rfl

theorem segment_tokenOf {s : Segment} (h : IsWritable s) : (tokenOf s).segment = .ok s := by
  cases s with
  | key name => rw [tokenOf, Token.segment, String.ofList_toList]
  | index n => rw [tokenOf, Token.segment, if_neg (Nat.not_lt.mpr h), Text.numeral_digitsOf]

theorem mapM_segment_tokenOf (h : ∀ s ∈ path, IsWritable s) :
    (path.map tokenOf).mapM Token.segment = .ok path := by
  rw [mapM_eq_ok, List.forall₂_map_left_iff]
  exact List.forall₂_same.mpr fun s hs => segment_tokenOf (h s hs)

/-- A text whose ends are its own: no blanks to be dropped, and no sign for the root. -/
structure Bare (text : String) : Prop where
  first : ∀ ch ∈ text.toList.head?, Text.isBlank ch = false ∧ ch ≠ '$'
  last : ∀ ch ∈ text.toList.getLast?, Text.isBlank ch = false

/-- Nothing is dropped from a text without blanks at its ends. -/
theorem trim_of_ends {cs : List Char} (first : ∀ ch ∈ cs.head?, Text.isBlank ch = false)
    (last : ∀ ch ∈ cs.getLast?, Text.isBlank ch = false) : Text.trim cs = cs := by
  have nothing : ∀ ch ∈ ([] : List Char) ++ [], Text.isBlank ch = true := List.forall_mem_nil _
  simpa [Text.trim] using Text.strip_padded nothing first last

/-- The root sign is no blank, and what stands behind it keeps its end. -/
theorem trim_of_front {front : List Char} (hfront : front = ['$'] ∨ front = ['$', '.'])
    {text : String} (h : Bare text) : Text.trim (front ++ text.toList) = front ++ text.toList := by
  apply trim_of_ends
  · rcases hfront with rfl | rfl <;> rintro ch ⟨⟩ <;> rfl
  · intro ch hch
    rw [List.getLast?_append] at hch
    cases hlast : text.toList.getLast? with
    | some c =>
        rw [hlast] at hch
        exact h.last ch (hlast.trans hch)
    | none =>
        rw [hlast] at hch
        rcases hfront with rfl | rfl <;> cases hch <;> rfl

theorem clean_of_bare {text : String} (h : Bare text) : clean text.toList = text.toList := by
  rw [clean, trim_of_ends (fun ch hch => (h.first ch hch).1) h.last]
  split
  · rename_i rest hcs
    exact absurd rfl (h.first '$' (by rw [hcs]; rfl)).2
  · rename_i rest _ hcs
    exact absurd rfl (h.first '$' (by rw [hcs]; rfl)).2
  · rfl

/-- A written path does not begin with a point. -/
theorem head?_render_ne (h : ∀ s ∈ path, IsWritable s) : (render path).toList.head? ≠ some '.' := by
  cases path with
  | nil => simp [render]
  | cons s rest =>
      cases s with
      | index n => simp [render, bracketed]
      | key name =>
          obtain ⟨hne, hname⟩ := h _ List.mem_cons_self
          rw [render, String.toList_ofList]
          cases hcs : name.toList with
          | nil => exact absurd (String.toList_eq_nil_iff.mp hcs) hne
          | cons ch cs =>
              rintro ⟨⟩
              exact hname '.' (hcs ▸ List.mem_cons_self) (.inl rfl)

theorem clean_dollar {text : String} (h : Bare text) (hpoint : text.toList.head? ≠ some '.') :
    clean ('$' :: text.toList) = text.toList := by
  rw [clean, show '$' :: text.toList = ['$'] ++ text.toList from rfl, trim_of_front (.inl rfl) h]
  cases hcs : text.toList with
  | nil => rfl
  | cons ch cs =>
      have other : ch ≠ '.' := by
        rintro rfl
        exact hpoint (by rw [hcs]; rfl)
      simp [other]

theorem clean_dollar_point {text : String} (h : Bare text) :
    clean ('$' :: '.' :: text.toList) = text.toList := by
  rw [clean, show '$' :: '.' :: text.toList = ['$', '.'] ++ text.toList from rfl,
    trim_of_front (.inr rfl) h]
  rfl

/-- What is left of a text is read as the path, if it is the path as it is written. -/
theorem segments_of_clean (h : ∀ s ∈ path, IsWritable s) {text : String}
    (hclean : clean text.toList = (render path).toList) : segments text = .ok path := by
  rw [segments, hclean, scan_render h, mapM_segment_tokenOf h]

end Path

/-! ## Following a path -/

/-- A kind of values that paths lead through: which of them have fields, and which have elements. -/
structure Tree (V : Type) where
  fields? : V → Option (Named V)
  items? : V → Option (List V)

namespace Tree

variable {V : Type} (tree : Tree V)

/-- A step leads from a value to one of its fields or elements. -/
inductive Enters : Segment → V → V → Prop
  | field {name : String} {v w : V} {fields : Named V} (hfields : tree.fields? v = some fields)
      (hname : fields.get? name = some w) : Enters (.key name) v w
  | item {n : Nat} {v w : V} {items : List V} (hitems : tree.items? v = some items)
      (hindex : items[n]? = some w) : Enters (.index n) v w

/-- A step that cannot be taken from a value. A null is one of the values that are no object and
no array. -/
inductive Blocks : Segment → V → Prop
  | noObject {name : String} {v : V} (h : tree.fields? v = none) : Blocks (.key name) v
  | noField {name : String} {v : V} {fields : Named V} (hfields : tree.fields? v = some fields)
      (hname : name ∉ fields.map Prod.fst) : Blocks (.key name) v
  | noArray {n : Nat} {v : V} (h : tree.items? v = none) : Blocks (.index n) v
  | noItem {n : Nat} {v : V} {items : List V} (hitems : tree.items? v = some items)
      (hindex : items.length ≤ n) : Blocks (.index n) v

/-- A path leads from a value to another one, one step after the other. -/
inductive Leads : List Segment → V → V → Prop
  | here (v : V) : Leads [] v v
  | onward {s : Segment} {rest : List Segment} {v w u : V} (hstep : tree.Enters s v w)
      (hrest : Leads rest w u) : Leads (s :: rest) v u

/-- A path breaks off: its first steps lead to a value from which the next one cannot be taken. -/
def Breaks (path : List Segment) (v : V) : Prop :=
  ∃ before s after w, path = before ++ s :: after ∧ tree.Leads before v w ∧ tree.Blocks s w

/-- What is found is what the path leads to, and nothing is found exactly where it breaks off. -/
structure Finds (path : List Segment) (v : V) (found : Option V) : Prop where
  some_iff : ∀ w, found = some w ↔ tree.Leads path v w
  none_iff : found = none ↔ tree.Breaks path v

/-- Take one step. -/
def enter? (v : V) : Segment → Option V
  | .key name => (tree.fields? v).bind fun fields => fields.get? name
  | .index n => (tree.items? v).bind fun items => items[n]?

/-- Take one step after the other. -/
def walk : List Segment → V → Option V
  | [], v => some v
  | s :: rest, v => (tree.enter? v s).bind (walk rest)

variable {tree} {s : Segment} {path : List Segment} {v w : V}

theorem enter?_eq_some_iff : tree.enter? v s = some w ↔ tree.Enters s v w := by
  cases s with
  | key name =>
      rw [enter?, Option.bind_eq_some_iff]
      constructor
      · rintro ⟨fields, hfields, hname⟩
        exact .field hfields hname
      · rintro ⟨hfields, hname⟩
        exact ⟨_, hfields, hname⟩
  | index n =>
      rw [enter?, Option.bind_eq_some_iff]
      constructor
      · rintro ⟨items, hitems, hindex⟩
        exact .item hitems hindex
      · rintro ⟨⟩
        exact ⟨_, ‹_›, ‹_›⟩

theorem enter?_eq_none_iff : tree.enter? v s = none ↔ tree.Blocks s v := by
  cases s with
  | key name =>
      rw [enter?]
      cases hfields : tree.fields? v with
      | none => exact iff_of_true rfl (.noObject hfields)
      | some fields =>
          rw [Option.bind_some]
          constructor
          · intro h
            refine .noField hfields fun hname => ?_
            obtain ⟨value, hvalue⟩ := Named.exists_get?_of_mem hname
            rw [h] at hvalue
            cases hvalue
          · rintro (h | ⟨hfields', hname⟩)
            · rw [hfields] at h
              cases h
            · obtain rfl := Option.some.inj (hfields.symm.trans hfields')
              exact Named.get?_eq_none hname
  | index n =>
      rw [enter?]
      cases hitems : tree.items? v with
      | none => exact iff_of_true rfl (.noArray hitems)
      | some items =>
          rw [Option.bind_some, List.getElem?_eq_none_iff]
          constructor
          · exact .noItem hitems
          · rintro (_ | _ | h | ⟨hitems', hindex⟩)
            · rw [hitems] at h
              cases h
            · obtain rfl := Option.some.inj (hitems.symm.trans hitems')
              exact hindex

theorem walk_eq_some_iff : tree.walk path v = some w ↔ tree.Leads path v w := by
  induction path generalizing v with
  | nil =>
      constructor
      · rintro ⟨⟩
        exact .here _
      · rintro ⟨⟩
        rfl
  | cons s rest ih =>
      rw [walk, Option.bind_eq_some_iff]
      constructor
      · rintro ⟨u, hstep, hrest⟩
        exact .onward (enter?_eq_some_iff.mp hstep) (ih.mp hrest)
      · rintro ⟨⟩
        exact ⟨_, enter?_eq_some_iff.mpr ‹_›, ih.mpr ‹_›⟩

/-- Nothing comes of a walk exactly where one of its steps cannot be taken. -/
theorem walk_eq_none_iff : tree.walk path v = none ↔ tree.Breaks path v := by
  induction path generalizing v with
  | nil =>
      refine iff_of_false (Option.some_ne_none v) ?_
      rintro ⟨before, s, after, w, hpath, -, -⟩
      simp at hpath
  | cons s rest ih =>
      rw [walk]
      cases hstep : tree.enter? v s with
      | none =>
          exact iff_of_true rfl ⟨[], s, rest, v, rfl, .here v, enter?_eq_none_iff.mp hstep⟩
      | some w =>
          have entered := enter?_eq_some_iff.mp hstep
          rw [Option.bind_some, ih]
          constructor
          · rintro ⟨before, b, after, u, rfl, hleads, hblocked⟩
            exact ⟨s :: before, b, after, u, rfl, .onward entered hleads, hblocked⟩
          · rintro ⟨_ | ⟨first, before⟩, b, after, u, hpath, hleads, hblocked⟩
            · -- the first step can be taken
              cases hpath
              cases hleads
              rw [enter?_eq_none_iff.mpr hblocked] at hstep
              cases hstep
            · cases hpath
              cases hleads with
              | onward hstep' hrest =>
                  rw [enter?_eq_some_iff.mpr hstep'] at hstep
                  cases hstep
                  exact ⟨before, b, after, u, rfl, hrest, hblocked⟩

theorem finds_walk (path : List Segment) (v : V) : tree.Finds path v (tree.walk path v) :=
  ⟨fun _ => walk_eq_some_iff, walk_eq_none_iff⟩

end Tree

namespace Json

/-- Plain values: objects have fields and arrays have elements. -/
def tree : Tree Json where
  fields? := object?
  items? := list?

theorem follow_eq_walk (path : List Segment) (root : Json) :
    follow path root = tree.walk path root := by
  induction path generalizing root with
  | nil => rfl
  | cons s rest ih =>
      cases s <;> cases root <;> try rfl
      · simp only [follow, Tree.walk, Tree.enter?, tree, object?, Option.bind_some, funext ih]
      · simp only [follow, Tree.walk, Tree.enter?, tree, list?, Option.bind_some, funext ih]

end Json

namespace Live

/-- Live values: the bag has the variables for its fields. -/
def tree (bag : Bag) : Tree Live where
  fields? := fun
    | .plain (.object fields) => some (ofFields fields)
    | .object fields => some fields
    | .bag => some bag
    | _ => none
  items? := fun
    | .plain (.list items) => some (items.map .plain)
    | .list items => some items
    | _ => none

theorem get?_ofFields (fields : Fields) (name : String) :
    (ofFields fields).get? name = (fields.get? name).map .plain :=
  Named.get?_map Live.plain fields name

theorem follow_plain (bag : Bag) (path : List Segment) (j : Json) :
    follow bag path (.plain j) = (Json.follow path j).map .plain := by
  cases path <;> rfl

theorem follow_eq_walk (bag : Bag) (path : List Segment) (root : Live) :
    follow bag path root = (tree bag).walk path root := by
  induction path generalizing root with
  | nil => cases root <;> rfl
  | cons s rest ih =>
      cases root with
      | plain j =>
          have plainly (w : Json) :
              (tree bag).walk rest (.plain w) = (Json.follow rest w).map .plain := by
            rw [← ih, follow_plain]
          rw [follow_plain]
          cases s with
          | key name =>
              cases j with
              | object fields =>
                  simp only [Json.follow, Tree.walk, Tree.enter?, tree, Option.bind_some,
                    get?_ofFields]
                  cases Named.get? fields name with
                  | none => rfl
                  | some w => exact (plainly w).symm
              | _ => rfl
          | index n =>
              cases j with
              | list items =>
                  simp only [Json.follow, Tree.walk, Tree.enter?, tree, Option.bind_some,
                    List.getElem?_map]
                  cases items[n]? with
                  | none => rfl
                  | some w => exact (plainly w).symm
              | _ => rfl
      | bag => cases s <;> simp [follow, Tree.walk, Tree.enter?, tree, funext ih]
      | list items => cases s <;> simp [follow, Tree.walk, Tree.enter?, tree, funext ih]
      | object fields => cases s <;> simp [follow, Tree.walk, Tree.enter?, tree, funext ih]

end Live

/-! ## Written paths, followed -/

namespace Path

/-- A path that can be written is read as its steps, also behind the sign for the root. What stands
at it in a value, plain or live, is what its steps lead to one after the other, and there is nothing
exactly where one of them cannot be taken. -/
theorem render_leads {path : List Segment} (hwritable : ∀ s ∈ path, IsWritable s)
    (hbare : Bare (render path)) :
    segments (render path) = .ok path ∧ segments ("$" ++ render path) = .ok path ∧
      segments ("$." ++ render path) = .ok path ∧
      (∀ root : Json, ∃ found, root.at? (render path) = .ok found ∧
        Json.tree.Finds path root found) ∧
      ∀ (bag : Bag) (root : Live), ∃ found, root.at? bag (render path) = .ok found ∧
        (Live.tree bag).Finds path root found := by
  have plainly : segments (render path) = .ok path :=
    segments_of_clean hwritable (clean_of_bare hbare)
  refine ⟨plainly, ?_, ?_, fun root => ?_, fun bag root => ?_⟩
  · apply segments_of_clean hwritable
    rw [String.toList_append]
    exact clean_dollar hbare (head?_render_ne hwritable)
  · apply segments_of_clean hwritable
    rw [String.toList_append]
    exact clean_dollar_point hbare
  · refine ⟨Json.tree.walk path root, ?_, Tree.finds_walk path root⟩
    rw [Json.at?, plainly, ← Json.follow_eq_walk]
    rfl
  · refine ⟨(Live.tree bag).walk path root, ?_, Tree.finds_walk path root⟩
    rw [Live.at?, plainly, ← Live.follow_eq_walk]
    rfl

/-- The way to a field behind an index, past a field whose name looks like an index. -/
def orderPath : List Segment :=
  [.key "größe", .key "7", .index 1, .key "$ref"]

/-- A value in which that way can be gone to its end. -/
def orderRoot : Json :=
  .object [("größe", .object [("7", .list [.null, .object [("$ref", .text "bo_2")]])])]

theorem render_orderPath_leads :
    segments "$.größe.7[1].$ref" = .ok orderPath ∧
      orderRoot.at? "größe.7[1].$ref" = .ok (some (.text "bo_2")) ∧
      Json.null.at? "größe.7[1].$ref" = .ok none := by
  have text : render orderPath = "größe.7[1].$ref" := by decide +kernel
  have front : "größe.7[1].$ref".toList.head? = some 'g' := by decide +kernel
  have back : "größe.7[1].$ref".toList.getLast? = some 'f' := by decide +kernel
  have bare : Bare (render orderPath) := by
    rw [text]
    refine ⟨fun ch hch => ?_, fun ch hch => ?_⟩
    · cases front.symm.trans hch
      decide
    · cases back.symm.trans hch
      decide
  obtain ⟨-, -, behind, plain, -⟩ := render_leads (by decide +kernel) bare
  rw [text] at behind plain
  refine ⟨behind, ?_, ?_⟩
  · obtain ⟨found, hfound, finds⟩ := plain orderRoot
    have leads : Json.tree.Leads orderPath orderRoot (.text "bo_2") :=
      .onward (.field rfl rfl) (.onward (.field rfl rfl) (.onward (.item rfl rfl)
        (.onward (.field rfl rfl) (.here _))))
    rw [hfound, (finds.some_iff _).mpr leads]
  · obtain ⟨found, hfound, finds⟩ := plain .null
    have breaks : Json.tree.Breaks orderPath .null :=
      ⟨[], _, _, _, rfl, .here _, .noObject rfl⟩
    rw [hfound, finds.none_iff.mpr breaks]

end Path

end Tenancy
