/-
# Reading text as tokens

What a database makes of a statement it makes of the text alone. This module reads a text as
a database does: names stand between double quotes, commas and parentheses stand for
themselves, and everything else falls into words at the blanks. The reader knows nothing of
how statements are written, so a fact about its tokens is a fact about the text.

Texts are put together from parts, and so are their tokens. A part that is *complete* reads
the same whatever follows it. A part that ends in a word only *reads* as that word where a
break follows; the word would go on otherwise.
-/

import Tenancy.Proofs.Catalog.Resolution
import Mathlib.Data.List.Forall2

namespace Tenancy.Sql

/-- What a text is read as. -/
inductive Token where
  /-- A name, which stands between double quotes. -/
  | name (text : String)
  /-- A run of other characters. -/
  | word (text : String)
  /-- A comma or a parenthesis. -/
  | mark (c : Char)
deriving DecidableEq, Repr

/-- The characters that stand for themselves. -/
def isMark (c : Char) : Bool :=
  c == ',' || c == '(' || c == ')'

/-- The characters that end a word. -/
def isBreak (c : Char) : Bool :=
  c == '"' || c == ' ' || isMark c

/-- The word that has been read, latest character first, if there is one. -/
def wordRead (w : List Char) : List Token :=
  if w.isEmpty then [] else [.word (String.ofList w.reverse)]

/- Reading on in the middle of a word or of a name, whose characters so far are given with the
latest one first. -/
mutual

/-- The tokens of a text in front of which the given characters of a word stand. -/
def scanWord (w : List Char) : List Char → List Token
  | [] => wordRead w
  | c :: rest =>
      if c == '"' then wordRead w ++ scanName [] rest
      else if c == ' ' then wordRead w ++ scanWord [] rest
      else if isMark c then wordRead w ++ .mark c :: scanWord [] rest
      else scanWord (c :: w) rest

/-- The tokens of a text in front of which the given characters of a name stand. A name that
is never closed is none. -/
def scanName (n : List Char) : List Char → List Token
  | [] => []
  | c :: rest =>
      if c == '"' then .name (String.ofList n.reverse) :: scanWord [] rest
      else scanName (c :: n) rest

end

/-- The tokens of a list of characters. -/
def scan (cs : List Char) : List Token :=
  scanWord [] cs

/-- The tokens of a text. -/
def tokens (s : String) : List Token :=
  scan s.toList

@[simp] theorem scan_nil : scan [] = [] := rfl

/-! ## Names -/

theorem scanName_append {cs : List Char} (h : '"' ∉ cs) (n rest : List Char) :
    scanName n (cs ++ '"' :: rest) = .name (String.ofList (n.reverse ++ cs)) :: scan rest := by
  induction cs generalizing n with
  | nil => simp [scanName, scan]
  | cons c cs ih =>
      have hc : (c == '"') = false := by
        simp only [List.mem_cons, not_or] at h
        simpa using Ne.symm h.1
      have rest := ih (fun hmem => h (List.mem_cons_of_mem c hmem)) (c :: n)
      simpa [scanName, hc] using rest

/-! ## Parts of a text -/

/-- A text that starts with a break, or is empty. -/
def AtBreak (cs : List Char) : Prop :=
  ∀ c ∈ cs.head?, isBreak c = true

/-- A part of a text that reads as the given tokens whatever follows it. -/
def Complete (part : String) (ts : List Token) : Prop :=
  ∀ rest, scan (part.toList ++ rest) = ts ++ scan rest

/-- A part of a text that reads as the given tokens where a break follows it. -/
def Reads (part : String) (ts : List Token) : Prop :=
  ∀ rest, AtBreak rest → scan (part.toList ++ rest) = ts ++ scan rest

theorem AtBreak.nil : AtBreak [] := by
  simp [AtBreak]

theorem AtBreak.append {front rest : List Char} (hfront : AtBreak front) (hrest : AtBreak rest) :
    AtBreak (front ++ rest) := by
  cases front with
  | nil => exact hrest
  | cons c front => exact hfront

theorem AtBreak.append_left {front : List Char} (h : AtBreak front) (hne : front ≠ [])
    (rest : List Char) : AtBreak (front ++ rest) := by
  cases front with
  | nil => exact absurd rfl hne
  | cons c front => exact h

/-- A whole text has the tokens it reads as. -/
theorem Reads.tokens_eq {s : String} {ts : List Token} (h : Reads s ts) : tokens s = ts := by
  have := h [] AtBreak.nil
  simpa [tokens] using this

theorem Complete.reads {part : String} {ts : List Token} (h : Complete part ts) :
    Reads part ts :=
  fun rest _ => h rest

theorem Complete.append {a b : String} {ts us : List Token} (ha : Complete a ts)
    (hb : Complete b us) : Complete (a ++ b) (ts ++ us) := by
  intro rest
  rw [String.toList_append, List.append_assoc, ha, hb, List.append_assoc]

theorem Complete.append_reads {a b : String} {ts us : List Token} (ha : Complete a ts)
    (hb : Reads b us) : Reads (a ++ b) (ts ++ us) := by
  intro rest hrest
  rw [String.toList_append, List.append_assoc, ha, hb rest hrest, List.append_assoc]

/-- A part that may end in a word can be followed by one that starts with a break. -/
theorem Reads.append {a b : String} {ts us : List Token} (ha : Reads a ts) (hb : Reads b us)
    (hbreak : AtBreak b.toList) : Reads (a ++ b) (ts ++ us) := by
  intro rest hrest
  rw [String.toList_append, List.append_assoc, ha _ (hbreak.append hrest), hb rest hrest,
    List.append_assoc]

/-- A part that may end in a word is complete together with a complete part that starts with a
break. -/
theorem Reads.append_complete {a b : String} {ts us : List Token} (ha : Reads a ts)
    (hb : Complete b us) (hbreak : AtBreak b.toList) (hne : b.toList ≠ []) :
    Complete (a ++ b) (ts ++ us) := by
  intro rest
  rw [String.toList_append, List.append_assoc, ha _ (hbreak.append_left hne rest), hb,
    List.append_assoc]

theorem Complete.empty : Complete "" [] := by
  intro rest
  simp

/-- Parts between which a complete separator stands read as their tokens with the tokens of the
separator between them. -/
theorem Reads.intercalate {separator : String} {ss : List Token}
    (hseparator : Complete separator ss) (hbreak : AtBreak separator.toList)
    (hne : separator.toList ≠ []) {parts : List String} {tss : List (List Token)}
    (h : List.Forall₂ Reads parts tss) :
    Reads (separator.intercalate parts) (ss.intercalate tss) := by
  induction h with
  | nil => exact Complete.empty.reads
  | @cons part ts parts tss hpart hparts ih =>
      cases hparts with
      | nil => simpa using hpart
      | cons hsecond hparts =>
          rw [String.intercalate_cons_cons, List.intercalate_cons_cons]
          exact (hpart.append_complete hseparator hbreak hne).append_reads ih

/-! ## Names and words as parts -/

theorem complete_quoted (i : Identifier) : Complete i.quoted [.name i.name] := by
  intro rest
  have named := scanName_append i.quote_not_mem [] rest
  rw [Identifier.quoted, String.toList_append, String.toList_append, List.append_assoc,
    List.append_assoc]
  simpa [scan, scanWord, wordRead] using named

theorem scanWord_append {cs : List Char} (h : ∀ c ∈ cs, isBreak c = false) (w rest : List Char) :
    scanWord w (cs ++ rest) = scanWord (cs.reverse ++ w) rest := by
  induction cs generalizing w with
  | nil => rfl
  | cons c cs ih =>
      have hc := h c (by simp)
      simp only [isBreak, Bool.or_eq_false_iff] at hc
      rw [List.cons_append, scanWord, hc.1.1, hc.1.2, hc.2]
      simpa using ih (fun d hd => h d (by simp [hd])) (c :: w)

theorem scanWord_of_atBreak {rest : List Char} (h : AtBreak rest) (w : List Char) :
    scanWord w rest = wordRead w ++ scan rest := by
  cases rest with
  | nil => simp [scanWord, scan, wordRead]
  | cons c rest =>
      have hc : isBreak c = true := h c rfl
      unfold isBreak at hc
      rw [scan, scanWord, scanWord]
      split_ifs <;> simp_all [wordRead]

/-- Characters without a break among them read as one word. -/
theorem reads_word {w : String} (hne : w ≠ "") (h : ∀ c ∈ w.toList, isBreak c = false) :
    Reads w [.word w] := by
  intro rest hrest
  have nonempty : w.toList ≠ [] := by simpa using hne
  rw [scan, scanWord_append h, scanWord_of_atBreak hrest]
  simp [wordRead, nonempty]

/-- A fixed word reads as itself. -/
theorem reads_keyword {w : String} (hne : w ≠ "") (h : w.toList.any isBreak = false) :
    Reads w [.word w] :=
  reads_word hne (by simpa using h)

end Tenancy.Sql
