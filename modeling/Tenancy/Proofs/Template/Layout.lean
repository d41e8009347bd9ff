/-
# Interpolating is one pass

A text is laid out as plain text with tokens in between, and a value is laid out when all the
strings inside it are. Interpolating such a value can be told in two stages that have nothing to do
with each other. First the tokens are resolved, in the order in which they stand, up to the first
that fails. Then what they have come to is put in their places, and everything else stays where it
was. The first stage sees nothing but the tokens, and the second one does not look at what it puts
in, so a value that contains braces of its own is inserted as it is, however deeply the token is
nested.

The stack has its say in the first stage only. An array or an object that is nested more deeply than
is searched is a place like that of a token, at which going on fails without a look at what is
inside. Which of several places decides is a matter of their order, for any stack there may be.

A layout carries the proofs that its plain text begins no token and that its tokens end where they
seem to.
-/

import Tenancy.Proofs.Template.Plain
import Tenancy.Proofs.Template.Writing

namespace Tenancy.Template

/-! ## Texts with tokens -/

/-- Text that begins no token, because it has no opening brace. -/
structure PlainText where
  chars : List Char
  unopened : '\x7b' ∉ chars

/-- What stands between the braces of a token. -/
structure Body where
  chars : List Char
  nonempty : chars ≠ []
  unopened : '\x7b' ∉ chars
  unclosed : '\x7d' ∉ chars

/-- A text as it is laid out: plain text, and then tokens with the plain text after each. -/
structure Layout where
  lead : PlainText
  tokens : List (Body × PlainText)

/-- A token as it stands in a text. -/
def Body.text (b : Body) : List Char :=
  '\x7b' :: '\x7b' :: (b.chars ++ ['\x7d', '\x7d'])

/-- A place for what a token resolves to. -/
structure Slot where
  body : Body
  /-- Whether the token is all there is of a text. -/
  sole : Bool
  /-- How many more levels could be searched there. -/
  left : Nat

/-- What comes to stand in the place of a token. What is all there is of a text becomes the value
itself, of whatever type. Inside longer text a string is taken as it is and anything else in its
written form, if it can be written there. -/
def Slot.resolve (ids : IdSource) (x : Slot) (t : Interpreter) : Resolution Live :=
  match t.resolve ids x.body.chars with
  | (.error e, t) => (.error e, t)
  | (.ok v, t) =>
      if x.sole then (.ok v, t)
      else match t.written x.left v with
        | .error e => (.error e, t)
        | .ok (.text s) => (.ok (.plain (.text s)), t)
        | .ok j => (.ok (.plain (.text j.print)), t)

namespace Layout

/-- The text that is laid out. -/
def text (l : Layout) : List Char :=
  l.lead.chars ++ l.tokens.flatMap fun x => x.1.text ++ x.2.chars

/-- Whether the text is one token, one line feed after it allowed. -/
def isSole (l : Layout) : Bool :=
  match l.tokens with
  | [(_, after)] => l.lead.chars.isEmpty && (after.chars.isEmpty || after.chars == ['\n'])
  | _ => false

/-- The places of the tokens, from left to right, where so many more levels could be searched. -/
def slots (l : Layout) (left : Nat) : List Slot :=
  l.tokens.map fun x => ⟨x.1, l.isSole, left⟩

/-- The characters of a text whose tokens have become other texts. -/
def charsWith (l : Layout) (values : List Live) : List Char :=
  l.lead.chars ++
    (List.zipWith (fun v x => (v.text?.getD "").toList ++ x.2.chars) values l.tokens).flatten

/-- The text with something in the places of its tokens. -/
def filledWith (l : Layout) (values : List Live) : Live :=
  if l.isSole then values.headD (.plain .null)
  else .plain (.text (String.ofList (l.charsWith values)))

end Layout

/-! ## Reading a layout -/

theorem pieces_plain (p : PlainText) (rest : List Char) :
    pieces 0 (p.chars ++ rest) = p.chars.map .char ++ pieces 0 rest := by
  obtain ⟨cs, hcs⟩ := p
  induction cs with
  | nil => rfl
  | cons c cs ih =>
      rw [List.mem_cons, not_or] at hcs
      show pieces 0 (c :: (cs ++ rest)) = .char c :: (cs.map .char ++ pieces 0 rest)
      rw [pieces, if_neg (Ne.symm hcs.1)]
      exact congrArg _ (ih hcs.2)

/-- The characters of a token that was read already are passed over. -/
theorem pieces_length (cs rest : List Char) : pieces cs.length (cs ++ rest) = pieces 0 rest := by
  induction cs with
  | nil => rfl
  | cons c cs ih => exact ih

/-- A token ends with the first two closing braces after it. -/
theorem bodyAhead?_body (b : Body) (rest : List Char) :
    bodyAhead? (b.chars ++ '\x7d' :: '\x7d' :: rest) = some b.chars := by
  have inside : ∀ c ∈ b.chars, (c != '\x7d') = true := by
    rintro c hc
    rw [bne_iff_ne]
    rintro rfl
    exact b.unclosed hc
  have nonempty : b.chars.isEmpty = false := List.isEmpty_eq_false_iff.mpr b.nonempty
  rw [bodyAhead?, List.takeWhile_append_of_pos inside, List.dropWhile_append_of_pos inside]
  simp [nonempty]

theorem pieces_token (b : Body) (rest : List Char) :
    pieces 0 (b.text ++ rest) = .token b.chars :: pieces 0 rest := by
  let passed := '\x7b' :: (b.chars ++ ['\x7d', '\x7d'])
  have split : b.text ++ rest = '\x7b' :: (passed ++ rest) := rfl
  have length : b.chars.length + 3 = passed.length := by simp [passed]
  have ahead : tokenAhead? (passed ++ rest) = some b.chars := by
    have body := bodyAhead?_body b rest
    simpa [passed, tokenAhead?] using body
  rw [split, pieces, if_pos rfl, ahead]
  dsimp only
  rw [length, pieces_length]

/-- The pieces of tokens with the plain text after each. -/
def piecesOf (tokens : List (Body × PlainText)) : List Piece :=
  tokens.flatMap fun x => .token x.1.chars :: x.2.chars.map .char

theorem pieces_tokens (tokens : List (Body × PlainText)) :
    pieces 0 (tokens.flatMap fun x => x.1.text ++ x.2.chars) = piecesOf tokens := by
  induction tokens with
  | nil => rfl
  | cons x rest ih =>
      rw [List.flatMap_cons, List.append_assoc, pieces_token, pieces_plain, ih]
      rfl

/-- A layout is read as it was laid out. -/
theorem pieces_text (l : Layout) :
    pieces 0 l.text = l.lead.chars.map .char ++ piecesOf l.tokens := by
  rw [Layout.text, pieces_plain, pieces_tokens]

theorem soleToken?_text_of_isSole {l : Layout} (h : l.isSole = true) :
    ∃ body after, l.tokens = [(body, after)] ∧ soleToken? l.text = some body.chars := by
  unfold Layout.isSole at h
  split at h
  · rename_i body after htokens
    rw [Bool.and_eq_true, Bool.or_eq_true, List.isEmpty_iff, List.isEmpty_iff, beq_iff_eq] at h
    refine ⟨body, after, htokens, ?_⟩
    rw [soleToken?, pieces_text, htokens, h.1]
    rcases h.2 with hafter | hafter
    · simp [piecesOf, hafter]
    · simp [piecesOf, hafter]
  · cases h

theorem soleToken?_text_of_not_isSole {l : Layout} (h : l.isSole = false) :
    soleToken? l.text = none := by
  obtain ⟨⟨lead, hlead⟩, tokens⟩ := l
  rw [soleToken?, pieces_text]
  cases lead with
  | cons c lead => rfl
  | nil =>
      -- One token with nothing, one character or more after it, or two tokens and more.
      rcases tokens with _ | ⟨⟨body, ⟨_ | ⟨c, _ | ⟨d, after⟩⟩, _⟩⟩, _ | ⟨next, rest⟩⟩
      · rfl
      · simp [Layout.isSole] at h
      · simp [piecesOf]
      · have other : c ≠ '\n' := by simpa [Layout.isSole] using h
        simp [piecesOf, other]
      · simp [piecesOf]
      · simp [piecesOf]
      · simp [piecesOf]

/-! ## One thing after the other -/

namespace Resolution

variable {α β γ : Type}

/-- What a resolution leads to, put to use. -/
def map (g : α → β) (r : Resolution α) : Resolution β :=
  (r.1.map g, r.2)

theorem map_map (g : α → β) (g' : β → γ) (r : Resolution α) :
    (r.map g).map g' = r.map fun a => g' (g a) := by
  obtain ⟨_ | a, t⟩ := r <;> rfl

end Resolution

/-- Do something for several things in order, up to the first failure. -/
def inOrder {α β : Type} (f : α → Interpreter → Resolution β) :
    List α → Interpreter → Resolution (List β)
  | [], t => (.ok [], t)
  | a :: rest, t =>
      match f a t with
      | (.error e, t) => (.error e, t)
      | (.ok b, t) => (inOrder f rest t).map (b :: ·)

section InOrder

variable {α β : Type} (f : α → Interpreter → Resolution β)

/-- What is done for two lists is done for the one and then, unless something has failed, for the
other. -/
theorem inOrder_append (xs ys : List α) (t : Interpreter) :
    inOrder f (xs ++ ys) t =
      match inOrder f xs t with
      | (.error e, t) => (.error e, t)
      | (.ok bs, t) => (inOrder f ys t).map (bs ++ ·) := by
  induction xs generalizing t with
  | nil =>
      show inOrder f ys t = (inOrder f ys t).map ([] ++ ·)
      rcases inOrder f ys t with ⟨_ | _, later⟩ <;> rfl
  | cons a rest ih =>
      rw [List.cons_append, inOrder, inOrder]
      rcases f a t with ⟨_ | b, mid⟩
      · rfl
      · dsimp only
        rw [ih mid]
        rcases inOrder f rest mid with ⟨_ | bs, later⟩
        · rfl
        · dsimp only [Resolution.map, Except.map]
          rcases inOrder f ys later with ⟨_ | _, last⟩ <;> rfl

theorem length_of_inOrder {xs : List α} {bs : List β} {t mid : Interpreter}
    (h : inOrder f xs t = (.ok bs, mid)) : bs.length = xs.length := by
  induction xs generalizing t bs with
  | nil =>
      cases h
      rfl
  | cons a rest ih =>
      rw [inOrder] at h
      split at h
      · cases h
      · rename_i later _
        rcases hrest : inOrder f rest later with ⟨_ | others, last⟩
        · rw [hrest] at h
          cases h
        · rw [hrest] at h
          cases h
          rw [List.length_cons, List.length_cons, ih hrest]

/-- What is done in order fails as one thing does for which all before it has been done. -/
theorem inOrder_eq_error_iff {xs : List α} {e : Failure} {t after : Interpreter} :
    inOrder f xs t = (.error e, after) ↔
      ∃ before x rest bs mid, xs = before ++ x :: rest ∧
        inOrder f before t = (.ok bs, mid) ∧ f x mid = (.error e, after) := by
  constructor
  · intro h
    induction xs generalizing t with
    | nil => cases h
    | cons a rest ih =>
        rw [inOrder] at h
        rcases ha : f a t with ⟨_ | b, mid⟩
        · rw [ha] at h
          cases h
          exact ⟨[], a, rest, [], t, rfl, rfl, ha⟩
        · rw [ha] at h
          rcases hrest : inOrder f rest mid with ⟨_ | _, last⟩
          · dsimp only at h
            rw [hrest] at h
            cases h
            obtain ⟨before, x, others, bs, later, rfl, hbefore, hx⟩ := ih hrest
            refine ⟨a :: before, x, others, b :: bs, later, rfl, ?_, hx⟩
            rw [inOrder, ha]
            dsimp only
            rw [hbefore]
            rfl
          · dsimp only at h
            rw [hrest] at h
            cases h
  · rintro ⟨before, x, rest, bs, mid, rfl, hbefore, hx⟩
    rw [inOrder_append, hbefore]
    dsimp only
    rw [inOrder, hx]
    rfl

/-- What is done for the images of things is done for the things. -/
theorem inOrder_map {γ : Type} (g : γ → α) (xs : List γ) (t : Interpreter) :
    inOrder f (xs.map g) t = inOrder (fun x => f (g x)) xs t := by
  induction xs generalizing t with
  | nil => rfl
  | cons x rest ih =>
      rw [List.map_cons, inOrder, inOrder]
      rcases f (g x) t with ⟨_ | b, mid⟩
      · rfl
      · dsimp only
        rw [ih]

end InOrder

/-! ## Texts -/

namespace Interpreter

variable (ids : IdSource)

/-- Plain text is spliced as it stands. -/
theorem splice_chars_append (left : Nat) (cs : List Char) (ps : List Piece) (t : Interpreter) :
    t.splice ids left (cs.map .char ++ ps) = (t.splice ids left ps).map (cs ++ ·) := by
  induction cs with
  | nil =>
      rw [List.map_nil, List.nil_append]
      rcases t.splice ids left ps with ⟨_ | _, later⟩ <;> rfl
  | cons c cs ih =>
      rw [List.map_cons, List.cons_append, splice, ih]
      rcases t.splice ids left ps with ⟨_ | _, later⟩ <;> rfl

/-- Splicing a token puts in its place what has come to stand there. -/
theorem splice_slot (left : Nat) (b : Body) (ps : List Piece) (t : Interpreter) :
    t.splice ids left (.token b.chars :: ps) =
      match Slot.resolve ids ⟨b, false, left⟩ t with
      | (.error e, t) => (.error e, t)
      | (.ok v, t) => (t.splice ids left ps).map ((v.text?.getD "").toList ++ ·) := by
  rw [splice, Slot.resolve]
  rcases t.resolve ids b.chars with ⟨_ | v, mid⟩
  · rfl
  · dsimp only
    rw [if_neg Bool.false_ne_true]
    cases mid.written left v with
    | error e => rfl
    | ok j =>
        rcases hps : mid.splice ids left ps with ⟨_ | _, later⟩ <;> cases j <;>
          simp only [hps] <;> rfl

theorem splice_slots (left : Nat) (tokens : List (Body × PlainText)) (t : Interpreter) :
    t.splice ids left (piecesOf tokens) =
      (inOrder (Slot.resolve ids) (tokens.map fun x => ⟨x.1, false, left⟩) t).map fun values =>
        (List.zipWith (fun v x => (v.text?.getD "").toList ++ x.2.chars)
          values tokens).flatten := by
  induction tokens generalizing t with
  | nil => rfl
  | cons x rest ih =>
      show t.splice ids left (.token x.1.chars :: (x.2.chars.map .char ++ piecesOf rest)) = _
      rw [splice_slot, List.map_cons, inOrder]
      rcases Slot.resolve ids ⟨x.1, false, left⟩ t with ⟨_ | v, mid⟩
      · rfl
      · dsimp only
        rw [splice_chars_append, ih, Resolution.map_map, Resolution.map_map, Resolution.map_map]
        simp

/-- A text is interpolated in one pass. -/
theorem interpolateText_text (l : Layout) (left : Nat) (t : Interpreter) :
    t.interpolateText ids left (String.ofList l.text) =
      (inOrder (Slot.resolve ids) (l.slots left) t).map l.filledWith := by
  rw [interpolateText, String.toList_ofList]
  cases hsole : l.isSole with
  | true =>
      obtain ⟨body, after, htokens, htoken⟩ := soleToken?_text_of_isSole hsole
      rw [htoken, Layout.slots, htokens, hsole]
      show t.resolve ids body.chars = _
      rw [List.map_cons, List.map_nil, inOrder, Slot.resolve]
      rcases t.resolve ids body.chars with ⟨_ | v, mid⟩
      · rfl
      · simp [inOrder, Resolution.map, Except.map, Layout.filledWith, hsole]
  | false =>
      rw [soleToken?_text_of_not_isSole hsole, pieces_text, Layout.slots, hsole]
      dsimp only
      rw [splice_chars_append, splice_slots, Resolution.map_map]
      have filled : l.filledWith =
          fun values => .plain (.text (String.ofList (l.charsWith values))) := by
        funext values
        rw [Layout.filledWith, hsole]
        rfl
      rw [filled]
      generalize inOrder (Slot.resolve ids)
        (l.tokens.map fun x => (⟨x.1, false, left⟩ : Slot)) t = out
      rcases out with ⟨_ | values, later⟩ <;> rfl

end Interpreter

/-! ## Values -/

/-- A value as it is laid out, with the strings inside it. -/
inductive Draft where
  | null
  | bool (b : Bool)
  | int (n : Int)
  | float (x : Binary64)
  | text (l : Layout)
  /-- An array. -/
  | list (items : List Draft)
  /-- An object, its fields in order. The names of fields have no tokens. -/
  | object (fields : List (String × Draft))

namespace Draft

/- The value that is laid out, by recursion on its elements and fields. -/
mutual

/-- The value that is laid out. -/
def value : Draft → Json
  | .null => .null
  | .bool b => .bool b
  | .int n => .int n
  | .float x => .float x
  | .text l => .text (String.ofList l.text)
  | .list items => .list (valuesOf items)
  | .object fields => .object (fieldsOf fields)

/-- The elements that are laid out. -/
def valuesOf : List Draft → List Json
  | [] => []
  | item :: rest => value item :: valuesOf rest

/-- The fields that are laid out. -/
def fieldsOf : List (String × Draft) → List (String × Json)
  | [] => []
  | (name, d) :: rest => (name, value d) :: fieldsOf rest

end

/- Counting tokens, by recursion on elements and fields. -/
mutual

/-- The number of tokens in a value. -/
def count : Draft → Nat
  | .text l => l.tokens.length
  | .list items => countItems items
  | .object fields => countFields fields
  | .null | .bool _ | .int _ | .float _ => 0

/-- The number of tokens in the elements of an array. -/
def countItems : List Draft → Nat
  | [] => 0
  | item :: rest => count item + countItems rest

/-- The number of tokens in the fields of an object. -/
def countFields : List (String × Draft) → Nat
  | [] => 0
  | (_, d) :: rest => count d + countFields rest

end

/- Putting values in the places of tokens, by recursion on elements and fields. -/
mutual

/-- A value with something in the places of its tokens, which is not looked at. -/
def filledWith : Draft → List Live → Live
  | .text l, values => l.filledWith values
  | .list items, values => .list (itemsWith items values)
  | .object fields, values => .object (fieldsWith fields values)
  | .null, _ => .plain .null
  | .bool b, _ => .plain (.bool b)
  | .int n, _ => .plain (.int n)
  | .float x, _ => .plain (.float x)

/-- The elements of an array with something in the places of their tokens. -/
def itemsWith : List Draft → List Live → List Live
  | [], _ => []
  | item :: rest, values =>
      filledWith item (values.take (count item)) ::
        itemsWith rest (values.drop (count item))

/-- The fields of an object with something in the places of their tokens. -/
def fieldsWith : List (String × Draft) → List Live → List (String × Live)
  | [], _ => []
  | (name, d) :: rest, values =>
      (name, filledWith d (values.take (count d))) ::
        fieldsWith rest (values.drop (count d))

end

end Draft

/-! ## Places -/

/-- A place at which interpolating a value can fail. -/
inductive Place where
  /-- A token. -/
  | token (x : Slot)
  /-- An array or an object that is nested too deeply to be searched. -/
  | wall

/-- What comes of a place. -/
def Place.resolve (ids : IdSource) : Place → Interpreter → Resolution Live
  | .token x, t => x.resolve ids t
  | .wall, t => (.error .tooDeep, t)

namespace Draft

/- The places of a value, by recursion on its elements and fields. -/
mutual

/-- The places of a value, in the order in which they stand, where so many levels are searched. -/
def places (levels : Nat) : Draft → List Place
  | .text l => (l.slots levels).map .token
  | .list items =>
      match levels with
      | 0 => [.wall]
      | levels + 1 => placesOfItems levels items
  | .object fields =>
      match levels with
      | 0 => [.wall]
      | levels + 1 => placesOfFields levels fields
  | .null | .bool _ | .int _ | .float _ => []

/-- The places of the elements of an array. -/
def placesOfItems (levels : Nat) : List Draft → List Place
  | [] => []
  | item :: rest => places levels item ++ placesOfItems levels rest

/-- The places of the fields of an object. -/
def placesOfFields (levels : Nat) : List (String × Draft) → List Place
  | [] => []
  | (_, d) :: rest => places levels d ++ placesOfFields levels rest

end

/- Meeting a wall, by recursion on elements and fields. -/
mutual

/-- A wall is met exactly if a value is nested more deeply than is searched. -/
theorem wall_mem_places : (levels : Nat) → (d : Draft) →
    (.wall ∈ d.places levels ↔ levels < d.value.levels)
  | levels, .text l => by simp [places, value, Json.levels]
  | 0, .list _ | 0, .object _ => by simp [places, value, Json.levels]
  | levels + 1, .list items => by
      rw [places, value, Json.levels, Nat.add_lt_add_iff_right]
      exact wall_mem_placesOfItems levels items
  | levels + 1, .object fields => by
      rw [places, value, Json.levels, Nat.add_lt_add_iff_right]
      exact wall_mem_placesOfFields levels fields
  | levels, .null | levels, .bool _ | levels, .int _ | levels, .float _ => by
      simp [places, value, Json.levels]

theorem wall_mem_placesOfItems : (levels : Nat) → (items : List Draft) →
    (.wall ∈ placesOfItems levels items ↔ levels < Json.levelsItems (valuesOf items))
  | levels, [] => by simp [placesOfItems, valuesOf, Json.levelsItems]
  | levels, item :: rest => by
      rw [placesOfItems, valuesOf, Json.levelsItems, List.mem_append, wall_mem_places levels item,
        wall_mem_placesOfItems levels rest, lt_max_iff]

theorem wall_mem_placesOfFields : (levels : Nat) → (fields : List (String × Draft)) →
    (.wall ∈ placesOfFields levels fields ↔ levels < Json.levelsFields (fieldsOf fields))
  | levels, [] => by simp [placesOfFields, fieldsOf, Json.levelsFields]
  | levels, (_, d) :: rest => by
      rw [placesOfFields, fieldsOf, Json.levelsFields, List.mem_append, wall_mem_places levels d,
        wall_mem_placesOfFields levels rest, lt_max_iff]

end

/- Places that are all tokens, by recursion on elements and fields. -/
mutual

/-- Where no wall is met there are as many places as tokens. -/
theorem length_places : (levels : Nat) → (d : Draft) → .wall ∉ d.places levels →
    (d.places levels).length = d.count
  | levels, .text l, _ => by simp [places, count, Layout.slots]
  | 0, .list _, h | 0, .object _, h => absurd (List.mem_singleton_self _) h
  | levels + 1, .list items, h => length_placesOfItems levels items h
  | levels + 1, .object fields, h => length_placesOfFields levels fields h
  | levels, .null, _ | levels, .bool _, _ | levels, .int _, _ | levels, .float _, _ => rfl

theorem length_placesOfItems : (levels : Nat) → (items : List Draft) →
    .wall ∉ placesOfItems levels items → (placesOfItems levels items).length = countItems items
  | levels, [], _ => rfl
  | levels, item :: rest, h => by
      rw [placesOfItems, List.mem_append, not_or] at h
      rw [placesOfItems, countItems, List.length_append, length_places levels item h.1,
        length_placesOfItems levels rest h.2]

theorem length_placesOfFields : (levels : Nat) → (fields : List (String × Draft)) →
    .wall ∉ placesOfFields levels fields →
    (placesOfFields levels fields).length = countFields fields
  | levels, [], _ => rfl
  | levels, (_, d) :: rest, h => by
      rw [placesOfFields, List.mem_append, not_or] at h
      rw [placesOfFields, countFields, List.length_append, length_places levels d h.1,
        length_placesOfFields levels rest h.2]

end

end Draft

namespace Interpreter

variable (ids : IdSource)

/-- Nothing gets past a wall. -/
theorem wall_notMem_of_inOrder {places : List Place} {values : List Live} {t after : Interpreter}
    (h : inOrder (Place.resolve ids) places t = (.ok values, after)) : .wall ∉ places := by
  intro hwall
  obtain ⟨before, rest, rfl⟩ := List.append_of_mem hwall
  rw [inOrder_append] at h
  split at h
  · cases h
  · rw [inOrder, Place.resolve] at h
    cases h

/-- A value has as many things to be put into it as tokens. -/
theorem length_of_placed {levels : Nat} {d : Draft} {values : List Live} {t after : Interpreter}
    (h : inOrder (Place.resolve ids) (d.places levels) t = (.ok values, after)) :
    values.length = d.count := by
  rw [length_of_inOrder _ h, d.length_places levels (wall_notMem_of_inOrder ids h)]

/-- Two parts of a value are filled with what their own tokens have come to. -/
theorem inOrder_append_map {α β γ : Type} (levels : Nat) (d : Draft) (ys : List Place)
    (g : List Live → α) (g' : List Live → β) (combine : α → β → γ) (t : Interpreter) :
    ((inOrder (Place.resolve ids) (d.places levels ++ ys) t).map fun values =>
        combine (g (values.take d.count)) (g' (values.drop d.count))) =
      match inOrder (Place.resolve ids) (d.places levels) t with
      | (.error e, t) => (.error e, t)
      | (.ok values, t) =>
          (inOrder (Place.resolve ids) ys t).map fun others =>
            combine (g values) (g' others) := by
  rw [inOrder_append]
  rcases hplaces : inOrder (Place.resolve ids) (d.places levels) t with ⟨_ | values, mid⟩
  · rfl
  · dsimp only
    rw [Resolution.map_map, ← length_of_placed ids hplaces]
    simp only [List.take_left, List.drop_left]

/- Interpolating a value, by recursion on its elements and fields. -/
mutual

/-- A value is interpolated in one pass. -/
theorem interpolateWithin_value : (levels : Nat) → (d : Draft) → (t : Interpreter) →
    interpolateWithin ids levels d.value t =
      (inOrder (Place.resolve ids) (d.places levels) t).map d.filledWith
  | levels, .text l, t => by
      rw [Draft.value, interpolateWithin, Draft.places, inOrder_map]
      exact interpolateText_text ids l levels t
  | 0, .list _, _ | 0, .object _, _ => rfl
  | levels + 1, .list items, t => by
      rw [Draft.value, interpolateWithin, itemsWithin_valuesOf levels items t, Draft.places]
      rcases inOrder (Place.resolve ids) (Draft.placesOfItems levels items) t
        with ⟨_ | values, later⟩ <;> rfl
  | levels + 1, .object fields, t => by
      rw [Draft.value, interpolateWithin, fieldsWithin_fieldsOf levels fields t, Draft.places]
      rcases inOrder (Place.resolve ids) (Draft.placesOfFields levels fields) t
        with ⟨_ | values, later⟩ <;> rfl
  | _, .null, _ | _, .bool _, _ | _, .int _, _ | _, .float _, _ => rfl

theorem itemsWithin_valuesOf : (levels : Nat) → (items : List Draft) → (t : Interpreter) →
    itemsWithin ids levels (Draft.valuesOf items) t =
      (inOrder (Place.resolve ids) (Draft.placesOfItems levels items) t).map
        (Draft.itemsWith items)
  | _, [], _ => rfl
  | levels, item :: rest, t => by
      rw [Draft.valuesOf, itemsWithin, interpolateWithin_value levels item t, Draft.placesOfItems]
      refine Eq.trans ?_ (inOrder_append_map ids levels item (Draft.placesOfItems levels rest)
        item.filledWith (Draft.itemsWith rest) List.cons t).symm
      rcases inOrder (Place.resolve ids) (item.places levels) t with ⟨_ | values, mid⟩
      · rfl
      · dsimp only [Resolution.map, Except.map]
        rw [itemsWithin_valuesOf levels rest mid]
        rcases inOrder (Place.resolve ids) (Draft.placesOfItems levels rest) mid
          with ⟨_ | others, later⟩ <;> rfl

theorem fieldsWithin_fieldsOf : (levels : Nat) → (fields : List (String × Draft)) →
    (t : Interpreter) → fieldsWithin ids levels (Draft.fieldsOf fields) t =
      (inOrder (Place.resolve ids) (Draft.placesOfFields levels fields) t).map
        (Draft.fieldsWith fields)
  | _, [], _ => rfl
  | levels, (name, d) :: rest, t => by
      rw [Draft.fieldsOf, fieldsWithin, interpolateWithin_value levels d t, Draft.placesOfFields]
      refine Eq.trans ?_ (inOrder_append_map ids levels d (Draft.placesOfFields levels rest)
        d.filledWith (Draft.fieldsWith rest) (fun v others => (name, v) :: others) t).symm
      rcases inOrder (Place.resolve ids) (d.places levels) t with ⟨_ | values, mid⟩
      · rfl
      · dsimp only [Resolution.map, Except.map]
        rw [fieldsWithin_fieldsOf levels rest mid]
        rcases inOrder (Place.resolve ids) (Draft.placesOfFields levels rest) mid
          with ⟨_ | others, later⟩ <;> rfl

end

/-- Interpolating a value fails as the first of its places does that fails. -/
theorem interpolate_eq_error_iff {d : Draft} {e : Failure} {t after : Interpreter} :
    interpolate ids d.value t = (.error e, after) ↔
      ∃ before p rest values mid, d.places t.stack.search = before ++ p :: rest ∧
        inOrder (Place.resolve ids) before t = (.ok values, mid) ∧
        p.resolve ids mid = (.error e, after) := by
  rw [interpolate, interpolateWithin_value, ← inOrder_eq_error_iff]
  rcases inOrder (Place.resolve ids) (d.places t.stack.search) t with ⟨_ | values, later⟩
  · simp [Resolution.map, Except.map]
  · constructor <;> rintro ⟨⟩

/-- **Interpolating is one literal pass, however far the stack reaches.** A text becomes what its
tokens resolve to, in the order in which they stand and up to the first that fails, put in their
places. A value becomes what the tokens in its strings resolve to, in the order of its elements and
fields, put in their places wherever these are. A wall is among the places of a value exactly if it
is nested more deeply than is searched, and the first place that fails, be it a wall or a token, is
what interpolating fails with. Inside longer text, a value is written down exactly if it shows
something that is not nested too deeply for the place. -/
theorem interpolated_in_one_pass :
    (∀ (l : Layout) (left : Nat) (t : Interpreter),
      t.interpolateText ids left (String.ofList l.text) =
        (inOrder (Slot.resolve ids) (l.slots left) t).map l.filledWith) ∧
    (∀ (d : Draft) (t : Interpreter), interpolate ids d.value t =
      (inOrder (Place.resolve ids) (d.places t.stack.search) t).map d.filledWith) ∧
    (∀ (d : Draft) (levels : Nat), .wall ∈ d.places levels ↔ levels < d.value.levels) ∧
    (∀ (d : Draft) (e : Failure) (t after : Interpreter),
      interpolate ids d.value t = (.error e, after) ↔
        ∃ before p rest values mid, d.places t.stack.search = before ++ p :: rest ∧
          inOrder (Place.resolve ids) before t = (.ok values, mid) ∧
          p.resolve ids mid = (.error e, after)) ∧
    ∀ (t : Interpreter) (left : Nat) (v : Live) (j : Json),
      t.written left v = .ok j ↔ v.now? t.vars = some j ∧ j.levels ≤ t.stack.print left := by
  refine ⟨interpolateText_text ids, fun d t => ?_, fun d levels => d.wall_mem_places levels,
    fun d e t after => interpolate_eq_error_iff ids, fun t left v j => Stack.write_eq_ok_iff⟩
  exact interpolateWithin_value ids t.stack.search d t

end Interpreter

/-! ## Values with braces of their own -/

/-- No text at all. -/
def PlainText.none : PlainText := ⟨[], by decide⟩

/-- Variables of which one looks like a token itself. -/
def bracedVars : Interpreter :=
  ⟨[("x", .plain (.text "\x7b\x7by\x7d\x7d")), ("n", .plain (.list [.int 3, .null]))], [], 0, ⟨0⟩⟩

/-- The name of that variable. -/
def bracedName : Body := ⟨['x'], by decide, by decide, by decide⟩

/-- The name of the other one, with a blank before it. -/
def plainName : Body := ⟨[' ', 'n'], by decide, by decide, by decide⟩

/-- An object with three tokens: two inside longer text, one right after the other and with a stray
brace behind them, and one that is all of a text but for the line feed. -/
def bracedDraft : Draft :=
  .object
    [("notes", .list [.text ⟨⟨"see ".toList, by decide⟩,
      [(bracedName, .none), (plainName, ⟨['\x7d'], by decide⟩)]⟩, .int 1]),
     ("whole", .text ⟨.none, [(plainName, ⟨['\n'], by decide⟩)]⟩)]

theorem bracedDraft_filled :
    Interpreter.interpolate .counting bracedDraft.value bracedVars =
      (.ok (.object
        [("notes", .list [.plain (.text "see \x7b\x7by\x7d\x7d[3, null]\x7d"), .plain (.int 1)]),
         ("whole", .plain (.list [.int 3, .null]))]), bracedVars) := by
  rw [(Interpreter.interpolated_in_one_pass .counting).2.1 bracedDraft bracedVars]
  rfl

/-- A value inside so many arrays. -/
def Draft.nested : Nat → Draft → Draft
  | 0, d => d
  | arrays + 1, d => .list [nested arrays d]

/-- Nothing is searched inside more arrays than are allowed, whatever is in them. -/
theorem Interpreter.interpolateWithin_nested (ids : IdSource) {levels arrays : Nat}
    (h : levels < arrays) (d : Draft) (t : Interpreter) :
    interpolateWithin ids levels (Draft.nested arrays d).value t = (.error .tooDeep, t) := by
  induction arrays generalizing levels with
  | zero => cases h
  | succ arrays ih =>
      cases levels with
      | zero => rfl
      | succ levels =>
          have inner := ih (Nat.lt_of_succ_lt_succ h)
          show interpolateWithin ids (levels + 1) (.list [(Draft.nested arrays d).value]) t = _
          rw [interpolateWithin, itemsWithin, inner]

/-- The token inside more arrays than are searched. -/
def deepDraft : Draft :=
  .nested 510 (.text ⟨.none, [(bracedName, .none)]⟩)

/-- The token resolves, but what it resolves to is not put in its place. -/
theorem deepDraft_refused :
    Slot.resolve .counting ⟨bracedName, true, 0⟩ bracedVars =
      (.ok (.plain (.text "\x7b\x7by\x7d\x7d")), bracedVars) ∧
    Interpreter.interpolate .counting deepDraft.value bracedVars =
      (.error .tooDeep, bracedVars) := by
  constructor
  · rfl
  · exact Interpreter.interpolateWithin_nested .counting (by decide) _ _

end Tenancy.Template
