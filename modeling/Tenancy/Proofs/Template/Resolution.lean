/-
# Which tokens are resolved, and with what

Interpolating a value resolves its tokens one after the other, from left to right, and stops at the
first that fails. None of this changes the variables. So every token that is not generated is looked
up among the variables there were at the start, whichever tokens come before it: what is generated
is remembered, but never under an expression that names a variable or a path.

Where a value that has been looked up refers to the variables as a whole, it goes on doing so. It
shows what they become; only finding it is settled here.
-/

import Tenancy.Lifecycle.Prepare
import Tenancy.Proofs.Template.Writing

namespace Tenancy.Template

/-! ## Tokens -/

/-- The body of a token. -/
def Piece.body? : Piece → Option (List Char)
  | .char _ => none
  | .token body => some body

/-- The tokens of a text, from left to right, by their bodies. -/
def tokensOfText (s : String) : List (List Char) :=
  (pieces 0 s.toList).filterMap Piece.body?

/- The tokens of a value, by recursion on its elements and fields. -/
mutual

/-- The tokens in the strings inside a value, in order. The names of fields have none. -/
def tokensOf : Json → List (List Char)
  | .text s => tokensOfText s
  | .list items => tokensOfItems items
  | .object fields => tokensOfFields fields
  | _ => []

/-- The tokens of the elements of an array. -/
def tokensOfItems : List Json → List (List Char)
  | [] => []
  | item :: rest => tokensOf item ++ tokensOfItems rest

/-- The tokens of the fields of an object. -/
def tokensOfFields : List (String × Json) → List (List Char)
  | [] => []
  | (_, value) :: rest => tokensOf value ++ tokensOfFields rest

end

/-- A text that is one token has that token and no other. -/
theorem tokensOfText_of_sole {s : String} {body : List Char}
    (h : soleToken? s.toList = some body) : tokensOfText s = [body] := by
  unfold soleToken? at h
  unfold tokensOfText
  split at h
  · rename_i hpieces
    cases h
    rw [hpieces]
    rfl
  · rename_i hpieces
    cases h
    rw [hpieces]
    rfl
  · cases h

/-! ## Resolved tokens -/

/-- A token that has been resolved, by its body, and what came of it. -/
structure Resolved where
  body : List Char
  outcome : Except Failure Live

namespace Resolved

/-- What the token says, without blanks around it. -/
def expression (x : Resolved) : String :=
  String.ofList (Text.trim x.body)

/-- Whether the token names a variable or a path: it is not blank and belongs to none of the
families of what is generated. -/
def Names (x : Resolved) : Prop :=
  Text.trim x.body ≠ [] ∧ Family.of (Text.trim x.body) = .variable

end Resolved

/-- Why a resolution has failed, if it has. -/
def failure? {α : Type} : Except Failure α → Option Failure
  | .ok _ => none
  | .error e => some e

theorem failure?_eq_some {α : Type} {out : Except Failure α} {e : Failure} :
    failure? out = some e ↔ out = .error e := by
  cases out <;> simp [failure?]

namespace Interpreter

variable (ids : IdSource)

/-- From one state of an interpreter to another, these tokens are resolved in order. -/
inductive Resolves : Interpreter → List Resolved → Interpreter → Prop
  | nil (t : Interpreter) : Resolves t [] t
  | cons {t mid after : Interpreter} {x : Resolved} {rest : List Resolved}
      (h : t.resolve ids x.body = (x.outcome, mid)) (hrest : Resolves mid rest after) :
      Resolves t (x :: rest) after

/-- How tokens are resolved, of which the first ones are `done`, from one state of an interpreter to
another: in order, and all of them unless something fails. The failure is that of the last token
that is resolved, unless a value has no written form or is nested too deeply. -/
structure Passes (t : Interpreter) (tokens : List (List Char)) (failure : Option Failure)
    (done : List Resolved) (after : Interpreter) : Prop where
  resolves : Resolves ids t done after
  ordered : done.map Resolved.body <+: tokens
  complete : failure = none → done.map Resolved.body = tokens
  failed : ∀ e, failure = some e → e = .endless ∨ e = .tooDeep ∨
    ∃ x, done.getLast? = some x ∧ x.outcome = .error e

/-- Interpolating these tokens leads from one state of an interpreter to another. -/
def Works (t : Interpreter) (tokens : List (List Char)) (failure : Option Failure)
    (after : Interpreter) : Prop :=
  ∃ done, Passes ids t tokens failure done after

variable {ids}

theorem Resolves.append {t mid after : Interpreter} {done others : List Resolved}
    (h : Resolves ids t done mid) (h' : Resolves ids mid others after) :
    Resolves ids t (done ++ others) after := by
  induction h with
  | nil => exact h'
  | cons h _ ih => exact .cons h (ih h')

namespace Works

variable {t mid after : Interpreter} {tokens others : List (List Char)} {failure : Option Failure}
  {e : Failure}

theorem nil (t : Interpreter) : Works ids t [] none t :=
  ⟨[], .nil t, List.nil_prefix, fun _ => rfl, fun _ h => nomatch h⟩

theorem single {body : List Char} {outcome : Except Failure Live}
    (h : t.resolve ids body = (outcome, after)) : Works ids t [body] (failure? outcome) after := by
  refine ⟨[⟨body, outcome⟩], .cons h (.nil after), List.prefix_rfl, fun _ => rfl, fun e he => ?_⟩
  exact .inr (.inr ⟨_, rfl, failure?_eq_some.mp he⟩)

/-- What comes after a success goes on from there. -/
theorem append (h : Works ids t tokens none mid) (h' : Works ids mid others failure after) :
    Works ids t (tokens ++ others) failure after := by
  obtain ⟨done, hdone⟩ := h
  obtain ⟨later, hlater⟩ := h'
  have all := hdone.complete rfl
  refine ⟨done ++ later, hdone.resolves.append hlater.resolves, ?_, fun hsuccess => ?_,
    fun e he => ?_⟩
  · rw [List.map_append, all]
    exact (List.prefix_append_right_inj _).mpr hlater.ordered
  · rw [List.map_append, all, hlater.complete hsuccess]
  · refine (hlater.failed e he).imp_right (Or.imp_right ?_)
    rintro ⟨x, hx, houtcome⟩
    exact ⟨x, by rw [List.getLast?_append, hx, Option.some_or], houtcome⟩

/-- Nothing comes after a failure. -/
theorem fail (h : Works ids t tokens (some e) after) (others : List (List Char)) :
    Works ids t (tokens ++ others) (some e) after := by
  obtain ⟨done, hdone⟩ := h
  exact ⟨done, hdone.resolves, hdone.ordered.trans (List.prefix_append _ _),
    fun h => (nomatch h), hdone.failed⟩

/-- A value that cannot be written or searched is a failure of its own. -/
theorem stop (h : Works ids t tokens none after) (he : e = .endless ∨ e = .tooDeep)
    (others : List (List Char)) : Works ids t (tokens ++ others) (some e) after := by
  obtain ⟨done, hdone⟩ := h
  refine ⟨done, hdone.resolves, hdone.ordered.trans (List.prefix_append _ _),
    fun h => (nomatch h), fun e' he' => ?_⟩
  obtain rfl := Option.some.inj he'
  exact he.imp_right .inl

end Works

/-! ## Interpolating -/

theorem works_splice (left : Nat) (ps : List Piece) {t after : Interpreter}
    {out : Except Failure (List Char)} (h : t.splice ids left ps = (out, after)) :
    Works ids t (ps.filterMap Piece.body?) (failure? out) after := by
  induction ps generalizing t after out with
  | nil =>
      cases h
      exact .nil _
  | cons p rest ih =>
      cases p with
      | char c =>
          rw [splice] at h
          rcases hrest : t.splice ids left rest with ⟨outcome, later⟩
          have works := ih hrest
          rw [hrest] at h
          cases outcome <;> cases h <;> exact works
      | token body =>
          rw [splice] at h
          rcases hbody : t.resolve ids body with ⟨outcome, mid⟩
          rw [hbody] at h
          show Works ids t ([body] ++ rest.filterMap Piece.body?) (failure? out) after
          cases outcome with
          | error e =>
              cases h
              exact Works.fail (.single hbody) _
          | ok value =>
              dsimp only at h
              split at h
              · rename_i hwritten
                cases h
                exact Works.stop (.single hbody) (Stack.write_eq_error hwritten) _
              · rcases hrest : mid.splice ids left rest with ⟨outcome, later⟩
                have works := ih hrest
                rw [hrest] at h
                cases outcome <;> cases h <;> exact Works.append (.single hbody) works

theorem works_interpolateText {left : Nat} {s : String} {t after : Interpreter}
    {out : Except Failure Live} (h : t.interpolateText ids left s = (out, after)) :
    Works ids t (tokensOfText s) (failure? out) after := by
  unfold interpolateText at h
  split at h
  · rename_i body hsole
    rw [tokensOfText_of_sole hsole]
    exact .single h
  · rcases hsplice : t.splice ids left (pieces 0 s.toList) with ⟨outcome, later⟩
    have works := works_splice left _ hsplice
    rw [hsplice] at h
    cases outcome <;> cases h <;> exact works

/- Interpolating a value, by recursion on its elements and fields. -/
mutual

theorem works_interpolateWithin (levels : Nat) (value : Json) {t after : Interpreter}
    {out : Except Failure Live} (h : interpolateWithin ids levels value t = (out, after)) :
    Works ids t (tokensOf value) (failure? out) after := by
  cases value with
  | text s => exact works_interpolateText (by rwa [interpolateWithin] at h)
  | list items =>
      cases levels with
      | zero =>
          cases h
          exact Works.stop (.nil _) (.inr rfl) _
      | succ levels =>
          rw [interpolateWithin] at h
          rcases hitems : itemsWithin ids levels items t with ⟨outcome, later⟩
          have works := works_itemsWithin levels items hitems
          rw [hitems] at h
          cases outcome <;> cases h <;> exact works
  | object fields =>
      cases levels with
      | zero =>
          cases h
          exact Works.stop (.nil _) (.inr rfl) _
      | succ levels =>
          rw [interpolateWithin] at h
          rcases hfields : fieldsWithin ids levels fields t with ⟨outcome, later⟩
          have works := works_fieldsWithin levels fields hfields
          rw [hfields] at h
          cases outcome <;> cases h <;> exact works
  | _ =>
      cases h
      exact .nil _

theorem works_itemsWithin (levels : Nat) (items : List Json) {t after : Interpreter}
    {out : Except Failure (List Live)} (h : itemsWithin ids levels items t = (out, after)) :
    Works ids t (tokensOfItems items) (failure? out) after := by
  cases items with
  | nil =>
      cases h
      exact .nil _
  | cons item rest =>
      rw [itemsWithin] at h
      rcases hitem : interpolateWithin ids levels item t with ⟨outcome, mid⟩
      have first := works_interpolateWithin levels item hitem
      rw [hitem] at h
      cases outcome with
      | error e =>
          cases h
          exact first.fail _
      | ok j =>
          rcases hrest : itemsWithin ids levels rest mid with ⟨outcome, later⟩
          have works := works_itemsWithin levels rest hrest
          dsimp only at h
          rw [hrest] at h
          cases outcome <;> cases h <;> exact first.append works

theorem works_fieldsWithin (levels : Nat) (fields : List (String × Json)) {t after : Interpreter}
    {out : Except Failure (Named Live)} (h : fieldsWithin ids levels fields t = (out, after)) :
    Works ids t (tokensOfFields fields) (failure? out) after := by
  cases fields with
  | nil =>
      cases h
      exact .nil _
  | cons field rest =>
      obtain ⟨name, value⟩ := field
      rw [fieldsWithin] at h
      rcases hvalue : interpolateWithin ids levels value t with ⟨outcome, mid⟩
      have first := works_interpolateWithin levels value hvalue
      rw [hvalue] at h
      cases outcome with
      | error e =>
          cases h
          exact first.fail _
      | ok j =>
          rcases hrest : fieldsWithin ids levels rest mid with ⟨outcome, later⟩
          have works := works_fieldsWithin levels rest hrest
          dsimp only at h
          rw [hrest] at h
          cases outcome <;> cases h <;> exact first.append works

end

theorem works_interpolateFields {fields : Fields} {t after : Interpreter}
    {out : Except Failure (Named Live)} (h : interpolateFields ids fields t = (out, after)) :
    Works ids t (tokensOfFields fields) (failure? out) after := by
  unfold interpolateFields at h
  split at h
  · cases h
    exact Works.stop (.nil _) (.inr rfl) _
  · exact works_fieldsWithin _ fields h

/-! ## What is remembered -/

/-- What is remembered was generated: no variable and no path is among the expressions. -/
def Generated (t : Interpreter) : Prop :=
  ∀ m ∈ t.memo, Family.of m.1.toList ≠ .variable

theorem Generated.remember {t : Interpreter} (h : t.Generated) {cs : List Char}
    (hfamily : Family.of cs ≠ .variable) (value : String) (issued : Nat) :
    ({ t with issued }.remember (String.ofList cs) value).Generated := by
  intro m hm
  rcases List.mem_append.mp hm with hm | hm
  · exact h m hm
  · obtain rfl := List.mem_singleton.mp hm
    simpa using hfamily

/-- Resolving a token leaves the variables as they are, and remembers only what it generates. -/
theorem vars_resolve (ids : IdSource) {t : Interpreter} (h : t.Generated) (body : List Char) :
    (t.resolve ids body).2.vars = t.vars ∧ (t.resolve ids body).2.Generated := by
  unfold resolve
  dsimp only
  split
  · exact ⟨rfl, h⟩
  · split
    · exact ⟨rfl, h⟩
    · split
      · rename_i hfamily
        exact ⟨rfl, h.remember (by rw [hfamily]; exact fun h => nomatch h) _ _⟩
      · rename_i hfamily
        exact ⟨rfl, h.remember (by rw [hfamily]; exact fun h => nomatch h) _ t.issued⟩
      · rename_i hfamily
        exact ⟨rfl, h.remember (by rw [hfamily]; exact fun h => nomatch h) _ t.issued⟩
      · exact ⟨rfl, h⟩

/-- Resolving a token does not reach for the stack. -/
theorem stack_resolve (ids : IdSource) (t : Interpreter) (body : List Char) :
    (t.resolve ids body).2.stack = t.stack := by
  unfold resolve
  dsimp only
  split
  · rfl
  · split
    · rfl
    · split <;> rfl

theorem Resolves.stack {t after : Interpreter} {done : List Resolved}
    (h : Resolves ids t done after) : after.stack = t.stack := by
  induction h with
  | nil => rfl
  | @cons t mid after x rest hx _ ih =>
      have first := stack_resolve ids t x.body
      rw [hx] at first
      exact ih.trans first

/-- Interpolating the fields of an object leaves the stack as it is. -/
theorem stack_interpolateFields {fields : Fields} {t after : Interpreter}
    {out : Except Failure (Named Live)} (h : interpolateFields ids fields t = (out, after)) :
    after.stack = t.stack := by
  obtain ⟨_, passes⟩ := works_interpolateFields h
  exact passes.resolves.stack

/-- A token that names a variable or a path is looked up, whatever is remembered. -/
theorem resolve_of_names (ids : IdSource) {t : Interpreter} (h : t.Generated) {x : Resolved}
    (hx : x.Names) : (t.resolve ids x.body).1 = t.lookup x.expression := by
  obtain ⟨hne, hfamily⟩ := hx
  have forgotten : t.remembered? x.expression = none := by
    rw [remembered?, Option.map_eq_none_iff, List.find?_eq_none]
    intro m hm heq
    have same : m.1 = x.expression := by simpa using heq
    have generated := h m hm
    rw [same, Resolved.expression, String.toList_ofList] at generated
    exact generated hfamily
  unfold resolve
  dsimp only
  rw [if_neg (by simpa using hne)]
  rw [Resolved.expression] at forgotten
  rw [forgotten, hfamily, Resolved.expression]

/-- The tokens that name variables and paths are looked up among the variables there were before
the first token. -/
theorem Resolves.looked_up {t after : Interpreter} {done : List Resolved}
    (h : Resolves ids t done after) (hgenerated : t.Generated) :
    after.vars = t.vars ∧ after.Generated ∧
      ∀ x ∈ done, x.Names → x.outcome = t.lookup x.expression := by
  induction h with
  | nil => exact ⟨rfl, hgenerated, fun x hx => nomatch hx⟩
  | @cons t mid after x rest hx _ ih =>
      obtain ⟨hvars, hmid⟩ := vars_resolve ids hgenerated x.body
      have first := resolve_of_names ids hgenerated (x := x)
      rw [hx] at hvars hmid first
      obtain ⟨hafter, hlater, hrest⟩ := ih hmid
      have same (expression : String) : mid.lookup expression = t.lookup expression := by
        rw [lookup, hvars, lookup]
      refine ⟨hafter.trans hvars, hlater, List.forall_mem_cons.mpr ⟨first, fun y hy hnames => ?_⟩⟩
      rw [hrest y hy hnames, same]

end Interpreter

end Tenancy.Template
