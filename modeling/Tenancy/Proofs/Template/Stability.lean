/-
# One table behind all that is generated

An interpreter generates a value when its expression is met for the first time and remembers it.
Seen from the end of its life, it might as well have had one table of values from the start: every
answer it ever gave is what that table and the variables of the moment say. This module makes the
comparison. Answering from a table needs no memory and no clock, so nothing that was resolved
before can make a difference, and the variables have no say in what is generated.

What the memory does is to hand out ids. Every id expression that is met takes exactly one id of
the source, and what is made from different ids is different.

Interpolations that fail are answered by the same table. They keep what they generated before the
failure, and that is accounted for by listing the tokens that are resolved beside every answer.
-/

import Mathlib.Data.Set.Function
import Mathlib.Order.Interval.Set.Basic
import Tenancy.Proofs.Template.Resolution

namespace Tenancy.Template

/-! ## Expressions -/

/-- The expression of a token: its body without the blanks around it. -/
def expressionOf (body : List Char) : String :=
  String.ofList (Text.trim body)

/-- Values are generated for the expression. -/
def IsGenerated (expression : String) : Prop :=
  Family.of expression.toList ≠ .variable

instance (expression : String) : Decidable (IsGenerated expression) :=
  inferInstanceAs (Decidable (Family.of expression.toList ≠ .variable))

theorem not_isGenerated_empty : ¬ IsGenerated "" := by decide

/-- The values that are generated for the expression are ids. -/
def IsId (expression : String) : Prop :=
  ∃ tag, Family.of expression.toList = .id tag

/-- The value made from a tag and the digits of an id. -/
def idText (tag : String) (digits : List Char) : String :=
  tag ++ "_" ++ String.ofList (digits.take idLength)

theorem IsId.isGenerated {expression : String} (h : IsId expression) : IsGenerated expression := by
  obtain ⟨tag, h⟩ := h
  simp [IsGenerated, h]

theorem toList_expressionOf (body : List Char) : (expressionOf body).toList = Text.trim body :=
  String.toList_ofList

/-- Values made from different digits are different, whatever their tags are. -/
theorem take_eq_of_idText_eq {tag tag' : String} {digits digits' : List Char}
    (h : idText tag digits = idText tag' digits') (hlength : idLength ≤ digits.length)
    (hlength' : idLength ≤ digits'.length) : digits.take idLength = digits'.take idLength := by
  have lists := congrArg String.toList h
  simp only [idText, String.toList_append, String.toList_ofList] at lists
  exact (List.append_inj' lists (by simp [hlength, hlength'])).2

/-! ## Answers without memory -/

/-- An answer and the tokens that are resolved for it, by their bodies, in order. -/
structure Account (α : Type) where
  outcome : Except Failure α
  used : List (List Char)

namespace Account

variable {α β : Type}

/-- An answer that needs no token. -/
def done (a : α) : Account α :=
  ⟨.ok a, []⟩

/-- A failure without any token. -/
def fail (e : Failure) : Account α :=
  ⟨.error e, []⟩

/-- What follows an answer; nothing follows a failure. -/
def next (a : Account α) (f : α → Account β) : Account β :=
  match a.outcome with
  | .ok x => ⟨(f x).outcome, a.used ++ (f x).used⟩
  | .error e => ⟨.error e, a.used⟩

end Account

section Table

variable (table : String → String) (stack : Stack) (vars : Bag)

/-- The variable of exactly this name, or else what the path leads to among the variables. -/
def lookUp (expression : String) : Except Failure Live :=
  match vars.get? expression with
  | some v => .ok v
  | none =>
      match Path.segments expression with
      | .error e => .error (.oversizedIndex e)
      | .ok segments =>
          match Live.follow vars segments .bag with
          | some v => .ok v
          | none => .error (.unresolved expression)

/-- What a token means: nothing when it is blank, the value in the table when it is generated, and
otherwise what the variables say. -/
def meaning (body : List Char) : Except Failure Live :=
  if expressionOf body = "" then .ok (.plain (.text ""))
  else if IsGenerated (expressionOf body) then .ok (.plain (.text (table (expressionOf body))))
  else lookUp vars (expressionOf body)

/-- The answer to a token. -/
def tokenAccount (body : List Char) : Account Live :=
  ⟨meaning table vars body, [body]⟩

/-- A value as it is spliced into longer text, unless it cannot be written there. -/
def spliced (left : Nat) (value : Live) : Account (List Char) :=
  match stack.write vars left value with
  | .ok j => .done j.toSplice.toList
  | .error e => .fail e

/-- Pieces of a text with the meanings of the tokens in their places. -/
def spliceAccount (left : Nat) : List Piece → Account (List Char)
  | [] => .done []
  | .char c :: rest => (spliceAccount left rest).next fun cs => .done (c :: cs)
  | .token body :: rest =>
      ((tokenAccount table vars body).next (spliced stack vars left)).next fun front =>
        (spliceAccount left rest).next fun cs => .done (front ++ cs)

/-- A text with the meanings of its tokens. A text that is one token has its meaning. -/
def textAccount (left : Nat) (s : String) : Account Live :=
  match soleToken? s.toList with
  | some body => tokenAccount table vars body
  | none => (spliceAccount table stack vars left (pieces 0 s.toList)).next fun cs =>
      .done (.plain (.text (String.ofList cs)))

/- A value with the meanings of its tokens, by recursion on its elements and fields. -/
mutual

/-- A value with the meanings of the tokens in its strings. -/
def accountWithin (levels : Nat) : Json → Account Live
  | .text s => textAccount table stack vars levels s
  | .list items =>
      match levels with
      | 0 => .fail .tooDeep
      | levels + 1 => (accountItems levels items).next fun js => .done (.list js)
  | .object fields =>
      match levels with
      | 0 => .fail .tooDeep
      | levels + 1 => (accountFields levels fields).next fun fs => .done (.object fs)
  | j => .done (.plain j)

/-- The elements of an array with the meanings of their tokens. -/
def accountItems (levels : Nat) : List Json → Account (List Live)
  | [] => .done []
  | item :: rest => (accountWithin levels item).next fun j =>
      (accountItems levels rest).next fun js => .done (j :: js)

/-- The fields of an object with the meanings of their tokens. -/
def accountFields (levels : Nat) : List (String × Json) → Account (Named Live)
  | [] => .done []
  | (name, value) :: rest => (accountWithin levels value).next fun j =>
      (accountFields levels rest).next fun fs => .done ((name, j) :: fs)

end

end Table

/-! ## Operations -/

/-- What can be done with an interpreter. -/
inductive Operation where
  /-- Resolve an expression. -/
  | resolve (expression : String)
  /-- Interpolate a value. -/
  | interpolate (value : Json)
  /-- Set a variable. -/
  | set (name : String) (value : Live)
  /-- Let time pass. -/
  | tick (milliseconds : Int)

namespace Operation

/-- Carry out an operation. Setting a variable and letting time pass are answered with null. -/
def perform (ids : IdSource) (t : Interpreter) : Operation → Resolution Live
  | .resolve expression => t.resolve ids expression.toList
  | .interpolate value => Interpreter.interpolate ids value t
  | .set name value => (.ok (.plain .null), { t with vars := t.vars.put name value })
  | .tick milliseconds => (.ok (.plain .null), { t with now := t.now.addMilliseconds milliseconds })

/-- The answer to an operation from a table and the variables of the moment. -/
def account (table : String → String) (stack : Stack) (vars : Bag) : Operation → Account Live
  | .resolve expression => tokenAccount table vars expression.toList
  | .interpolate value => accountWithin table stack vars stack.search value
  | .set .. | .tick _ => .done (.plain .null)

/-- The variables after an operation. -/
def varsAfter (vars : Bag) : Operation → Bag
  | .set name value => vars.put name value
  | .resolve _ | .interpolate _ | .tick _ => vars

end Operation

/-- Carry out operations one after the other. -/
def run (ids : IdSource) : Interpreter → List Operation → List (Except Failure Live) × Interpreter
  | t, [] => ([], t)
  | t, op :: rest =>
      let (outcome, mid) := op.perform ids t
      let (outcomes, after) := run ids mid rest
      (outcome :: outcomes, after)

/-- The answers to operations from one table, each with the variables of the moment. -/
def answers (table : String → String) (stack : Stack) :
    Bag → List Operation → List (Except Failure Live)
  | _, [] => []
  | vars, op :: rest =>
      (op.account table stack vars).outcome :: answers table stack (op.varsAfter vars) rest

/-- The tokens that are resolved for operations, in order. -/
def consulted (table : String → String) (stack : Stack) : Bag → List Operation → List (List Char)
  | _, [] => []
  | vars, op :: rest =>
      (op.account table stack vars).used ++ consulted table stack (op.varsAfter vars) rest

/-- The id expressions among tokens. -/
def idsOf (bodies : List (List Char)) : Set String :=
  {e | IsId e ∧ ∃ body ∈ bodies, expressionOf body = e}

theorem idsOf_nil : idsOf [] = ∅ := by
  simp [idsOf]

theorem idsOf_append (first second : List (List Char)) :
    idsOf (first ++ second) = idsOf first ∪ idsOf second := by
  ext e
  simp only [idsOf, List.mem_append, Set.mem_union, Set.mem_ofPred_eq]
  grind

namespace Interpreter

variable {ids : IdSource} {t after : Interpreter} {table : String → String}

/-! ## Steps -/

theorem remembered?_remember {e : String} (h : t.remembered? e = none) (value e' : String) :
    (t.remember e value).remembered? e' = if e = e' then some value else t.remembered? e' := by
  rw [remembered?, remembered?, remember, List.find?_append]
  by_cases he : e = e'
  · subst he
    rw [remembered?, Option.map_eq_none_iff] at h
    simp [h]
  · simp [he]

/-- What has been remembered is found, also when an id has been used for it. -/
theorem remembered?_remember_self {e : String} (h : t.remembered? e = none) (value : String)
    (issued : Nat) : ({ t with issued }.remember e value).remembered? e = some value := by
  rw [remembered?_remember (t := { t with issued }) h, if_pos rfl]

/-- What resolving an expression can come to, and what it does to the interpreter. -/
inductive Step (ids : IdSource) (t : Interpreter) (e : String) :
    Except Failure Live → Interpreter → Prop
  | blank (h : e = "") : Step ids t e (.ok (.plain (.text ""))) t
  | recalled {value : String} (h : t.remembered? e = some value) :
      Step ids t e (.ok (.plain (.text value))) t
  | id {tag : String} (hnew : t.remembered? e = none) (h : Family.of e.toList = .id tag) :
      Step ids t e (.ok (.plain (.text (idText tag (ids (t.issued + 1))))))
        ({ t with issued := t.issued + 1 }.remember e (idText tag (ids (t.issued + 1))))
  | moment (value : String) (hnew : t.remembered? e = none) (h : IsGenerated e) (hid : ¬ IsId e) :
      Step ids t e (.ok (.plain (.text value))) (t.remember e value)
  | lookedUp (hne : e ≠ "") (hnew : t.remembered? e = none) (h : ¬ IsGenerated e) :
      Step ids t e (lookUp t.vars e) t

theorem lookup_eq_lookUp (t : Interpreter) (e : String) : t.lookup e = lookUp t.vars e := by
  unfold lookup lookUp
  cases t.vars.get? e with
  | some v => rfl
  | none =>
      rw [Live.at?]
      cases Path.segments e with
      | error _ => rfl
      | ok segments =>
          simp only [Except.map]
          cases Live.follow t.vars segments .bag with
          | none => rfl
          | some v => rfl

theorem step_resolve (ids : IdSource) (t : Interpreter) (body : List Char) :
    Step ids t (expressionOf body) (t.resolve ids body).1 (t.resolve ids body).2 := by
  have family : Family.of (expressionOf body).toList = Family.of (Text.trim body) := by
    rw [toList_expressionOf]
  unfold resolve
  dsimp only
  split
  · rename_i hblank
    apply Step.blank
    rw [expressionOf, List.isEmpty_iff.mp hblank]
  · rename_i hblank
    split
    · rename_i value hvalue
      exact .recalled hvalue
    · rename_i hnew
      split
      all_goals
        rename_i hfamily
        rw [hfamily] at family
      · exact .id hnew family
      · exact .moment _ hnew (by simp [IsGenerated, family]) (by simp [IsId, family])
      · exact .moment _ hnew (by simp [IsGenerated, family]) (by simp [IsId, family])
      · rw [lookup_eq_lookUp, ← expressionOf]
        exact .lookedUp (by simpa [expressionOf] using hblank) hnew (by simp [IsGenerated, family])

/-- The interpreter after tokens have been resolved in order. -/
def visit (ids : IdSource) (t : Interpreter) (bodies : List (List Char)) : Interpreter :=
  bodies.foldl (fun t body => (t.resolve ids body).2) t

theorem visit_append (ids : IdSource) (t : Interpreter) (first second : List (List Char)) :
    visit ids t (first ++ second) = visit ids (visit ids t first) second :=
  List.foldl_append

/-! ## What is remembered stays -/

/-- One state of an interpreter comes after another, as far as variables and memory go. -/
structure Remembers (t after : Interpreter) : Prop where
  vars : after.vars = t.vars
  stack : after.stack = t.stack
  kept : ∀ e value, t.remembered? e = some value → after.remembered? e = some value
  generated : t.Generated → after.Generated

theorem Remembers.refl (t : Interpreter) : Remembers t t :=
  ⟨rfl, rfl, fun _ _ h => h, fun h => h⟩

theorem Remembers.trans {mid : Interpreter} (h : Remembers t mid) (h' : Remembers mid after) :
    Remembers t after :=
  ⟨h'.vars.trans h.vars, h'.stack.trans h.stack,
    fun e value he => h'.kept e value (h.kept e value he), fun ht => h'.generated (h.generated ht)⟩

theorem remembered?_remember_of_some {e e' value value' : String} (hnew : t.remembered? e = none)
    (h : t.remembered? e' = some value') :
    (t.remember e value).remembered? e' = some value' := by
  rw [remembered?_remember hnew, if_neg, h]
  rintro rfl
  rw [hnew] at h
  cases h

theorem remembers_resolve (ids : IdSource) (t : Interpreter) (body : List Char) :
    Remembers t (t.resolve ids body).2 := by
  have step := step_resolve ids t body
  refine ⟨?_, stack_resolve ids t body, ?_, fun h => (vars_resolve ids h body).2⟩
  · generalize (t.resolve ids body).1 = outcome, (t.resolve ids body).2 = after at step
    cases step <;> rfl
  · generalize (t.resolve ids body).1 = outcome, (t.resolve ids body).2 = after at step
    cases step with
    | blank | recalled | lookedUp => exact fun _ _ h => h
    | id hnew => exact fun _ _ => remembered?_remember_of_some hnew
    | moment _ hnew => exact fun _ _ => remembered?_remember_of_some hnew

/-! ## Answers from the table -/

/-- A table has all that is remembered. -/
def Agrees (table : String → String) (t : Interpreter) : Prop :=
  ∀ e value, t.remembered? e = some value → table e = value

theorem Agrees.of_remembers (h : Agrees table after) (hlater : Remembers t after) :
    Agrees table t :=
  fun e value he => h e value (hlater.kept e value he)

theorem isGenerated_of_remembered? (h : t.Generated) {e value : String}
    (he : t.remembered? e = some value) : IsGenerated e := by
  rw [remembered?, Option.map_eq_some_iff] at he
  obtain ⟨m, hm, -⟩ := he
  have same : m.1 = e := by simpa using List.find?_some hm
  exact same ▸ h m (List.mem_of_find?_eq_some hm)

/-- A token is answered by a table that has what is remembered afterwards. -/
theorem resolve_eq_meaning (hgenerated : t.Generated) {body : List Char}
    (hagrees : Agrees table (t.resolve ids body).2) :
    (t.resolve ids body).1 = meaning table t.vars body := by
  have step := step_resolve ids t body
  have fromTable {value : String} (h : IsGenerated (expressionOf body))
      (hvalue : (t.resolve ids body).2.remembered? (expressionOf body) = some value) :
      meaning table t.vars body = .ok (.plain (.text value)) := by
    have hne : expressionOf body ≠ "" := fun he => not_isGenerated_empty (he ▸ h)
    rw [meaning, if_neg hne, if_pos h, hagrees _ _ hvalue]
  generalize (t.resolve ids body).1 = outcome, (t.resolve ids body).2 = after at step fromTable
  cases step with
  | blank h => rw [meaning, if_pos h]
  | recalled h => exact (fromTable (isGenerated_of_remembered? hgenerated h) h).symm
  | id hnew h =>
      exact (fromTable (by simp [IsGenerated, h]) (remembered?_remember_self hnew _ _)).symm
  | moment value hnew h => exact (fromTable h (remembered?_remember_self hnew _ t.issued)).symm
  | lookedUp hne hnew h => rw [meaning, if_neg hne, if_neg h]

/-- A resolution from one state of an interpreter is what an account says, from a table that has
what is remembered afterwards, and it goes through the tokens that the account lists. -/
structure Accounted (ids : IdSource) (table : String → String) {α : Type} (t : Interpreter)
    (r : Resolution α) (a : Account α) : Prop where
  remembers : Remembers t r.2
  follows : Agrees table r.2 → r = (a.outcome, visit ids t a.used)

/-- What follows a resolution; nothing follows a failure. -/
def follow {α β : Type} (r : Resolution α) (f : α → Interpreter → Resolution β) : Resolution β :=
  match r with
  | (.ok x, t) => f x t
  | (.error e, t) => (.error e, t)

namespace Accounted

variable {α β : Type} {r : Resolution α} {a : Account α}

theorem done (t : Interpreter) (x : α) : Accounted ids table t (.ok x, t) (.done x) :=
  ⟨.refl t, fun _ => rfl⟩

theorem fail (t : Interpreter) (e : Failure) :
    Accounted ids table t ((.error e, t) : Resolution α) (.fail e) :=
  ⟨.refl t, fun _ => rfl⟩

theorem follow {f : α → Interpreter → Resolution β} {g : α → Account β}
    (h : Accounted ids table t r a)
    (hf : ∀ x mid, Remembers t mid → Accounted ids table mid (f x mid) (g x)) :
    Accounted ids table t (Interpreter.follow r f) (a.next g) := by
  obtain ⟨outcome, mid⟩ := r
  cases outcome with
  | error e =>
      refine ⟨h.remembers, fun hagrees => ?_⟩
      obtain ⟨houtcome, hmid⟩ := Prod.mk.inj (h.follows hagrees)
      rw [Account.next, ← houtcome, Interpreter.follow, hmid]
  | ok x =>
      have later := hf x mid h.remembers
      refine ⟨h.remembers.trans later.remembers, fun hagrees => ?_⟩
      obtain ⟨houtcome, hmid⟩ := Prod.mk.inj (h.follows (hagrees.of_remembers later.remembers))
      rw [Account.next, ← houtcome, Interpreter.follow, later.follows hagrees, visit_append, ← hmid]

end Accounted

/-! ## Interpolating, one resolution after the other -/

theorem splice_char (ids : IdSource) (left : Nat) (t : Interpreter) (c : Char)
    (rest : List Piece) :
    t.splice ids left (.char c :: rest) =
      follow (t.splice ids left rest) fun cs mid => (.ok (c :: cs), mid) := by
  rw [splice]
  rcases t.splice ids left rest with ⟨_ | _, _⟩ <;> rfl

theorem splice_token (ids : IdSource) (left : Nat) (t : Interpreter) (body : List Char)
    (rest : List Piece) :
    t.splice ids left (.token body :: rest) =
      follow (follow (t.resolve ids body) fun v mid =>
          ((spliced mid.stack mid.vars left v).outcome, mid))
        fun front mid =>
          follow (mid.splice ids left rest) fun cs last => (.ok (front ++ cs), last) := by
  rw [splice]
  rcases t.resolve ids body with ⟨_ | v, mid⟩
  · rfl
  · dsimp only [follow, spliced, written]
    cases mid.stack.write mid.vars left v with
    | error e => rfl
    | ok j =>
        dsimp only [Account.done]
        rcases mid.splice ids left rest with ⟨_ | _, _⟩ <;> rfl

theorem interpolateText_eq (ids : IdSource) (left : Nat) (t : Interpreter) {s : String}
    (h : soleToken? s.toList = none) :
    t.interpolateText ids left s =
      follow (t.splice ids left (pieces 0 s.toList)) fun cs mid =>
        (.ok (.plain (.text (String.ofList cs))), mid) := by
  rw [interpolateText, h]
  dsimp only
  rcases t.splice ids left (pieces 0 s.toList) with ⟨_ | _, _⟩ <;> rfl

theorem interpolateWithin_list (ids : IdSource) (levels : Nat) (items : List Json)
    (t : Interpreter) :
    interpolateWithin ids (levels + 1) (.list items) t =
      follow (itemsWithin ids levels items t) fun js mid => (.ok (.list js), mid) := by
  rw [interpolateWithin]
  rcases itemsWithin ids levels items t with ⟨_ | _, _⟩ <;> rfl

theorem interpolateWithin_object (ids : IdSource) (levels : Nat) (fields : List (String × Json))
    (t : Interpreter) :
    interpolateWithin ids (levels + 1) (.object fields) t =
      follow (fieldsWithin ids levels fields t) fun fs mid => (.ok (.object fs), mid) := by
  rw [interpolateWithin]
  rcases fieldsWithin ids levels fields t with ⟨_ | _, _⟩ <;> rfl

theorem itemsWithin_cons (ids : IdSource) (levels : Nat) (item : Json) (rest : List Json)
    (t : Interpreter) :
    itemsWithin ids levels (item :: rest) t =
      follow (interpolateWithin ids levels item t) fun j mid =>
        follow (itemsWithin ids levels rest mid) fun js last => (.ok (j :: js), last) := by
  rw [itemsWithin]
  rcases interpolateWithin ids levels item t with ⟨_ | j, mid⟩
  · rfl
  · dsimp only [follow]
    rcases itemsWithin ids levels rest mid with ⟨_ | _, _⟩ <;> rfl

theorem fieldsWithin_cons (ids : IdSource) (levels : Nat) (name : String) (value : Json)
    (rest : List (String × Json)) (t : Interpreter) :
    fieldsWithin ids levels ((name, value) :: rest) t =
      follow (interpolateWithin ids levels value t) fun j mid =>
        follow (fieldsWithin ids levels rest mid) fun fs last => (.ok ((name, j) :: fs), last) := by
  rw [fieldsWithin]
  rcases interpolateWithin ids levels value t with ⟨_ | j, mid⟩
  · rfl
  · dsimp only [follow]
    rcases fieldsWithin ids levels rest mid with ⟨_ | _, _⟩ <;> rfl

/-! ## Interpolating from the table -/

theorem accounted_resolve (ht : t.Generated) (body : List Char) :
    Accounted ids table t (t.resolve ids body) (tokenAccount table t.vars body) :=
  ⟨remembers_resolve ids t body, fun hagrees => Prod.ext (resolve_eq_meaning ht hagrees) rfl⟩

theorem accounted_spliced (stack : Stack) (vars : Bag) (left : Nat) (value : Live) :
    Accounted ids table t ((spliced stack vars left value).outcome, t)
      (spliced stack vars left value) := by
  rw [spliced]
  split
  · exact .done t _
  · exact .fail t _

theorem accounted_splice (ht : t.Generated) (left : Nat) (ps : List Piece) :
    Accounted ids table t (t.splice ids left ps)
      (spliceAccount table t.stack t.vars left ps) := by
  induction ps generalizing t with
  | nil => exact .done t []
  | cons p rest ih =>
      cases p with
      | char c =>
          rw [splice_char, spliceAccount]
          exact (ih ht).follow fun cs mid _ => .done mid (c :: cs)
      | token body =>
          rw [splice_token, spliceAccount]
          apply ((accounted_resolve ht body).follow fun v mid hmid => by
            rw [hmid.stack, hmid.vars]
            exact accounted_spliced t.stack t.vars left v).follow
          intro front mid hmid
          rw [← hmid.stack, ← hmid.vars]
          exact (ih (hmid.generated ht)).follow fun cs last _ => .done last (front ++ cs)

theorem accounted_interpolateText (ht : t.Generated) (left : Nat) (s : String) :
    Accounted ids table t (t.interpolateText ids left s)
      (textAccount table t.stack t.vars left s) := by
  cases hsole : soleToken? s.toList with
  | some body =>
      rw [interpolateText, textAccount, hsole]
      exact accounted_resolve ht body
  | none =>
      rw [interpolateText_eq ids left t hsole, textAccount, hsole]
      exact (accounted_splice ht left _).follow fun cs mid _ => .done mid _

/- Interpolating a value, by recursion on its elements and fields. -/
mutual

theorem accounted_interpolateWithin (levels : Nat) (value : Json) {t : Interpreter}
    (ht : t.Generated) :
    Accounted ids table t (interpolateWithin ids levels value t)
      (accountWithin table t.stack t.vars levels value) := by
  cases value with
  | text s =>
      rw [interpolateWithin, accountWithin]
      exact accounted_interpolateText ht levels s
  | list items =>
      cases levels with
      | zero => exact .fail t .tooDeep
      | succ levels =>
          rw [interpolateWithin_list, accountWithin]
          exact (accounted_itemsWithin levels items ht).follow fun js mid _ => .done mid _
  | object fields =>
      cases levels with
      | zero => exact .fail t .tooDeep
      | succ levels =>
          rw [interpolateWithin_object, accountWithin]
          exact (accounted_fieldsWithin levels fields ht).follow fun fs mid _ => .done mid _
  | _ => exact .done t _

theorem accounted_itemsWithin (levels : Nat) (items : List Json) {t : Interpreter}
    (ht : t.Generated) :
    Accounted ids table t (itemsWithin ids levels items t)
      (accountItems table t.stack t.vars levels items) := by
  cases items with
  | nil => exact .done t []
  | cons item rest =>
      rw [itemsWithin_cons, accountItems]
      apply (accounted_interpolateWithin levels item ht).follow
      intro j mid hmid
      rw [← hmid.stack, ← hmid.vars]
      exact (accounted_itemsWithin levels rest (hmid.generated ht)).follow
        fun js last _ => .done last (j :: js)

theorem accounted_fieldsWithin (levels : Nat) (fields : List (String × Json)) {t : Interpreter}
    (ht : t.Generated) :
    Accounted ids table t (fieldsWithin ids levels fields t)
      (accountFields table t.stack t.vars levels fields) := by
  cases fields with
  | nil => exact .done t []
  | cons field rest =>
      obtain ⟨name, value⟩ := field
      rw [fieldsWithin_cons, accountFields]
      apply (accounted_interpolateWithin levels value ht).follow
      intro j mid hmid
      rw [← hmid.stack, ← hmid.vars]
      exact (accounted_fieldsWithin levels rest (hmid.generated ht)).follow
        fun fs last _ => .done last ((name, j) :: fs)

end

/-! ## Numbers of ids -/

/-- The id expressions met so far have taken the ids of the source since the first, each of them
one, and their values are made from these. -/
structure Numbered (ids : IdSource) (first : Nat) (t : Interpreter) (met : Set String)
    (number : String → Nat) : Prop where
  le : first ≤ t.issued
  known : ∀ e, IsId e → ((t.remembered? e).isSome ↔ e ∈ met)
  bij : Set.BijOn number met (Set.Ioc first t.issued)
  value : ∀ e ∈ met, ∀ tag, Family.of e.toList = .id tag →
    t.remembered? e = some (idText tag (ids (number e)))

variable {first : Nat} {met : Set String} {number : String → Nat}

/-- A new id expression takes the next id. -/
theorem Numbered.grow (h : Numbered ids first t met number) {e tag : String}
    (hnew : t.remembered? e = none) (htag : Family.of e.toList = .id tag) :
    Numbered ids first
      ({ t with issued := t.issued + 1 }.remember e (idText tag (ids (t.issued + 1))))
      (insert e met) (Function.update number e (t.issued + 1)) := by
  have lookups (e' : String) :=
    remembered?_remember (t := { t with issued := t.issued + 1 }) (e := e) hnew
      (idText tag (ids (t.issued + 1))) e'
  have hout : e ∉ met := fun he => by simpa [hnew] using (h.known e ⟨tag, htag⟩).mpr he
  have others {e' : String} (he' : e' ∈ met) : e' ≠ e := fun heq => hout (heq ▸ he')
  refine ⟨Nat.le_succ_of_le h.le, fun e' hid' => ?_, ?_, ?_⟩
  · rw [lookups, Set.mem_insert_iff, ← h.known e' hid']
    by_cases heq : e = e'
    · simp [heq]
    · rw [if_neg heq]
      exact ⟨.inr, fun h => h.resolve_left (Ne.symm heq)⟩
  · have old : Set.BijOn (Function.update number e (t.issued + 1)) met (Set.Ioc first t.issued) :=
      h.bij.congr fun e' he' => (Function.update_of_ne (others he') _ _).symm
    have grown := old.insert (a := e) (by simp)
    have range : insert (t.issued + 1) (Set.Ioc first t.issued) = Set.Ioc first (t.issued + 1) := by
      ext n
      have := h.le
      simp only [Set.mem_insert_iff, Set.mem_Ioc]
      omega
    rwa [Function.update_self, range] at grown
  · rintro e' (rfl | he') tag' htag'
    · obtain rfl : tag = tag' := by simpa using htag.symm.trans htag'
      rw [lookups, if_pos rfl, Function.update_self]
    · rw [lookups, if_neg (others he').symm, Function.update_of_ne (others he')]
      exact h.value e' he' tag' htag'

/-- A step numbers the id expression that it meets, unless it has been met before. -/
theorem Numbered.step (h : Numbered ids first t met number) {e : String}
    {outcome : Except Failure Live} (hstep : Step ids t e outcome after) :
    ∃ number', Numbered ids first after (met ∪ {e' | IsId e' ∧ e = e'}) number' := by
  have same (hid : IsId e → e ∈ met) : met ∪ {e' | IsId e' ∧ e = e'} = met := by
    apply Set.union_eq_left.mpr
    rintro e' ⟨he', rfl⟩
    exact hid he'
  cases hstep with
  | blank he =>
      rw [same fun hid => absurd hid.isGenerated (he ▸ not_isGenerated_empty)]
      exact ⟨number, h⟩
  | recalled hvalue =>
      rw [same fun hid => (h.known e hid).mp (by simp [hvalue])]
      exact ⟨number, h⟩
  | lookedUp _ _ hnot =>
      rw [same fun hid => absurd hid.isGenerated hnot]
      exact ⟨number, h⟩
  | moment value hnew _ hnot =>
      rw [same fun hid => absurd hid hnot]
      have others {e' : String} (hid : IsId e') :
          (t.remember e value).remembered? e' = t.remembered? e' := by
        rw [remembered?_remember hnew, if_neg]
        rintro rfl
        exact hnot hid
      refine ⟨number, h.le, fun e' hid => ?_, h.bij, fun e' he' tag htag => ?_⟩
      · rw [others hid]
        exact h.known e' hid
      · rw [others ⟨tag, htag⟩]
        exact h.value e' he' tag htag
  | id hnew htag =>
      have grown : met ∪ {e' | IsId e' ∧ e = e'} = insert e met := by
        ext e'
        constructor
        · rintro (he' | ⟨-, rfl⟩)
          · exact .inr he'
          · exact .inl rfl
        · rintro (rfl | he')
          · exact .inr ⟨⟨_, htag⟩, rfl⟩
          · exact .inl he'
      rw [grown]
      exact ⟨_, h.grow hnew htag⟩

theorem Numbered.visit (h : Numbered ids first t met number) (bodies : List (List Char)) :
    ∃ number', Numbered ids first (visit ids t bodies) (met ∪ idsOf bodies) number' := by
  induction bodies generalizing t met number with
  | nil => exact ⟨number, by rwa [idsOf_nil, Set.union_empty]⟩
  | cons body rest ih =>
      obtain ⟨mid, hmid⟩ := h.step (step_resolve ids t body)
      obtain ⟨last, hlast⟩ := ih hmid
      refine ⟨last, ?_⟩
      have split : idsOf (body :: rest) = {e | IsId e ∧ expressionOf body = e} ∪ idsOf rest := by
        rw [← List.singleton_append, idsOf_append]
        simp [idsOf]
      rwa [split, ← Set.union_assoc]

/-! ## Whole lives -/

/-- An operation is answered as its account says, and the interpreter goes through the tokens of
the account. Besides, an operation may set a variable or let time pass. -/
theorem perform_accounted (ids : IdSource) (table : String → String) (ht : t.Generated)
    (op : Operation) :
    ∃ mid now, Accounted ids table t ((op.perform ids t).1, mid) (op.account table t.stack t.vars) ∧
      (op.perform ids t).2 = { mid with vars := op.varsAfter t.vars, now } := by
  cases op with
  | resolve expression =>
      have accounted : Accounted ids table t (t.resolve ids expression.toList) _ :=
        accounted_resolve ht expression.toList
      refine ⟨(t.resolve ids expression.toList).2, (t.resolve ids expression.toList).2.now,
        accounted, ?_⟩
      rw [Operation.varsAfter, ← accounted.remembers.vars]
      rfl
  | interpolate value =>
      have accounted : Accounted ids table t (interpolate ids value t) _ :=
        accounted_interpolateWithin t.stack.search value ht
      refine ⟨(interpolate ids value t).2, (interpolate ids value t).2.now, accounted, ?_⟩
      rw [Operation.varsAfter, ← accounted.remembers.vars]
      rfl
  | set name value => exact ⟨t, t.now, .done t _, rfl⟩
  | tick milliseconds => exact ⟨t, _, .done t _, rfl⟩

/-- What a run does with the memory of an interpreter, and how a table that has all of it in the end
answers. -/
structure Lived (ids : IdSource) (table : String → String) (t : Interpreter)
    (ops : List Operation) : Prop where
  kept : ∀ e value, t.remembered? e = some value →
    (run ids t ops).2.remembered? e = some value
  answered : Agrees table (run ids t ops).2 → (run ids t ops).1 = answers table t.stack t.vars ops
  numbered : Agrees table (run ids t ops).2 → ∀ first met number, Numbered ids first t met number →
    ∃ number', Numbered ids first (run ids t ops).2
      (met ∪ idsOf (consulted table t.stack t.vars ops)) number'

theorem lived (ids : IdSource) (table : String → String) (ht : t.Generated) (ops : List Operation) :
    Lived ids table t ops := by
  induction ops generalizing t with
  | nil =>
      refine ⟨fun _ _ h => h, fun _ => rfl, fun _ first met number h => ⟨number, ?_⟩⟩
      rwa [consulted, idsOf_nil, Set.union_empty]
  | cons op rest ih =>
      obtain ⟨mid, now, first, hnext⟩ := perform_accounted ids table ht op
      have later : Lived ids table (op.perform ids t).2 rest := by
        rw [hnext]
        exact ih (first.remembers.generated ht)
      have hvars : (op.perform ids t).2.vars = op.varsAfter t.vars := by rw [hnext]
      have hstack : (op.perform ids t).2.stack = t.stack := by
        rw [hnext]
        exact first.remembers.stack
      have follows (h : Agrees table (run ids t (op :: rest)).2) :
          (op.perform ids t).1 = (op.account table t.stack t.vars).outcome ∧
            mid = visit ids t (op.account table t.stack t.vars).used := by
        have hmid : Agrees table mid := by
          intro e value he
          exact h e value (later.kept e value (by rwa [hnext]))
        exact Prod.mk.inj (first.follows hmid)
      refine ⟨fun e value he => ?_, fun h => ?_, fun h first' met number hnumbered => ?_⟩
      · exact later.kept e value (by rw [hnext]; exact first.remembers.kept e value he)
      · show (op.perform ids t).1 :: (run ids (op.perform ids t).2 rest).1 = _
        rw [answers, (follows h).1, later.answered h, hvars, hstack]
      · obtain ⟨number₁, hnumbered₁⟩ := hnumbered.visit (op.account table t.stack t.vars).used
        rw [← (follows h).2] at hnumbered₁
        have onward : Numbered ids first' (op.perform ids t).2
            (met ∪ idsOf (op.account table t.stack t.vars).used) number₁ := by
          rw [hnext]
          exact ⟨hnumbered₁.le, hnumbered₁.known, hnumbered₁.bij, hnumbered₁.value⟩
        obtain ⟨number₂, hnumbered₂⟩ := later.numbered h _ _ _ onward
        rw [hvars, hstack, Set.union_assoc, ← idsOf_append] at hnumbered₂
        exact ⟨number₂, hnumbered₂⟩

end Interpreter

/-- The ids of a source between two numbers: they have all their digits, and those that are used are
different. -/
structure DistinctIds (ids : IdSource) (first last : Nat) : Prop where
  complete : ∀ n ∈ Set.Ioc first last, (ids n).length = 32
  distinct : Set.InjOn (fun n => (ids n).take idLength) (Set.Ioc first last)

/-- **Generated values are stable, and variables are live.** All that a new interpreter answers in
its life, it answers from one table of generated values and the variables of the moment. The id
expressions that it meets take one id each, and all ids that are taken, and their values are made
from these ids; where the ids are different, so are the values. -/
theorem stable_and_live (ids : IdSource) {t : Interpreter} (hnew : t.memo = [])
    (ops : List Operation) (hids : DistinctIds ids t.issued (run ids t ops).2.issued) :
    ∃ (table : String → String) (number : String → Nat),
      (run ids t ops).1 = answers table t.stack t.vars ops ∧
        Set.BijOn number (idsOf (consulted table t.stack t.vars ops))
          (Set.Ioc t.issued (run ids t ops).2.issued) ∧
        (∀ e ∈ idsOf (consulted table t.stack t.vars ops), ∀ tag, Family.of e.toList = .id tag →
          table e = idText tag (ids (number e))) ∧
        Set.InjOn table (idsOf (consulted table t.stack t.vars ops)) := by
  let table (e : String) : String := ((run ids t ops).2.remembered? e).getD ""
  have agrees : Interpreter.Agrees table (run ids t ops).2 := fun e value he => by
    rw [show table e = ((run ids t ops).2.remembered? e).getD "" from rfl, he, Option.getD_some]
  have nothing (e : String) : t.remembered? e = none := by
    rw [Interpreter.remembered?, hnew]
    rfl
  have generated : t.Generated := fun m hm => by simp [hnew] at hm
  have lived := Interpreter.lived ids table generated ops
  have start : Interpreter.Numbered ids t.issued t ∅ fun _ => 0 := by
    refine ⟨le_rfl, fun e _ => ?_, ?_, fun e he => absurd he (Set.notMem_empty e)⟩
    · simp [nothing]
    · simp
  obtain ⟨number, numbered⟩ := lived.numbered agrees _ _ _ start
  rw [Set.empty_union] at numbered
  have values : ∀ e ∈ idsOf (consulted table t.stack t.vars ops), ∀ tag,
      Family.of e.toList = .id tag → table e = idText tag (ids (number e)) :=
    fun e he tag htag => agrees e _ (numbered.value e he tag htag)
  refine ⟨table, number, lived.answered agrees, numbered.bij, values, ?_⟩
  -- equal values are made from equal digits, these are of one id, and an id is taken once
  intro e he e' he' heq
  obtain ⟨⟨tag, htag⟩, -⟩ := id he
  obtain ⟨⟨tag', htag'⟩, -⟩ := id he'
  have long {n : Nat} (hn : n ∈ Set.Ioc t.issued (run ids t ops).2.issued) :
      idLength ≤ (ids n).length := by
    rw [hids.complete n hn]
    decide
  have hn := numbered.bij.mapsTo he
  have hn' := numbered.bij.mapsTo he'
  rw [values e he tag htag, values e' he' tag' htag'] at heq
  apply numbered.bij.injOn he he'
  exact hids.distinct hn hn' (take_eq_of_idText_eq heq (long hn) (long hn'))

/-! ## A short life -/

/-- Ids and moments resolved alone and inside a value, with variables set in between, one of them
under the very name of an id expression. -/
def demoOperations : List Operation :=
  [.resolve " id:guest ", .set "id:guest" (.plain (.int 5)), .resolve "table",
    .interpolate (.object [
      ("note", .list [.text "\x7b\x7b id:guest \x7d\x7d at \x7b\x7bnowIso\x7d\x7d"]),
      ("room", .text "\x7b\x7bid:room\x7d\x7d")]),
    .tick 60000, .set "table" (.plain (.int 7)), .resolve "table", .resolve "nowIso",
    .resolve "id:guest"]

/-- A new interpreter with one variable. -/
def demoInterpreter : Interpreter :=
  ⟨[("table", .plain (.int 4))], [], 0, ⟨0⟩⟩

theorem issued_demoOperations : (run .counting demoInterpreter demoOperations).2.issued = 2 := by
  decide +kernel

theorem distinctIds_demoOperations : DistinctIds .counting demoInterpreter.issued
    (run .counting demoInterpreter demoOperations).2.issued := by
  rw [issued_demoOperations]
  have numbers {n : Nat} (hn : n ∈ Set.Ioc demoInterpreter.issued 2) : n = 1 ∨ n = 2 := by
    rw [Set.mem_Ioc, show demoInterpreter.issued = 0 from rfl] at hn
    omega
  constructor
  · intro n hn
    rcases numbers hn with rfl | rfl <;> decide +kernel
  · intro m hm n hn heq
    rcases numbers hm with rfl | rfl <;> rcases numbers hn with rfl | rfl
    · rfl
    · exact absurd heq (by decide +kernel)
    · exact absurd heq (by decide +kernel)
    · rfl

/-- All that this life answers comes from one table. -/
theorem stable_and_live_demo : demoInterpreter.memo = [] ∧
    DistinctIds .counting demoInterpreter.issued
      (run .counting demoInterpreter demoOperations).2.issued ∧
    ∃ table : String → String, (run .counting demoInterpreter demoOperations).1 =
      answers table .standard demoInterpreter.vars demoOperations := by
  obtain ⟨table, -, answered, -⟩ :=
    stable_and_live .counting (t := demoInterpreter) rfl demoOperations distinctIds_demoOperations
  exact ⟨rfl, distinctIds_demoOperations, table, answered⟩

end Tenancy.Template
