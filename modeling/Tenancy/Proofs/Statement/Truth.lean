/-
# What conditions say of a row

A database decides by the condition part of a text which rows a statement is about. Here that
part gets its meaning: a conjunct is read off its tokens, a place stands for the parameter of its
number, and a comparison with null is neither true nor false. How two values that are not null
compare is left to the database. The reader looks at tokens only, so the main statement of this
module is a fact about texts: the condition part of a statement means what its conditions mean,
whatever parameters stand before those of the conditions.
-/

import Tenancy.Proofs.Statement.Clauses

namespace Tenancy

/-- The truth values of conditions. -/
inductive Truth where
  | no
  | unknown
  | yes
deriving DecidableEq, Repr

namespace Truth

def ofBool : Bool → Truth
  | true => .yes
  | false => .no

def conj : Truth → Truth → Truth
  | .no, _ | _, .no => .no
  | .yes, .yes => .yes
  | _, _ => .unknown

def disj : Truth → Truth → Truth
  | .yes, _ | _, .yes => .yes
  | .no, .no => .no
  | _, _ => .unknown

/-- A conjunction; an empty one is true. -/
def all (ts : List Truth) : Truth :=
  ts.foldr conj .yes

/-- A disjunction; an empty one is false. -/
def any (ts : List Truth) : Truth :=
  ts.foldr disj .no

@[simp] theorem ofBool_eq_yes {b : Bool} : ofBool b = .yes ↔ b = true := by
  cases b <;> simp [ofBool]

theorem conj_eq_yes {a b : Truth} : conj a b = .yes ↔ a = .yes ∧ b = .yes := by
  cases a <;> cases b <;> simp [conj]

theorem disj_eq_yes {a b : Truth} : disj a b = .yes ↔ a = .yes ∨ b = .yes := by
  cases a <;> cases b <;> simp [disj]

theorem all_eq_yes {ts : List Truth} : all ts = .yes ↔ ∀ a ∈ ts, a = .yes := by
  induction ts with
  | nil => simp [all]
  | cons a ts ih =>
      rw [List.forall_mem_cons, ← ih]
      exact conj_eq_yes

theorem any_eq_yes {ts : List Truth} : any ts = .yes ↔ ∃ a ∈ ts, a = .yes := by
  induction ts with
  | nil => simp [any]
  | cons a ts ih =>
      rw [List.exists_mem_cons_iff, ← ih]
      exact disj_eq_yes

end Truth

def Value.isNull : Value → Bool
  | .json v => v.isNull
  | _ => false

section

/- How two values that are not null compare, and the value that a row has in each column. -/
variable (holds : Comparison → Value → Value → Bool) (row : String → Value)

/-- A comparison of two values, unknown when one of them is null. -/
def compareTruth (op : Comparison) (a b : Value) : Truth :=
  if a.isNull || b.isNull then .unknown else .ofBool (holds op a b)

/-- Two values that are not null and compare as asked. -/
def Compares (op : Comparison) (a b : Value) : Prop :=
  a.isNull = false ∧ b.isNull = false ∧ holds op a b = true

theorem compareTruth_eq_yes {op : Comparison} {a b : Value} :
    compareTruth holds op a b = .yes ↔ Compares holds op a b := by
  unfold compareTruth Compares
  cases a.isNull <;> cases b.isNull <;> simp

/-- What a condition says of a row. -/
def Condition.truth : Condition → Truth
  | .compare column op value => compareTruth holds op (row column.name) value
  | .isIn column first rest =>
      .any ((first :: rest).map fun v => compareTruth holds .eq (row column.name) v)
  | .isNull column => .ofBool (row column.name).isNull
  | .notNull column => .ofBool (!(row column.name).isNull)
  | .never => .no

namespace Sql

/-! ## Reading a conjunct -/

def number? (digits : List Char) : Option Nat :=
  if digits.isEmpty || !digits.all Char.isDigit then none
  else some (Nat.ofDigitChars 10 digits 0)

/-- The number of a place. -/
def placeNumber? (w : String) : Option Nat :=
  match w.toList with
  | '$' :: digits => number? digits
  | _ => none

/-- The parameter a place stands for. Places are numbered from one. -/
def param? (params : List Value) (w : String) : Option Value :=
  (placeNumber? w).bind fun n => if n = 0 then none else params[n - 1]?

def comparison? (w : String) : Option Comparison :=
  match w with
  | "=" => some .eq
  | "!=" => some .ne
  | ">" => some .gt
  | ">=" => some .ge
  | "<" => some .lt
  | "<=" => some .le
  | "LIKE" => some .like
  | "ILIKE" => some .ilike
  | _ => none

/-- The parameters of a list of places that ends with a parenthesis. -/
def placeList? (params : List Value) : List Token → Option (List Value)
  | [.word w, .mark ')'] => (param? params w).map fun v => [v]
  | .word w :: .mark ',' :: rest =>
      (param? params w).bind fun v => (placeList? params rest).map (v :: ·)
  | _ => none

/-- What a conjunct says of a row, if it can be read. -/
def truth? (params : List Value) : List Token → Option Truth
  | [.name column, .word w, .word v] =>
      if w = "IS" then
        if v = "NULL" then some (.ofBool (row column).isNull) else none
      else
        (comparison? w).bind fun op =>
          (param? params v).map fun value => compareTruth holds op (row column) value
  | [.name column, .word w, .word n, .word v] =>
      if w = "IS" ∧ n = "NOT" ∧ v = "NULL" then some (.ofBool (!(row column).isNull)) else none
  | .name column :: .word w :: .mark m :: rest =>
      if w = "IN" ∧ m = '(' then
        (placeList? params rest).map fun values =>
          .any (values.map fun v => compareTruth holds .eq (row column) v)
      else none
  | [.word a, .word w, .word b] =>
      if w = "=" then
        (number? a.toList).bind fun m => (number? b.toList).map fun n => .ofBool (m == n)
      else none
  | _ => none

/-- What the condition part of a text says of a row, if all of it can be read. A text without
conditions is about every row. -/
def whereTruth? (params : List Value) (sql : String) : Option Truth :=
  ((conjuncts sql).mapM (truth? holds row params)).map Truth.all

/-! ## Reading back what was written -/

theorem placeNumber?_placeText (n : Nat) : placeNumber? (placeText n) = some n := by
  have digits : (Nat.toDigits 10 n).all Char.isDigit = true := by
    rw [List.all_eq_true]
    intro c hc
    exact Nat.isDigit_of_mem_toDigits (by decide) (by decide) hc
  have written : (placeText n).toList = '$' :: Nat.toDigits 10 n := by
    rw [placeText, String.toList_append]
    exact congrArg ('$' :: ·) Nat.toList_repr
  have nonempty : Nat.toDigits 10 n ≠ [] := Nat.toDigits_ne_nil
  simp [placeNumber?, written, number?, digits, nonempty]

theorem param?_placeText (before after : List Value) (v : Value) :
    param? (before ++ v :: after) (placeText (before.length + 1)) = some v := by
  simp [param?, placeNumber?_placeText]

theorem placeTokens_cons_cons (next : Nat) (v second : Value) (rest : List Value) :
    placeTokens next (v :: second :: rest) =
      .place next :: .comma :: placeTokens (next + 1) (second :: rest) := rfl

theorem placeList?_placeTokens (before after : List Value) (v : Value) (rest : List Value) :
    placeList? (before ++ (v :: rest ++ after))
      (placeTokens (before.length + 1) (v :: rest) ++ [.mark ')']) = some (v :: rest) := by
  induction rest generalizing before v with
  | nil =>
      have found := param?_placeText before after v
      simpa [placeTokens, Token.place, placeList?] using found
  | cons second rest ih =>
      have found := param?_placeText before (second :: rest ++ after) v
      -- the remaining places are numbered after one more parameter
      have others := ih (before ++ [v]) second
      rw [List.length_append, List.length_singleton, List.append_assoc] at others
      rw [placeTokens_cons_cons]
      simp only [List.cons_append, List.nil_append, Token.place, Token.comma] at found others ⊢
      rw [placeList?, found, Option.bind_some, others, Option.map_some]

/-- A condition reads back as what it says, when its values stand where its number points. -/
theorem truth?_conditionTokens (before after : List Value) (c : Condition) :
    truth? holds row (before ++ (c.values ++ after)) (conditionTokens (before.length + 1) c) =
      some (c.truth holds row) := by
  cases c with
  | compare column op value =>
      have found := param?_placeText before after value
      have read : comparison? op.symbol = some op := by cases op <;> rfl
      have symbol : op.symbol ≠ "IS" := by cases op <;> decide
      simp [conditionTokens, truth?, Token.place, symbol, read, Condition.values, found,
        Condition.truth]
  | isIn column first rest =>
      have found := placeList?_placeTokens before after first rest
      simp only [List.cons_append] at found
      simp [conditionTokens, truth?, Condition.values, found, Condition.truth]
  | isNull column => rfl
  | notNull column => rfl
  | never => rfl

/-! ## Reading the condition part -/

/-- The conjuncts of conditions that are numbered after the given parameters, read off with these
parameters and their own in place. -/
theorem mapM_truth?_conjunctTokens (before : List Value) (conditions : List Condition) :
    (conjunctTokens (before.length + 1) conditions).mapM
        (truth? holds row (before ++ conditions.flatMap Condition.values)) =
      some (conditions.map (Condition.truth holds row)) := by
  induction conditions generalizing before with
  | nil => rfl
  | cons c rest ih =>
      have first := truth?_conditionTokens holds row before (rest.flatMap Condition.values) c
      -- behind the first condition, its values belong to the parameters before
      have others := ih (before ++ c.values)
      rw [List.length_append, List.append_assoc] at others
      have tokens : conjunctTokens (before.length + 1) (c :: rest) =
          conditionTokens (before.length + 1) c ::
            conjunctTokens (before.length + c.values.length + 1) rest := by
        rw [Nat.add_right_comm]
        rfl
      rw [tokens, List.flatMap_cons, List.mapM_cons, first, others]
      rfl

theorem whereTruth?_whereText (before : List Value) (conditions : List Condition) :
    whereTruth? holds row (before ++ conditions.flatMap Condition.values)
        (Statement.whereText (before.length + 1) conditions) =
      some (.all (conditions.map (Condition.truth holds row))) := by
  have read : conjuncts (Statement.whereText (before.length + 1) conditions) =
      conjunctTokens (before.length + 1) conditions := by
    apply conjuncts_of_tokens [] []
    · simpa using (reads_whereText (before.length + 1) conditions).tokens_eq
    · simp
    · simp
    · simp
  rw [whereTruth?, read, mapM_truth?_conjunctTokens, Option.map_some]

end Sql

end

end Tenancy
