/-
# Chains of steps that may refuse

Reading and compiling are chains of steps, each of which passes on a value or refuses. A chain
that came to its end went through all of its steps, and the lemmas here take such a chain apart,
one step at a time. A step for every element of a list is a chain as well, and what it leads to is
related to the list element by element.
-/

import Mathlib.Data.List.Forall2

namespace Tenancy

variable {ε α β : Type}

/-- A chain of two steps comes to its end when both steps do. -/
theorem bind_eq_ok {x : Except ε α} {f : α → Except ε β} {b : β} :
    x >>= f = .ok b ↔ ∃ a, x = .ok a ∧ f a = .ok b := by
  cases x with
  | error e => simp [bind, Except.bind]
  | ok a => simp [bind, Except.bind]

/-- A chain of two steps refuses when the first step does, or the second one behind it. -/
theorem bind_eq_error {x : Except ε α} {f : α → Except ε β} {e : ε} :
    x >>= f = .error e ↔ x = .error e ∨ ∃ a, x = .ok a ∧ f a = .error e := by
  cases x with
  | error e' => simp [bind, Except.bind]
  | ok a => simp [bind, Except.bind]

theorem map_eq_ok {x : Except ε α} {f : α → β} {b : β} :
    x.map f = .ok b ↔ ∃ a, x = .ok a ∧ f a = b := by
  cases x with
  | error e => simp [Except.map]
  | ok a => simp [Except.map]

/-- What can be seen of the end of a chain is there to be seen only if the chain came to it. -/
theorem toOption_map_eq_some {x : Except ε α} {f : α → β} {b : β} :
    x.toOption.map f = some b ↔ ∃ a, x = .ok a ∧ f a = b := by
  cases x with
  | error e => simp [Except.toOption]
  | ok a => simp [Except.toOption]

theorem pure_eq_ok {a b : α} : (pure a : Except ε α) = .ok b ↔ a = b := by
  simp [pure, Except.pure]

theorem throw_ne_ok {e : ε} {a : α} : (throw e : Except ε α) ≠ .ok a := by
  simp [throw, throwThe, MonadExceptOf.throw]

/-- A chain may be followed from where the result of its first step is looked at. -/
theorem bind_map_eq {γ : Type} (x : Except ε α) (f : α → β) (g : β → Except ε γ) :
    x.map f >>= g = x >>= fun a => g (f a) := by
  cases x <;> rfl

/-- Where what follows can be looked at differently afterwards, so can the whole chain. -/
theorem bind_eq_map {γ : Type} {x : Except ε α} {f : α → Except ε β} {f' : α → Except ε γ}
    {g : β → γ} (h : ∀ a, x = .ok a → f' a = (f a).map g) : x >>= f' = (x >>= f).map g := by
  cases x with
  | error e => rfl
  | ok a => exact h a rfl

/-- Where what follows is the same after every end of the first step, so is the whole chain. -/
theorem bind_congr_of_ok {x : Except ε α} {f g : α → Except ε β}
    (h : ∀ a, x = .ok a → f a = g a) : x >>= f = x >>= g := by
  cases x with
  | error e => rfl
  | ok a => exact h a rfl

/-- What changes no end of a chain does not change the chain. -/
theorem map_eq_self {x : Except ε α} {g : α → α} (h : ∀ a, x = .ok a → g a = a) : x.map g = x := by
  cases x with
  | error e => rfl
  | ok a => exact congrArg Except.ok (h a rfl)

/-- A step for every element comes to its end when each of them does. -/
theorem mapM_eq_ok {f : α → Except ε β} {xs : List α} {ys : List β} :
    xs.mapM f = .ok ys ↔ List.Forall₂ (fun x y => f x = .ok y) xs ys := by
  induction xs generalizing ys with
  | nil => rw [List.mapM_nil, pure_eq_ok, List.forall₂_nil_left_iff, eq_comm]
  | cons x xs ih =>
      rw [List.mapM_cons, bind_eq_ok]
      constructor
      · rintro ⟨y, hy, h⟩
        obtain ⟨rest, hrest, h⟩ := bind_eq_ok.mp h
        obtain rfl := pure_eq_ok.mp h
        exact .cons hy (ih.mp hrest)
      · rintro ⟨⟩
        rename_i y rest hy hrest
        exact ⟨y, hy, bind_eq_ok.mpr ⟨rest, ih.mpr hrest, rfl⟩⟩

/-- Steps that may lead nowhere lead somewhere for every element when each of them does. -/
theorem mapM_eq_some {f : α → Option β} {xs : List α} {ys : List β} :
    xs.mapM f = some ys ↔ List.Forall₂ (fun x y => f x = some y) xs ys := by
  induction xs generalizing ys with
  | nil => simp [eq_comm]
  | cons x xs ih =>
      rw [List.mapM_cons, Option.bind_eq_bind, Option.bind_eq_some_iff]
      constructor
      · rintro ⟨y, hy, h⟩
        rw [Option.bind_eq_bind, Option.bind_eq_some_iff] at h
        obtain ⟨rest, hrest, h⟩ := h
        obtain rfl := Option.some.inj h
        exact .cons hy (ih.mp hrest)
      · rintro ⟨⟩
        rename_i y rest hy hrest
        exact ⟨y, hy, by rw [ih.mpr hrest]; rfl⟩

theorem exists_mapM_eq_some {f : α → Option β} {xs : List α} :
    (∃ ys, xs.mapM f = some ys) ↔ ∀ x ∈ xs, ∃ y, f x = some y := by
  simp only [mapM_eq_some]
  induction xs with
  | nil => simp
  | cons x xs ih =>
      rw [List.forall_mem_cons, ← ih]
      constructor
      · rintro ⟨_, ⟨⟩⟩
        rename_i y rest hy hrest
        exact ⟨⟨y, hy⟩, rest, hrest⟩
      · rintro ⟨⟨y, hy⟩, rest, hrest⟩
        exact ⟨y :: rest, .cons hy hrest⟩

/-- A step for every element refuses when one of them does, and for the reason of the first. -/
theorem mapM_eq_error {f : α → Except ε β} {xs : List α} {e : ε} :
    xs.mapM f = .error e ↔ ∃ before x after, xs = before ++ x :: after ∧
      (∀ y ∈ before, ∃ b, f y = .ok b) ∧ f x = .error e := by
  induction xs with
  | nil => simp [pure, Except.pure]
  | cons x xs ih =>
      rw [List.mapM_cons, bind_eq_error]
      constructor
      · rintro (hx | ⟨b, hx, h⟩)
        · exact ⟨[], x, xs, rfl, by simp, hx⟩
        · rcases bind_eq_error.mp h with h | ⟨bs, -, h⟩
          · obtain ⟨before, y, after, rfl, hbefore, hy⟩ := ih.mp h
            exact ⟨x :: before, y, after, rfl, List.forall_mem_cons.mpr ⟨⟨b, hx⟩, hbefore⟩, hy⟩
          · cases h
      · rintro ⟨_ | ⟨first, before⟩, y, after, hxs, hbefore, hy⟩
        · cases hxs
          exact .inl hy
        · cases hxs
          obtain ⟨⟨b, hx⟩, hbefore⟩ := List.forall_mem_cons.mp hbefore
          exact .inr ⟨b, hx, bind_eq_error.mpr (.inl (ih.mpr ⟨before, y, after, rfl, hbefore, hy⟩))⟩

/-- Every result of a step for every element comes from one of the elements. -/
theorem exists_of_mem_mapM {f : α → Except ε β} {xs : List α} {ys : List β}
    (h : xs.mapM f = .ok ys) {y : β} (hy : y ∈ ys) : ∃ x ∈ xs, f x = .ok y := by
  rw [mapM_eq_ok] at h
  induction h with
  | nil => simp at hy
  | @cons x y' xs ys hx hxs ih =>
      rcases List.mem_cons.mp hy with rfl | hy
      · exact ⟨x, by simp, hx⟩
      · obtain ⟨found, hfound, h⟩ := ih hy
        exact ⟨found, List.mem_cons_of_mem x hfound, h⟩

/-- Every element has a result of a step for every element. -/
theorem exists_mem_of_mapM {f : α → Except ε β} {xs : List α} {ys : List β}
    (h : xs.mapM f = .ok ys) {x : α} (hx : x ∈ xs) : ∃ y ∈ ys, f x = .ok y := by
  rw [mapM_eq_ok] at h
  induction h with
  | nil => simp at hx
  | @cons x' y xs ys hy hys ih =>
      rcases List.mem_cons.mp hx with rfl | hx
      · exact ⟨y, by simp, hy⟩
      · obtain ⟨found, hfound, h⟩ := ih hx
        exact ⟨found, List.mem_cons_of_mem y hfound, h⟩

/-- A step for every element keeps the number of elements. -/
theorem length_of_mapM {f : α → Except ε β} {xs : List α} {ys : List β}
    (h : xs.mapM f = .ok ys) : xs.length = ys.length :=
  (mapM_eq_ok.mp h).length_eq

/-- A step for every element can be followed on other elements where each of its steps can, up to
what is looked at in the results. -/
theorem exists_mapM_map {γ δ : Type} {f : α → Except ε β} {f' : γ → Except ε β} {g : α → γ}
    {look : β → δ}
    (hstep : ∀ x y, f x = .ok y → ∃ y', f' (g x) = .ok y' ∧ look y' = look y) {xs : List α}
    {ys : List β} (h : xs.mapM f = .ok ys) :
    ∃ ys', (xs.map g).mapM f' = .ok ys' ∧ ys'.map look = ys.map look := by
  rw [mapM_eq_ok] at h
  induction h with
  | nil => exact ⟨[], rfl, rfl⟩
  | cons hx _ ih =>
      obtain ⟨y', hy', hlook⟩ := hstep _ _ hx
      obtain ⟨ys', hys', hlooks⟩ := ih
      refine ⟨y' :: ys', mapM_eq_ok.mpr (.cons hy' (mapM_eq_ok.mp hys')), ?_⟩
      rw [List.map_cons, List.map_cons, hlook, hlooks]

/-- A step for every element has no results only where there are no elements. -/
theorem mapM_ne_nil {f : α → Except ε β} {xs : List α} {ys : List β} (h : xs.mapM f = .ok ys)
    (hne : xs ≠ []) : ys ≠ [] := by
  rintro rfl
  exact hne (List.length_eq_zero_iff.mp (length_of_mapM h))

/-- What is related to a list element by element has a partner for each of its places. -/
theorem exists_getElem?_of_forall₂ {r : α → β → Prop} {xs : List α} {ys : List β}
    (h : List.Forall₂ r xs ys) {i : Nat} {y : β} (hy : ys[i]? = some y) :
    ∃ x, xs[i]? = some x ∧ r x y := by
  obtain ⟨hlength, hget⟩ := List.forall₂_iff_get.mp h
  obtain ⟨hi, rfl⟩ := List.getElem?_eq_some_iff.mp hy
  exact ⟨xs[i], List.getElem?_eq_getElem (hlength ▸ hi), hget i (hlength ▸ hi) hi⟩

end Tenancy
