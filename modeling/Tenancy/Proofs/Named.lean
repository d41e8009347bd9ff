/-
# Things that go by names

Fields, variables and values for columns are all kept in lists that go by names. A name may stand
in such a list more than once and means its first entry then. Setting a name never adds a second
entry for it, and laying one list over another sets the names of the upper one in turn, so the last
entry wins there. The two agree where the names of the upper list are all different.
-/

import Tenancy.Json.Basic

namespace Tenancy.Named

variable {α β : Type}

/-! ## What a name means -/

theorem get?_cons (f : String × α) (rest : Named α) (name : String) :
    get? (f :: rest) name = if f.1 = name then some f.2 else rest.get? name := by
  by_cases h : f.1 = name <;> simp [get?, h]

theorem get?_append (fields more : Named α) (name : String) :
    get? (fields ++ more) name = (fields.get? name).or (more.get? name) := by
  rw [get?, List.find?_append]
  cases h : fields.find? fun f => f.1 == name with
  | none => simp [get?, h]
  | some f => simp [get?, h]

theorem get?_eq_none {fields : Named α} {name : String} (h : name ∉ fields.map Prod.fst) :
    fields.get? name = none := by
  rw [get?, Option.map_eq_none_iff, List.find?_eq_none]
  rintro f hf heq
  exact h (List.mem_map.mpr ⟨f, hf, by simpa using heq⟩)

/-- A name that stands in a list means something. -/
theorem exists_get?_of_mem {fields : Named α} {name : String} (h : name ∈ fields.map Prod.fst) :
    ∃ value, fields.get? name = some value := by
  induction fields with
  | nil => cases h
  | cons f rest ih =>
      rw [get?_cons]
      split
      case isTrue => exact ⟨f.2, rfl⟩
      case isFalse hne => exact ih ((List.mem_cons.mp h).resolve_left fun heq => hne heq.symm)

/-- What a name means stands in the list. -/
theorem mem_of_get? {fields : Named α} {name : String} {value : α}
    (h : fields.get? name = some value) : (name, value) ∈ fields := by
  obtain ⟨f, hf, rfl⟩ := Option.map_eq_some_iff.mp h
  obtain rfl : f.1 = name := by simpa using List.find?_some hf
  exact List.mem_of_find?_eq_some hf

/-- Where no name stands twice, every entry is what its name means. -/
theorem mem_iff_get? {fields : Named α} (h : (fields.map Prod.fst).Nodup) {name : String}
    {value : α} : (name, value) ∈ fields ↔ fields.get? name = some value := by
  refine ⟨fun hmem => ?_, mem_of_get?⟩
  induction fields with
  | nil => cases hmem
  | cons f rest ih =>
      obtain ⟨fresh, hrest⟩ := List.nodup_cons.mp h
      rw [get?_cons]
      rcases List.mem_cons.mp hmem with rfl | later
      · rw [if_pos rfl]
      · rw [if_neg, ih hrest later]
        exact fun heq => fresh (heq ▸ List.mem_map_of_mem later)

/-- What is done to all values is done to the one that is found. -/
theorem get?_map (g : α → β) (fields : Named α) (name : String) :
    get? (fields.map fun f => (f.1, g f.2)) name = (fields.get? name).map g := by
  induction fields with
  | nil => rfl
  | cons f rest ih => rw [List.map_cons, get?_cons, get?_cons, ih, apply_ite (Option.map g)]; rfl

/-! ## Setting a name -/

/-- A new name goes to the end. -/
theorem put_of_not_mem {fields : Named α} {name : String} (h : name ∉ fields.map Prod.fst)
    (value : α) : fields.put name value = fields ++ [(name, value)] := by
  induction fields with
  | nil => rfl
  | cons first rest ih =>
      obtain ⟨n, v⟩ := first
      rw [List.map_cons, List.mem_cons, not_or] at h
      rw [put, if_neg (by simpa using Ne.symm h.1), ih h.2, List.cons_append]

/-- Setting a name that is there leaves the names as they are. -/
theorem map_fst_put_of_mem {fields : Named α} {name : String} (h : name ∈ fields.map Prod.fst)
    (value : α) : (fields.put name value).map Prod.fst = fields.map Prod.fst := by
  induction fields with
  | nil => cases h
  | cons first rest ih =>
      obtain ⟨n, v⟩ := first
      rw [put]
      split
      · rfl
      · rename_i hn
        have later : name ∈ rest.map Prod.fst :=
          (List.mem_cons.mp h).resolve_left fun heq => hn (by simp [heq])
        rw [List.map_cons, List.map_cons, ih later]

/-- Names that are all different stay so. -/
theorem nodup_put {fields : Named α} (h : (fields.map Prod.fst).Nodup) (name : String)
    (value : α) : ((fields.put name value).map Prod.fst).Nodup := by
  by_cases hmem : name ∈ fields.map Prod.fst
  · rwa [map_fst_put_of_mem hmem]
  · rw [put_of_not_mem hmem, List.map_append]
    refine List.nodup_append.mpr ⟨h, List.nodup_cons.mpr ⟨List.not_mem_nil, List.nodup_nil⟩, ?_⟩
    rintro n hn m hm rfl
    obtain rfl : n = name := List.mem_singleton.mp hm
    exact hmem hn

/-- The names after one is set are those there were and that one. -/
theorem mem_map_fst_put {fields : Named α} {name other : String} {value : α} :
    other ∈ (fields.put name value).map Prod.fst ↔ other ∈ fields.map Prod.fst ∨ other = name := by
  by_cases hmem : name ∈ fields.map Prod.fst
  · rw [map_fst_put_of_mem hmem]
    refine ⟨.inl, ?_⟩
    rintro (h | rfl)
    · exact h
    · exact hmem
  · rw [put_of_not_mem hmem, List.map_append, List.mem_append, List.map_singleton,
      List.mem_singleton]

theorem mem_put {fields : Named α} {name : String} {value : α} {f : String × α}
    (h : f ∈ fields.put name value) : f ∈ fields ∨ f = (name, value) := by
  induction fields with
  | nil => exact .inr (List.mem_singleton.mp h)
  | cons first rest ih =>
      obtain ⟨n, v⟩ := first
      rw [put] at h
      split at h
      · rename_i hn
        rw [beq_iff_eq] at hn
        rcases List.mem_cons.mp h with rfl | h
        · exact .inr (hn ▸ rfl)
        · exact .inl (List.mem_cons_of_mem _ h)
      · rcases List.mem_cons.mp h with rfl | h
        · exact .inl List.mem_cons_self
        · exact (ih h).imp_left (List.mem_cons_of_mem _)

/-- A name that is there stays there, whatever is set. -/
theorem exists_mem_put {fields : Named α} {name : String} {value : α}
    (h : (name, value) ∈ fields) (other : String) (w : α) :
    ∃ v, (name, v) ∈ fields.put other w := by
  induction fields with
  | nil => cases h
  | cons first rest ih =>
      obtain ⟨n, u⟩ := first
      rw [put]
      rcases List.mem_cons.mp h with heq | h
      · cases heq
        split <;> exact ⟨_, List.mem_cons_self⟩
      · split
        · exact ⟨value, List.mem_cons_of_mem _ h⟩
        · obtain ⟨v, hv⟩ := ih h
          exact ⟨v, List.mem_cons_of_mem _ hv⟩

/-- What is done to all values may be done before a name is set. -/
theorem map_put (g : α → β) (fields : Named α) (name : String) (value : α) :
    (fields.put name value).map (fun f => (f.1, g f.2)) =
      Named.put (fields.map fun f => (f.1, g f.2)) name (g value) := by
  induction fields with
  | nil => rfl
  | cons first rest ih =>
      obtain ⟨n, v⟩ := first
      rw [put, List.map_cons, put]
      split
      · rfl
      · rw [List.map_cons, ih]

/-! ## Laying one list over another -/

theorem overlay_cons (lower : Named α) (f : String × α) (upper : Named α) :
    lower.overlay (f :: upper) = (lower.put f.1 f.2).overlay upper := rfl

/-- What is set in a list of fields comes from below or from above. -/
theorem mem_overlay {lower upper : Named α} {f : String × α} (h : f ∈ lower.overlay upper) :
    f ∈ lower ∨ f ∈ upper := by
  induction upper generalizing lower with
  | nil => exact .inl h
  | cons first rest ih =>
      rcases ih h with h | h
      · exact (mem_put h).imp_right fun heq => by rw [heq]; exact List.mem_cons_self
      · exact .inr (List.mem_cons_of_mem _ h)

/-- A name that is set in a list of fields is still there, whatever is laid over it. -/
theorem exists_mem_overlay {lower : Named α} {name : String} {value : α}
    (h : (name, value) ∈ lower) (upper : Named α) : ∃ v, (name, v) ∈ lower.overlay upper := by
  induction upper generalizing lower value with
  | nil => exact ⟨value, h⟩
  | cons first rest ih =>
      obtain ⟨v, hv⟩ := exists_mem_put h first.1 first.2
      exact ih hv

/-- The names of two lists laid one over the other are those of both. -/
theorem mem_map_fst_overlay {lower upper : Named α} {name : String} :
    name ∈ (lower.overlay upper).map Prod.fst ↔
      name ∈ lower.map Prod.fst ∨ name ∈ upper.map Prod.fst := by
  induction upper generalizing lower with
  | nil => simp
  | cons first rest ih =>
      rw [overlay_cons, ih, mem_map_fst_put, List.map_cons, List.mem_cons, or_assoc]

/-- Names that are all different stay so, whatever is laid over them. -/
theorem nodup_overlay {lower : Named α} (h : (lower.map Prod.fst).Nodup) (upper : Named α) :
    ((lower.overlay upper).map Prod.fst).Nodup := by
  induction upper generalizing lower with
  | nil => exact h
  | cons first rest ih => exact ih (nodup_put h first.1 first.2)

/-- Fields whose names are all different are laid one behind the other. -/
theorem overlay_of_nodup {lower upper : Named α} (h : ((lower ++ upper).map Prod.fst).Nodup) :
    lower.overlay upper = lower ++ upper := by
  induction upper generalizing lower with
  | nil => rw [overlay_nil, List.append_nil]
  | cons first rest ih =>
      obtain ⟨n, v⟩ := first
      have fresh : n ∉ lower.map Prod.fst := by
        intro hmem
        rw [List.map_append, List.map_cons] at h
        exact (List.nodup_append.mp h).2.2 n hmem n List.mem_cons_self rfl
      have ends : lower ++ (n, v) :: rest = (lower ++ [(n, v)]) ++ rest := by
        rw [List.append_assoc, List.singleton_append]
      rw [ends] at h ⊢
      rw [overlay_cons, put_of_not_mem fresh, ih h]

/-- What is laid over other fields is found before them. -/
theorem get?_overlay {lower upper : Named α} (h : (upper.map Prod.fst).Nodup) (name : String) :
    (lower.overlay upper).get? name = (upper.get? name).or (lower.get? name) := by
  induction upper generalizing lower with
  | nil => rfl
  | cons first rest ih =>
      obtain ⟨hfresh, hrest⟩ := List.nodup_cons.mp h
      rw [overlay_cons, ih hrest, get?_cons]
      split
      · rename_i heq
        rw [get?_eq_none (heq ▸ hfresh), ← heq, get?_put_self]
        rfl
      · rename_i hne
        rw [get?_put_of_ne _ _ hne]

/-- What is done to all values may be done before one list is laid over another. -/
theorem map_overlay (g : α → β) (lower upper : Named α) :
    (lower.overlay upper).map (fun f => (f.1, g f.2)) =
      Named.overlay (lower.map fun f => (f.1, g f.2)) (upper.map fun f => (f.1, g f.2)) := by
  induction upper generalizing lower with
  | nil => rfl
  | cons first rest ih => rw [overlay_cons, ih, map_put, List.map_cons, overlay_cons]

end Tenancy.Named
