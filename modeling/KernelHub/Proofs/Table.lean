import KernelHub.Table

/-
Tables as finite maps: what is found under a key after each change, which keys there
are, and that a table whose keys are distinct keeps them so.
-/

namespace KernelHub.Table

variable {κ α : Type} [DecidableEq κ]

theorem find?_erase (k j : κ) (t : Table κ α) :
    find? j (erase k t) = if j = k then none else find? j t := by
  by_cases h : j = k
  · subst h
    simp [find?_erase_self]
  · simp [find?_erase_of_ne h, h]

theorem find?_of_erase {k j : κ} {a : α} {t : Table κ α} (h : find? j (erase k t) = some a) :
    find? j t = some a := by
  rw [find?_erase] at h
  split at h
  · cases h
  · exact h

theorem find?_set (k j : κ) (a : α) (t : Table κ α) :
    find? j (set k a t) = if j = k then some a else find? j t := by
  by_cases h : j = k
  · subst h
    simp [find?_set_self]
  · simp [find?_set_of_ne h, h]

theorem contains_iff {k : κ} {t : Table κ α} : contains k t = true ↔ ∃ a, find? k t = some a := by
  simp [contains, Option.isSome_iff_exists]

theorem contains_eq_false {k : κ} {t : Table κ α} : contains k t = false ↔ find? k t = none := by
  simp [contains]

theorem contains_of_find? {k : κ} {a : α} {t : Table κ α} (h : find? k t = some a) :
    contains k t = true := contains_iff.2 ⟨a, h⟩

theorem contains_erase (k j : κ) (t : Table κ α) :
    contains j (erase k t) = (decide (j ≠ k) && contains j t) := by
  by_cases h : j = k <;> simp [contains, find?_erase, h]

theorem contains_set (k j : κ) (a : α) (t : Table κ α) :
    contains j (set k a t) = (decide (j = k) || contains j t) := by
  by_cases h : j = k <;> simp [contains, find?_set, h]

theorem find?_filter (ks : List κ) (k : κ) (t : Table κ α) :
    find? k (t.filter fun e => e.1 ∉ ks) = if k ∈ ks then none else find? k t := by
  induction t with
  | nil => simp [find?_nil]
  | cons e t ih =>
    obtain ⟨j, a⟩ := e
    by_cases hq : j ∈ ks <;> by_cases hj : j = k <;> simp_all [find?_cons]

theorem erase_eq_filter (k : κ) (t : Table κ α) : erase k t = t.filter fun e => e.1 ∉ [k] := by
  induction t with
  | nil => rfl
  | cons e t ih =>
    obtain ⟨j, a⟩ := e
    by_cases hj : j = k <;> simp_all [erase]

/-! ## Keys -/

omit [DecidableEq κ] in
theorem keys_cons (e : κ × α) (t : Table κ α) : keys (e :: t) = e.1 :: keys t := rfl

theorem mem_keys {k : κ} {t : Table κ α} : k ∈ keys t ↔ contains k t = true := by
  induction t with
  | nil => simp [keys, contains, find?_nil]
  | cons e t ih =>
    obtain ⟨k', a⟩ := e
    by_cases h : k' = k
    · simp [keys_cons, contains, find?_cons, h]
    · rw [keys_cons, List.mem_cons, ih]
      simp [contains, find?_cons, h, Ne.symm h]

theorem keys_erase (k : κ) (t : Table κ α) : keys (erase k t) = (keys t).filter (· ≠ k) := by
  induction t with
  | nil => rfl
  | cons e t ih =>
    obtain ⟨k', a⟩ := e
    by_cases h : k' = k <;> simp [erase, keys_cons, h, ih]

theorem keys_set (k : κ) (a : α) (t : Table κ α) :
    keys (set k a t) = (keys t).filter (· ≠ k) ++ [k] := by
  have h : keys (set k a t) = keys (erase k t) ++ [k] := by simp [set, keys]
  rw [h, keys_erase]

theorem nodup_erase {t : Table κ α} (h : (keys t).Nodup) (k : κ) : (keys (erase k t)).Nodup := by
  rw [keys_erase]
  exact h.filter _

theorem nodup_set {t : Table κ α} (h : (keys t).Nodup) (k : κ) (a : α) :
    (keys (set k a t)).Nodup := by
  rw [keys_set, List.nodup_append]
  refine ⟨h.filter _, by simp, ?_⟩
  intro x hx y hy
  simp only [List.mem_filter, decide_eq_true_eq] at hx
  simp only [List.mem_singleton] at hy
  exact hy ▸ hx.2

/-! ## Entries -/

/-- A key can be erased before or after the entries are changed. -/
theorem erase_map {β : Type} (f : α → β) (k : κ) (t : Table κ α) :
    erase k (t.map fun e => (e.1, f e.2)) = (erase k t).map fun e => (e.1, f e.2) := by
  induction t with
  | nil => rfl
  | cons e t ih =>
    obtain ⟨k', a⟩ := e
    by_cases hk : k' = k <;> simp [erase, hk, ih]

theorem mem_of_find? {k : κ} {a : α} {t : Table κ α} (h : find? k t = some a) : (k, a) ∈ t := by
  induction t with
  | nil => simp [find?_nil] at h
  | cons e t ih =>
    obtain ⟨k', b⟩ := e
    by_cases hk : k' = k
    · simp only [find?_cons, hk, if_true, Option.some.injEq] at h
      simp [hk, h]
    · simp only [find?_cons, hk, if_false] at h
      exact List.mem_cons_of_mem _ (ih h)

/-- With distinct keys, the entries are what is found. -/
theorem mem_iff_find? {t : Table κ α} (h : (keys t).Nodup) {k : κ} {a : α} :
    (k, a) ∈ t ↔ find? k t = some a := by
  refine ⟨fun hm => ?_, mem_of_find?⟩
  induction t with
  | nil => simp at hm
  | cons e t ih =>
    obtain ⟨k', b⟩ := e
    rw [keys_cons, List.nodup_cons] at h
    simp only [List.mem_cons, Prod.mk.injEq] at hm
    rcases hm with ⟨rfl, rfl⟩ | hm
    · simp [find?_cons]
    · have hne : k' ≠ k := by
        rintro rfl
        exact h.1 (List.mem_map.2 ⟨_, hm, rfl⟩)
      simp [find?_cons, hne, ih h.2 hm]

omit [DecidableEq κ] in
theorem length_keys (t : Table κ α) : (keys t).length = t.length := by simp [keys]

/-- Tables with the same distinct keys are equally long. -/
theorem length_eq_of_keys {β : Type} {t : Table κ α} {u : Table κ β} (ht : (keys t).Nodup)
    (hu : (keys u).Nodup) (h : ∀ k, contains k t = contains k u) : t.length = u.length := by
  have hsub {γ δ : Type} {a : Table κ γ} {b : Table κ δ} (ha : (keys a).Nodup)
      (hab : ∀ k, contains k a = contains k b) : a.length ≤ b.length := by
    rw [← length_keys a, ← length_keys b]
    refine ha.length_le_of_subset ?_
    intro k hk
    exact mem_keys.2 (hab k ▸ mem_keys.1 hk)
  exact Nat.le_antisymm (hsub ht h) (hsub hu fun k => (h k).symm)

end KernelHub.Table
