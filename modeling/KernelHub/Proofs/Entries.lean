import KernelHub.Entries

/-
Keyed lists as finite maps: they stay in the order of their keys, and of several entries that
were set under one key the last is found.
-/

namespace KernelHub.Entries

variable {α : Type} {es fs : Entries α} {k j : String} {v : α}

theorem find?_insert (k j : String) (v : α) (es : Entries α) :
    find? j (insert k v es) = if j = k then some v else find? j es := by
  by_cases h : j = k
  · subst h
    simp [find?_insert_self]
  · simp [find?_insert_of_ne h, h]

theorem keys_cons (e : String × α) (es : Entries α) : keys (e :: es) = e.1 :: keys es := rfl

theorem mem_keys : k ∈ keys es ↔ ∃ v, find? k es = some v := by
  induction es with
  | nil => simp [keys, find?]
  | cons e es ih =>
    obtain ⟨k', v'⟩ := e
    by_cases h : k = k' <;> simp [keys_cons, find?, h, ih]

theorem not_mem_keys : k ∉ keys es ↔ find? k es = none := by
  rw [mem_keys]
  cases find? k es <;> simp

/-! ## Order -/

theorem ordered_iff : Ordered es ↔ (keys es).Pairwise (· < ·) := by
  simp [Ordered, keys, List.pairwise_map]

theorem mem_keys_insert : j ∈ keys (insert k v es) ↔ j = k ∨ j ∈ keys es := by
  simp only [mem_keys, find?_insert]
  by_cases h : j = k <;> simp [h]

theorem ordered_insert (h : Ordered es) (k : String) (v : α) : Ordered (insert k v es) := by
  rw [ordered_iff] at h ⊢
  induction es with
  | nil => simp [insert, keys]
  | cons e es ih =>
    obtain ⟨k', v'⟩ := e
    rw [keys_cons, List.pairwise_cons] at h
    obtain ⟨hk, h⟩ := h
    simp only [insert]
    split
    · next hlt =>
      rw [keys_cons, List.pairwise_cons, keys_cons, List.pairwise_cons]
      refine ⟨fun j hj => ?_, hk, h⟩
      rcases List.mem_cons.1 hj with rfl | hj
      · exact hlt
      · exact String.lt_trans hlt (hk j hj)
    · next hlt =>
      split
      · next he =>
        subst he
        rw [keys_cons, List.pairwise_cons]
        exact ⟨hk, h⟩
      · next he =>
        rw [keys_cons, List.pairwise_cons]
        refine ⟨fun j hj => ?_, ih h⟩
        rcases mem_keys_insert.1 hj with rfl | hj
        · exact ((Std.lt_trichotomy j k').resolve_left hlt).resolve_left he
        · exact hk j hj

/-- What is set into an ordered list, entry by entry, leaves it ordered. -/
theorem ordered_foldl (h : Ordered es) (l : List (String × α)) :
    Ordered (l.foldl (fun es e => insert e.1 e.2 es) es) := by
  induction l generalizing es with
  | nil => exact h
  | cons e l ih => exact ih (ordered_insert h e.1 e.2)

theorem ordered_ofList (l : List (String × α)) : Ordered (ofList l) :=
  ordered_foldl List.Pairwise.nil l

theorem mem_of_mem_insert {e : String × α} (h : e ∈ insert k v es) : e = (k, v) ∨ e ∈ es := by
  induction es with
  | nil => exact .inl (List.mem_singleton.1 h)
  | cons d es ih =>
    rw [insert] at h
    split at h
    · exact List.mem_cons.1 h
    · split at h
      · exact (List.mem_cons.1 h).imp_right (List.mem_cons_of_mem d)
      · rcases List.mem_cons.1 h with rfl | h
        · exact .inr List.mem_cons_self
        · exact (ih h).imp_right (List.mem_cons_of_mem d)

theorem mem_of_mem_foldl {l : List (String × α)} {e : String × α}
    (h : e ∈ l.foldl (fun es e => insert e.1 e.2 es) es) : e ∈ es ∨ e ∈ l := by
  induction l generalizing es with
  | nil => exact .inl h
  | cons d l ih =>
    rcases ih h with h | h
    · rcases mem_of_mem_insert h with rfl | h
      · exact .inr List.mem_cons_self
      · exact .inl h
    · exact .inr (List.mem_cons_of_mem d h)

theorem mem_of_mem_ofList {l : List (String × α)} {e : String × α} (h : e ∈ ofList l) : e ∈ l :=
  (mem_of_mem_foldl h).resolve_left List.not_mem_nil

theorem insert_of_lt (h : ∀ e ∈ es, e.1 < k) (v : α) : insert k v es = es ++ [(k, v)] := by
  induction es with
  | nil => rfl
  | cons e es ih =>
    rw [List.forall_mem_cons] at h
    have hlt : ¬ k < e.1 := fun hk => String.lt_irrefl k (String.lt_trans hk h.1)
    have hne : k ≠ e.1 := fun he => String.lt_irrefl k (he ▸ h.1)
    rw [insert, if_neg hlt, if_neg hne, ih h.2]
    rfl

/-- The entries of an ordered list, set one after the other, make that list. -/
theorem foldl_of_ordered {l : List (String × α)} (h : Ordered (es ++ l)) :
    l.foldl (fun es e => insert e.1 e.2 es) es = es ++ l := by
  induction l generalizing es with
  | nil => simp
  | cons e l ih =>
    have hlt : ∀ d ∈ es, d.1 < e.1 := fun d hd =>
      (List.pairwise_append.1 h).2.2 d hd e List.mem_cons_self
    rw [List.foldl_cons, insert_of_lt hlt, ih, List.append_assoc]
    · rfl
    · rw [List.append_assoc]
      exact h

theorem ofList_of_ordered (h : Ordered es) : ofList es = es :=
  foldl_of_ordered (List.nil_append es ▸ h)

/-! ## What is found -/

/-- Of several entries with one key the last is found. -/
theorem find?_foldl (k : String) (l : List (String × α)) (es : Entries α) :
    find? k (l.foldl (fun es e => insert e.1 e.2 es) es) =
      ((l.reverse.find? fun e => e.1 = k).map (·.2)).or (find? k es) := by
  induction l generalizing es with
  | nil => rfl
  | cons e l ih =>
    rw [List.foldl_cons, ih, find?_insert, List.reverse_cons, List.find?_append]
    cases l.reverse.find? fun e => decide (e.1 = k) with
    | some f => rfl
    | none =>
      by_cases h : k = e.1
      · simp [h]
      · simp [h, Ne.symm h]

theorem find?_ofList (k : String) (l : List (String × α)) :
    find? k (ofList l) = (l.reverse.find? fun e => e.1 = k).map (·.2) := by
  rw [ofList, find?_foldl]
  simp [find?]

theorem Ordered.nodup (h : Ordered es) : (keys es).Nodup := by
  refine List.Pairwise.imp ?_ (ordered_iff.1 h)
  rintro a _ hlt rfl
  exact String.lt_irrefl a hlt

/-- Where there is one entry under a key, it is the last one too. -/
theorem find?_last (h : (keys es).Nodup) (k : String) :
    (es.reverse.find? fun e => e.1 = k).map (·.2) = find? k es := by
  induction es with
  | nil => rfl
  | cons e es ih =>
    obtain ⟨k', v⟩ := e
    rw [keys_cons, List.nodup_cons] at h
    rw [List.reverse_cons, List.find?_append, Option.map_or, ih h.2, find?]
    by_cases hk : k = k'
    · subst hk
      simp [not_mem_keys.1 h.1]
    · simp [hk, Ne.symm hk]

/-- A list with one entry under each key says the same when it is put in order. -/
theorem find?_ofList_of_nodup (h : (keys es).Nodup) (k : String) :
    find? k (ofList es) = find? k es := by
  rw [find?_ofList, find?_last h]

theorem mem_keys_ofList {l : List (String × α)} : k ∈ keys (ofList l) ↔ k ∈ l.map (·.1) := by
  rw [mem_keys, find?_ofList]
  simp only [Option.map_eq_some_iff, List.mem_map]
  constructor
  · rintro ⟨v, e, he, -⟩
    exact ⟨e, List.mem_reverse.1 (List.mem_of_find?_eq_some he),
      by simpa using List.find?_some he⟩
  · rintro ⟨e, he, rfl⟩
    obtain ⟨f, hf⟩ : ∃ f, l.reverse.find? (fun x => x.1 = e.1) = some f := by
      rw [← Option.isSome_iff_exists, List.find?_isSome]
      exact ⟨e, List.mem_reverse.2 he, by simp⟩
    exact ⟨f.2, f, hf, rfl⟩

end KernelHub.Entries
