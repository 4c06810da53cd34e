/-
Tables: entries under keys of any kind, one entry per key, in the order they were
last set.
-/

namespace KernelHub

/-- Entries under keys. -/
abbrev Table (κ α : Type) := List (κ × α)

namespace Table

variable {κ α : Type} [DecidableEq κ]

def find? (k : κ) : Table κ α → Option α
  | [] => none
  | (k', a) :: t => if k' = k then some a else find? k t

def contains (k : κ) (t : Table κ α) : Bool := (find? k t).isSome

def erase (k : κ) : Table κ α → Table κ α
  | [] => []
  | (k', a) :: t => if k' = k then erase k t else (k', a) :: erase k t

/-- Sets the entry of a key, replacing an earlier one. -/
def set (k : κ) (a : α) (t : Table κ α) : Table κ α := erase k t ++ [(k, a)]

def keys (t : Table κ α) : List κ := t.map (·.1)

theorem find?_nil (k : κ) : find? k ([] : Table κ α) = none := rfl

theorem find?_cons (k k' : κ) (a : α) (t : Table κ α) :
    find? k ((k', a) :: t) = if k' = k then some a else find? k t := rfl

theorem find?_append (k : κ) (t u : Table κ α) :
    find? k (t ++ u) = (find? k t).or (find? k u) := by
  induction t with
  | nil => simp [find?_nil]
  | cons e t ih =>
    obtain ⟨k', a⟩ := e
    by_cases h : k' = k <;> simp [find?_cons, h, ih]

theorem find?_erase_self (k : κ) (t : Table κ α) : find? k (erase k t) = none := by
  induction t with
  | nil => rfl
  | cons e t ih =>
    obtain ⟨k', a⟩ := e
    by_cases h : k' = k <;> simp [erase, find?_cons, h, ih]

theorem find?_erase_of_ne {k j : κ} (h : j ≠ k) (t : Table κ α) :
    find? j (erase k t) = find? j t := by
  induction t with
  | nil => rfl
  | cons e t ih =>
    obtain ⟨k', a⟩ := e
    by_cases hk : k' = k
    · subst hk
      simp [erase, find?_cons, ih, Ne.symm h]
    · simp [erase, find?_cons, hk, ih]

theorem find?_set_self (k : κ) (a : α) (t : Table κ α) : find? k (set k a t) = some a := by
  simp [set, find?_append, find?_erase_self, find?_cons]

theorem find?_set_of_ne {k j : κ} (h : j ≠ k) (a : α) (t : Table κ α) :
    find? j (set k a t) = find? j t := by
  simp [set, find?_append, find?_erase_of_ne h, find?_cons, Ne.symm h, find?_nil]

end Table

end KernelHub
