/-
Keyed lists: entries in the order of their keys, one entry per key. Keys are
ordered by code point, which is also the order of their UTF-8 bytes. Two keyed
lists with the same entries are equal as lists.
-/

namespace KernelHub

/-- Entries by key. -/
abbrev Entries (α : Type) := List (String × α)

namespace Entries

variable {α : Type}

/-- Keys strictly increase. -/
def Ordered (es : Entries α) : Prop := es.Pairwise fun a b => a.1 < b.1

/-- Sets the entry of a key, replacing an earlier one. -/
def insert (k : String) (v : α) : Entries α → Entries α
  | [] => [(k, v)]
  | (k', v') :: es =>
    if k < k' then (k, v) :: (k', v') :: es
    else if k = k' then (k, v) :: es
    else (k', v') :: insert k v es

def find? (k : String) : Entries α → Option α
  | [] => none
  | (k', v) :: es => if k = k' then some v else find? k es

def erase (k : String) (es : Entries α) : Entries α := es.filter fun e => e.1 ≠ k

def keys (es : Entries α) : List String := es.map (·.1)

/-- Adds entries from the left: of several with one key the last stays. -/
def ofList (l : List (String × α)) : Entries α := l.foldl (fun es e => insert e.1 e.2 es) []

theorem find?_insert_self (k : String) (v : α) (es : Entries α) :
    find? k (insert k v es) = some v := by
  induction es with
  | nil => simp [insert, find?]
  | cons e es ih =>
    obtain ⟨k', v'⟩ := e
    simp only [insert]
    split
    · simp [find?]
    · split
      · simp [find?]
      · simp [find?, *]

theorem find?_insert_of_ne {k j : String} (h : j ≠ k) (v : α) (es : Entries α) :
    find? j (insert k v es) = find? j es := by
  induction es with
  | nil => simp [insert, find?, h]
  | cons e es ih =>
    obtain ⟨k', v'⟩ := e
    simp only [insert]
    split
    · simp [find?, h]
    · split
      · rename_i hk; subst hk; simp [find?, h]
      · simp [find?, ih]

end Entries

end KernelHub
