import Mathlib.Data.List.Nodup
import KernelHub.Json.Record
import KernelHub.Proofs.Json.Text
import KernelHub.Proofs.Json.Values

/-
Records. What was written as an object of its fields gives each field what was written for it,
and each kind of field takes that back.
-/

namespace KernelHub.Json

open Document

variable {room : Nat}

/-! ## Fields of what was written -/

theorem filter_hasKey (f : String) (ms : List (String × Json)) :
    ((documentMembers ms).filter (hasKey f)).length = (ms.map (·.1)).count f := by
  induction ms with
  | nil => rfl
  | cons m ms ih =>
    obtain ⟨k, v⟩ := m
    rw [documentMembers, List.map_cons, List.count_cons, List.filter_cons]
    by_cases h : k = f
    · simp [hasKey, h, ih]
    · simp [hasKey, h, ih]

theorem find?_hasKey (f : String) (ms : List (String × Json)) :
    ((documentMembers ms).find? (hasKey f)).map (·.2) = (Entries.find? f ms).map document := by
  induction ms with
  | nil => rfl
  | cons m ms ih =>
    obtain ⟨k, v⟩ := m
    rw [documentMembers, List.find?_cons, Entries.find?]
    by_cases h : k = f
    · simp [hasKey, h]
    · simp [hasKey, h, Ne.symm h, ih]

/-- Each field is given what was written for it. -/
theorem slots?_document {ms : List (String × Json)} (hn : (ms.map (·.1)).Nodup)
    (fields : List String) : (object ms).document.slots? fields =
      some (fields.map fun f => (Entries.find? f ms).map document) := by
  have hsome : (documentMembers ms).all (·.1.isSome) = true := by
    clear hn
    induction ms with
    | nil => rfl
    | cons m ms ih => exact ih
  have hone : fields.all (fun f => ((documentMembers ms).filter (hasKey f)).length ≤ 1) = true := by
    rw [List.all_eq_true]
    intro f _
    rw [filter_hasKey, decide_eq_true_iff]
    exact List.nodup_iff_count_le_one.1 hn f
  rw [document, slots?, hsome, hone]
  simp only [Bool.and_self, if_true, find?_hasKey]

/-! ## Values of fields -/

theorem membersAt?_document {ms : List (String × Json)} (h : (object ms).ReadsBack)
    (hn : (object ms).Normal) (hd : (object ms).depth ≤ room) :
    membersAt? room (object ms).document = some ms := by
  have hv := value?_document h hn hd
  rw [document] at hv ⊢
  rw [membersAt?, hv]
  rfl

theorem itemsAt?_document {vs : List Json} (h : (array vs).ReadsBack)
    (hn : (array vs).Normal) (hd : (array vs).depth ≤ room) :
    itemsAt? room (array vs).document = some vs := by
  have hv := value?_document h hn hd
  rw [document] at hv ⊢
  rw [itemsAt?, hv]
  rfl

theorem fits_membersAt? {d : Document} {ms : List (String × Json)}
    (h : d.membersAt? room = some ms) : (object ms).Fits room := by
  rw [membersAt?.eq_def] at h
  split at h
  · obtain ⟨v, hv, ho⟩ := Option.bind_eq_some_iff.1 h
    cases v <;> cases ho
    exact fits_of_value? hv
  · cases h

theorem fits_itemsAt? {d : Document} {vs : List Json}
    (h : d.itemsAt? room = some vs) : (array vs).Fits room := by
  rw [itemsAt?.eq_def] at h
  split at h
  · obtain ⟨v, hv, ho⟩ := Option.bind_eq_some_iff.1 h
    cases v <;> cases ho
    exact fits_of_value? hv
  · cases h

/-- What holds of the default and of whatever can be read holds of the field. -/
theorem of_defaulted {α : Type} {P : α → Prop} {a b : α} {read : Document → Option α}
    {slot : Option Document} (h : defaulted a read slot = some b) (ha : P a)
    (hr : ∀ d b, read d = some b → P b) : P b := by
  cases slot with
  | none => cases h; exact ha
  | some d => exact hr d b h

/-! ## Members of a record -/

variable {ms : List (String × Json)} {k : String} {v : Json}

theorem ReadsBack.member (h : (object ms).ReadsBack) (hm : (k, v) ∈ ms) : v.ReadsBack :=
  membersReadBack_iff.1 h _ hm

theorem depth_object_le (h : ∀ m ∈ ms, m.2.depth ≤ room) : (object ms).depth ≤ room + 1 :=
  Nat.succ_le_succ (depthMembers_le.2 h)

theorem depth_member (h : (object ms).depth ≤ room + 1) (hm : (k, v) ∈ ms) : v.depth ≤ room :=
  depthMembers_le.1 (Nat.le_of_succ_le_succ h) _ hm

end KernelHub.Json
