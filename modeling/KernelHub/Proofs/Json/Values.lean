import KernelHub.Proofs.Double
import KernelHub.Proofs.Json

/-
What a document evaluates to: whole numbers fit 64 bits, doubles are words, members are in the
order of their keys, and nothing nests deeper than there is room for.
-/

namespace KernelHub.Json

/-! ## Numbers -/

theorem Numeral.absorb_lt {ds : List Char} {k : Nat} (hk : k < UInt64.size) :
    (absorb k ds).1 < UInt64.size := by
  induction ds generalizing k with
  | nil => exact hk
  | cons c ds ih =>
    simp only [absorb]
    split
    · next h => exact ih h
    · exact hk

theorem Numeral.significand_lt (n : Numeral) : n.significand.1 < UInt64.size :=
  absorb_lt (absorb_lt (by decide))

/-- A value that a number can have. -/
structure IsNumber (v : Json) : Prop where
  normal : v.Normal
  flat : v.depth = 0

theorem isNumber_int {n : Int} (h : -0x8000000000000000 ≤ n ∧ n < UInt64.size) :
    (int n).IsNumber := ⟨h, rfl⟩

theorem isNumber_double {x : Double} (h : x.Valid) : (double x).IsNumber := ⟨h, rfl⟩

theorem isNumber_ofDecimal? {negative : Bool} {s : Nat} {e : Int} {v : Json}
    (h : (Double.ofDecimal? negative s e).map .double = some v) : v.IsNumber := by
  obtain ⟨x, hx, rfl⟩ := Option.map_eq_some_iff.1 h
  exact isNumber_double (Double.valid_ofDecimal? hx)

theorem isNumber_of_value? {n : Numeral} {v : Json} (h : n.value? = some v) : v.IsNumber := by
  have hs : UInt64.size = 0x10000000000000000 := rfl
  have hlt := n.significand_lt
  simp only [Numeral.value?] at h
  split at h
  · split at h
    · exact isNumber_ofDecimal? h
    · split at h
      · cases h
        exact isNumber_int (by omega)
      · split at h
        · cases h
          exact isNumber_int (by omega)
        · exact isNumber_ofDecimal? h
  · split at h
    · exact isNumber_ofDecimal? h
    · split at h
      · exact isNumber_ofDecimal? h
      · split at h
        · cases h
          exact isNumber_double Double.valid_zero
        · cases h

/-! ## Values -/

/-- A value that there is room for. -/
structure Fits (room : Nat) (v : Json) : Prop where
  normal : v.Normal
  depth : v.depth ≤ room

namespace Document

theorem fits_values? {room : Nat} {ds : List Document}
    (h : ∀ d ∈ ds, ∀ v, d.value? room = some v → v.Fits room) {vs : List Json}
    (hv : values? room ds = some vs) : ∀ v ∈ vs, v.Fits room := by
  induction ds generalizing vs with
  | nil =>
    cases hv
    exact nofun
  | cons d ds ih =>
    rw [List.forall_mem_cons] at h
    obtain ⟨v, h1, hv⟩ := Option.bind_eq_some_iff.1 hv
    obtain ⟨vs, h2, hv⟩ := Option.bind_eq_some_iff.1 hv
    cases hv
    exact List.forall_mem_cons.2 ⟨h.1 v h1, ih h.2 h2⟩

theorem fits_members? {room : Nat} {ds : List (Option String × Document)}
    (h : ∀ d ∈ ds, ∀ v, d.2.value? room = some v → v.Fits room) {ms : List (String × Json)}
    (hm : members? room ds = some ms) : ∀ m ∈ ms, m.2.Fits room := by
  induction ds generalizing ms with
  | nil =>
    cases hm
    exact nofun
  | cons d ds ih =>
    rw [List.forall_mem_cons] at h
    obtain ⟨k, -, hm⟩ := Option.bind_eq_some_iff.1 hm
    obtain ⟨v, h1, hm⟩ := Option.bind_eq_some_iff.1 hm
    obtain ⟨ms, h2, hm⟩ := Option.bind_eq_some_iff.1 hm
    cases hm
    exact List.forall_mem_cons.2 ⟨h.1 v h1, ih h.2 h2⟩

/-- Whatever a document evaluates to is a value that reading can give. -/
theorem fits_of_value? {d : Document} {room : Nat} {v : Json} (h : d.value? room = some v) :
    v.Fits room := by
  induction d using induct generalizing room v with
  | null => rw [value?] at h; cases h; exact ⟨trivial, Nat.zero_le _⟩
  | bool b => rw [value?] at h; cases h; exact ⟨trivial, Nat.zero_le _⟩
  | number n =>
    rw [value?] at h
    have hn := isNumber_of_value? h
    exact ⟨hn.normal, hn.flat ▸ Nat.zero_le _⟩
  | string s =>
    rw [value?] at h
    obtain ⟨s, -, rfl⟩ := Option.map_eq_some_iff.1 h
    exact ⟨trivial, Nat.zero_le _⟩
  | array ds ih =>
    cases room with
    | zero => rw [value?] at h; cases h
    | succ room =>
      rw [value?] at h
      obtain ⟨vs, hv, rfl⟩ := Option.map_eq_some_iff.1 h
      have hf := fits_values? (fun d hd v hv => ih d hd hv) hv
      exact ⟨normalItems_iff.2 fun v hv => (hf v hv).normal,
        Nat.succ_le_succ (depthItems_le.2 fun v hv => (hf v hv).depth)⟩
  | object ds ih =>
    cases room with
    | zero => rw [value?] at h; cases h
    | succ room =>
      rw [value?] at h
      obtain ⟨ms, hm, rfl⟩ := Option.map_eq_some_iff.1 h
      have hf := fits_members? (fun d hd v hv => ih d hd hv) hm
      have hl : ∀ m ∈ Entries.ofList ms, m.2.Fits room :=
        fun m hm => hf m (Entries.mem_of_mem_ofList hm)
      exact ⟨⟨Entries.ordered_ofList ms, normalMembers_iff.2 fun m hm => (hl m hm).normal⟩,
        Nat.succ_le_succ (depthMembers_le.2 fun m hm => (hl m hm).depth)⟩

end Document

end KernelHub.Json
