import KernelHub.Proofs.Uuid.Forms

/-
The order of written identifiers. Texts are compared byte by byte, identifiers as numbers. Since
the written form has the digits of the number from the top, a fixed number of them, and its hyphens
at fixed places, the two orders are the same.
-/

namespace KernelHub

namespace Hex

theorem digit_lt {m n : Nat} (hm : m < 16) (hn : n < 16) : digit m < digit n ↔ m < n := by
  have hd : ∀ m < 16, ∀ n < 16, digit m < digit n ↔ m < n := by decide
  exact hd m hm n hn

/-- The top digit, and the digits below it. -/
theorem text_succ (width n : Nat) :
    text (width + 1) n = digit (n / 16 ^ width % 16) :: text width n := by
  simp only [text, valuesOf, List.range_succ_eq_map, List.map_cons, List.map_map]
  refine congrArg₂ _ rfl (List.map_congr_left fun i _ => ?_)
  simp only [Function.comp_apply]
  rw [show width + 1 - 1 - i.succ = width - 1 - i by omega]

/-- Numbers below `k` decide only between equal multiples of `k`. -/
theorem add_mul_lt {a b c d k : Nat} (ha : a < k) (hb : b < k) :
    a + k * c < b + k * d ↔ c < d ∨ c = d ∧ a < b := by
  have step {x y : Nat} (h : x < y) : k * x + k ≤ k * y := Nat.mul_le_mul_left k h
  rcases Nat.lt_trichotomy c d with h | rfl | h
  · have := step h
    omega
  · omega
  · have := step h
    omega

/-- Written digits are in the order of the numbers they say. -/
theorem text_lt (width m n : Nat) :
    text width m < text width n ↔ m % 16 ^ width < n % 16 ^ width := by
  induction width with
  | zero => simp [text, valuesOf, Nat.mod_one]
  | succ width ih =>
    have hlow (x : Nat) : x % 16 ^ width < 16 ^ width := Nat.mod_lt x (Nat.pow_pos (by decide))
    have htop (x : Nat) : x / 16 ^ width % 16 < 16 := Nat.mod_lt _ (by decide)
    have heq : digit (m / 16 ^ width % 16) = digit (n / 16 ^ width % 16) ↔
        m / 16 ^ width % 16 = n / 16 ^ width % 16 :=
      ⟨digit_injective (htop m) (htop n), congrArg digit⟩
    rw [text_succ, text_succ, List.cons_lt_cons_iff, ih, digit_lt (htop m) (htop n), heq,
      Nat.mod_pow_succ, Nat.mod_pow_succ, add_mul_lt (hlow m) (hlow n)]

end Hex

namespace Text

/-- Texts that start equally long are in the order of their starts, and then of the rest. -/
theorem append_lt_append {a b x y : List Char} (h : a.length = b.length) :
    a ++ x < b ++ y ↔ a < b ∨ a = b ∧ x < y := by
  induction a generalizing b with
  | nil =>
    obtain rfl := List.length_eq_zero_iff.1 h.symm
    simp
  | cons c a ih =>
    cases b with
    | nil => cases h
    | cons d b =>
      rw [List.cons_append, List.cons_append, List.cons_lt_cons_iff, List.cons_lt_cons_iff,
        ih (Nat.succ.inj h), List.cons.injEq]
      constructor
      · rintro (hc | ⟨rfl, ha | ⟨rfl, hx⟩⟩)
        · exact .inl (.inl hc)
        · exact .inl (.inr ⟨rfl, ha⟩)
        · exact .inr ⟨⟨rfl, rfl⟩, hx⟩
      · rintro ((hc | ⟨rfl, ha⟩) | ⟨⟨rfl, rfl⟩, hx⟩)
        · exact .inl hc
        · exact .inr ⟨rfl, .inl ha⟩
        · exact .inr ⟨rfl, .inr ⟨rfl, hx⟩⟩

/-- The bytes of a text. -/
def bytes (s : String) : List UInt8 := s.toUTF8.data.toList

/-- A character below 128 is its own byte. -/
theorem bytes_ofList {cs : List Char} (h : ∀ c ∈ cs, c.toNat < 128) :
    bytes (String.ofList cs) = cs.map fun c => c.val.toUInt8 := by
  have hone : cs.flatMap String.utf8EncodeChar = cs.map fun c => c.val.toUInt8 := by
    induction cs with
    | nil => rfl
    | cons c cs ih =>
      rw [List.forall_mem_cons] at h
      have hc : c.utf8Size = 1 := Char.utf8Size_eq_one_iff.2 (by
        have := h.1
        rw [UInt32.le_iff_toNat_le]
        change c.toNat ≤ 127
        omega)
      rw [List.flatMap_cons, String.utf8EncodeChar_eq_singleton hc, ih h.2]
      rfl
  rw [bytes, String.toUTF8, String.toByteArray_ofList, List.utf8Encode, List.data_toByteArray,
    List.toList_toArray, hone]

/-- Texts of such characters are in the order of their bytes. -/
theorem bytes_lt {cs ds : List Char} (hc : ∀ c ∈ cs, c.toNat < 128) (hd : ∀ c ∈ ds, c.toNat < 128) :
    bytes (String.ofList cs) < bytes (String.ofList ds) ↔ cs < ds := by
  have hv {c : Char} (h : c.toNat < 128) : c.val.toUInt8.toNat = c.toNat := by
    change c.toNat % 256 = c.toNat
    omega
  rw [bytes_ofList hc, bytes_ofList hd]
  induction cs generalizing ds with
  | nil => cases ds <;> simp
  | cons c cs ih =>
    cases ds with
    | nil => simp
    | cons d ds =>
      rw [List.forall_mem_cons] at hc hd
      have hlt : c.val.toUInt8 < d.val.toUInt8 ↔ c < d := by
        rw [UInt8.lt_iff_toNat_lt, hv hc.1, hv hd.1]
        exact Iff.rfl
      have heq : c.val.toUInt8 = d.val.toUInt8 ↔ c = d := by
        rw [← UInt8.toNat_inj, hv hc.1, hv hd.1, Char.toNat_inj]
      rw [List.map_cons, List.map_cons, List.cons_lt_cons_iff, List.cons_lt_cons_iff]
      exact or_congr hlt (and_congr heq (ih hc.2 hd.2))

end Text

namespace Uuid

theorem digits_lt {u v : Uuid} : u.digits < v.digits ↔ u < v := by
  have hlt (w : Uuid) : w.toNat < 16 ^ 32 := w.bits.isLt
  rw [digits, digits, Hex.text_lt, Nat.mod_eq_of_lt (hlt u), Nat.mod_eq_of_lt (hlt v)]
  exact Iff.rfl

/-- Hyphens at the same places keep the order. -/
theorem hyphenate_lt {ds es : List Char} (hd : ds.length = 32) (he : es.length = 32) :
    hyphenate ds < hyphenate es ↔ ds < es := by
  obtain ⟨a, b, c, d, e, rfl, ha, hb, hc, hd, -⟩ := exists_groups hd
  obtain ⟨a', b', c', d', e', rfl, ha', hb', hc', hd', -⟩ := exists_groups he
  -- A hyphen at one place in both leaves the order to what stands before and after it.
  have cut {a b x y v w : List Char} (h : a.length = b.length) (hr : x < y ↔ v < w) :
      a ++ '-' :: x < b ++ '-' :: y ↔ a ++ v < b ++ w := by
    rw [Text.append_lt_append h, Text.append_lt_append h, List.cons_lt_cons_iff, hr]
    simp
  rw [hyphenate_groups ha hb hc hd, hyphenate_groups ha' hb' hc' hd']
  simp only [List.append_assoc]
  exact cut (ha.trans ha'.symm) (cut (hb.trans hb'.symm) (cut (hc.trans hc'.symm)
    (cut (hd.trans hd'.symm) Iff.rfl)))

/-- Identifiers are in the order of the bytes of their written forms. -/
theorem bytes_lt {u v : Uuid} : Text.bytes (toString u) < Text.bytes (toString v) ↔ u < v := by
  have plain (w : Uuid) : ∀ c ∈ w.chars, c.toNat < 128 := fun c hc => by
    have hd : ∀ k < 16, (Hex.digit k).toNat < 128 := by decide
    rcases mem_chars hc with rfl | ⟨k, hk, rfl⟩
    · decide
    · exact hd k hk
  refine (Text.bytes_lt (plain u) (plain v)).trans ?_
  rw [chars, chars, hyphenate_lt (length_digits u) (length_digits v), digits_lt]

end Uuid

end KernelHub
