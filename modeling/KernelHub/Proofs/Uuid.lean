import Mathlib.Algebra.Group.Nat.Defs
import KernelHub.Ids

/-
The written form of identifiers. It says all there is to an identifier, and all written
forms are equally long.
-/

namespace KernelHub

namespace Hex

theorem digit_injective {m n : Nat} (hm : m < 16) (hn : n < 16) (h : digit m = digit n) :
    m = n := by
  have hv : value? (digit m) = value? (digit n) := congrArg value? h
  rw [value?_digit hm, value?_digit hn] at hv
  exact Option.some.inj hv

theorem getElem?_text {width i : Nat} (hi : i < width) (n : Nat) :
    (text width n)[i]? = some (digit (n / 16 ^ (width - 1 - i) % 16)) := by
  simp [text, valuesOf, hi]

theorem mem_text {width n : Nat} {c : Char} (h : c ∈ text width n) :
    ∃ k < 16, c = digit k := by
  obtain ⟨i, hi, rfl⟩ := List.mem_iff_getElem.1 h
  have hl : i < width := by rwa [length_text] at hi
  have hd := getElem?_text hl n
  rw [List.getElem?_eq_getElem hi, Option.some.injEq] at hd
  exact ⟨_, Nat.mod_lt _ (by decide), hd⟩

/-- Numbers with the same last digits are the same as far as those digits go. -/
theorem mod_eq_of_digits {m n : Nat} (width : Nat)
    (h : ∀ k < width, m / 16 ^ k % 16 = n / 16 ^ k % 16) : m % 16 ^ width = n % 16 ^ width := by
  induction width with
  | zero => simp [Nat.mod_one]
  | succ width ih =>
    rw [Nat.mod_pow_succ, Nat.mod_pow_succ, ih fun k hk => h k (Nat.lt_succ_of_lt hk),
      h width (Nat.lt_succ_self width)]

theorem text_injective {width m n : Nat} (hm : m < 16 ^ width) (hn : n < 16 ^ width)
    (h : text width m = text width n) : m = n := by
  have hmod : m % 16 ^ width = n % 16 ^ width := by
    refine mod_eq_of_digits width fun k hk => ?_
    have hi : width - 1 - k < width := by omega
    have hk' : width - 1 - (width - 1 - k) = k := by omega
    have hc := congrArg (·[width - 1 - k]?) h
    simp only [getElem?_text hi, hk', Option.some.injEq] at hc
    exact digit_injective (Nat.mod_lt _ (by decide)) (Nat.mod_lt _ (by decide)) hc
  rwa [Nat.mod_eq_of_lt hm, Nat.mod_eq_of_lt hn] at hmod

end Hex

namespace Uuid

theorem length_digits (u : Uuid) : u.digits.length = 32 := Hex.length_text 32 _

theorem digits_injective {u v : Uuid} (h : u.digits = v.digits) : u = v := by
  have hlt (w : Uuid) : w.toNat < 16 ^ 32 := w.bits.isLt
  have hn : u.toNat = v.toNat := Hex.text_injective (hlt u) (hlt v) h
  rw [← ofNat_toNat u, hn, ofNat_toNat]

theorem hyphenate_injective {ds es : List Char} (hd : ds.length = 32) (he : es.length = 32)
    (h : hyphenate ds = hyphenate es) : ds = es := by
  have cut {a b : List Char} (k : Nat) {x y : List Char} (ha : 4 + k ≤ a.length)
      (hb : 4 + k ≤ b.length)
      (hc : (a.drop k).take 4 ++ '-' :: x = (b.drop k).take 4 ++ '-' :: y) :
      (a.drop k).take 4 = (b.drop k).take 4 ∧ x = y := by
    have hl : ((a.drop k).take 4).length = ((b.drop k).take 4).length := by
      simp only [List.length_take, List.length_drop]
      omega
    obtain ⟨h1, h2⟩ := List.append_inj hc hl
    exact ⟨h1, List.tail_eq_of_cons_eq h2⟩
  have h8 : (ds.take 8).length = (es.take 8).length := by
    simp only [List.length_take]
    omega
  obtain ⟨h1, h2⟩ := List.append_inj h h8
  obtain ⟨h3, h4⟩ := cut 8 (by omega) (by omega) (List.tail_eq_of_cons_eq h2)
  obtain ⟨h5, h6⟩ := cut 12 (by omega) (by omega) h4
  obtain ⟨h7, h9⟩ := cut 16 (by omega) (by omega) h6
  have parts (cs : List Char) : cs = cs.take 8 ++ ((cs.drop 8).take 4 ++ ((cs.drop 12).take 4 ++
      ((cs.drop 16).take 4 ++ cs.drop 20))) := by
    have step (a k : Nat) : cs.drop a = (cs.drop a).take k ++ cs.drop (a + k) := by
      rw [← List.drop_drop, List.take_append_drop]
    rw [← step 16 4, ← step 12 4, ← step 8 4, List.take_append_drop]
  rw [parts ds, parts es, h1, h3, h5, h7, h9]

theorem toString_injective {u v : Uuid} (h : toString u = toString v) : u = v := by
  have hc : u.chars = v.chars := String.ofList_injective h
  exact digits_injective (hyphenate_injective (length_digits u) (length_digits v) hc)

/-- The written form of an identifier holds digits and hyphens. -/
theorem mem_chars {u : Uuid} {c : Char} (h : c ∈ u.chars) :
    c = '-' ∨ ∃ k < 16, c = Hex.digit k := by
  have hm (d : Char) (hd : d ∈ u.digits) : d = '-' ∨ ∃ k < 16, d = Hex.digit k :=
    .inr (Hex.mem_text hd)
  simp only [chars, hyphenate, List.mem_append, List.mem_cons] at h
  obtain h | h | h | h | h | h | h | h | h := h
  · exact hm c (List.mem_of_mem_take h)
  · exact .inl h
  · exact hm c (List.mem_of_mem_drop (List.mem_of_mem_take h))
  · exact .inl h
  · exact hm c (List.mem_of_mem_drop (List.mem_of_mem_take h))
  · exact .inl h
  · exact hm c (List.mem_of_mem_drop (List.mem_of_mem_take h))
  · exact .inl h
  · exact hm c (List.mem_of_mem_drop h)

theorem length_toString (u : Uuid) : (toString u).length = 36 := by
  have hl : u.chars.length = 36 := by simp [chars, hyphenate, length_digits]
  exact (String.length_ofList).trans hl

end Uuid

theorem KernelId.toString_injective {a b : KernelId} (h : toString a = toString b) : a = b := by
  have hu : a.uuid = b.uuid := Uuid.toString_injective h
  cases a
  cases b
  exact congrArg _ hu

end KernelHub
