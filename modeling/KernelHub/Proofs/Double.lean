import Mathlib.Algebra.Group.Nat.Defs
import KernelHub.Double

/-
Whatever is computed is a double of 64 bits: each operation rounds its exact quotient, and to
round leaves 53 bits, the top one set unless the shift is least.
-/

namespace KernelHub.Double

theorem le_roundQuotient (num den : Nat) : num / den ≤ roundQuotient num den := by
  simp only [roundQuotient]
  split
  · omega
  · split
    · omega
    · split <;> omega

theorem roundQuotient_le (num den : Nat) : roundQuotient num den ≤ num / den + 1 := by
  simp only [roundQuotient]
  split
  · omega
  · split
    · omega
    · split <;> omega

/-- The bits of a quotient that are kept. -/
theorem kept_bits {q : Nat} (hq : 2 ^ 53 ≤ q) :
    2 ^ 52 ≤ q / 2 ^ (q.log2 - 52) ∧ q / 2 ^ (q.log2 - 52) < 2 ^ 53 := by
  have h0 : q ≠ 0 := by omega
  have hl : 53 ≤ q.log2 := (Nat.le_log2 h0).2 hq
  have hp : 0 < 2 ^ (q.log2 - 52) := Nat.pow_pos (by decide)
  rw [Nat.le_div_iff_mul_le hp, Nat.div_lt_iff_lt_mul hp, ← Nat.pow_add, ← Nat.pow_add,
    show 52 + (q.log2 - 52) = q.log2 by omega, show 53 + (q.log2 - 52) = q.log2 + 1 by omega]
  exact ⟨Nat.log2_self_le h0, Nat.lt_log2_self⟩

/-- A quotient is rounded to 53 bits, or one more if it is a power of two. -/
theorem rounded_bits (num den : Nat) {s : Nat}
    (hs : s = if num / den < 2 ^ 53 then 0 else (num / den).log2 - 52) :
    roundQuotient num (den * 2 ^ s) ≤ 2 ^ 53 ∧
      (2 ^ 52 ≤ roundQuotient num (den * 2 ^ s) ∨ s = 0) := by
  have hle := le_roundQuotient num (den * 2 ^ s)
  have hge := roundQuotient_le num (den * 2 ^ s)
  rw [← Nat.div_div_eq_div_mul] at hle hge
  split at hs
  · next hq =>
    have h1 : num / den / 2 ^ s = num / den := by rw [hs, Nat.pow_zero, Nat.div_one]
    exact ⟨by omega, .inr hs⟩
  · next hq =>
    have hb := kept_bits (Nat.not_lt.1 hq)
    rw [← hs] at hb
    exact ⟨by omega, .inl (by omega)⟩

theorem valid_round {negative : Bool} {num den : Nat} {x : Double}
    (h : round negative num den = some x) : x.Valid := by
  have hb := rounded_bits num den rfl
  simp only [round, Nat.pow_eq] at h
  generalize (if num / den < 2 ^ 53 then 0 else (num / den).log2 - 52) = s at h hb
  generalize roundQuotient num (den * 2 ^ s) = m at h hb
  by_cases hm : m = 2 ^ 53
  · simp only [if_pos hm] at h
    split at h
    · next hs =>
      cases h
      have hlt : (2 : Nat) ^ 52 < 2 ^ 53 := by decide
      exact ⟨hlt, .inl (Nat.le_refl _), hs⟩
    · cases h
  · simp only [if_neg hm] at h
    split at h
    · next hs =>
      cases h
      exact ⟨Nat.lt_of_le_of_ne hb.1 hm, hb.2, hs⟩
    · cases h

theorem valid_zero : zero.Valid := by decide

theorem Valid.withSign {x : Double} (h : x.Valid) (negative : Bool) :
    { x with negative : Double }.Valid := h

theorem valid_ofNat? {n : Nat} {x : Double} (h : ofNat? n = some x) : x.Valid := valid_round h

theorem valid_scale? {x y : Double} {fuel : Nat} {e : Int} (hx : x.Valid)
    (h : x.scale? fuel e = some y) : y.Valid := by
  induction fuel generalizing x e with
  | zero => cases h
  | succ fuel ih =>
    rw [scale?] at h
    split at h
    · obtain ⟨p, -, hy⟩ := Option.bind_eq_some_iff.1 h
      split at hy
      · exact valid_round hy
      · exact valid_round hy
    · split at h
      · cases h
        exact hx
      · split at h
        · cases h
        · obtain ⟨p, -, hp⟩ := Option.bind_eq_some_iff.1 h
          obtain ⟨z, hz, hy⟩ := Option.bind_eq_some_iff.1 hp
          exact ih (valid_round hz) hy

/-- What is read from decimal digits is a double of 64 bits. -/
theorem valid_ofDecimal? {negative : Bool} {digits : Nat} {e : Int} {x : Double}
    (h : ofDecimal? negative digits e = some x) : x.Valid := by
  obtain ⟨y, hy, h⟩ := Option.bind_eq_some_iff.1 h
  obtain ⟨z, hz, he⟩ := Option.bind_eq_some_iff.1 h
  cases he
  exact (valid_scale? (valid_ofNat? hy) hz).withSign negative

end KernelHub.Double
