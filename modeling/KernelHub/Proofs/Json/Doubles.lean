import KernelHub.Proofs.Json.Numbers

/-
Doubles. The text of every double is a numeral. Numerals are not always read as the nearest
double, so not every double comes back from its text; whether one does is a matter of that double
alone.
-/

namespace KernelHub.Double

/-- The text of the double reads back as that double. -/
def ReadsBack (x : Double) : Prop := Json.read? (String.ofList x.chars) = some (.double x)

/-- Is the value a given double? -/
def is (x : Double) : Json → Bool
  | .double y => y = x
  | _ => false

instance (x : Double) : Decidable x.ReadsBack :=
  decidable_of_iff ((Json.read? (String.ofList x.chars)).any x.is = true) <| by
    rw [ReadsBack]
    cases Json.read? (String.ofList x.chars) with
    | none => simp
    | some v => cases v <;> simp [is]

/-! ## The digits of a double -/

/-- No digits at all round to nothing but zero. -/
theorem reads_zero {x : Double} (h : x.mantissa ≠ 0) (e : Int) : x.reads 0 e = false := by
  have hr (den : Nat) (hd : 0 < den) : round false 0 den = some ⟨false, 0, 0⟩ := by
    have hq : roundQuotient 0 den = 0 := by simp [roundQuotient, hd]
    simp [round, hq]
  have hpos : 0 < if 0 ≤ e then 1 else Nat.pow 10 e.natAbs := by
    split
    · decide
    · exact Nat.pow_pos (by decide)
  simp only [reads, Nat.zero_mul, ite_self, hr _ hpos]
  simp [Ne.symm h]

theorem onGrid?_ne_zero {x : Double} (h : x.mantissa ≠ 0) {e : Int} {d : Nat}
    (hd : x.onGrid? e = some d) : d ≠ 0 := by
  have hread : x.reads d e = true := by
    simp only [onGrid?] at hd
    split at hd
    · next h1 h2 =>
      cases hd
      split
      · exact h1
      · exact h2
    · next h1 _ => cases hd; exact h1
    · next _ h2 => cases hd; exact h2
    · cases hd
  rintro rfl
  rw [reads_zero h] at hread
  cases hread

/-- There is a digit above the first only in magnitudes from one on. -/
theorem leadingExponent_cases (x : Double) :
    x.leadingExponent = (digitCount (x.units / one) : Int) - 1 ∨ x.leadingExponent ≤ 0 := by
  have hcount : 0 < digitCount (one / x.units) := Nat.length_toDigits_pos
  unfold leadingExponent fraction
  dsimp only
  split
  · exact .inl rfl
  · refine .inr ?_
    split <;> omega

/-- A grid of whole tens is below a magnitude that has a digit there. -/
theorem below_ne_zero {x : Double} {e : Int} (he : 0 < e) (hl : e ≤ x.leadingExponent) :
    x.below e ≠ 0 := by
  rw [x.leadingExponent_cases.resolve_right (Int.not_le.2 (Int.lt_of_lt_of_le he hl))] at hl
  obtain ⟨k, rfl⟩ := Int.eq_ofNat_of_zero_le (Int.le_of_lt he)
  have hk : ¬ (Nat.toDigits 10 (x.units / one)).length ≤ k := by
    have : digitCount (x.units / one) = (Nat.toDigits 10 (x.units / one)).length := rfl
    omega
  have hpow : 10 ^ k ≤ x.units / one :=
    Nat.not_lt.1 (mt (Nat.length_toDigits_le_iff (by decide) (Int.ofNat_lt.1 he)).2 hk)
  have hbelow : x.below k = x.units / one / 10 ^ k := by
    unfold below fraction
    dsimp only
    rw [if_pos (Int.natCast_nonneg k), Int.natAbs_natCast, Nat.div_div_eq_div_mul, Nat.pow_eq]
  rw [hbelow]
  exact Nat.ne_of_gt (Nat.div_pos hpow (Nat.pow_pos (by decide)))

theorem search_digits {x : Double} (h : x.mantissa ≠ 0) (fuel : Nat) {e : Int}
    (he : e ≤ x.leadingExponent) : (x.search fuel e).1 ≠ 0 ∨ (x.search fuel e).2 ≤ 0 := by
  induction fuel generalizing e with
  | zero =>
    by_cases h0 : 0 < e
    · exact .inl (below_ne_zero h0 he)
    · exact .inr (by simpa [search] using h0)
  | succ fuel ih =>
    rw [search]
    split
    · next d hd => exact .inl (onGrid?_ne_zero h hd)
    · exact ih (by omega)

/-- Trailing zeros go, but a number that is not zero stays so. -/
theorem trimZeros_digits (fuel : Nat) {d : Nat} {e : Int} (h : d ≠ 0 ∨ e ≤ 0) :
    (trimZeros fuel (d, e)).1 ≠ 0 ∨ (trimZeros fuel (d, e)).2 ≤ 0 := by
  induction fuel generalizing d e with
  | zero => exact h
  | succ fuel ih =>
    rw [trimZeros]
    split
    · next hd => exact ih (.inl (by omega))
    · exact h

/-- A zero is written without zeros behind it. -/
theorem digits_chars (x : Double) :
    (trimZeros 400 x.shortest).1 ≠ 0 ∨ (trimZeros 400 x.shortest).2 ≤ 0 := by
  refine trimZeros_digits 400 ?_
  change x.shortest.1 ≠ 0 ∨ x.shortest.2 ≤ 0
  rw [shortest]
  split
  · exact .inr (Int.le_refl 0)
  · next h => exact search_digits h 17 (Int.le_refl _)

end KernelHub.Double

namespace KernelHub.Json.Document

/-! ## Numerals -/

variable {cs ds more : List Char}

theorem whole_cons {c : Char} (hd : ∀ d ∈ c :: cs, d.isDigit = true) (hc : c ≠ '0' ∨ cs = []) :
    Whole (c :: cs) where
  digits := ⟨List.cons_ne_nil c cs, hd⟩
  zero h := by
    obtain rfl := Option.some.inj h
    rw [hc.resolve_left (not_not_intro rfl)]

theorem exponent_int (n : Int) :
    Exponent (some (decide (n < 0), Nat.toDigits 10 n.natAbs)) ('e' :: (toString n).toList) := by
  rw [toList_int]
  refine .digits 'e' _ _ _ (.inl rfl) ?_ (digits_toDigits n.natAbs)
  cases decide (n < 0) with
  | true => exact .minus
  | false => exact .none

/-- What may follow the digits before the point, up to the end. -/
inductive Trails : List Char → Prop
  | mk (f : List Char) (x : Option (Bool × List Char)) (fs xs : List Char) (hf : Fraction f fs)
    (hx : Exponent x xs) : Trails (fs ++ xs)

theorem exists_numeral (hw : Whole ds) (ht : Trails more) (negative : Bool) :
    ∃ n, NumeralText n (minus negative ++ (ds ++ more)) := by
  obtain ⟨f, x, fs, xs, hf, hx⟩ := ht
  exact ⟨_, .mk ⟨negative, ds, f, x⟩ fs xs hw hf hx⟩

theorem trails_fraction (hd : Digits ds) : Trails ('.' :: ds) := by
  have h := Trails.mk ds none _ _ (.digits ds hd) .absent
  rwa [List.append_nil] at h

theorem trails_exponent (n : Int) : Trails ('e' :: (toString n).toList) :=
  .mk [] _ [] _ .absent (exponent_int n)

theorem trails_both (hd : Digits ds) (n : Int) :
    Trails ('.' :: (ds ++ 'e' :: (toString n).toList)) :=
  .mk ds _ ('.' :: ds) _ (.digits ds hd) (exponent_int n)

end KernelHub.Json.Document

namespace KernelHub.Double

open Json.Document

/-- Digits, a point and an exponent in any layout make a numeral. -/
theorem layout_numeral {d : Nat} {e : Int} (h : d ≠ 0 ∨ e ≤ 0) :
    ∃ ds more, layout (Nat.toDigits 10 d) e = ds ++ more ∧ Whole ds ∧ Trails more := by
  have hdigits := (digits_toDigits d).isDigit
  have hzeros (n : Nat) : ∀ c ∈ List.replicate n '0', c.isDigit = true := fun c hc => by
    rw [List.eq_of_mem_replicate hc]
    rfl
  have hlead : ∃ c cs, Nat.toDigits 10 d = c :: cs ∧ (c ≠ '0' ∨ d = 0 ∧ cs = []) := by
    by_cases h0 : d = 0
    · rw [h0]
      exact ⟨'0', [], rfl, .inr ⟨rfl, rfl⟩⟩
    · obtain ⟨c, cs, hds, hc⟩ := exists_toDigits (Nat.pos_of_ne_zero h0)
      exact ⟨c, cs, hds, .inl hc⟩
  obtain ⟨c, cs, hds, hc⟩ := hlead
  rw [hds] at hdigits ⊢
  have hzero : c ≠ '0' ∨ cs = [] := hc.imp_right And.right
  have hcd : Whole [c] := whole_cons (fun d hd =>
    hdigits d (List.mem_cons.2 (.inl (List.mem_singleton.1 hd)))) (.inr rfl)
  simp only [layout]
  split
  case isTrue hp =>
    refine ⟨c :: (cs ++ List.replicate e.toNat '0'), ['.', '0'], rfl, whole_cons ?_ ?_,
      trails_fraction ⟨List.cons_ne_nil _ _, List.forall_mem_singleton.2 rfl⟩⟩
    · rw [← List.cons_append, List.forall_mem_append]
      exact ⟨hdigits, hzeros _⟩
    · refine hc.imp_right fun ⟨h0, hcs⟩ => ?_
      have he : e.toNat = 0 := by omega
      rw [hcs, he]
      rfl
  case isFalse hp =>
    split
    case isTrue hq =>
      obtain ⟨k, hk⟩ : ∃ k, (((c :: cs).length : Int) + e).toNat = k + 1 :=
        ⟨(((c :: cs).length : Int) + e).toNat - 1, by omega⟩
      rw [hk]
      refine ⟨c :: cs.take k, '.' :: (c :: cs).drop (k + 1), rfl,
        whole_cons (fun d hd => hdigits d (List.mem_of_mem_take (i := k + 1) hd))
          (hzero.imp_right ?_),
        trails_fraction ⟨?_, fun d hd => hdigits d (List.mem_of_mem_drop hd)⟩⟩
      · rintro rfl
        exact List.take_nil
      · rw [Ne, List.drop_eq_nil_iff]
        omega
    case isFalse hq =>
      split
      · refine ⟨['0'], '.' :: (List.replicate _ '0' ++ c :: cs), rfl, whole_toDigits 0,
          trails_fraction ⟨by simp, ?_⟩⟩
        exact List.forall_mem_append.2 ⟨hzeros _, hdigits⟩
      · cases cs with
        | nil => exact ⟨[c], _, rfl, hcd, trails_exponent _⟩
        | cons b cs =>
          exact ⟨[c], _, rfl, hcd, trails_both
            ⟨List.cons_ne_nil b cs, fun d hd => hdigits d (List.mem_cons_of_mem c hd)⟩ _⟩

/-- Every double is written as a numeral. -/
theorem exists_numeral_chars (x : Double) : ∃ n, NumeralText n x.chars := by
  obtain ⟨ds, more, hl, hw, ht⟩ := layout_numeral (digits_chars x)
  have hx : x.chars = minus x.negative ++ (ds ++ more) := by
    rw [← hl]
    rfl
  rw [hx]
  exact exists_numeral hw ht x.negative

end KernelHub.Double
