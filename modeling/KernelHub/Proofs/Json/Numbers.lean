import KernelHub.Json.Printer
import KernelHub.Json.Reader

/-
Numbers. A number is written as a minus or none, digits, a fraction and an exponent. Just that is
what the reader takes off the front of a text, and where it ends shows from what follows. A whole
number is written in digits that the reader takes as they are.
-/

namespace KernelHub.Json

namespace Document

variable {cs ds rest more s t : List Char}

/-- No digit comes first. -/
def NoDigit (cs : List Char) : Prop := ∀ c, cs.head? = some c → c.isDigit = false

/-- Nothing comes first that could belong to a number. -/
def Ends (cs : List Char) : Prop :=
  ∀ c, cs.head? = some c → c.isDigit = false ∧ c ≠ '.' ∧ c ≠ 'e' ∧ c ≠ 'E'

theorem ends_nil : Ends [] := nofun

theorem noDigit_cons {c : Char} (hc : c.isDigit = false) (cs : List Char) : NoDigit (c :: cs) := by
  intro d hd
  cases hd
  exact hc

theorem Ends.noDigit (h : Ends cs) : NoDigit cs := fun c hc => (h c hc).1

theorem ends_cons {c : Char} (hd : c.isDigit = false) (hc : c ≠ '.' ∧ c ≠ 'e' ∧ c ≠ 'E')
    (cs : List Char) : Ends (c :: cs) := by
  intro d hd'
  cases hd'
  exact ⟨hd, hc⟩

/-! ### Digits -/

/-- One digit or more. -/
structure Digits (ds : List Char) : Prop where
  ne_nil : ds ≠ []
  isDigit : ∀ c ∈ ds, c.isDigit = true

theorem Digits.exists_cons (h : Digits ds) : ∃ c cs, ds = c :: cs ∧ c.isDigit = true := by
  obtain ⟨c, cs, rfl⟩ := List.exists_cons_of_ne_nil h.ne_nil
  exact ⟨c, cs, rfl, h.isDigit c List.mem_cons_self⟩

theorem digitRun_eq : digitRun cs = (ds, rest) ↔
    cs = ds ++ rest ∧ (∀ c ∈ ds, c.isDigit = true) ∧ NoDigit rest := by
  constructor
  · intro h
    obtain ⟨rfl, rfl⟩ := Prod.mk.inj h
    refine ⟨List.takeWhile_append_dropWhile.symm, List.all_eq_true.1 List.all_takeWhile,
      fun c hc => ?_⟩
    have hn := List.head?_dropWhile_not Char.isDigit cs
    rw [hc] at hn
    exact hn
  · rintro ⟨rfl, hd, hr⟩
    rw [digitRun, List.takeWhile_append_of_pos hd, List.dropWhile_append_of_pos hd]
    cases rest with
    | nil => simp
    | cons c rest => simp [hr c rfl]

/-- Digits, but not none of them, and what follows. -/
def someDigits (cs : List Char) : Option (List Char × List Char) :=
  match digitRun cs with
  | ([], _) => none
  | (ds, rest) => some (ds, rest)

theorem someDigits_eq_some :
    someDigits cs = some (ds, rest) ↔ cs = ds ++ rest ∧ Digits ds ∧ NoDigit rest := by
  have hrun : someDigits cs = some (ds, rest) ↔ ds ≠ [] ∧ digitRun cs = (ds, rest) := by
    rw [someDigits]
    split
    · next hr => exact ⟨nofun, fun h => absurd (Prod.mk.inj (hr.symm.trans h.2)).1.symm h.1⟩
    · next ds' rest' hne hr =>
      simp only [hr, Option.some.injEq, iff_and_self, Prod.mk.injEq]
      rintro ⟨rfl, -⟩ he
      exact hne he
  rw [hrun, digitRun_eq]
  exact ⟨fun ⟨hne, h, hd, hr⟩ => ⟨h, ⟨hne, hd⟩, hr⟩, fun ⟨h, hd, hr⟩ => ⟨hd.1, h, hd.2, hr⟩⟩

/-! ### Before the point -/

/-- A lone zero, or digits that start with another. -/
structure Whole (ds : List Char) : Prop where
  digits : Digits ds
  zero : ds.head? = some '0' → ds = ['0']

theorem wholeRun_of_not {c : Char} (hc : c ≠ '0') (cs : List Char) :
    wholeRun (c :: cs) = someDigits (c :: cs) := by
  rw [wholeRun]
  · rfl
  · rintro _ he
    exact hc (List.cons.inj he).1

theorem wholeRun_zero : wholeRun ('0' :: cs) = some (ds, rest) ↔
    ds = ['0'] ∧ rest = cs ∧ NoDigit cs := by
  have hn : ((cs.head?.map Char.isDigit).getD false = true) ↔ ¬ NoDigit cs := by
    cases cs with
    | nil => exact ⟨nofun, fun h => absurd nofun h⟩
    | cons c cs => simp [NoDigit]
  rw [wholeRun]
  by_cases h : NoDigit cs
  · rw [if_neg (mt hn.1 (not_not_intro h))]
    constructor
    · rintro ⟨⟩
      exact ⟨rfl, rfl, h⟩
    · rintro ⟨rfl, rfl, -⟩
      rfl
  · rw [if_pos (hn.2 h)]
    exact ⟨nofun, fun hr => absurd hr.2.2 h⟩

theorem wholeRun_eq_some :
    wholeRun cs = some (ds, rest) ↔ cs = ds ++ rest ∧ Whole ds ∧ NoDigit rest := by
  cases cs with
  | nil =>
    refine ⟨nofun, ?_⟩
    rintro ⟨h, hw, -⟩
    exact absurd (List.append_eq_nil_iff.1 h.symm).1 hw.digits.ne_nil
  | cons c cs =>
    by_cases hc : c = '0'
    · subst hc
      rw [wholeRun_zero]
      constructor
      · rintro ⟨rfl, rfl, hr⟩
        exact ⟨rfl, ⟨⟨List.cons_ne_nil _ _, List.forall_mem_singleton.2 rfl⟩, fun _ => rfl⟩, hr⟩
      · rintro ⟨h, hw, hr⟩
        obtain ⟨d, ds, rfl, -⟩ := hw.digits.exists_cons
        obtain ⟨rfl, h⟩ := List.cons.inj h
        obtain ⟨-, rfl⟩ := List.cons.inj (hw.zero rfl)
        cases h
        exact ⟨rfl, rfl, hr⟩
    · rw [wholeRun_of_not hc, someDigits_eq_some]
      refine and_congr_right fun h => and_congr_left fun _ => ⟨fun hd => ⟨hd, fun h0 => ?_⟩,
        Whole.digits⟩
      obtain ⟨d, ds, rfl, -⟩ := hd.exists_cons
      exact absurd ((List.cons.inj h).1.trans (Option.some.inj h0)) hc

/-! ### Behind the point -/

/-- A point and digits, or nothing. -/
inductive Fraction : List Char → List Char → Prop
  | absent : Fraction [] []
  | digits (ds : List Char) (hd : Digits ds) : Fraction ds ('.' :: ds)

theorem fractionRun_of_not (h : cs.head? ≠ some '.') : fractionRun cs = some ([], cs) := by
  rw [fractionRun]
  rintro _ rfl
  exact h rfl

theorem fractionRun_sound (h : fractionRun cs = some (ds, rest)) :
    ∃ t, Fraction ds t ∧ cs = t ++ rest := by
  by_cases hc : cs.head? = some '.'
  · obtain ⟨cs, rfl⟩ := List.head?_eq_some_iff.1 hc
    obtain ⟨rfl, hd, -⟩ := someDigits_eq_some.1 h
    exact ⟨_, .digits ds hd, rfl⟩
  · cases (fractionRun_of_not hc).symm.trans h
    exact ⟨[], .absent, rfl⟩

theorem Fraction.run (h : Fraction ds t) (hm : NoDigit more) (hp : more.head? ≠ some '.') :
    fractionRun (t ++ more) = some (ds, more) := by
  cases h with
  | absent => exact fractionRun_of_not hp
  | digits ds hd => exact someDigits_eq_some.2 ⟨rfl, hd, hm⟩

/-- A fraction does not start like digits. -/
theorem Fraction.starts (h : Fraction ds t) (hm : NoDigit more) : NoDigit (t ++ more) := by
  cases h with
  | absent => exact hm
  | digits ds hd => exact noDigit_cons rfl _

/-! ### Exponents -/

/-- The sign of an exponent. -/
inductive Sign : Bool → List Char → Prop
  | none : Sign false []
  | plus : Sign false ['+']
  | minus : Sign true ['-']

/-- A letter, a sign and digits, or nothing. -/
inductive Exponent : Option (Bool × List Char) → List Char → Prop
  | absent : Exponent none []
  | digits (c : Char) (down : Bool) (s ds : List Char) (hc : c = 'e' ∨ c = 'E') (hs : Sign down s)
    (hd : Digits ds) : Exponent (some (down, ds)) (c :: (s ++ ds))

/-- The sign of an exponent, and what follows. -/
def signRun (cs : List Char) : Bool × List Char :=
  match cs with
  | '+' :: rest => (false, rest)
  | '-' :: rest => (true, rest)
  | _ => (false, cs)

theorem signRun_sound (cs : List Char) : ∃ s, Sign (signRun cs).1 s ∧ cs = s ++ (signRun cs).2 := by
  rw [signRun.eq_def]
  split
  · exact ⟨_, .plus, rfl⟩
  · exact ⟨_, .minus, rfl⟩
  · exact ⟨_, .none, rfl⟩

theorem Sign.run {down : Bool} (h : Sign down s) (hd : Digits ds) (more : List Char) :
    signRun (s ++ (ds ++ more)) = (down, ds ++ more) := by
  obtain ⟨c, ds, rfl, hc⟩ := hd.exists_cons
  cases h with
  | none =>
    change signRun (c :: (ds ++ more)) = _
    rw [signRun.eq_def]
    split
    · next he => cases (List.cons.inj he).1 ▸ hc
    · next he => cases (List.cons.inj he).1 ▸ hc
    · rfl
  | plus => rfl
  | minus => rfl

theorem exponentRun_of_not (h : cs.head? ≠ some 'e' ∧ cs.head? ≠ some 'E') :
    exponentRun cs = some (none, cs) := by
  cases cs with
  | nil => rfl
  | cons c cs =>
    refine if_neg (not_or.2 ⟨?_, ?_⟩)
    · rintro rfl
      exact h.1 rfl
    · rintro rfl
      exact h.2 rfl

theorem exponentRun_sign {c : Char} (hc : c = 'e' ∨ c = 'E') (cs : List Char) :
    exponentRun (c :: cs) =
      (someDigits (signRun cs).2).map fun (ds, rest) => (some ((signRun cs).1, ds), rest) := by
  have he : exponentRun (c :: cs) = match digitRun (signRun cs).2 with
      | ([], _) => none
      | (ds, rest) => some (some ((signRun cs).1, ds), rest) := by
    rw [exponentRun.eq_def]
    exact (if_pos hc).trans rfl
  rw [he, someDigits]
  split <;> rfl

theorem exponentRun_sound {x : Option (Bool × List Char)} (h : exponentRun cs = some (x, rest)) :
    ∃ t, Exponent x t ∧ cs = t ++ rest := by
  by_cases hc : cs.head? ≠ some 'e' ∧ cs.head? ≠ some 'E'
  · cases (exponentRun_of_not hc).symm.trans h
    exact ⟨[], .absent, rfl⟩
  · obtain ⟨c, cs, rfl, he⟩ : ∃ c more, cs = c :: more ∧ (c = 'e' ∨ c = 'E') := by
      obtain hc | hc := Decidable.not_and_iff_not_or_not.1 hc <;> rw [Decidable.not_not] at hc
      · obtain ⟨cs, rfl⟩ := List.head?_eq_some_iff.1 hc
        exact ⟨_, cs, rfl, .inl rfl⟩
      · obtain ⟨cs, rfl⟩ := List.head?_eq_some_iff.1 hc
        exact ⟨_, cs, rfl, .inr rfl⟩
    rw [exponentRun_sign he] at h
    obtain ⟨⟨ds, rest⟩, hd, heq⟩ := Option.map_eq_some_iff.1 h
    cases heq
    obtain ⟨s, hs, hcs⟩ := signRun_sound cs
    obtain ⟨hr, hd, -⟩ := someDigits_eq_some.1 hd
    refine ⟨_, .digits c _ s ds he hs hd, ?_⟩
    rw [hcs, hr]
    simp

theorem Exponent.run {x : Option (Bool × List Char)} (h : Exponent x t) (hm : Ends more) :
    exponentRun (t ++ more) = some (x, more) := by
  cases h with
  | absent => exact exponentRun_of_not ⟨fun h => (hm _ h).2.2.1 rfl, fun h => (hm _ h).2.2.2 rfl⟩
  | digits c down s ds hc hs hd =>
    rw [List.cons_append, List.append_assoc, exponentRun_sign hc, hs.run hd,
      someDigits_eq_some.2 ⟨rfl, hd, hm.noDigit⟩]
    rfl

/-- An exponent does not start like digits or a fraction. -/
theorem Exponent.starts {x : Option (Bool × List Char)} (h : Exponent x t) (hm : Ends more) :
    NoDigit (t ++ more) ∧ (t ++ more).head? ≠ some '.' := by
  cases h with
  | absent => exact ⟨hm.noDigit, fun h => (hm _ h).2.1 rfl⟩
  | digits c down s ds hc hs hd => obtain rfl | rfl := hc <;> exact ⟨noDigit_cons rfl _, by simp⟩

/-! ### Numerals -/

/-- A minus, if there is one. -/
def minus (negative : Bool) : List Char := if negative then ['-'] else []

/-- A numeral as it stands in a text. -/
inductive NumeralText : Numeral → List Char → Prop
  | mk (n : Numeral) (f x : List Char) (hw : Whole n.whole) (hf : Fraction n.fraction f)
    (hx : Exponent n.exponent x) : NumeralText n (minus n.negative ++ (n.whole ++ (f ++ x)))

/-- The sign of a number, and what follows. -/
def minusRun (cs : List Char) : Bool × List Char :=
  match cs with
  | '-' :: rest => (true, rest)
  | _ => (false, cs)

theorem minusRun_sound (cs : List Char) : cs = minus (minusRun cs).1 ++ (minusRun cs).2 := by
  rw [minusRun.eq_def]
  split <;> rfl

theorem minusRun_minus (hd : Digits ds) (negative : Bool) (more : List Char) :
    minusRun (minus negative ++ (ds ++ more)) = (negative, ds ++ more) := by
  obtain ⟨c, ds, rfl, hc⟩ := hd.exists_cons
  cases negative with
  | true => rfl
  | false =>
    change minusRun (c :: (ds ++ more)) = _
    rw [minusRun]
    · rfl
    · rintro _ he
      cases (List.cons.inj he).1 ▸ hc

theorem numeral_eq_some {n : Numeral} : numeral cs = some (n, rest) ↔
    ∃ fs es, wholeRun (minusRun cs).2 = some (n.whole, fs) ∧
      fractionRun fs = some (n.fraction, es) ∧ exponentRun es = some (n.exponent, rest) ∧
      n.negative = (minusRun cs).1 := by
  have he : numeral cs = (do
      let w ← wholeRun (minusRun cs).2
      let f ← fractionRun w.2
      let e ← exponentRun f.2
      return (⟨(minusRun cs).1, w.1, f.1, e.1⟩, e.2)) := by
    rw [numeral.eq_def]
    rfl
  simp only [he, Option.bind_eq_bind, Option.bind_eq_some_iff, Option.pure_def, Option.some.injEq,
    Prod.exists, Prod.mk.injEq]
  constructor
  · rintro ⟨whole, fs, hw, fraction, es, hf, exponent, rest', hx, rfl, rfl⟩
    exact ⟨fs, es, hw, hf, hx, rfl⟩
  · rintro ⟨fs, es, hw, hf, hx, hn⟩
    exact ⟨_, fs, hw, _, es, hf, _, _, hx, by rw [← hn], rfl⟩

/-- What is read as a numeral is one. -/
theorem numeral_sound {n : Numeral} (h : numeral cs = some (n, rest)) :
    ∃ t, NumeralText n t ∧ cs = t ++ rest := by
  obtain ⟨fs, es, hw, hf, hx, hn⟩ := numeral_eq_some.1 h
  obtain ⟨f, hf', rfl⟩ := fractionRun_sound hf
  obtain ⟨x, hx', rfl⟩ := exponentRun_sound hx
  obtain ⟨hcs, hw', -⟩ := wholeRun_eq_some.1 hw
  refine ⟨_, .mk n f x hw' hf' hx', ?_⟩
  rw [minusRun_sound cs, hcs, hn]
  simp

/-- A numeral is read before whatever cannot belong to it. -/
theorem NumeralText.run {n : Numeral} (h : NumeralText n t) (hm : Ends more) :
    numeral (t ++ more) = some (n, more) := by
  obtain ⟨f, x, hw, hf, hx⟩ := h
  obtain ⟨hd, hp⟩ := hx.starts hm
  have hr := minusRun_minus hw.digits n.negative (f ++ (x ++ more))
  simp only [List.append_assoc]
  refine numeral_eq_some.2
    ⟨f ++ (x ++ more), x ++ more, ?_, hf.run hd hp, hx.run hm, ?_⟩ <;> rw [hr]
  exact wholeRun_eq_some.2 ⟨rfl, hw, hf.starts hd⟩

/-- A number starts with a minus or a digit. -/
theorem NumeralText.starts {n : Numeral} (h : NumeralText n t) :
    ∃ c more, t = c :: more ∧ (c = '-' ∨ c.isDigit = true) := by
  obtain ⟨f, x, hw, hf, hx⟩ := h
  obtain ⟨c, ds, he, hc⟩ := hw.digits.exists_cons
  rw [he]
  cases n.negative with
  | true => exact ⟨_, _, rfl, .inl rfl⟩
  | false => exact ⟨_, _, rfl, .inr hc⟩

/-! ## Whole numbers -/

theorem digits_toDigits (k : Nat) : Digits (Nat.toDigits 10 k) :=
  ⟨Nat.toDigits_ne_nil, fun _ hc => Nat.isDigit_of_mem_toDigits (by decide) (by decide) hc⟩

/-- The digits of a number other than zero do not start with a zero. -/
theorem exists_toDigits {k : Nat} (hk : 0 < k) : ∃ c cs, Nat.toDigits 10 k = c :: cs ∧ c ≠ '0' := by
  induction k using Nat.strongRecOn with
  | _ k ih =>
    by_cases hlt : k < 10
    · refine ⟨_, _, Nat.toDigits_of_lt_base hlt, fun h => ?_⟩
      exact absurd (Nat.digitChar_eq_zero.1 h) (by omega)
    · obtain ⟨c, cs, he, hc⟩ := ih (k / 10) (by omega) (by omega)
      refine ⟨c, cs ++ [Nat.digitChar (k % 10)], ?_, hc⟩
      rw [Nat.toDigits_of_base_le (by decide) (by omega), he]
      rfl

theorem whole_toDigits (k : Nat) : Whole (Nat.toDigits 10 k) := by
  refine ⟨digits_toDigits k, fun h => ?_⟩
  cases k with
  | zero => rfl
  | succ k =>
    obtain ⟨c, cs, he, hc⟩ := exists_toDigits (Nat.succ_pos k)
    rw [he] at h
    exact absurd (Option.some.inj h) hc

/-- What a whole number is written as. -/
def intNumeral (n : Int) : Numeral := ⟨decide (n < 0), Nat.toDigits 10 n.natAbs, [], none⟩

theorem toList_int (n : Int) :
    (toString n).toList = minus (decide (n < 0)) ++ Nat.toDigits 10 n.natAbs := by
  rw [Int.toString_eq_repr, Int.repr_eq_if]
  split
  · next h =>
    have hn : n.toNat = n.natAbs := by omega
    rw [Nat.toList_repr, hn, decide_eq_false (by omega)]
    rfl
  · next h =>
    have hn : (-n).toNat = n.natAbs := by omega
    rw [String.toList_append, Nat.toList_repr, hn, decide_eq_true (by omega)]
    rfl

theorem intNumeral_text (n : Int) : NumeralText (intNumeral n) (toString n).toList := by
  have h := NumeralText.mk (intNumeral n) [] [] (whole_toDigits n.natAbs) .absent .absent
  rw [List.append_nil, List.append_nil] at h
  rw [toList_int]
  exact h

end Document
/-- Digits of a number that fits are taken as they are. -/
theorem Numeral.absorb_of_lt (ds : List Char) {k : Nat}
    (h : Nat.ofDigitChars 10 ds k < UInt64.size) :
    absorb k ds = (Nat.ofDigitChars 10 ds k, []) := by
  induction ds generalizing k with
  | nil => rfl
  | cons c ds ih =>
    rw [Nat.ofDigitChars_cons] at h ⊢
    have hle : 10 * k + (c.toNat - 48) ≤ Nat.ofDigitChars 10 ds (10 * k + (c.toNat - 48)) := by
      rw [Nat.ofDigitChars_eq_ofDigitChars_zero]
      have := Nat.le_mul_of_pos_left (10 * k + (c.toNat - 48))
        (Nat.pow_pos (a := 10) (n := ds.length) (by decide))
      omega
    rw [absorb, if_pos (Nat.lt_of_le_of_lt hle h)]
    exact ih h

/-- A whole number of 64 bits is read back as itself. -/
theorem value?_int {n : Int} (h : -0x8000000000000000 ≤ n ∧ n < UInt64.size) :
    (Document.intNumeral n).value? = some (.int n) := by
  have hs : UInt64.size = 0x10000000000000000 := rfl
  rw [hs] at h
  have ha : Numeral.absorb 0 (Nat.toDigits 10 n.natAbs) = (n.natAbs, []) := by
    have hd := Numeral.absorb_of_lt (Nat.toDigits 10 n.natAbs) (k := 0)
    rw [Nat.ofDigitChars_ten_toDigits, hs] at hd
    exact hd (by omega)
  have hsig : (Document.intNumeral n).significand = (n.natAbs, 0) := by
    simp [Numeral.significand, Document.intNumeral, ha, Numeral.absorb]
  have hdec : (Document.intNumeral n).isDecimal = false := rfl
  have hneg : (Document.intNumeral n).negative = decide (n < 0) := rfl
  rw [Numeral.value?, hsig]
  simp only [hdec, hneg, Bool.not_false, if_true, ne_eq, not_true, if_false]
  by_cases hn : n < 0
  · have hb : 0 < n.natAbs ∧ n.natAbs ≤ 0x8000000000000000 := by omega
    have he : -(n.natAbs : Int) = n := by omega
    simp only [hn, decide_true, Bool.not_true, Bool.false_eq_true, if_false, if_pos hb, he]
  · have he : (n.natAbs : Int) = n := by omega
    simp only [hn, decide_false, Bool.not_false, if_true, he]

end KernelHub.Json
