import Mathlib.Algebra.Group.Nat.Defs
import KernelHub.Instant.Reader
import KernelHub.Proofs.Calendar

/-
The written form of a point in time is read back: the fields have fixed widths where they must,
the year ends at a hyphen, and what the fields say is the point in time again, a leap second at
the end of a minute included. Elsewhere a leap second looks like the second after it, and is read
as that one. The fraction has no more digits than it takes.
-/

namespace KernelHub.Instant

/-! ## Digits -/

theorem digit_eq {n : Nat} (h : n < 10) : digit n = Nat.digitChar n := by
  have hd : ∀ n < 10, digit n = Nat.digitChar n := by decide
  exact hd n h

theorem padded_succ (width n : Nat) :
    padded (width + 1) n = padded width (n / 10) ++ [Nat.digitChar (n % 10)] := by
  have hd : digit (n % 10) = Nat.digitChar (n % 10) := digit_eq (Nat.mod_lt _ (by decide))
  rw [padded, List.range_succ, List.map_append, List.map_singleton]
  congr 1
  · refine List.map_congr_left fun i hi => ?_
    have hw : width + 1 - 1 - i = width - 1 - i + 1 := by
      have := List.mem_range.1 hi
      omega
    rw [hw, Nat.pow_eq, Nat.pow_succ, Nat.mul_comm, ← Nat.div_div_eq_div_mul]
    rfl
  · simp [hd]

theorem length_padded (width n : Nat) : (padded width n).length = width := by simp [padded]

theorem padded_ne_nil {width : Nat} (hw : width ≠ 0) (n : Nat) : padded width n ≠ [] :=
  fun he => hw (by rw [← length_padded width n, he]; rfl)

theorem isDigit_padded (width n : Nat) : ∀ c ∈ padded width n, c.isDigit = true := by
  induction width generalizing n with
  | zero => exact nofun
  | succ width ih =>
    rw [padded_succ, List.forall_mem_append, List.forall_mem_singleton, Nat.isDigit_digitChar]
    exact ⟨ih (n / 10), decide_eq_true (Nat.mod_lt n (by decide))⟩

/-- Padded digits have the value of the number, as far as they go. -/
theorem ofDigitChars_padded (width n : Nat) :
    Nat.ofDigitChars 10 (padded width n) 0 = n % 10 ^ width := by
  induction width generalizing n with
  | zero => simp [padded, Nat.mod_one]
  | succ width ih =>
    rw [padded_succ, Nat.ofDigitChars_append, ih,
      Nat.ofDigitChars_cons_digitChar_of_lt_ten (Nat.mod_lt n (by decide)), Nat.ofDigitChars_nil,
      Nat.pow_succ, Nat.mul_comm (10 ^ width), Nat.mod_mul, Nat.add_comm]

theorem value_padded {width n : Nat} (h : n < 10 ^ width) :
    Nat.ofDigitChars 10 (padded width n) 0 = n := by
  rw [ofDigitChars_padded, Nat.mod_eq_of_lt h]

/-! ## Reading numbers -/

variable {cs rest : List Char}

/-- No digit comes first. -/
def Stops (cs : List Char) : Prop := ∀ c, cs.head? = some c → c.isDigit = false

theorem stops_cons {c : Char} (hc : c.isDigit = false) (cs : List Char) : Stops (c :: cs) := by
  intro d hd
  cases hd
  exact hc

theorem takeWhile_of_stops (hr : Stops rest) : rest.takeWhile Char.isDigit = [] := by
  cases rest with
  | nil => rfl
  | cons c rest => exact List.takeWhile_cons_of_neg (by simp [hr c rfl])

theorem stops_take (hr : Stops rest) (n : Nat) : Stops (rest.take n) := by
  cases n with
  | zero => exact nofun
  | succ n =>
    cases rest with
    | nil => exact nofun
    | cons c rest => exact stops_cons (hr c rfl) _

/-- Digits are read up to where they stop. -/
theorem number_digits {least most : Nat} {ds : List Char} (hd : ∀ c ∈ ds, c.isDigit = true)
    (hl : least ≤ ds.length) (hm : ds.length ≤ most) (hr : Stops rest) :
    number least most (ds ++ rest) = some (Nat.ofDigitChars 10 ds 0, rest) := by
  have ht : ((ds ++ rest).take most).takeWhile Char.isDigit = ds := by
    rw [List.take_append, List.take_of_length_le hm, List.takeWhile_append_of_pos hd,
      takeWhile_of_stops (stops_take hr _), List.append_nil]
  simp only [number, ht, if_neg (Nat.not_lt.2 hl), List.drop_left]
  rfl

theorem isBlank_of_isDigit {c : Char} (hc : c.isDigit = true) : Text.isBlank c = false := by
  have hn : 48 ≤ c.toNat ∧ c.toNat ≤ 57 := by
    simpa [Char.isDigit, UInt32.le_iff_toNat_le] using hc
  simp only [Text.isBlank, Bool.or_eq_false_iff, Bool.and_eq_false_iff, decide_eq_false_iff_not]
  omega

theorem skipBlanks_cons {c : Char} (hc : Text.isBlank c = false) (cs : List Char) :
    Text.skipBlanks (c :: cs) = c :: cs := List.dropWhile_cons_of_neg (by simp [hc])

theorem skipBlanks_digits {ds : List Char} (hd : ∀ c ∈ ds, c.isDigit = true) (hne : ds ≠ []) :
    Text.skipBlanks (ds ++ rest) = ds ++ rest := by
  cases ds with
  | nil => exact absurd rfl hne
  | cons d ds => exact skipBlanks_cons (isBlank_of_isDigit (hd d List.mem_cons_self)) _

/-- A field of two digits, whatever blanks might have come before it. -/
theorem number_padded {n : Nat} (hn : n < 100) (hr : Stops rest) :
    number 1 2 (Text.skipBlanks (padded 2 n ++ rest)) = some (n, rest) := by
  have hl := length_padded 2 n
  rw [skipBlanks_digits (isDigit_padded 2 n) (padded_ne_nil (by decide) n),
    number_digits (isDigit_padded 2 n) (by omega) (by omega) hr, value_padded hn]

theorem relaxedField_padded {n : Nat} (hn : n < 100) {c : Char} (hd : c.isDigit = false)
    (hb : Text.isBlank c = false) :
    relaxedField (padded 2 n ++ c :: rest) = some (n, c :: rest) := by
  rw [relaxedField, number_padded hn (stops_cons hd rest), Option.map_some]
  simp only [skipBlanks_cons hb]

/-! ## Years -/

theorem relaxedYear_digits {ds : List Char} (hd : ∀ c ∈ ds, c.isDigit = true) (hl : ds.length = 4)
    (hr : Stops rest) :
    relaxedYear (ds ++ rest) = some (((Nat.ofDigitChars 10 ds 0 : Nat) : Int), rest) := by
  have hn : number 1 4 (ds ++ rest) = some (Nat.ofDigitChars 10 ds 0, rest) :=
    number_digits hd (by omega) (by omega) hr
  cases ds with
  | nil => cases hl
  | cons c ds =>
    have hc := hd c List.mem_cons_self
    rw [relaxedYear.eq_def]
    split
    · next he =>
      rw [(List.cons.inj he).1] at hc
      cases hc
    · next he =>
      rw [(List.cons.inj he).1] at hc
      cases hc
    · rw [hn]
      rfl

theorem longNumber_digits {ds : List Char} (hd : ∀ c ∈ ds, c.isDigit = true) (hl : 1 ≤ ds.length)
    (hr : Stops rest) : longNumber (ds ++ rest) = some (Nat.ofDigitChars 10 ds 0, rest) := by
  refine number_digits hd hl ?_ hr
  rw [List.length_append]
  omega

/-- The digits of a year with a sign. -/
theorem signed_digits (n : Nat) : ∃ ds, (if n < 1000 then padded 4 n else Nat.toDigits 10 n) = ds ∧
    (∀ c ∈ ds, c.isDigit = true) ∧ 1 ≤ ds.length ∧ Nat.ofDigitChars 10 ds 0 = n := by
  refine ⟨_, rfl, ?_⟩
  split
  · next hn =>
    exact ⟨isDigit_padded 4 n, by rw [length_padded]; decide, value_padded (by omega)⟩
  · exact ⟨fun c hc => Nat.isDigit_of_mem_toDigits (by decide) (by decide) hc,
      Nat.length_toDigits_pos, Nat.ofDigitChars_ten_toDigits⟩

/-- A year is read back up to where its digits stop. -/
theorem relaxedYear_yearChars (y : Int) (hr : Stops rest) :
    relaxedYear (Text.skipBlanks (yearChars y ++ rest)) = some (y, rest) := by
  rw [yearChars]
  split
  · next hy =>
    have hl := length_padded 4 y.toNat
    rw [skipBlanks_digits (isDigit_padded 4 _) (padded_ne_nil (by decide) _),
      relaxedYear_digits (isDigit_padded 4 _) hl hr, value_padded (by omega),
      Int.toNat_of_nonneg hy.1]
  · next hy =>
    obtain ⟨ds, he, hd, hl, hv⟩ := signed_digits y.natAbs
    simp only [he]
    split
    all_goals
      rw [List.cons_append, skipBlanks_cons rfl, relaxedYear, longNumber_digits hd hl hr, hv,
        Option.map_some]
      simp only [Option.some.injEq, Prod.mk.injEq, and_true]
      omega

/-! ## Fractions -/

/-- Digits after a point, or nothing. -/
def pointed (ds : List Char) : List Char := if ds = [] then [] else '.' :: ds

/-- The digits are the fraction of a second, and no fewer of the widths would do. -/
structure Fewest (ds : List Char) (nanos : Nat) : Prop where
  digits : ∀ c ∈ ds, c.isDigit = true
  width : ds.length ∈ [0, 3, 6, 9]
  exact : Nat.ofDigitChars 10 ds 0 * 10 ^ (9 - ds.length) = nanos
  fewest : ∀ k ∈ [0, 3, 6, 9], 10 ^ (9 - k) ∣ nanos → ds.length ≤ k

theorem pointed_padded {width n : Nat} (hw : width ≠ 0) :
    pointed (padded width n) = '.' :: padded width n := if_neg (padded_ne_nil hw n)

/-- A width is the least if the next smaller one does not do. -/
theorem fewest_padded {width n nanos : Nat} (hw : width ∈ [3, 6, 9]) (hn : n < 10 ^ width)
    (he : n * 10 ^ (9 - width) = nanos) (hf : ¬ 10 ^ (12 - width) ∣ nanos) :
    Fewest (padded width n) nanos where
  digits := isDigit_padded width n
  width := by
    rw [length_padded]
    exact List.mem_cons_of_mem 0 hw
  exact := by rwa [value_padded hn, length_padded]
  fewest k hk hd := by
    rw [length_padded]
    refine Nat.le_of_not_lt fun hlt => ?_
    have hle : 12 - width ≤ 9 - k := by
      simp only [List.mem_cons, List.not_mem_nil, or_false] at hw hk
      omega
    exact hf (Nat.dvd_trans (Nat.pow_dvd_pow 10 hle) hd)

/-- The fraction is written with the fewest digits. -/
theorem exists_fewest {nanos : Nat} (hn : nanos < billion) :
    ∃ ds, fractionChars nanos = pointed ds ∧ Fewest ds nanos := by
  rw [billion] at hn
  rw [fractionChars]
  by_cases h0 : nanos = 0
  · rw [if_pos h0]
    refine ⟨[], rfl, nofun, by decide, ?_, fun _ _ _ => Nat.zero_le _⟩
    rw [h0]
    rfl
  rw [if_neg h0]
  by_cases h3 : nanos % 1000000 = 0
  · rw [if_pos h3]
    exact ⟨_, (pointed_padded (by decide)).symm,
      fewest_padded (by decide) (by omega) (by omega) (by omega)⟩
  rw [if_neg h3]
  by_cases h6 : nanos % 1000 = 0
  · rw [if_pos h6]
    exact ⟨_, (pointed_padded (by decide)).symm,
      fewest_padded (by decide) (by omega) (by omega) (by omega)⟩
  · rw [if_neg h6]
    exact ⟨_, (pointed_padded (by decide)).symm,
      fewest_padded (by decide) (by omega) (by omega) (by omega)⟩

/-- The fraction of a second is read back. -/
theorem fraction_pointed {ds : List Char} {nanos : Nat} (hf : Fewest ds nanos) :
    fraction (pointed ds ++ ['Z']) = some (nanos, ['Z']) := by
  have hw : ds.length ≤ 9 := by
    have := hf.width
    simp only [List.mem_cons, List.not_mem_nil, or_false] at this
    omega
  rw [pointed]
  split
  · next h =>
    have h0 := hf.exact
    rw [h] at h0
    rw [← h0]
    rfl
  · next h =>
    have hl : 1 ≤ ds.length := List.length_pos_iff.2 h
    have hd : (ds ++ ['Z']).length - ['Z'].length = ds.length := by simp
    rw [List.cons_append, fraction, number_digits hf.digits hl hw (stops_cons rfl [])]
    change some (_ * Nat.pow 10 (9 - ((ds ++ ['Z']).length - ['Z'].length)), _) = _
    rw [hd, Nat.pow_eq, hf.exact]
    rfl

/-- A fraction does not start with a digit. -/
theorem stops_pointed (ds : List Char) : Stops (pointed ds ++ ['Z']) := by
  rw [pointed]
  split
  · exact stops_cons rfl _
  · exact stops_cons rfl _

/-! ## The written form -/

theorem chars_eq (t : Instant) : t.chars = yearChars t.date.year ++ '-' ::
    (padded 2 t.date.month ++ '-' :: (padded 2 t.date.day ++ 'T' ::
      (padded 2 (t.secondOfDay / 3600) ++ ':' :: (padded 2 (t.secondOfDay / 60 % 60) ++ ':' ::
        (padded 2 (t.secondOfDay % 60 + if billion ≤ t.nanos then 1 else 0) ++
          (fractionChars (t.nanos % billion) ++ ['Z'])))))) := by
  simp only [chars, wholeChars, dateChars, clockChars, List.append_assoc, List.cons_append,
    decide_eq_true_eq]

/-- What the written form says. -/
def fields (t : Instant) : Fields where
  date := t.date
  hour := t.secondOfDay / 3600
  minute := t.secondOfDay / 60 % 60
  second := t.secondOfDay % 60 + if billion ≤ t.nanos then 1 else 0
  nanos := t.nanos % billion
  offset := 0

theorem mark_self (c : Char) (cs : List Char) : mark c (c :: cs) = some cs := if_pos rfl

theorem secondOfDay_lt (t : Instant) : t.secondOfDay < 86400 := by
  simp only [secondOfDay, secondsPerDay]
  omega

/-- All fields but the year have two digits. -/
theorem two_digits (t : Instant) : t.date.month < 100 ∧ t.date.day < 100 ∧
    t.secondOfDay / 3600 < 100 ∧ t.secondOfDay / 60 % 60 < 100 ∧
      (t.secondOfDay % 60 + if billion ≤ t.nanos then 1 else 0) < 100 := by
  obtain ⟨-, h12, -, hd⟩ := Calendar.valid_ofDays (t.seconds / secondsPerDay)
  have hs := t.secondOfDay_lt
  refine ⟨Nat.lt_of_le_of_lt h12 (by decide),
    Nat.lt_of_le_of_lt (Nat.le_trans hd (Calendar.daysInMonth_le _ _)) (by decide), by omega,
    by omega, ?_⟩
  split <;> omega

theorem relaxedFields_chars (t : Instant) : relaxedFields t.chars = some (t.fields, []) := by
  obtain ⟨hmonth, hday, hhour, hminute, hsecond⟩ := t.two_digits
  obtain ⟨ds, he, hf⟩ := exists_fewest (Nat.mod_lt t.nanos (by decide))
  rw [chars_eq, he]
  simp only [relaxedFields, Option.bind_eq_bind, Option.bind_some, mark_self,
    relaxedYear_yearChars _ (stops_cons (c := '-') rfl _), skipBlanks_cons (c := '-') rfl,
    relaxedField_padded hmonth (c := '-') rfl rfl, number_padded hday (stops_cons (c := 'T') rfl _),
    dayMark, true_or, if_true, relaxedField_padded hhour (c := ':') rfl rfl,
    relaxedField_padded hminute (c := ':') rfl rfl, number_padded hsecond (stops_pointed ds),
    fraction_pointed hf, skipBlanks_cons (c := 'Z') rfl]
  rfl

/-- The same point in time with leap seconds at the end of a minute only: from any other one a
whole second is carried. -/
def carried (t : Instant) : Instant :=
  if h : Regular t.seconds t.nanos then t
  else
    { seconds := t.seconds + 1
      nanos := t.nanos - billion
      valid := by
        obtain ⟨hfirst, hlast, hn⟩ := t.valid
        simp only [Regular, Valid, first, last, billion] at h hfirst hlast hn ⊢
        omega }

theorem regular_carried (t : Instant) : Regular t.carried.seconds t.carried.nanos := by
  rw [carried]
  split
  · next h => exact h
  · have hn := t.valid.2.2
    exact .inl (by simp only [billion] at hn ⊢; omega)

/-- What is carried does not show in the written form: it stays within the minute. -/
theorem fields_carried (t : Instant) : t.carried.fields = t.fields := by
  rw [carried]
  split
  · rfl
  · next h =>
    have hn := t.valid.2.2
    simp only [Regular, not_or, Nat.not_lt] at h
    have hday : (t.seconds + 1) / secondsPerDay = t.seconds / secondsPerDay := by
      simp only [secondsPerDay]
      omega
    have hsecond : ((t.seconds + 1) % secondsPerDay).toNat =
        (t.seconds % secondsPerDay).toNat + 1 := by
      simp only [secondsPerDay]
      omega
    have h59 : (t.seconds % secondsPerDay).toNat % 60 ≠ 59 := by
      simp only [secondsPerDay]
      omega
    have hnanos : (t.nanos - billion) % billion = t.nanos % billion := by
      simp only [billion] at h ⊢
      omega
    have hplain : ¬ billion ≤ t.nanos - billion := by
      simp only [billion] at hn ⊢
      omega
    simp only [fields, date, secondOfDay, hday, hsecond, hnanos, if_pos h.1, if_neg hplain,
      Fields.mk.injEq]
    generalize (t.seconds % secondsPerDay).toNat = s at h59 ⊢
    exact ⟨trivial, by omega, by omega, by omega, trivial, trivial⟩

/-- The fields name the point in time; the last second of a minute that is a leap second is
written as the sixtieth and taken back. -/
theorem instant?_fields_of_regular (t : Instant) (hr : Regular t.seconds t.nanos) :
    t.fields.instant? = some t := by
  obtain ⟨hfirst, hlast, hn⟩ := t.valid
  have hdays : Calendar.toDays t.date = t.seconds / secondsPerDay := Calendar.toDays_ofDays _
  have hvalid : t.date.Valid := Calendar.valid_ofDays _
  have hs := t.secondOfDay_lt
  have hsod : (t.secondOfDay : Int) = t.seconds % secondsPerDay := by
    simp only [secondOfDay, secondsPerDay]
    omega
  have hcond : t.fields.date.Valid ∧ t.fields.hour ≤ 23 ∧ t.fields.minute ≤ 59 ∧
      t.fields.second ≤ 60 ∧ first ≤ Calendar.toDays t.fields.date * secondsPerDay ∧
      Calendar.toDays t.fields.date * secondsPerDay ≤ last := by
    simp only [fields, hdays, first, last, secondsPerDay] at hfirst hlast ⊢
    refine ⟨hvalid, by omega, by omega, ?_, by omega, by omega⟩
    split <;> omega
  rw [Fields.instant?, if_pos hcond]
  have hsecond : min t.fields.second 59 = t.secondOfDay % 60 ∧
      (t.fields.second = 60 ↔ billion ≤ t.nanos) := by
    simp only [fields]
    split
    · next hl =>
      have h59 : t.secondOfDay % 60 = 59 := by
        have := hr.resolve_left (Nat.not_lt.2 hl)
        simp only [secondsPerDay] at hsod
        omega
      omega
    · omega
  have hseconds : Calendar.toDays t.fields.date * secondsPerDay +
      ((t.fields.hour * 3600 + t.fields.minute * 60 + min t.fields.second 59 : Nat) : Int) -
        t.fields.offset * 60 = t.seconds := by
    rw [hsecond.1]
    simp only [fields, hdays, secondsPerDay] at hsod ⊢
    omega
  have hnanos : t.fields.nanos + (if t.fields.second = 60 then billion else 0) = t.nanos := by
    have hf : t.fields.nanos = t.nanos % billion := rfl
    have hb : billion = 1000000000 := rfl
    by_cases hl : billion ≤ t.nanos
    · rw [if_pos (hsecond.2.2 hl), hf, hb]
      omega
    · rw [if_neg fun h => hl (hsecond.2.1 h), hf, hb]
      omega
  simp only [hseconds, hnanos]
  exact dif_pos ⟨t.valid, hr⟩

/-- So the fields name the point in time up to what is carried. -/
theorem instant?_fields (t : Instant) : t.fields.instant? = some t.carried := by
  rw [← fields_carried]
  exact instant?_fields_of_regular t.carried t.regular_carried

/-- A point in time is read back from its written form, leap seconds as they stand in a calendar. -/
theorem ofRelaxed?_toString (t : Instant) : ofRelaxed? (toString t) = some t.carried := by
  have hc : (toString t).toList = t.chars := String.toList_ofList
  rw [ofRelaxed?, hc, relaxedFields_chars]
  exact instant?_fields t

/-! ## The strict reader -/

theorem number_exactly {width n : Nat} (hn : n < 10 ^ width) (hr : Stops rest) :
    number width width (padded width n ++ rest) = some (n, rest) := by
  have hl := length_padded width n
  rw [number_digits (isDigit_padded width n) (by omega) (by omega) hr, value_padded hn]

/-- The strict reader knows the years of four digits. -/
theorem strictFields_chars (t : Instant) (h : 0 ≤ t.date.year ∧ t.date.year ≤ 9999) :
    strictFields t.chars = some (t.fields, []) := by
  obtain ⟨hmonth, hday, hhour, hminute, hsecond⟩ := t.two_digits
  obtain ⟨ds, he, hf⟩ := exists_fewest (Nat.mod_lt t.nanos (by decide))
  have hyear : t.date.year.toNat < 10 ^ 4 := by omega
  have two {n : Nat} {rest : List Char} (hn : n < 100) (hr : Stops rest) :
      number 2 2 (padded 2 n ++ rest) = some (n, rest) := number_exactly hn hr
  rw [chars_eq, he, yearChars, if_pos h]
  simp only [strictFields, Option.bind_eq_bind, Option.bind_some, mark_self,
    number_exactly hyear (stops_cons (c := '-') rfl _),
    two hmonth (stops_cons (c := '-') rfl _), two hday (stops_cons (c := 'T') rfl _), dayMark,
    true_or, if_true, two hhour (stops_cons (c := ':') rfl _),
    two hminute (stops_cons (c := ':') rfl _), two hsecond (stops_pointed ds), fraction_pointed hf,
    Int.toNat_of_nonneg h.1]
  rfl

/-- So a point in time in these years is read back by it, too. -/
theorem ofStrict?_toString (t : Instant) (h : 0 ≤ t.date.year ∧ t.date.year ≤ 9999) :
    ofStrict? (toString t) = some t.carried := by
  have hc : (toString t).toList = t.chars := String.toList_ofList
  rw [ofStrict?, hc, strictFields_chars t h]
  exact instant?_fields t

end KernelHub.Instant
