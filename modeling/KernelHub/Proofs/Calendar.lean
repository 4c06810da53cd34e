import KernelHub.Calendar

/-
The calendar. A day of an era lies in a century of the era, in four years of the century and in
a year of the four; only the last year of four has one day more, unless it ends a century that
does not end the era. So every day has a date that exists, and the date leads back to the day.
-/

namespace KernelHub.Calendar

/-! ## Days of an era -/

/-- Where a day is in its era: in which century, in which four years of the century, and which
day of the four years it is. -/
structure Place where
  century : Nat
  four : Nat
  day : Nat
  century_le : century ≤ 3
  four_le : four ≤ 24
  day_le : day ≤ 1460
  /-- The last day of a century is there in the last century only. -/
  last : day = 1460 → four = 24 → century = 3

namespace Place

/-- The day of the era. -/
def inEra (p : Place) : Nat := 36524 * p.century + 1461 * p.four + p.day

/-- The year of the four. -/
def year (p : Place) : Nat := min (p.day / 365) 3

/-- The day of the year. -/
def inYear (p : Place) : Nat := p.day - 365 * p.year

theorem year_le (p : Place) : p.year ≤ 3 := Nat.min_le_right _ _

theorem inYear_le (p : Place) : p.inYear ≤ 365 := by
  have := p.day_le
  simp only [inYear, year]
  omega

end Place

/-- Every day of an era has its place. -/
theorem exists_place {day : Nat} (h : day < 146097) : ∃ p : Place, p.inEra = day := by
  -- The last century is a day longer than the others.
  obtain ⟨c, r, rfl, hc, hr⟩ : ∃ c r, 36524 * c + r = day ∧ c ≤ 3 ∧ r ≤ 36524 ∧
      (r = 36524 → c = 3) := by
    by_cases hlast : day < 36524 * 3
    · exact ⟨day / 36524, day % 36524, by omega, by omega, by omega, by omega⟩
    · exact ⟨3, day - 36524 * 3, by omega, by omega, by omega, by omega⟩
  obtain ⟨k, s, rfl, hs⟩ : ∃ k s, 1461 * k + s = r ∧ s ≤ 1460 :=
    ⟨r / 1461, r % 1461, by omega, by omega⟩
  exact ⟨⟨c, k, s, hc, by omega, hs, fun h1 h2 => hr.2 (by omega)⟩, Nat.add_assoc _ _ _⟩

/-- The rule of four years counts a day too many near the end of the four, where it does no harm. -/
theorem fours_inEra (p : Place) : ∃ e, p.inEra / 1460 = 25 * p.century + p.four + e ∧
    (e = 0 ∧ p.day < 1460 ∨ e = 1 ∧ 1364 ≤ p.day) := by
  have hc := p.century_le
  have hk := p.four_le
  have hs := p.day_le
  refine ⟨(p.day + p.four + 24 * p.century) / 1460, ?_, by omega⟩
  simp only [Place.inEra]
  omega

/-- The rule of centuries counts the last day of the era for the next one. -/
theorem centuries_inEra (p : Place) : p.inEra / 36524 = p.century + p.inEra / 146096 := by
  have hd : p.century = 3 ∧ p.inEra = 146096 ∨
      36524 * p.century ≤ p.inEra ∧ p.inEra < 36524 * p.century + 36524 := by
    have hc := p.century_le
    have hk := p.four_le
    have hs := p.day_le
    have hl := p.last
    simp only [Place.inEra]
    omega
  have hc := p.century_le
  omega

theorem yearOfDay_inEra (p : Place) :
    yearOfDay p.inEra = 100 * p.century + 4 * p.four + p.year := by
  obtain ⟨e, he, hlate⟩ := fours_inEra p
  have hs := p.day_le
  have hle : e ≤ p.day := by omega
  have hsum : p.inEra - p.inEra / 1460 + p.inEra / 36524 - p.inEra / 146096 =
      365 * (100 * p.century + 4 * p.four) + (p.day - e) := by
    rw [he, centuries_inEra, ← Nat.add_assoc, Nat.add_sub_cancel]
    simp only [Place.inEra]
    omega
  rw [yearOfDay, hsum, Nat.mul_add_div (by decide)]
  simp only [Place.year]
  omega

theorem yearStart_inEra (p : Place) : yearStart (yearOfDay p.inEra) + p.inYear = p.inEra := by
  have hk := p.four_le
  have hs := p.day_le
  rw [yearOfDay_inEra]
  simp only [yearStart, Place.inEra, Place.inYear, Place.year]
  omega

/-- A year that has a last day more is followed by a leap year. -/
theorem long_year (p : Place) (h : p.inYear = 365) :
    (yearOfDay p.inEra + 1) % 4 = 0 ∧
      ((yearOfDay p.inEra + 1) % 100 ≠ 0 ∨ yearOfDay p.inEra + 1 = 400) := by
  have hk := p.four_le
  have hs := p.day_le
  have hl := p.last
  rw [yearOfDay_inEra]
  simp only [Place.inYear, Place.year] at h ⊢
  omega

/-! ## Days of a year -/

/-- Days in the months of the year that starts in March. -/
def marchMonths : List Nat := [31, 30, 31, 30, 31, 31, 30, 31, 30, 31, 31, 29]

/-- The month of a day, counted from March, and the day of the month. Only the last day of a long
year is the last one of the last month. -/
theorem month_of_day : ∀ n ≤ 365, daysBefore ((5 * n + 2) / 153) ≤ n ∧ (5 * n + 2) / 153 < 12 ∧
    n - daysBefore ((5 * n + 2) / 153) < marchMonths.getD ((5 * n + 2) / 153) 0 ∧
    ((5 * n + 2) / 153 = 11 → n - daysBefore ((5 * n + 2) / 153) = 28 → n = 365) := by
  decide +kernel

/-! ## Dates -/

/-- The place of a day in its era. -/
theorem exists_day (days : Int) : ∃ p : Place, ((days + epochDay) % eraDays).toNat = p.inEra ∧
    days = (days + epochDay) / eraDays * eraDays + p.inEra - epochDay := by
  have hlt : ((days + epochDay) % eraDays).toNat < 146097 := by
    simp only [eraDays]
    omega
  obtain ⟨p, hp⟩ := exists_place hlt
  refine ⟨p, hp.symm, ?_⟩
  rw [hp]
  simp only [eraDays]
  omega

theorem ofDays_eq (days : Int) : ∃ (p : Place) (era : Int),
    days = era * eraDays + p.inEra - epochDay ∧
    ofDays days =
      let month := (5 * p.inYear + 2) / 153
      let year := era * 400 + (yearOfDay p.inEra : Int)
      { year := if month < 10 then year else year + 1
        month := if month < 10 then month + 3 else month - 9
        day := p.inYear - daysBefore month + 1 } := by
  obtain ⟨p, hp, hd⟩ := exists_day days
  refine ⟨p, _, hd, ?_⟩
  have hy : p.inEra - yearStart (yearOfDay p.inEra) = p.inYear := by
    have := yearStart_inEra p
    omega
  simp only [ofDays, hp, hy]

theorem yearOfDay_lt (p : Place) : yearOfDay p.inEra < 400 := by
  have hc := p.century_le
  have hk := p.four_le
  have hy := p.year_le
  rw [yearOfDay_inEra]
  omega

/-- The date of a day leads back to the day. -/
theorem toDays_ofDays (days : Int) : toDays (ofDays days) = days := by
  obtain ⟨p, era, hd, he⟩ := ofDays_eq days
  obtain ⟨hb, hm, -, -⟩ := month_of_day p.inYear p.inYear_le
  have hy := yearOfDay_lt p
  have hs := yearStart_inEra p
  rw [he]
  simp only [toDays]
  generalize (5 * p.inYear + 2) / 153 = m at hb hm
  generalize yearOfDay p.inEra = y at hy hs
  have hera : (era * 400 + (y : Int)) / 400 = era := by omega
  have hmod : ((era * 400 + (y : Int)) % 400).toNat = y := by omega
  by_cases h10 : m < 10
  · have h2 : ¬ m + 3 ≤ 2 := by omega
    simp only [if_pos h10, if_neg h2, hera, hmod, Nat.add_sub_cancel]
    omega
  · have h2 : m - 9 ≤ 2 := by omega
    have h9 : m - 9 + 9 = m := by omega
    simp only [if_neg h10, if_pos h2, h9, Int.add_sub_cancel, hera, hmod, Nat.add_sub_cancel]
    omega

theorem daysInMonth_of_ne {month : Nat} (h : month ≠ 2) (year : Int) :
    daysInMonth year month = daysInMonth 0 month := by
  simp only [daysInMonth, if_neg h]

/-- All months but the last of the year from March are equally long in every year. -/
theorem marchMonths_eq : ∀ m < 11, (if m < 10 then m + 3 else m - 9) ≠ 2 ∧
    daysInMonth 0 (if m < 10 then m + 3 else m - 9) = marchMonths.getD m 0 := by
  decide

/-- After a long year of an era comes a leap year. -/
theorem isLeap_after {p : Place} (h : p.inYear = 365) (era : Int) :
    isLeap (era * 400 + (yearOfDay p.inEra : Int) + 1) = true := by
  obtain ⟨h4, h100⟩ := long_year p h
  generalize yearOfDay p.inEra = y at h4 h100
  simp only [isLeap, Bool.and_eq_true, Bool.or_eq_true, decide_eq_true_eq]
  omega

/-- The date of a day exists. -/
theorem valid_ofDays (days : Int) : (ofDays days).Valid := by
  obtain ⟨p, era, hd, he⟩ := ofDays_eq days
  obtain ⟨hb, hm, hlen, hlong⟩ := month_of_day p.inYear p.inYear_le
  rw [he]
  simp only [Date.Valid]
  generalize hmonth : (5 * p.inYear + 2) / 153 = m at hb hm hlen hlong
  refine ⟨by split <;> omega, by split <;> omega, by omega, ?_⟩
  by_cases h11 : m = 11
  · subst h11
    have hlt : p.inYear - daysBefore 11 < 29 := hlen
    simp only [daysInMonth, show ¬ 11 < 10 by decide, if_false, show 11 - 9 = 2 from rfl, if_true]
    split
    · omega
    · next hl =>
      have h28 : p.inYear - daysBefore 11 ≠ 28 := fun h =>
        hl (isLeap_after (hlong rfl h) era)
      omega
  · obtain ⟨hne, heq⟩ := marchMonths_eq m (by omega)
    rw [daysInMonth_of_ne hne, heq]
    exact hlen

theorem daysInMonth_le (year : Int) (month : Nat) : daysInMonth year month ≤ 31 := by
  simp only [daysInMonth]
  split
  · split <;> decide
  · split <;> decide

end KernelHub.Calendar
