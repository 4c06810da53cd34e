/-
The civil calendar: dates of the proleptic Gregorian calendar and the number of
days since 1970-01-01. A year is counted from March, so that the leap day comes
last; 400 years make an era of 146097 days.
-/

namespace KernelHub.Calendar

/-- A year, a month and a day. -/
structure Date where
  year : Int
  month : Nat
  day : Nat
deriving DecidableEq, Repr

/-- Days in an era of 400 years. -/
def eraDays : Int := 146097

/-- The day of the first era that 1970-01-01 is. -/
def epochDay : Int := 719468

/-- The days before a month of the year that starts in March. -/
def daysBefore (month : Nat) : Nat := (153 * month + 2) / 5

/-- The days from the start of an era to the start of its `year`th year. -/
def yearStart (year : Nat) : Nat := 365 * year + year / 4 - year / 100

/-- The year of an era that a day falls into. -/
def yearOfDay (day : Nat) : Nat := (day - day / 1460 + day / 36524 - day / 146096) / 365

/-- The days from 1970-01-01 to a date. -/
def toDays (d : Date) : Int :=
  let year := if d.month ≤ 2 then d.year - 1 else d.year
  let month := if d.month ≤ 2 then d.month + 9 else d.month - 3
  let inEra := (year % 400).toNat
  year / 400 * eraDays + (yearStart inEra + daysBefore month + (d.day - 1) : Nat) - epochDay

/-- The date that many days after 1970-01-01. -/
def ofDays (days : Int) : Date :=
  let shifted := days + epochDay
  let day := (shifted % eraDays).toNat
  let inEra := yearOfDay day
  let inYear := day - yearStart inEra
  let month := (5 * inYear + 2) / 153
  let year := shifted / eraDays * 400 + inEra
  { year := if month < 10 then year else year + 1
    month := if month < 10 then month + 3 else month - 9
    day := inYear - daysBefore month + 1 }

def isLeap (year : Int) : Bool := year % 4 = 0 && (year % 100 ≠ 0 || year % 400 = 0)

def daysInMonth (year : Int) (month : Nat) : Nat :=
  if month = 2 then (if isLeap year then 29 else 28)
  else if month = 4 ∨ month = 6 ∨ month = 9 ∨ month = 11 then 30
  else 31

/-- Dates that exist. -/
def Date.Valid (d : Date) : Prop :=
  1 ≤ d.month ∧ d.month ≤ 12 ∧ 1 ≤ d.day ∧ d.day ≤ daysInMonth d.year d.month

instance (d : Date) : Decidable d.Valid := by unfold Date.Valid; infer_instance

end KernelHub.Calendar
