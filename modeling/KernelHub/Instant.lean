import KernelHub.Calendar

/-
Points in time to the nanosecond, in UTC, from the year -262143 to the year
262142. A leap second is a second with nanoseconds from a second on. Any second
can be held that way, but those that belong in a calendar are the last of their
minute. The written form shows a leap second as the next one, and takes the
fewest of 0, 3, 6 or 9 fraction digits that lose nothing.
-/

namespace KernelHub

namespace Instant

/-- The seconds of -262143-01-01T00:00:00 since 1970. -/
def first : Int := -8334601228800

/-- The seconds of 262142-12-31T23:59:59 since 1970. -/
def last : Int := 8210266876799

def billion : Nat := 1000000000

/-- Seconds and nanoseconds that name a point in time. -/
def Valid (seconds : Int) (nanos : Nat) : Prop :=
  first ≤ seconds ∧ seconds ≤ last ∧ nanos < 2 * billion

instance (s : Int) (n : Nat) : Decidable (Valid s n) := by unfold Valid; infer_instance

/-- Leap seconds stand at the end of a minute only. -/
def Regular (seconds : Int) (nanos : Nat) : Prop := nanos < billion ∨ seconds % 60 = 59

instance (s : Int) (n : Nat) : Decidable (Regular s n) := by unfold Regular; infer_instance

end Instant

/-- A point in time: seconds since 1970 and nanoseconds. -/
structure Instant where
  seconds : Int
  nanos : Nat
  valid : Instant.Valid seconds nanos
deriving DecidableEq

namespace Instant

/-- The start of 1970. -/
def epoch : Instant := ⟨0, 0, by decide⟩

instance : Inhabited Instant := ⟨epoch⟩

/-- Takes no leap second that is not at the end of a minute. -/
def ofUnix? (seconds : Int) (nanos : Nat) : Option Instant :=
  if h : Valid seconds nanos ∧ Regular seconds nanos then some ⟨seconds, nanos, h.1⟩ else none

def secondsPerDay : Int := 86400

def date (t : Instant) : Calendar.Date := Calendar.ofDays (t.seconds / secondsPerDay)

/-- Seconds since midnight. -/
def secondOfDay (t : Instant) : Nat := (t.seconds % secondsPerDay).toNat

/-! ## Writing -/

/-- The digit of a value below ten. -/
def digit (n : Nat) : Char := Char.ofNat (48 + n)

/-- The `width` last decimal digits of a number. -/
def padded (width n : Nat) : List Char :=
  (List.range width).map fun i => digit (n / Nat.pow 10 (width - 1 - i) % 10)

/-- Four digits for the years 0 to 9999; every other year has a sign and at least
four digits. -/
def yearChars (y : Int) : List Char :=
  if 0 ≤ y ∧ y ≤ 9999 then padded 4 y.toNat
  else
    let ds := if y.natAbs < 1000 then padded 4 y.natAbs else Nat.toDigits 10 y.natAbs
    (if y < 0 then '-' else '+') :: ds

def dateChars (d : Calendar.Date) : List Char :=
  yearChars d.year ++ '-' :: padded 2 d.month ++ '-' :: padded 2 d.day

/-- Hours, minutes and seconds; a leap second counts as the next one, which is the sixtieth at the
end of a minute. -/
def clockChars (secondOfDay : Nat) (leap : Bool) : List Char :=
  padded 2 (secondOfDay / 3600) ++ ':' :: padded 2 (secondOfDay / 60 % 60) ++
    ':' :: padded 2 (secondOfDay % 60 + if leap then 1 else 0)

/-- The fraction with the fewest of 0, 3, 6 or 9 digits. -/
def fractionChars (nanos : Nat) : List Char :=
  if nanos = 0 then []
  else if nanos % 1000000 = 0 then '.' :: padded 3 (nanos / 1000000)
  else if nanos % 1000 = 0 then '.' :: padded 6 (nanos / 1000)
  else '.' :: padded 9 nanos

/-- Date and time without the fraction. -/
def wholeChars (t : Instant) : List Char :=
  dateChars t.date ++ 'T' :: clockChars t.secondOfDay (billion ≤ t.nanos)

/-- The written form. -/
def chars (t : Instant) : List Char :=
  t.wholeChars ++ fractionChars (t.nanos % billion) ++ ['Z']

instance : ToString Instant := ⟨fun t => String.ofList t.chars⟩

/-- The written form with always six digits of fraction, as message headers have it. -/
def stamp (t : Instant) : String :=
  String.ofList (t.wholeChars ++ '.' :: padded 6 (t.nanos % billion / 1000) ++ ['Z'])

end Instant

end KernelHub
