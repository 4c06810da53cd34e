import KernelHub.Instant
import KernelHub.Text.Blank

/-
Reading points in time. The strict form has fields of fixed width and nothing
around them; the relaxed form admits blanks between the parts, short fields, years
of any length and an offset without a colon. Both convert the offset away.
-/

namespace KernelHub.Instant

/-- At least `least` and at most `most` digits. -/
def number (least most : Nat) (cs : List Char) : Option (Nat × List Char) :=
  let ds := (cs.take most).takeWhile Char.isDigit
  if ds.length < least then none
  else some (ds.foldl (fun n c => 10 * n + (c.toNat - 48)) 0, cs.drop ds.length)

/-- A run of digits of any length, at least one. -/
def longNumber (cs : List Char) : Option (Nat × List Char) := number 1 cs.length cs

/-- One given character. -/
def mark (c : Char) : List Char → Option (List Char)
  | d :: cs => if d = c then some cs else none
  | [] => none

/-- The letter or blank between date and time. -/
def dayMark : List Char → Option (List Char)
  | d :: cs => if d = 'T' ∨ d = 't' ∨ d = ' ' then some cs else none
  | [] => none

/-- The fraction of a second in nanoseconds; digits after the ninth are dropped. -/
def fraction (cs : List Char) : Option (Nat × List Char) :=
  match cs with
  | '.' :: rest => do
    let (n, after) ← number 1 9 rest
    return (n * Nat.pow 10 (9 - (rest.length - after.length)), after.dropWhile Char.isDigit)
  | _ => some (0, cs)

/-- The sign of an offset: a plus, a hyphen or a minus. Is it negative? -/
def offsetSign : List Char → Option (Bool × List Char)
  | c :: cs =>
    if c = '+' then some (false, cs)
    else if c = '-' ∨ c = '\u2212' then some (true, cs)
    else none
  | [] => none

/-- What a written time says. -/
structure Fields where
  date : Calendar.Date
  hour : Nat
  minute : Nat
  second : Nat
  nanos : Nat
  /-- Minutes east of UTC. -/
  offset : Int
deriving DecidableEq, Repr

/-- The point in time that the fields name. Second 60 is a leap second, in any minute. -/
def Fields.instant? (f : Fields) : Option Instant :=
  let days := Calendar.toDays f.date * secondsPerDay
  if f.date.Valid ∧ f.hour ≤ 23 ∧ f.minute ≤ 59 ∧ f.second ≤ 60 ∧
      first ≤ days ∧ days ≤ last then
    let clock := f.hour * 3600 + f.minute * 60 + min f.second 59
    ofUnix? (days + clock - f.offset * 60) (f.nanos + if f.second = 60 then billion else 0)
  else none

/-! ## The strict form -/

/-- A `Z`, or hours below 24 and minutes with a colon. -/
def strictOffset : List Char → Option (Int × List Char)
  | 'Z' :: cs => some (0, cs)
  | 'z' :: cs => some (0, cs)
  | cs => do
    let (negative, cs) ← offsetSign cs
    let (h, cs) ← number 2 2 cs
    let cs ← mark ':' cs
    let (m, cs) ← number 2 2 cs
    if h ≤ 23 ∧ m ≤ 59 then
      let n : Int := h * 60 + m
      return (if negative then -n else n, cs)
    else none

def strictFields (cs : List Char) : Option (Fields × List Char) := do
  let (year, cs) ← number 4 4 cs
  let cs ← mark '-' cs
  let (month, cs) ← number 2 2 cs
  let cs ← mark '-' cs
  let (day, cs) ← number 2 2 cs
  let cs ← dayMark cs
  let (hour, cs) ← number 2 2 cs
  let cs ← mark ':' cs
  let (minute, cs) ← number 2 2 cs
  let cs ← mark ':' cs
  let (second, cs) ← number 2 2 cs
  let (nanos, cs) ← fraction cs
  let (offset, cs) ← strictOffset cs
  return (⟨⟨year, month, day⟩, hour, minute, second, nanos, offset⟩, cs)

/-- Reads the strict form. -/
def ofStrict? (s : String) : Option Instant :=
  match strictFields s.toList with
  | some (f, []) => f.instant?
  | _ => none

/-! ## The relaxed form -/

/-- A signed year of any length, or one to four digits. -/
def relaxedYear (cs : List Char) : Option (Int × List Char) :=
  match cs with
  | '-' :: rest => (longNumber rest).map fun (n, cs) => (-n, cs)
  | '+' :: rest => (longNumber rest).map fun (n, cs) => (n, cs)
  | _ => (number 1 4 cs).map fun (n, cs) => (n, cs)

/-- A field of one or two digits with blanks before and after. -/
def relaxedField (cs : List Char) : Option (Nat × List Char) :=
  (number 1 2 (Text.skipBlanks cs)).map fun (n, cs) => (n, Text.skipBlanks cs)

/-- The letters `UTC` in any case, `Z`, or two digits of hours and two of minutes with any
blanks and colons between. -/
def relaxedOffset (cs : List Char) : Option (Int × List Char) :=
  if (cs.take 3).map Char.toUpper = ['U', 'T', 'C'] then some (0, cs.drop 3)
  else
    match cs with
    | 'Z' :: cs => some (0, cs)
    | 'z' :: cs => some (0, cs)
    | _ => do
      let (negative, cs) ← offsetSign cs
      let (h, cs) ← number 2 2 cs
      let (m, cs) ← number 2 2 (cs.dropWhile fun c => c = ':' || Text.isBlank c)
      if h ≤ 23 ∧ m ≤ 59 then
        let n : Int := h * 60 + m
        return (if negative then -n else n, cs)
      else none

def relaxedFields (cs : List Char) : Option (Fields × List Char) := do
  let (year, cs) ← relaxedYear (Text.skipBlanks cs)
  let cs ← mark '-' (Text.skipBlanks cs)
  let (month, cs) ← relaxedField cs
  let cs ← mark '-' cs
  let (day, cs) ← number 1 2 (Text.skipBlanks cs)
  let cs ← dayMark cs
  let (hour, cs) ← relaxedField cs
  let cs ← mark ':' cs
  let (minute, cs) ← relaxedField cs
  let cs ← mark ':' cs
  let (second, cs) ← number 1 2 (Text.skipBlanks cs)
  let (nanos, cs) ← fraction cs
  let (offset, cs) ← relaxedOffset (Text.skipBlanks cs)
  return (⟨⟨year, month, day⟩, hour, minute, second, nanos, offset⟩, cs)

/-- Reads the relaxed form. -/
def ofRelaxed? (s : String) : Option Instant :=
  match relaxedFields s.toList with
  | some (f, rest) => if rest.all Text.isBlank then f.instant? else none
  | none => none

end KernelHub.Instant
