import KernelHub.Instant.Reader

/-
Dates and times of TOML: a date, a time, or both, and with both an offset. A second
60 is admitted in every minute, digits after the ninth behind the point are dropped.
-/

namespace KernelHub.Toml

/-- A time of day. -/
structure Clock where
  hour : Nat
  minute : Nat
  second : Nat
  nanos : Nat
deriving DecidableEq, Repr

/-- How far a time is from UTC. -/
inductive Offset
  | utc
  | minutes (east : Int)
deriving DecidableEq, Repr

/-- A date or a time of TOML. -/
inductive Moment
  | date (d : Calendar.Date)
  | dateTime (d : Calendar.Date) (c : Clock) (o : Option Offset)
  | clock (c : Clock)
deriving DecidableEq, Repr

/-! ## Writing -/

/-- A number with zeros in front. -/
def padded (width n : Nat) : String :=
  let ds := (Nat.toDigits 10 n)
  String.ofList (List.replicate (width - ds.length) '0' ++ ds)

/-- The fraction of a second, without the zeros at its end. -/
def fractionText (nanos : Nat) : String :=
  if nanos = 0 then ""
  else "." ++ String.ofList (((padded 9 nanos).toList.reverse.dropWhile (· = '0')).reverse)

def dateText (d : Calendar.Date) : String :=
  padded 4 d.year.toNat ++ "-" ++ padded 2 d.month ++ "-" ++ padded 2 d.day

def Clock.text (c : Clock) : String :=
  padded 2 c.hour ++ ":" ++ padded 2 c.minute ++ ":" ++ padded 2 c.second ++ fractionText c.nanos

def Offset.text : Offset → String
  | .utc => "Z"
  | .minutes n =>
    (if n < 0 then "-" else "+") ++ padded 2 (n.natAbs / 60) ++ ":" ++ padded 2 (n.natAbs % 60)

def Moment.text : Moment → String
  | .date d => dateText d
  | .dateTime d c o => dateText d ++ "T" ++ c.text ++ (o.map Offset.text).getD ""
  | .clock c => c.text

/-! ## Reading -/

namespace Moment

open Instant (number mark dayMark)

/-- Two digits and a colon, and then a time. -/
def readClock (cs : List Char) : Option (Clock × List Char) := do
  let (hour, cs) ← number 2 2 cs
  let cs ← mark ':' cs
  let (minute, cs) ← number 2 2 cs
  let cs ← mark ':' cs
  let (second, cs) ← number 2 2 cs
  let (nanos, cs) ← Instant.fraction cs
  if hour ≤ 23 ∧ minute ≤ 59 ∧ second ≤ 60 then return (⟨hour, minute, second, nanos⟩, cs)
  else none

def readDate (cs : List Char) : Option (Calendar.Date × List Char) := do
  let (year, cs) ← number 4 4 cs
  let cs ← mark '-' cs
  let (month, cs) ← number 2 2 cs
  let cs ← mark '-' cs
  let (day, cs) ← number 2 2 cs
  let d : Calendar.Date := ⟨year, month, day⟩
  if d.Valid then return (d, cs) else none

/-- The offset, if there is one. -/
def readOffset (cs : List Char) : Option (Option Offset × List Char) :=
  match cs with
  | 'Z' :: rest => some (some .utc, rest)
  | 'z' :: rest => some (some .utc, rest)
  | c :: rest =>
    if c = '+' ∨ c = '-' then do
      let (hour, rest) ← number 2 2 rest
      let rest ← mark ':' rest
      let (minute, rest) ← number 2 2 rest
      if hour ≤ 23 ∧ minute ≤ 59 then
        let n : Int := hour * 60 + minute
        return (some (.minutes (if c = '-' then -n else n)), rest)
      else none
    else some (none, cs)
  | [] => some (none, cs)

/-- Does a time start here? -/
def startsClock (cs : List Char) : Bool := (number 2 2 cs >>= fun p => mark ':' p.2).isSome

/-- Does a date start here? -/
def startsDate (cs : List Char) : Bool := (number 4 4 cs >>= fun p => mark '-' p.2).isSome

/-- A date, and the time behind it if there is one. -/
def readDateTime (cs : List Char) : Option (Moment × List Char) := do
  let (d, cs) ← readDate cs
  match dayMark cs with
  | some rest =>
    if startsClock rest then do
      let (c, rest) ← readClock rest
      let (o, rest) ← readOffset rest
      return (.dateTime d c o, rest)
    else return (.date d, cs)
  | none => return (.date d, cs)

end Moment

end KernelHub.Toml
