/-
The ASCII form of a label of a host name: its ASCII characters, then for the others, in
the order of their code points, how far each lies from the one before, as digits to
base 36 with thresholds that adapt.
-/

namespace KernelHub.Url.Punycode

/-- A digit to base 36: letters first. -/
def digit (d : Nat) : Char := if d < 26 then Char.ofNat (97 + d) else Char.ofNat (22 + d)

/-- The least value of a last digit at a place. -/
def threshold (place bias : Nat) : Nat :=
  if place ≤ bias + 1 then 1 else if bias + 26 ≤ place then 26 else place - bias

/-- Divides while the distance is large. -/
def settle : Nat → Nat → Nat → Nat
  | 0, _, place => place
  | fuel + 1, distance, place =>
    if 455 < distance then settle fuel (distance / 35) (place + 36)
    else place + 36 * distance / (distance + 38)

/-- The bias after a distance was written. -/
def adapt (distance count : Nat) (first : Bool) : Nat :=
  let d := if first then distance / 700 else distance / 2
  settle d (d + d / count) 0

/-- The digits of a distance. -/
def digits (bias : Nat) : Nat → Nat → Nat → List Char
  | 0, _, _ => []
  | fuel + 1, place, q =>
    let t := threshold place bias
    if q < t then [digit q]
    else digit (t + (q - t) % (36 - t)) :: digits bias fuel (place + 36) ((q - t) / (36 - t))

/-- How far the writing has come. -/
structure Progress where
  out : List Char
  delta : Nat
  bias : Nat
  handled : Nat

/-- Meets one character while those with code point `m` are written. -/
def meet (basic m : Nat) (p : Progress) (c : Char) : Progress :=
  if c.toNat < m then { p with delta := p.delta + 1 }
  else if c.toNat = m then
    { out := p.out ++ digits p.bias (p.delta + 1) 36 p.delta
      delta := 0
      bias := adapt p.delta (p.handled + 1) (p.handled = basic)
      handled := p.handled + 1 }
  else p

/-- Writes the characters with the given code points, which increase. -/
def rounds (label : List Char) (basic : Nat) : Nat → List Nat → Progress → Progress
  | _, [], p => p
  | n, m :: ms, p =>
    let p := { p with delta := p.delta + (m - n) * (p.handled + 1) }
    let p := label.foldl (meet basic m) p
    rounds label basic (m + 1) ms { p with delta := p.delta + 1 }

/-- The ASCII form of a label, without the mark that tells it apart. -/
def encode (label : List Char) : List Char :=
  let basic := label.filter fun c => c.toNat < 128
  let others := ((label.map Char.toNat).filter (128 ≤ ·)).mergeSort.eraseReps
  let start : Progress := ⟨[], 0, 72, basic.length⟩
  basic ++ (if basic = [] then [] else ['-']) ++ (rounds label basic.length 128 others start).out

/-! ## Reading -/

def value? (c : Char) : Option Nat :=
  if c.isLower then some (c.toNat - 97)
  else if c.isUpper then some (c.toNat - 65)
  else if c.isDigit then some (c.toNat - 22)
  else none

/-- Reads the digits of a distance, and adds it to a sum. -/
def readDigits (bias : Nat) : List Char → Nat → Nat → Nat → Option (Nat × List Char)
  | [], _, _, _ => none
  | c :: cs, place, weight, sum =>
    match value? c with
    | none => none
    | some d =>
      if d < threshold place bias then some (sum + d * weight, cs)
      else
        readDigits bias cs (place + 36) (weight * (36 - threshold place bias)) (sum + d * weight)

theorem length_of_readDigits {bias : Nat} {cs : List Char} {place weight sum : Nat}
    {r : Nat × List Char} (h : readDigits bias cs place weight sum = some r) :
    r.2.length < cs.length := by
  induction cs generalizing place weight sum with
  | nil => simp [readDigits] at h
  | cons c cs ih =>
    rw [readDigits] at h
    split at h
    · simp at h
    · split at h
      · rw [← Option.some.inj h]
        simp
      · have := ih h
        simp only [List.length_cons]
        omega

/-- Reads all distances and puts a character in for each. -/
def insertions (cs : List Char) (bias n i : Nat) (out : List Char) : Option (List Char) :=
  if cs = [] then some out
  else
    match _h : readDigits bias cs 36 1 i with
    | none => none
    | some (sum, rest) =>
      let count := out.length + 1
      let m := n + sum / count
      if m.isValidChar then
        insertions rest (adapt (sum - i) count (i = 0)) m (sum % count + 1)
          (out.insertIdx (sum % count) (Char.ofNat m))
      else none
termination_by cs.length
decreasing_by exact length_of_readDigits _h

/-- The label with an ASCII form. The characters before the last hyphen stand for
themselves. -/
def decode? (cs : List Char) : Option (List Char) :=
  let digits := (cs.reverse.takeWhile (· ≠ '-')).reverse
  let basic := cs.take (cs.length - digits.length - 1)
  if basic = [] then insertions cs 72 128 0 [] else insertions digits 72 128 0 basic

end KernelHub.Url.Punycode
