/-
Tables of characters, packed as text: numbers to base 36 between blanks. Each entry tells
how many characters lie between the entry before and its own first one.
-/

namespace KernelHub.Text.Packed

/-- A digit to base 36. -/
def digit? (c : Char) : Option Nat :=
  if c.isDigit then some (c.toNat - 48) else if c.isLower then some (c.toNat - 87) else none

/-- The numbers in a text. -/
def numbers (s : String) : List Nat :=
  let (ns, open?) := s.toList.foldl (fun (ns, n) c =>
    match digit? c, n with
    | some d, n => (ns, some (36 * n.getD 0 + d))
    | none, some n => (n :: ns, none)
    | none, none => (ns, none)) (([] : List Nat), (none : Option Nat))
  (open?.toList ++ ns).reverse

/-- The characters from `first` to `last` have a value. -/
structure Run where
  first : Nat
  last : Nat
  value : Nat
deriving DecidableEq, Repr

/-- The runs whose gap, length less one, and value are listed, from a character on. -/
def runsFrom : Nat → List Nat → List Run
  | start, gap :: length :: value :: ns =>
    let first := start + gap
    ⟨first, first + length, value⟩ :: runsFrom (first + length + 1) ns
  | _, _ => []

/-- The runs whose gap and length less one are listed, from a character on. -/
def plainRunsFrom : Nat → List Nat → List Run
  | start, gap :: length :: ns =>
    let first := start + gap
    ⟨first, first + length, 0⟩ :: plainRunsFrom (first + length + 1) ns
  | _, _ => []

def runs (s : String) : List Run := runsFrom 0 (numbers s)

def plainRuns (s : String) : List Run := plainRunsFrom 0 (numbers s)

/-- The value of a character, if it is in one of the runs, which go upwards. -/
def value? : List Run → Nat → Option Nat
  | [], _ => none
  | r :: rs, n => if n < r.first then none else if n ≤ r.last then some r.value else value? rs n

def has (rs : List Run) (c : Char) : Bool := (value? rs c.toNat).isSome

end KernelHub.Text.Packed
