/-
Hexadecimal digits: sixteen characters in lower case when written, either case
when read.
-/

namespace KernelHub.Hex

/-- The lower-case digit of a value below sixteen. -/
def digit (n : Nat) : Char :=
  if n < 10 then Char.ofNat (48 + n) else Char.ofNat (87 + n)

/-- The upper-case digit of a value below sixteen. -/
def upperDigit (n : Nat) : Char :=
  if n < 10 then Char.ofNat (48 + n) else Char.ofNat (55 + n)

/-- The value of a digit of either case. -/
def value? (c : Char) : Option Nat :=
  let n := c.toNat
  if 48 ≤ n ∧ n ≤ 57 then some (n - 48)
  else if 97 ≤ n ∧ n ≤ 102 then some (n - 87)
  else if 65 ≤ n ∧ n ≤ 70 then some (n - 55)
  else none

def isDigit (c : Char) : Bool := (value? c).isSome

/-- The values of a run of digits, most significant first. -/
def values? (cs : List Char) : Option (List Nat) := cs.mapM value?

/-- The number that base-sixteen digits stand for. -/
def ofValues (ds : List Nat) : Nat := ds.foldl (fun n d => 16 * n + d) 0

/-- The `width` base-sixteen digits of `n`, most significant first. -/
def valuesOf (width n : Nat) : List Nat :=
  (List.range width).map fun i => n / Nat.pow 16 (width - 1 - i) % 16

/-- The `width` lower-case digits of `n`. -/
def text (width n : Nat) : List Char := (valuesOf width n).map digit

theorem value?_digit {n : Nat} (h : n < 16) : value? (digit n) = some n := by
  have : ∀ k : Fin 16, value? (digit k.val) = some k.val := by decide
  exact this ⟨n, h⟩

theorem value?_upperDigit {n : Nat} (h : n < 16) : value? (upperDigit n) = some n := by
  have : ∀ k : Fin 16, value? (upperDigit k.val) = some k.val := by decide
  exact this ⟨n, h⟩

theorem length_text (width n : Nat) : (text width n).length = width := by
  simp [text, valuesOf]

end KernelHub.Hex
