/-
Finite doubles as exact integers: a double is `mantissa · 2 ^ shift` units of
`2 ^ -1074`, the least positive double. Every operation computes the exact
quotient and rounds once, to nearest, a tie going to the even mantissa.
-/

namespace KernelHub

/-- A finite double, in units of `2 ^ -1074`. -/
structure Double where
  negative : Bool
  mantissa : Nat
  shift : Nat
deriving DecidableEq, Repr

namespace Double

def zero : Double := ⟨false, 0, 0⟩

instance : Inhabited Double := ⟨zero⟩

/-- The encodings that a 64-bit word has: 53 bits of mantissa, the top one set
unless the shift is least. -/
def Valid (x : Double) : Prop :=
  x.mantissa < Nat.pow 2 53 ∧ (Nat.pow 2 52 ≤ x.mantissa ∨ x.shift = 0) ∧ x.shift ≤ 2045

instance (x : Double) : Decidable x.Valid := by unfold Valid; infer_instance

/-- The magnitude as a number of units. -/
def units (x : Double) : Nat := x.mantissa * Nat.pow 2 x.shift

/-- The units in one. -/
def one : Nat := Nat.pow 2 1074

/-- The quotient to nearest, a tie to even. -/
def roundQuotient (num den : Nat) : Nat :=
  let q := num / den
  let r := num % den
  if 2 * r < den then q
  else if den < 2 * r then q + 1
  else if q % 2 = 0 then q else q + 1

/-- The double nearest to `num / den` units, or `none` above the largest. -/
def round (negative : Bool) (num den : Nat) : Option Double :=
  let q := num / den
  let shift := if q < Nat.pow 2 53 then 0 else q.log2 - 52
  let m := roundQuotient num (den * Nat.pow 2 shift)
  let (m, shift) := if m = Nat.pow 2 53 then (Nat.pow 2 52, shift + 1) else (m, shift)
  if shift ≤ 2045 then some ⟨negative, m, shift⟩ else none

/-- The double nearest to a whole number. -/
def ofNat? (n : Nat) : Option Double := round false (n * one) 1

def mul? (x y : Double) : Option Double :=
  round (x.negative != y.negative) (x.units * y.units) one

/-- The quotient by a double that is not zero. -/
def div? (x y : Double) : Option Double :=
  round (x.negative != y.negative) (x.units * one) y.units

def neg (x : Double) : Double := { x with negative := !x.negative }

/-- The double nearest to a power of ten. -/
def powTen? (k : Nat) : Option Double := ofNat? (Nat.pow 10 k)

/-- Multiplies by the double nearest to `10 ^ e`, or divides by the one nearest to
`10 ^ -e`; below `10 ^ -308` in steps of 308. -/
def scale? (x : Double) : Nat → Int → Option Double
  | 0, _ => none
  | fuel + 1, e =>
    if e.natAbs ≤ 308 then do
      let p ← powTen? e.natAbs
      if 0 ≤ e then x.mul? p else x.div? p
    else if x.mantissa = 0 then some x
    else if 0 ≤ e then none
    else do
      let p ← powTen? 308
      scale? (← x.div? p) fuel (e + 308)

/-- The double read from decimal digits and a power of ten: the digits are rounded
first, then scaled. -/
def ofDecimal? (negative : Bool) (digits : Nat) (e : Int) : Option Double := do
  let x ← ofNat? digits
  let y ← x.scale? (e.natAbs / 308 + 2) e
  return { y with negative }

end Double

end KernelHub
