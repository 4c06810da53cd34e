import KernelHub.Double

/-
The shortest decimal text of a double: the fewest digits that round back to it, and of
those the nearest, or the even one of two that are equally near. Positional notation is
used from `1e-5` up to `1e16`, always with a fractional digit; beyond that, an exponent.
-/

namespace KernelHub.Double

/-- The magnitude as a fraction. -/
def fraction (x : Double) : Nat × Nat := (x.units, one)

/-- Does `digits · 10 ^ e` round to the magnitude of `x`? -/
def reads (x : Double) (digits : Nat) (e : Int) : Bool :=
  let num := if 0 ≤ e then digits * Nat.pow 10 e.natAbs * one else digits * one
  let den := if 0 ≤ e then 1 else Nat.pow 10 e.natAbs
  match round false num den with
  | some y => y.mantissa = x.mantissa ∧ y.shift = x.shift
  | none => false

/-- The distance of `digits · 10 ^ e` from the magnitude, times a fixed scale. -/
def distance (x : Double) (digits : Nat) (e : Int) : Nat :=
  let (num, den) := x.fraction
  let a := if 0 ≤ e then digits * Nat.pow 10 e.natAbs * den else digits * den
  let b := if 0 ≤ e then num else num * Nat.pow 10 e.natAbs
  (a - b) + (b - a)

/-- The number of decimal digits. -/
def digitCount (n : Nat) : Nat := (Nat.toDigits 10 n).length

/-- The power of ten of the leading digit, for a magnitude that is not zero. -/
def leadingExponent (x : Double) : Int :=
  let (num, den) := x.fraction
  if den ≤ num then (digitCount (num / den) : Int) - 1
  else
    -- `den / num` has `k` digits, so the value lies in `[10 ^ -k, 10 ^ (1 - k)]`.
    let k := digitCount (den / num)
    if den ≤ num * Nat.pow 10 (k - 1) then 1 - (k : Int) else - (k : Int)

/-- The multiple of `10 ^ e` just below the magnitude. -/
def below (x : Double) (e : Int) : Nat :=
  let (num, den) := x.fraction
  if 0 ≤ e then num / (den * Nat.pow 10 e.natAbs) else num * Nat.pow 10 e.natAbs / den

/-- Is the lower of two neighbours on the grid of `10 ^ e` the one to take? It is the
nearer one, or the even one when both are equally near. -/
def goesDown (x : Double) (d : Nat) (e : Int) : Bool :=
  let a := x.distance d e
  let b := x.distance (d + 1) e
  a < b || (a = b && d % 2 = 0)

/-- The nearest hit on the grid of `10 ^ e`. -/
def onGrid? (x : Double) (e : Int) : Option Nat :=
  let d := x.below e
  match x.reads d e, x.reads (d + 1) e with
  | true, true => some (if x.goesDown d e then d else d + 1)
  | true, false => some d
  | false, true => some (d + 1)
  | false, false => none

/-- The first of ever finer grids with a hit. -/
def search (x : Double) : Nat → Int → Nat × Int
  | 0, e => (x.below e, e)
  | fuel + 1, e =>
    match x.onGrid? e with
    | some d => (d, e)
    | none => search x fuel (e - 1)

/-- The shortest digits and their power of ten. -/
def shortest (x : Double) : Nat × Int :=
  if x.mantissa = 0 then (0, 0) else x.search 17 x.leadingExponent

/-- Drops trailing zeros, raising the power of ten. -/
def trimZeros : Nat → Nat × Int → Nat × Int
  | 0, p => p
  | fuel + 1, (d, e) => if d ≠ 0 ∧ d % 10 = 0 then trimZeros fuel (d / 10, e + 1) else (d, e)

/-- Writes digits `ds` times `10 ^ e`. -/
def layout (ds : List Char) (e : Int) : List Char :=
  let point : Int := ds.length + e
  if 0 ≤ e ∧ point ≤ 16 then ds ++ List.replicate e.toNat '0' ++ ['.', '0']
  else if 0 < point ∧ point ≤ 16 then ds.take point.toNat ++ '.' :: ds.drop point.toNat
  else if -5 < point ∧ point ≤ 0 then '0' :: '.' :: List.replicate (-point).toNat '0' ++ ds
  else
    let exponent := (toString (point - 1)).toList
    match ds with
    | [d] => d :: 'e' :: exponent
    | d :: rest => d :: '.' :: rest ++ 'e' :: exponent
    | [] => []

/-- The written form. -/
def chars (x : Double) : List Char :=
  let (d, e) := trimZeros 400 x.shortest
  (if x.negative then ['-'] else []) ++ layout (Nat.toDigits 10 d) e

end KernelHub.Double
