import KernelHub.Hex
import KernelHub.Json

/-
A JSON text as it is written: members in their order and with repeats, numbers
and strings not yet evaluated. Some faults only show when a part is evaluated
(a number out of range, half of a surrogate pair, too deep nesting), and a part
that nobody asks for is never evaluated.
-/

namespace KernelHub.Json

/-- A number as it is written. -/
structure Numeral where
  negative : Bool
  whole : List Char
  fraction : List Char
  /-- The sign and digits of the exponent, if there is one. -/
  exponent : Option (Bool × List Char)
deriving DecidableEq, Repr

/-- A JSON text as it is written. A string is `none` when it holds half of a
surrogate pair. -/
inductive Document
  | null
  | bool (b : Bool)
  | number (n : Numeral)
  | string (s : Option String)
  | array (items : List Document)
  | object (members : List (Option String × Document))

instance : Inhabited Document := ⟨.null⟩

namespace Numeral

/-- The value of decimal digits. -/
def ofDigits (ds : List Char) : Nat := ds.foldl (fun n c => 10 * n + (c.toNat - 48)) 0

/-- Adds digits to a significand while it fits 64 bits. Returns it with the digits
left over. -/
def absorb : Nat → List Char → Nat × List Char
  | n, [] => (n, [])
  | n, c :: cs =>
    let n' := 10 * n + (c.toNat - 48)
    if n' < UInt64.size then absorb n' cs else (n, c :: cs)

/-- The significand and the power of ten of the digits before the exponent: digits
that do not fit 64 bits count as zeros before the point and not at all behind it. -/
def significand (n : Numeral) : Nat × Int :=
  let (s, dropped) := absorb 0 n.whole
  let (s', unread) := absorb s n.fraction
  (s', (dropped.length : Int) - (n.fraction.length - unread.length : Nat))

/-- Is there a point or an exponent? -/
def isDecimal (n : Numeral) : Bool := n.fraction ≠ [] || n.exponent.isSome

/-- The value: whole if it is written so and fits, else the nearest double. An
exponent that no 32-bit word holds gives zero or is out of range. -/
def value? (n : Numeral) : Option Json := do
  let (s, e) := n.significand
  let asDouble (e : Int) : Option Json := (Double.ofDecimal? n.negative s e).map .double
  if !n.isDecimal then
    if e ≠ 0 then asDouble e
    else if !n.negative then some (.int s)
    else if 0 < s ∧ s ≤ 0x8000000000000000 then some (.int (-s))
    else asDouble 0
  else
    match n.exponent with
    | none => asDouble e
    | some (down, ds) =>
      let x := ofDigits ds
      if x < 0x80000000 then asDouble (if down then e - x else e + x)
      else if down || s = 0 then some (.double { Double.zero with negative := n.negative })
      else none

end Numeral

namespace Document

mutual

/-- Evaluates a document that may nest `room` deep. -/
def value? : Nat → Document → Option Json
  | _, .null => some .null
  | _, .bool b => some (.bool b)
  | _, .number n => n.value?
  | _, .string s => s.map .string
  | 0, .array _ => none
  | room + 1, .array items => (values? room items).map .array
  | 0, .object _ => none
  | room + 1, .object ms => (members? room ms).map fun ms => .object (Entries.ofList ms)

def values? : Nat → List Document → Option (List Json)
  | _, [] => some []
  | room, d :: ds => do return (← value? room d) :: (← values? room ds)

def members? : Nat → List (Option String × Document) → Option (List (String × Json))
  | _, [] => some []
  | room, (k, d) :: ms => do
    let k ← k
    return (k, ← value? room d) :: (← members? room ms)

end

/-- How deep a text may nest. -/
def maxDepth : Nat := 127

end Document

end KernelHub.Json
