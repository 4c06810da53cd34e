import KernelHub.Hex

/-
Universally unique identifiers: 128 bits, compared as one number, and written
as five groups of lower-case hexadecimal digits.
-/

namespace KernelHub

/-- A 128-bit identifier. -/
structure Uuid where
  bits : BitVec 128
deriving DecidableEq, Repr

namespace Uuid

def zero : Uuid := ⟨0⟩

instance : Inhabited Uuid := ⟨zero⟩

/-- The identifier as a number below `2 ^ 128`. -/
def toNat (u : Uuid) : Nat := u.bits.toNat

def ofNat (n : Nat) : Uuid := ⟨BitVec.ofNat 128 n⟩

instance : LT Uuid := ⟨fun a b => a.toNat < b.toNat⟩

instance : LE Uuid := ⟨fun a b => a.toNat ≤ b.toNat⟩

instance (a b : Uuid) : Decidable (a < b) := inferInstanceAs (Decidable (a.toNat < b.toNat))

instance (a b : Uuid) : Decidable (a ≤ b) := inferInstanceAs (Decidable (a.toNat ≤ b.toNat))

theorem toNat_ofNat {n : Nat} (h : n < Nat.pow 2 128) : (ofNat n).toNat = n := by
  simpa [toNat, ofNat] using Nat.mod_eq_of_lt h

theorem ofNat_toNat (u : Uuid) : ofNat u.toNat = u := by
  simp [ofNat, toNat]

/-- The 32 digits without hyphens. -/
def digits (u : Uuid) : List Char := Hex.text 32 u.toNat

/-- Puts hyphens after the 8th, 12th, 16th and 20th digit. -/
def hyphenate (ds : List Char) : List Char :=
  ds.take 8 ++ '-' :: ((ds.drop 8).take 4 ++ '-' :: ((ds.drop 12).take 4 ++ '-' ::
    ((ds.drop 16).take 4 ++ '-' :: ds.drop 20)))

/-- The written form: groups of 8, 4, 4, 4 and 12 digits. -/
def chars (u : Uuid) : List Char := hyphenate u.digits

instance : ToString Uuid := ⟨fun u => String.ofList u.chars⟩

/-- The version field: the 13th digit. -/
def version (u : Uuid) : Nat := u.toNat / Nat.pow 2 76 % 16

/-- Overlays a version and the variant bits `10` on 128 arbitrary bits. -/
def stamp (version n : Nat) : Uuid :=
  let high := n / Nat.pow 2 80 % Nat.pow 2 48
  let middle := n / Nat.pow 2 64 % Nat.pow 2 12
  let low := n % Nat.pow 2 62
  ofNat (high * Nat.pow 2 80 + version * Nat.pow 2 76 + middle * Nat.pow 2 64 + Nat.pow 2 63 + low)

/-- A random identifier (version 4) made of the given bits. -/
def ofRandom (n : Nat) : Uuid := stamp 4 n

/-- A time-ordered identifier (version 7): 48 bits of milliseconds, the rest random. -/
def ofTime (millis n : Nat) : Uuid :=
  stamp 7 (millis % Nat.pow 2 48 * Nat.pow 2 80 + n % Nat.pow 2 80)

end Uuid

end KernelHub
