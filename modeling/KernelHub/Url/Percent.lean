import KernelHub.Hex

/-
Percent-encoding: a character outside a chosen set is written as `%` and two
upper-case digits for each of its UTF-8 bytes.
-/

namespace KernelHub.Url

/-- One byte, encoded. -/
def encodeByte (b : UInt8) : List Char :=
  ['%', Hex.upperDigit (b.toNat / 16), Hex.upperDigit (b.toNat % 16)]

/-- One character, encoded unless it is to be kept. -/
def encodeChar (keep : Char → Bool) (c : Char) : List Char :=
  if keep c then [c] else (String.utf8EncodeChar c).flatMap encodeByte

def encode (keep : Char → Bool) (cs : List Char) : List Char := cs.flatMap (encodeChar keep)

/-- The bytes that a text stands for; a `%` without two digits stands for itself. -/
def decode : List Char → List UInt8
  | [] => []
  | '%' :: a :: b :: cs =>
    match Hex.value? a, Hex.value? b with
    | some x, some y => UInt8.ofNat (16 * x + y) :: decode cs
    | _, _ => String.utf8EncodeChar '%' ++ decode (a :: b :: cs)
  | c :: cs => String.utf8EncodeChar c ++ decode cs

/-! ## What the parts of an address keep -/

/-- Printable ASCII without the blank. -/
def isGraphic (c : Char) : Bool := 0x21 ≤ c.toNat && c.toNat ≤ 0x7E

def keepFragment (c : Char) : Bool := isGraphic c && !(['"', '<', '>', '\x60'].contains c)

def keepPath (c : Char) : Bool := keepFragment c && !(['#', '?', '\x7b', '\x7d'].contains c)

/-- A segment that is pushed as a whole keeps neither slash nor percent sign. -/
def keepSegment (special : Bool) (c : Char) : Bool :=
  keepPath c && !(['/', '%'].contains c) && !(special && c = '\\')

def keepUserinfo (c : Char) : Bool :=
  keepPath c && !(['/', ':', ';', '=', '@', '[', '\\', ']', '^', '|'].contains c)

def keepQuery (special : Bool) (c : Char) : Bool :=
  isGraphic c && !(['"', '#', '<', '>'].contains c) && !(special && c = '\'')

/-- All but the controls and what is not ASCII. -/
def keepPrintable (c : Char) : Bool := 0x20 ≤ c.toNat && c.toNat ≤ 0x7E

end KernelHub.Url
