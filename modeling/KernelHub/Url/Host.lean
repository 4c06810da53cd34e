import KernelHub.Url.Idna
import KernelHub.Url.Percent

/-
Hosts in addresses. A special address names a host by its domain, by four numbers or
by six pairs of bytes in brackets; the domain is read in lower case, and a domain that
ends in a number has to be four numbers. In other addresses a host is any text.
-/

namespace KernelHub.Url

/-- Why a text is not an address. -/
inductive ParseError
  | relative
  | emptyHost
  | port
  /-- The host has a character that no host has. -/
  | hostCharacter
  | domain
  | ipv4
  | ipv6
deriving DecidableEq, Repr

def ParseError.message : ParseError → String
  | relative => "relative URL without a base"
  | emptyHost => "empty host"
  | port => "invalid port number"
  | hostCharacter => "invalid domain character"
  | domain => "invalid international domain name"
  | ipv4 => "invalid IPv4 address"
  | ipv6 => "invalid IPv6 address"

/-! ## Four numbers -/

/-- A number in base ten, sixteen after `0x`, or eight after `0`. -/
def number? (cs : List Char) : Option Nat :=
  let read (base : Nat) (ds : List Char) : Option Nat :=
    (ds.mapM Hex.value?).bind fun vs =>
      if vs.all (· < base) then some (vs.foldl (fun n d => base * n + d) 0) else none
  match cs with
  | [] => none
  | '0' :: 'x' :: ds => read 16 ds
  | '0' :: 'X' :: ds => read 16 ds
  | '0' :: d :: ds => read 8 (d :: ds)
  | ds => read 10 ds

/-- The parts between dots, without an empty one at the end. -/
def dotParts (cs : List Char) : List (List Char) :=
  let parts := cs.splitOn '.'
  if 1 < parts.length ∧ parts.getLast? = some [] then parts.dropLast else parts

/-- Is the last part a number? -/
def endsInNumber (cs : List Char) : Bool :=
  match (dotParts cs).getLast? with
  | some last => (!last.isEmpty && last.all Char.isDigit) || (number? last).isSome
  | none => false

/-- The address that up to four numbers make; the last one fills what is left. -/
def ipv4? (cs : List Char) : Option Nat := do
  let ns ← (dotParts cs).mapM number?
  let last ← ns.getLast?
  if ns.length ≤ 4 ∧ ns.dropLast.all (· < 256) ∧ last < Nat.pow 256 (5 - ns.length) then
    some (ns.dropLast.foldl (fun n d => 256 * n + d) 0 * Nat.pow 256 (5 - ns.length) + last)
  else none

def decimal (n : Nat) : List Char := Nat.toDigits 10 n

def ipv4Chars (n : Nat) : List Char :=
  List.intercalate ['.'] ((List.range 4).map fun i => decimal (n / Nat.pow 256 (3 - i) % 256))

/-! ## Eight pieces -/

/-- A piece of one to four digits. -/
def piece? (cs : List Char) : Option Nat :=
  if cs = [] ∨ 4 < cs.length then none else (Hex.values? cs).map Hex.ofValues

/-- Four decimal numbers without leading zeros, as two pieces. -/
def tail? (cs : List Char) : Option (List Nat) :=
  let parts := cs.splitOn '.'
  let isPlain (p : List Char) : Bool := p.all Char.isDigit && (p.length = 1 || p.head? ≠ some '0')
  if parts.length = 4 ∧ parts.all isPlain then do
    let ns ← parts.mapM number?
    match ns with
    | [a, b, c, d] =>
      if ns.all (· < 256) then some [256 * a + b, 256 * c + d] else none
    | _ => none
  else none

/-- The pieces of a text without a gap; four numbers may stand at its end. -/
def pieces? (cs : List Char) : Option (List Nat) :=
  if cs = [] then some []
  else
    let parts := cs.splitOn ':'
    match parts.getLast? with
    | some last =>
      if last.contains '.' then do return (← parts.dropLast.mapM piece?) ++ (← tail? last)
      else parts.mapM piece?
    | none => none

/-- Splits at the first double colon. -/
def atGap? : List Char → Option (List Char × List Char)
  | ':' :: ':' :: cs => some ([], cs)
  | c :: cs => (atGap? cs).map fun (a, b) => (c :: a, b)
  | [] => none

/-- The eight pieces of a text; a double colon stands for zeros. -/
def ipv6? (cs : List Char) : Option (List Nat) :=
  match atGap? cs with
  | some (before, after) =>
    if before.contains '.' then none
    else do
      let a ← pieces? before
      let b ← pieces? after
      let n := a.length + b.length
      if n < 8 then some (a ++ List.replicate (8 - n) 0 ++ b) else none
  | none => do
    let a ← pieces? cs
    if a.length = 8 then some a else none

/-- The length of the run of zeros at the start. -/
def zeroRun (ps : List Nat) : Nat := (ps.takeWhile (· = 0)).length

/-- Where the first of the longest runs of at least two zeros starts. -/
def gap? (ps : List Nat) : Option (Nat × Nat) :=
  (List.range ps.length).foldl (fun best i =>
    let n := zeroRun (ps.drop i)
    if n < 2 then best
    else
      match best with
      | some (_, m) => if m < n then some (i, n) else best
      | none => some (i, n)) none

/-- A piece without leading zeros. -/
def pieceChars (n : Nat) : List Char := Nat.toDigits 16 n

def joined (ps : List Nat) : List Char := List.intercalate [':'] (ps.map pieceChars)

def ipv6Chars (ps : List Nat) : List Char :=
  match gap? ps with
  | some (i, n) => joined (ps.take i) ++ [':', ':'] ++ joined (ps.drop (i + n))
  | none => joined ps

/-! ## Hosts -/

/-- Characters that no domain has. -/
def forbiddenInDomain (c : Char) : Bool :=
  c.toNat ≤ 0x20 || c.toNat = 0x7F ||
    ['#', '%', '/', ':', '<', '>', '?', '@', '[', '\\', ']', '^', '|'].contains c

/-- Characters that no host has. -/
def forbiddenInHost (c : Char) : Bool :=
  ['\x00', '\t', '\n', '\r', ' ', '#', '/', ':', '<', '>', '?', '@', '[', '\\', ']', '^',
    '|'].contains c

/-- The text between brackets. -/
def bracketed (cs : List Char) : Except ParseError (List Char) :=
  if cs.getLast? = some ']' then
    match ipv6? cs.dropLast with
    | some ps => .ok ('[' :: ipv6Chars ps ++ [']'])
    | none => .error .ipv6
  else .error .ipv6

/-- The ASCII form of a domain. -/
def asciiDomain? (cs : List Char) : Option (List Char) := do
  let s ← String.fromUTF8? (ByteArray.mk (decode cs).toArray)
  let ds ← Idna.ascii? s.toList
  if ds.any forbiddenInDomain then none else some ds

/-- The written form of the host of a special address. -/
def specialHost (cs : List Char) : Except ParseError (List Char) :=
  match cs with
  | '[' :: rest => bracketed rest
  | _ =>
    match asciiDomain? cs with
    | none => .error .domain
    | some [] => .error .emptyHost
    | some ds =>
      if endsInNumber ds then
        match ipv4? ds with
        | some n => .ok (ipv4Chars n)
        | none => .error .ipv4
      else .ok ds

/-- The written form of the host of any other address. -/
def plainHost (cs : List Char) : Except ParseError (List Char) :=
  match cs with
  | '[' :: rest => bracketed rest
  | _ => if cs.any forbiddenInHost then .error .hostCharacter else .ok (encode keepPrintable cs)

end KernelHub.Url
