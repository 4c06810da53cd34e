import KernelHub.Json.Document

/-
Reading JSON text: one value with blanks around it and between its parts.
-/

namespace KernelHub.Json.Document

def isBlank (c : Char) : Bool := c = ' ' || c = '\t' || c = '\n' || c = '\r'

def skipBlanks (cs : List Char) : List Char := cs.dropWhile isBlank

/-! ## Strings -/

/-- A character of a string, or one 16-bit unit written as an escape. -/
inductive Piece
  | plain (c : Char)
  | unit (n : Nat)
deriving DecidableEq, Repr

/-- The character that a letter after a backslash stands for. -/
def shortEscape? (c : Char) : Option Char :=
  if c = '"' ∨ c = '\\' ∨ c = '/' then some c
  else if c = 'b' then some '\x08'
  else if c = 'f' then some '\x0c'
  else if c = 'n' then some '\n'
  else if c = 'r' then some '\r'
  else if c = 't' then some '\t'
  else none

/-- The pieces up to the closing quote, and the rest. -/
def pieces : List Char → Option (List Piece × List Char)
  | [] => none
  | '"' :: cs => some ([], cs)
  | '\\' :: 'u' :: a :: b :: c :: d :: cs => do
    let ds ← Hex.values? [a, b, c, d]
    let (ps, rest) ← pieces cs
    return (.unit (Hex.ofValues ds) :: ps, rest)
  | '\\' :: c :: cs => do
    let c ← shortEscape? c
    let (ps, rest) ← pieces cs
    return (.plain c :: ps, rest)
  | c :: cs =>
    if c.toNat < 0x20 ∨ c = '\\' then none
    else do
      let (ps, rest) ← pieces cs
      return (.plain c :: ps, rest)

def isHigh (n : Nat) : Bool := 0xD800 ≤ n && n < 0xDC00

def isLow (n : Nat) : Bool := 0xDC00 ≤ n && n < 0xE000

/-- The text of the pieces: two units of a surrogate pair make one character, half
of a pair makes none. -/
def joined? : List Piece → Option (List Char)
  | [] => some []
  | .plain c :: ps => (joined? ps).map (c :: ·)
  | .unit n :: ps =>
    if isHigh n then
      match ps with
      | .unit m :: ps =>
        if isLow m then
          (joined? ps).map (Char.ofNat (0x10000 + (n - 0xD800) * 0x400 + (m - 0xDC00)) :: ·)
        else none
      | _ => none
    else if isLow n then none
    else (joined? ps).map (Char.ofNat n :: ·)

/-- A string after its opening quote. -/
def stringAfter (cs : List Char) : Option (Option String × List Char) :=
  (pieces cs).map fun (ps, rest) => ((joined? ps).map String.ofList, rest)

/-! ## Numbers -/

def digitRun (cs : List Char) : List Char × List Char :=
  (cs.takeWhile Char.isDigit, cs.dropWhile Char.isDigit)

/-- The digits before the point: a lone zero, or digits that start with another. -/
def wholeRun (cs : List Char) : Option (List Char × List Char) :=
  match cs with
  | '0' :: rest => if (rest.head?.map Char.isDigit).getD false then none else some (['0'], rest)
  | _ =>
    match digitRun cs with
    | ([], _) => none
    | (ds, rest) => some (ds, rest)

/-- The digits behind the point, if there is one. -/
def fractionRun (cs : List Char) : Option (List Char × List Char) :=
  match cs with
  | '.' :: rest =>
    match digitRun rest with
    | ([], _) => none
    | (ds, rest) => some (ds, rest)
  | _ => some ([], cs)

/-- The exponent, if there is one. -/
def exponentRun (cs : List Char) : Option (Option (Bool × List Char) × List Char) :=
  match cs with
  | c :: rest =>
    if c = 'e' ∨ c = 'E' then
      let (down, rest) :=
        match rest with
        | '+' :: rest => (false, rest)
        | '-' :: rest => (true, rest)
        | _ => (false, rest)
      match digitRun rest with
      | ([], _) => none
      | (ds, rest) => some (some (down, ds), rest)
    else some (none, cs)
  | [] => some (none, [])

def numeral (cs : List Char) : Option (Numeral × List Char) := do
  let (negative, cs) :=
    match cs with
    | '-' :: rest => (true, rest)
    | _ => (false, cs)
  let (whole, cs) ← wholeRun cs
  let (fraction, cs) ← fractionRun cs
  let (exponent, cs) ← exponentRun cs
  return (⟨negative, whole, fraction, exponent⟩, cs)

/-! ## Values -/

mutual

/-- Reads one value that nests less than the first argument. -/
def value : Nat → List Char → Option (Document × List Char)
  | 0, _ => none
  | fuel + 1, cs =>
    match skipBlanks cs with
    | 'n' :: 'u' :: 'l' :: 'l' :: rest => some (.null, rest)
    | 't' :: 'r' :: 'u' :: 'e' :: rest => some (.bool true, rest)
    | 'f' :: 'a' :: 'l' :: 's' :: 'e' :: rest => some (.bool false, rest)
    | '"' :: rest => (stringAfter rest).map fun (s, rest) => (.string s, rest)
    | '[' :: rest =>
      match skipBlanks rest with
      | ']' :: rest => some (.array [], rest)
      | rest => (items fuel rest).map fun (ds, rest) => (.array ds, rest)
    | '{' :: rest =>
      match skipBlanks rest with
      | '}' :: rest => some (.object [], rest)
      | rest => (members fuel rest).map fun (ms, rest) => (.object ms, rest)
    | rest => (numeral rest).map fun (n, rest) => (.number n, rest)

/-- Reads the items of an array and its end. -/
def items : Nat → List Char → Option (List Document × List Char)
  | 0, _ => none
  | fuel + 1, cs => do
    let (d, rest) ← value fuel cs
    match skipBlanks rest with
    | ']' :: rest => return ([d], rest)
    | ',' :: rest =>
      let (ds, rest) ← items fuel rest
      return (d :: ds, rest)
    | _ => none

/-- Reads the members of an object and its end. -/
def members : Nat → List Char → Option (List (Option String × Document) × List Char)
  | 0, _ => none
  | fuel + 1, cs =>
    match skipBlanks cs with
    | '"' :: rest => do
      let (k, rest) ← stringAfter rest
      match skipBlanks rest with
      | ':' :: rest =>
        let (d, rest) ← value fuel rest
        match skipBlanks rest with
        | '}' :: rest => return ([(k, d)], rest)
        | ',' :: rest =>
          let (ms, rest) ← members fuel rest
          return ((k, d) :: ms, rest)
        | _ => none
      | _ => none
    | _ => none

end

/-- Reads a whole text. Every step takes a character, so its length is fuel enough. -/
def ofChars? (cs : List Char) : Option Document :=
  match value (cs.length + 1) cs with
  | some (d, rest) => if skipBlanks rest = [] then some d else none
  | none => none

def read? (s : String) : Option Document := ofChars? s.toList

end KernelHub.Json.Document

namespace KernelHub.Json

/-- Reads a text as a free value. -/
def read? (s : String) : Option Json :=
  (Document.read? s).bind (Document.value? Document.maxDepth)

end KernelHub.Json
