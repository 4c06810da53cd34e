import KernelHub.Uuid

/-
Reading identifiers. Four forms are accepted: 32 digits, the hyphenated form,
the hyphenated form in braces, and the hyphenated form after `urn:uuid:` in any
case. A text that is none of them gets the first fault a reader would point at.
-/

namespace KernelHub.Uuid

/-- Why a text is not an identifier. Positions and lengths count UTF-8 bytes. -/
inductive ReadError
  | length (found : Nat)
  | character (c : Char) (position : Nat)
  | groupCount (found : Nat)
  | groupLength (group expected found : Nat)
deriving DecidableEq, Repr

def ReadError.message : ReadError → String
  | .length n => s!"invalid length: found {n}"
  | .character c i =>
    "invalid character: found " ++ String.ofList ['\x60', c, '\x60'] ++ s!" at {i}"
  | .groupCount n => s!"invalid group count: expected 5, found {n}"
  | .groupLength g e n => s!"invalid group length in group {g}: expected {e}, found {n}"

/-- The bytes a text takes in UTF-8. -/
def byteLength (cs : List Char) : Nat := cs.foldr (fun c n => c.utf8Size + n) 0

/-- The identifier of exactly 32 digits. -/
def ofDigits? (cs : List Char) : Option Uuid :=
  if cs.length = 32 then (Hex.values? cs).map fun ds => ofNat (Hex.ofValues ds) else none

/-- The digits of a text of 36 characters with hyphens at 8, 13, 18 and 23. -/
def groups? (cs : List Char) : Option (List Char) :=
  if cs.length = 36 ∧ cs[8]? = some '-' ∧ cs[13]? = some '-' ∧ cs[18]? = some '-' ∧
      cs[23]? = some '-' then
    some (cs.take 8 ++ (cs.drop 9).take 4 ++ (cs.drop 14).take 4 ++ (cs.drop 19).take 4 ++
      cs.drop 24)
  else none

/-- The text between braces. -/
def unbrace? : List Char → Option (List Char)
  | '{' :: cs => if cs.getLast? = some '}' then some cs.dropLast else none
  | _ => none

def urnLead : List Char := "urn:uuid:".toList

/-- The text after `urn:uuid:`, which may be in any case. -/
def afterUrn? (cs : List Char) : Option (List Char) :=
  if (cs.take 9).map Char.toLower = urnLead then some (cs.drop 9) else none

/-- Reads any of the accepted forms. -/
def ofChars? (cs : List Char) : Option Uuid :=
  ofDigits? cs <|> (groups? cs).bind ofDigits?
    <|> ((unbrace? cs).bind groups?).bind ofDigits?
    <|> ((afterUrn? cs).bind groups?).bind ofDigits?

/-! ## What is wrong with a text -/

/-- The shape a text is taken for. -/
inductive Shape
  | loose
  | hyphenated
  | braced
  | urn
deriving DecidableEq, Repr

/-- The text to report on, counted from its own start, with the shape its length
already decides. -/
def subject (cs : List Char) : Shape × List Char :=
  let n := byteLength cs
  if n = 36 then (.hyphenated, cs)
  else if n = 38 then
    match unbrace? cs with
    | some inner => (.hyphenated, inner)
    | none => (.loose, cs)
  else if n = 45 then
    match afterUrn? cs with
    | some rest => (.hyphenated, rest)
    | none => (.loose, cs)
  else (.loose, cs)

/-- The part to scan of a text of unknown shape, and how many bytes come before it. -/
def span (cs : List Char) : Shape × Nat × List Char :=
  match unbrace? cs with
  | some inner => (.braced, 1, inner)
  | none =>
    match afterUrn? cs with
    | some rest => (.urn, 9, rest)
    | none => (.loose, 0, cs)

/-- The first character that is neither digit nor hyphen, with its position. -/
def stray? : Nat → List Char → Option (Char × Nat)
  | _, [] => none
  | i, c :: cs => if Hex.isDigit c || c = '-' then stray? (i + c.utf8Size) cs else some (c, i)

/-- The positions of the hyphens. -/
def hyphens : Nat → List Char → List Nat
  | _, [] => []
  | i, c :: cs => if c = '-' then i :: hyphens (i + 1) cs else hyphens (i + c.utf8Size) cs

/-- Where each hyphen belongs, and where its group starts and how long it is. -/
def hyphenPlaces : List (Nat × Nat × Nat) := [(8, 0, 8), (13, 9, 4), (18, 14, 4), (23, 19, 4)]

/-- The first group that does not end at its hyphen. -/
def badGroup? : Nat → List (Nat × Nat × Nat) → List Nat → Option ReadError
  | g, (place, start, width) :: places, found :: rest =>
    if found = place then badGroup? (g + 1) places rest
    else some (.groupLength g width (found - start))
  | _, _, _ => none

/-- The fault of a text that is not an identifier. -/
def diagnose (cs : List Char) : ReadError :=
  let (known, text) := subject cs
  let size := byteLength text
  if size = 0 ∨ size > 45 then .length size
  else
    let (shape, offset, body) := if known = .hyphenated then (known, 0, text) else span text
    match stray? offset body with
    | some (c, i) => .character c i
    | none =>
      let breaks := hyphens 0 body
      if shape = .loose ∧ breaks = [] then .length size
      else if breaks.length ≠ 4 then .groupCount (breaks.length + 1)
      else (badGroup? 0 hyphenPlaces breaks).getD (.groupLength 4 12 (size - 24))

/-- Reads an identifier, or says what is wrong with the text. -/
def read (s : String) : Except ReadError Uuid :=
  match ofChars? s.toList with
  | some u => .ok u
  | none => .error (diagnose s.toList)

end KernelHub.Uuid
