import KernelHub.Hex
import KernelHub.Toml

/-
Reading TOML text. A document is a sequence of lines: a comment, a header, or a key
with its value. A carriage return counts only as a part of a line break, so line
breaks are made single characters first.
-/

namespace KernelHub.Toml

/-- The text with every line break a single character. -/
def unified : List Char → List Char
  | '\r' :: '\n' :: cs => '\n' :: unified cs
  | c :: cs => c :: unified cs
  | [] => []

def isBlank (c : Char) : Bool := c = ' ' || c = '\t'

def skipBlanks (cs : List Char) : List Char := cs.dropWhile isBlank

/-- No control character other than the tab. -/
def isPlain (c : Char) : Bool := c = '\t' || (0x20 ≤ c.toNat && c.toNat ≠ 0x7F)

/-- Blanks and perhaps a comment up to the end of the line, and the next line. -/
def lineEnd (cs : List Char) : Option (List Char) :=
  let rest := match skipBlanks cs with
    | '#' :: rest => rest.dropWhile isPlain
    | rest => rest
  match rest with
  | [] => some []
  | '\n' :: rest => some rest
  | _ => none

/-- Blanks, comments and line breaks between the items of an array. -/
def skipLines : List Char → List Char
  | [] => []
  | c :: cs =>
    if isBlank c || c = '\n' then skipLines cs
    else if c = '#' then skipComment cs
    else c :: cs
where
  /-- The rest of a comment, and then the same again. -/
  skipComment : List Char → List Char
    | [] => []
    | c :: cs =>
      if isPlain c then skipComment cs
      else if c = '\n' then skipLines cs
      else c :: cs

/-! ## Strings -/

/-- The character that a letter after a backslash stands for. -/
def shortEscape? (c : Char) : Option Char :=
  if c = '"' ∨ c = '\\' then some c
  else if c = 'b' then some '\x08'
  else if c = 'f' then some '\x0c'
  else if c = 'n' then some '\n'
  else if c = 'r' then some '\r'
  else if c = 't' then some '\t'
  else none

/-- The character that hexadecimal digits stand for; surrogates are none. -/
def scalar? (ds : List Char) : Option Char := do
  let n := Hex.ofValues (← Hex.values? ds)
  if n.isValidChar then return Char.ofNat n else none

/-- A character after a backslash, and the rest. -/
def escaped : List Char → Option (Char × List Char)
  | 'u' :: cs => if cs.length < 4 then none else (scalar? (cs.take 4)).map (·, cs.drop 4)
  | 'U' :: cs => if cs.length < 8 then none else (scalar? (cs.take 8)).map (·, cs.drop 8)
  | c :: cs => (shortEscape? c).map (·, cs)
  | [] => none

/-- A string on one line after its opening quote. -/
def basic : Nat → List Char → Option (List Char × List Char)
  | 0, _ => none
  | fuel + 1, cs =>
    match cs with
    | '"' :: cs => some ([], cs)
    | '\\' :: cs => do
      let (c, cs) ← escaped cs
      let (s, cs) ← basic fuel cs
      return (c :: s, cs)
    | c :: cs =>
      if isPlain c then do
        let (s, cs) ← basic fuel cs
        return (c :: s, cs)
      else none
    | [] => none

/-- A string on several lines after its opening quotes. Up to two quotes may stand
before the closing three; a backslash at the end of a line takes the blank space after
it along. -/
def basicLines : Nat → List Char → Option (List Char × List Char)
  | 0, _ => none
  | fuel + 1, cs =>
    match cs with
    | '"' :: '"' :: '"' :: '"' :: '"' :: cs => some (['"', '"'], cs)
    | '"' :: '"' :: '"' :: '"' :: cs => some (['"'], cs)
    | '"' :: '"' :: '"' :: cs => some ([], cs)
    | '\\' :: cs =>
      match skipBlanks cs with
      | '\n' :: rest => basicLines fuel (rest.dropWhile fun c => isBlank c || c = '\n')
      | _ => do
        let (c, cs) ← escaped cs
        let (s, cs) ← basicLines fuel cs
        return (c :: s, cs)
    | c :: cs =>
      if isPlain c || c = '\n' then do
        let (s, cs) ← basicLines fuel cs
        return (c :: s, cs)
      else none
    | [] => none

/-- The mark around a string without escapes. -/
def tick : Char := '\x27'

/-- A string without escapes, on one line, after its opening mark. -/
def literal : List Char → Option (List Char × List Char)
  | [] => none
  | c :: cs =>
    if c = tick then some ([], cs)
    else if isPlain c then (literal cs).map fun (s, cs) => (c :: s, cs)
    else none

/-- How many marks a text starts with. -/
def ticks (cs : List Char) : Nat := (cs.takeWhile (· = tick)).length

/-- A string without escapes, on several lines, after its opening marks. -/
def literalLines : List Char → Option (List Char × List Char)
  | [] => none
  | c :: cs =>
    if 3 ≤ ticks (c :: cs) then
      let extra := min (ticks (c :: cs) - 3) 2
      some (List.replicate extra tick, (c :: cs).drop (extra + 3))
    else if isPlain c || c = '\n' then (literalLines cs).map fun (s, cs) => (c :: s, cs)
    else none

/-- The text after a line break that it starts with. -/
def dropBreak : List Char → List Char
  | '\n' :: cs => cs
  | cs => cs

/-- A string of any of the four kinds, if one starts here. -/
def string (cs : List Char) : Option (String × List Char) :=
  let text (r : Option (List Char × List Char)) := r.map fun (s, cs) => (String.ofList s, cs)
  match cs with
  | '"' :: '"' :: '"' :: rest => text (basicLines (rest.length + 1) (dropBreak rest))
  | '"' :: rest => text (basic (rest.length + 1) rest)
  | '\x27' :: '\x27' :: '\x27' :: rest => text (literalLines (dropBreak rest))
  | '\x27' :: rest => text (literal rest)
  | _ => none

/-! ## Keys -/

def isBare (c : Char) : Bool := c.isAlphanum || c = '-' || c = '_'

/-- One key: bare, or a string on one line. -/
def simpleKey (cs : List Char) : Option (String × List Char) :=
  match cs with
  | '"' :: rest => (basic (rest.length + 1) rest).map fun (s, cs) => (String.ofList s, cs)
  | '\x27' :: rest => (literal rest).map fun (s, cs) => (String.ofList s, cs)
  | _ =>
    match cs.takeWhile isBare with
    | [] => none
    | s => some (String.ofList s, cs.dropWhile isBare)

/-- A dotted key of at most so many parts, with the blanks around it. -/
def dottedKey : Nat → List Char → Option (List String × List Char)
  | 0, _ => none
  | room + 1, cs => do
    let (k, rest) ← simpleKey (skipBlanks cs)
    match skipBlanks rest with
    | '.' :: rest =>
      let (ks, rest) ← dottedKey room rest
      return (k :: ks, rest)
    | rest => return ([k], rest)

/-- How deep values nest, and how many parts a dotted key has. -/
def maxDepth : Nat := 79

def key (cs : List Char) : Option (List String × List Char) := dottedKey maxDepth cs

/-! ## Numbers -/

/-- More digits, with single underscores between them. -/
def moreDigits (p : Char → Bool) : List Char → Option (List Char × List Char)
  | '_' :: c :: cs => if p c then (moreDigits p cs).map fun (ds, cs) => (c :: ds, cs) else none
  | c :: cs =>
    if c = '_' then none
    else if p c then (moreDigits p cs).map fun (ds, cs) => (c :: ds, cs)
    else some ([], c :: cs)
  | [] => some ([], [])

/-- At least one digit. -/
def digits (p : Char → Bool) : List Char → Option (List Char × List Char)
  | c :: cs => if p c then (moreDigits p cs).map fun (ds, cs) => (c :: ds, cs) else none
  | [] => none

/-- The number that digits of a base stand for. -/
def ofDigits (base : Nat) (ds : List Char) : Nat :=
  ds.foldl (fun n c => base * n + (Hex.value? c).getD 0) 0

/-- A whole number, if 64 bits with a sign hold it. -/
def integer? (n : Int) : Option Value :=
  if -0x8000000000000000 ≤ n ∧ n < 0x8000000000000000 then some (.integer n) else none

/-- A whole number in a base other than ten. -/
def based (base : Nat) (p : Char → Bool) (cs : List Char) : Option (Value × List Char) := do
  let (ds, cs) ← digits p cs
  return (← integer? (ofDigits base ds), cs)

/-- The least number that rounds beyond the largest double. -/
def beyond : Nat := (Nat.pow 2 54 - 1) * Nat.pow 2 970

/-- Does `n · 10 ^ e` round beyond the largest double? A number of `d` digits is at
least `10 ^ (d - 1)` and less than `10 ^ d`, and `beyond` lies between `10 ^ 308`
and `10 ^ 309`. -/
def overflows (n : Nat) (e : Int) : Bool :=
  let d : Int := (Nat.toDigits 10 n).length
  if n = 0 || d + e ≤ 308 then false
  else if 309 < d + e then true
  else if 0 ≤ e then decide (beyond ≤ n * Nat.pow 10 e.toNat)
  else decide (beyond * Nat.pow 10 (-e).toNat ≤ n)

/-- The digits behind the point, if there is one. -/
def fractionPart (cs : List Char) : Option (List Char × List Char) :=
  match cs with
  | '.' :: rest => digits Char.isDigit rest
  | _ => some ([], cs)

/-- The exponent, if there is one. -/
def exponentPart (cs : List Char) : Option (Option Int × List Char) :=
  match cs with
  | c :: rest =>
    if c = 'e' ∨ c = 'E' then do
      let (down, rest) := match rest with
        | '+' :: rest => (false, rest)
        | '-' :: rest => (true, rest)
        | _ => (false, rest)
      let (ds, rest) ← digits Char.isDigit rest
      let n : Int := ofDigits 10 ds
      return (some (if down then -n else n), rest)
    else some (none, cs)
  | [] => some (none, cs)

/-- The digits before the point: a lone zero, or digits that start with another. -/
def wholePart (cs : List Char) : Option (List Char × List Char) :=
  match cs with
  | '0' :: rest => some (['0'], rest)
  | _ => digits Char.isDigit cs

/-- A number in base ten: whole, or a float. A float above the doubles is refused, one
below them is not. -/
def decimal (negative : Bool) (cs : List Char) : Option (Value × List Char) := do
  let (whole, cs) ← wholePart cs
  let (fraction, cs) ← fractionPart cs
  let (exponent, cs) ← exponentPart cs
  if fraction = [] ∧ exponent = none then
    let n : Int := ofDigits 10 whole
    return (← integer? (if negative then -n else n), cs)
  else
    let power := exponent.getD 0 - fraction.length
    if !negative && overflows (ofDigits 10 (whole ++ fraction)) power then none
    else return (.float, cs)

/-- A number after its sign. -/
def unsigned (negative : Bool) (cs : List Char) : Option (Value × List Char) :=
  match cs with
  | 'i' :: 'n' :: 'f' :: rest => some (.float, rest)
  | 'n' :: 'a' :: 'n' :: rest => some (.float, rest)
  | _ => decimal negative cs

def isOctal (c : Char) : Bool := '0' ≤ c && c ≤ '7'

def isBinary (c : Char) : Bool := c = '0' || c = '1'

def number (cs : List Char) : Option (Value × List Char) :=
  match cs with
  | '+' :: rest => unsigned false rest
  | '-' :: rest => unsigned true rest
  | '0' :: 'x' :: rest => based 16 Hex.isDigit rest
  | '0' :: 'o' :: rest => based 8 isOctal rest
  | '0' :: 'b' :: rest => based 2 isBinary rest
  | _ => unsigned false cs

/-- A value that is not made of others. -/
def scalar (cs : List Char) : Option (Value × List Char) :=
  match cs with
  | 't' :: 'r' :: 'u' :: 'e' :: rest => some (.boolean true, rest)
  | 'f' :: 'a' :: 'l' :: 's' :: 'e' :: rest => some (.boolean false, rest)
  | _ =>
    if Moment.startsDate cs then (Moment.readDateTime cs).map fun (m, cs) => (.moment m, cs)
    else if Moment.startsClock cs then
      (Moment.readClock cs).map fun (c, cs) => (.moment (.clock c), cs)
    else number cs

/-! ## Values -/

mutual

/-- Reads a value that nests at most `room` deep. -/
def value : Nat → Nat → List Char → Option (Value × List Char)
  | 0, _, _ => none
  | fuel + 1, room, cs =>
    match cs with
    | '[' :: rest =>
      match room with
      | 0 => none
      | room + 1 => (items fuel room (skipLines rest)).map fun (vs, rest) => (.array vs, rest)
    | '{' :: rest =>
      match room with
      | 0 => none
      | room + 1 =>
        match skipBlanks rest with
        | '}' :: rest => some (.table .braces [], rest)
        | rest => do
          let (lines, rest) ← members fuel room rest
          return (.table .braces (← Table.addAll lines []), rest)
    | c :: _ =>
      if c = '"' ∨ c = tick then (string cs).map fun (s, rest) => (.string s, rest)
      else scalar cs
    | [] => none

/-- Reads the items of an array and its end. A comma may stand behind the last. -/
def items : Nat → Nat → List Char → Option (List Value × List Char)
  | 0, _, _ => none
  | fuel + 1, room, cs =>
    match cs with
    | ']' :: rest => some ([], rest)
    | _ => do
      let (v, rest) ← value fuel room cs
      match skipLines rest with
      | ']' :: rest => return ([v], rest)
      | ',' :: rest =>
        let (vs, rest) ← items fuel room (skipLines rest)
        return (v :: vs, rest)
      | _ => none

/-- Reads the members of a table in braces and its end. -/
def members : Nat → Nat → List Char → Option (List (List String × Value) × List Char)
  | 0, _, _ => none
  | fuel + 1, room, cs => do
    let (path, rest) ← key cs
    match rest with
    | '=' :: rest =>
      let (v, rest) ← value fuel room (skipBlanks rest)
      match skipBlanks rest with
      | '}' :: rest => return ([(path, v)], rest)
      | ',' :: rest =>
        let (ms, rest) ← members fuel room rest
        return ((path, v) :: ms, rest)
      | _ => none
    | _ => none

end

/-! ## Documents -/

/-- A line with something on it. -/
inductive Line
  | entry (path : List String) (v : Value)
  | header (repeated : Bool) (path : List String)

/-- One line that is not empty, and the rest. A value takes two steps per character at
most. -/
def line (cs : List Char) : Option (Line × List Char) :=
  match cs with
  | '[' :: '[' :: rest => do
    let (path, rest) ← key rest
    match rest with
    | ']' :: ']' :: rest => return (.header true path, ← lineEnd rest)
    | _ => none
  | '[' :: rest => do
    let (path, rest) ← key rest
    match rest with
    | ']' :: rest => return (.header false path, ← lineEnd rest)
    | _ => none
  | _ => do
    let (path, rest) ← key cs
    match rest with
    | '=' :: rest =>
      let (v, rest) ← value (2 * rest.length + 2) maxDepth (skipBlanks rest)
      return (.entry path v, ← lineEnd rest)
    | _ => none

/-- The lines of a text. Every one takes a character, so the length is fuel enough. -/
def lines : Nat → List Char → Option (List Line)
  | 0, _ => none
  | fuel + 1, cs =>
    match skipBlanks cs with
    | [] => some []
    | '\n' :: rest => lines fuel rest
    | '#' :: rest => (lineEnd ('#' :: rest)).bind (lines fuel)
    | cs => do
      let (l, rest) ← line cs
      return l :: (← lines fuel rest)

/-- The entries before the first header, and the blocks after it. -/
def Source.ofLines : List Line → Source
  | [] => ⟨[], []⟩
  | .entry path v :: ls =>
    let s := ofLines ls
    { s with lines := (path, v) :: s.lines }
  | .header repeated path :: ls =>
    let s := ofLines ls
    ⟨[], ⟨path.dropLast, path.getLast?.getD "", repeated, s.lines⟩ :: s.blocks⟩

/-- The byte-order mark that a text may start with. -/
def mark : Char := '\uFEFF'

/-- Reads a text. -/
def read? (text : String) : Option Table := do
  let cs := match text.toList with
    | c :: cs => if c = mark then cs else c :: cs
    | [] => []
  let cs := unified cs
  (Source.ofLines (← lines (cs.length + 1) cs)).table?

end KernelHub.Toml
