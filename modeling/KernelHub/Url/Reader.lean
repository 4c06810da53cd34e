import KernelHub.Url

/-
Reading addresses. Blanks and controls around the text do not count, and tabs and line
ends nowhere. In special addresses a backslash is a slash, any number of slashes may
come before the host, and the port of the scheme is left out.
-/

namespace KernelHub.Url

/-- The text without what does not count. -/
def cleaned (cs : List Char) : List Char :=
  let edge (c : Char) : Bool := c.toNat ≤ 0x20
  (((cs.dropWhile edge).reverse.dropWhile edge).reverse).filter fun c => !isIgnored c

/-- The scheme before the first colon, in lower case, and what follows. -/
def scheme? (cs : List Char) : Option (List Char × List Char) :=
  let inScheme (c : Char) : Bool := c.isAlphanum || c = '+' || c = '-' || c = '.'
  let name := cs.takeWhile inScheme
  match name, cs.dropWhile inScheme with
  | c :: _, ':' :: rest => if c.isAlpha then some (name.map Char.toLower, rest) else none
  | _, _ => none

def isSlash (k : Kind) (c : Char) : Bool := c = '/' || (k.isSpecial && c = '\\')

/-- Does the character end the authority? -/
def endsAuthority (k : Kind) (c : Char) : Bool := isSlash k c || c = '?' || c = '#'

/-! ## Authorities -/

/-- Splits at the last `@`, if there is one. -/
def atLast (cs : List Char) : Option (List Char × List Char) :=
  if cs.contains '@' then
    let host := (cs.reverse.takeWhile (· ≠ '@')).reverse
    some (cs.take (cs.length - host.length - 1), host)
  else none

/-- Splits at the first colon outside brackets. -/
def atColon : Bool → List Char → List Char × Option (List Char)
  | _, [] => ([], none)
  | inside, c :: cs =>
    if c = ':' ∧ !inside then ([], some cs)
    else
      let inside := if c = '[' then true else if c = ']' then false else inside
      let (a, b) := atColon inside cs
      (c :: a, b)

/-- The port, unless it is the one of the scheme, and what follows: a port ends at a
backslash everywhere. -/
def readPort (scheme cs : List Char) : Except ParseError (Option Nat × List Char) :=
  let ds := cs.takeWhile Char.isDigit
  let rest := cs.drop ds.length
  let n := ds.foldl (fun n c => 10 * n + (c.toNat - 48)) 0
  if UInt16.size ≤ n ∨ rest.head?.any (· ≠ '\\') then .error .port
  else .ok (if ds = [] ∨ defaultPort? scheme = some n then none else some n, rest)

/-- The written form of a host. -/
def readHost (k : Kind) (cs : List Char) : Except ParseError (List Char) :=
  match k with
  | .other => plainHost cs
  | _ => specialHost cs

/-- Who to ask, from the text after two slashes, and what follows. -/
def readAuthority (scheme cs : List Char) : Except ParseError (Authority × List Char) := do
  let k := kindOf scheme
  let text := cs.takeWhile fun c => !endsAuthority k c
  let after := cs.drop text.length
  let (user, rest) := (atLast text).getD ([], text)
  let name := user.takeWhile (· ≠ ':')
  let secret := (user.dropWhile (· ≠ ':')).drop 1
  let (hostText, portText) := atColon false rest
  -- Nothing but a lone `@` before more text, or no host where there has to be one.
  if text = ['@'] ∧ after ≠ [] ∨ hostText = [] ∧ k = .web then throw .emptyHost
  let host ← readHost k hostText
  if host = [] ∧ portText.isSome then throw .emptyHost
  let (port, rest) ← match portText with
    | some p => readPort scheme p
    | none => .ok (none, [])
  if host = [] ∧ (name ≠ [] ∨ secret ≠ []) then throw .emptyHost
  let password := if secret = [] then none else some (encode keepUserinfo secret)
  return ({ username := encode keepUserinfo name, password, host, port }, rest ++ after)

/-! ## Paths -/

/-- A segment in its place: a drive at the start of a file's path is written with a colon. -/
def placed (k : Kind) (ss : List (List Char)) (s : List Char) : List Char :=
  if k = .file ∧ ss = [] ∧ isDrive s then s.take 1 ++ [':'] else s

/-- Adds the segments as they are read: dots step back or stay. -/
def walk (k : Kind) : List (List Char) → List (List Char) → List (List Char)
  | ss, [] => ss
  | ss, [s] =>
    if isDoubleDot s then stepBack ss ++ [[]]
    else if isSingleDot s then ss ++ [[]]
    else ss ++ [placed k ss s]
  | ss, s :: more =>
    if isDoubleDot s then walk k (stepBack ss) more
    else if isSingleDot s then walk k ss more
    else walk k (ss ++ [placed k ss s]) more

/-- The parts of a text between slashes. -/
def splitPath (k : Kind) (cs : List Char) : List (List Char) :=
  (if k.isSpecial then cs.map fun c => if c = '\\' then '/' else c else cs).splitOn '/'

/-- The segments of a path that starts after its first slash. -/
def readSegments (k : Kind) (cs : List Char) : List (List Char) :=
  walk k [] ((splitPath k cs).map (encode keepPath))

/-- The segments of a path, whose first slash may be missing. -/
def pathSegments (k : Kind) (cs : List Char) : List (List Char) :=
  match cs with
  | [] => if k.isSpecial then [[]] else []
  | c :: rest => readSegments k (if isSlash k c then rest else cs)

/-- Without the empty segments at the start. -/
def withoutLead (ss : List (List Char)) : List (List Char) :=
  match ss.dropWhile (· = []) with
  | [] => [[]]
  | ss => ss

/-! ## Addresses -/

/-- The text of the path, the query and the fragment. -/
def parts (cs : List Char) : List Char × Option (List Char) × Option (List Char) :=
  let beforeHash := cs.takeWhile (· ≠ '#')
  let fragment := match cs.dropWhile (· ≠ '#') with
    | _ :: f => some (encode keepFragment f)
    | [] => none
  let path := beforeHash.takeWhile (· ≠ '?')
  let query := match beforeHash.dropWhile (· ≠ '?') with
    | _ :: q => some q
    | [] => none
  (path, query, fragment)

/-- An address with the given path, and the query and the fragment of a text. -/
def withRest (scheme : List Char) (authority : Option Authority) (path : Path) (cs : List Char) :
    Url :=
  let (_, query, fragment) := parts cs
  { scheme, authority, path
    query := query.map (encode (keepQuery (kindOf scheme).isSpecial)), fragment }

/-- Reads what follows two slashes. -/
def afterSlashes (scheme cs : List Char) : Except ParseError Url := do
  let (authority, rest) ← readAuthority scheme cs
  let ss := pathSegments (kindOf scheme) (parts rest).1
  return withRest scheme (some authority) (.segments ss false) rest

/-- Reads what follows the scheme of a file. The host ends at a slash. The host that is
here need not be named, and neither has the host of a drive: what stands in its place
belongs to the path then. -/
def readFile (scheme cs : List Char) : Except ParseError Url := do
  let made (host : List Char) (ss : List (List Char)) (cs : List Char) : Url :=
    withRest scheme (some { host }) (.segments (withoutLead ss) false) cs
  match cs with
  | a :: b :: more =>
    if isSlash .file a ∧ isSlash .file b then
      let text := more.takeWhile fun c => !endsAuthority .file c
      let rest := more.drop text.length
      if isDrive text then return made [] (readSegments .file (parts more).1) more
      let host ← if text = [] then .ok [] else readHost .file text
      if host = [] ∨ host = "localhost".toList then
        return made [] (readSegments .file (parts rest).1) rest
      let ss := pathSegments .file (parts rest).1
      return made (if ss.head?.any isDrive then [] else host) ss rest
    else return made [] (pathSegments .file (parts cs).1) cs
  | _ => return made [] (pathSegments .file (parts cs).1) cs

/-- Reads what follows the scheme of an address that need not have a host. -/
def readOther (scheme cs : List Char) : Except ParseError Url :=
  match cs with
  | '/' :: '/' :: more => afterSlashes scheme more
  | '/' :: _ =>
    let ss := pathSegments .other (parts cs).1
    .ok (withRest scheme none (.segments ss (1 < ss.length && ss.head? = some [])) cs)
  | _ => .ok (withRest scheme none (.opaqueText (encode keepPrintable (parts cs).1)) cs)

/-- Reads an address, without another one to start from. -/
def read (s : String) : Except ParseError Url :=
  match scheme? (cleaned s.toList) with
  | none => .error .relative
  | some (scheme, rest) =>
    match kindOf scheme with
    | .web => afterSlashes scheme (rest.dropWhile (isSlash .web))
    | .file => readFile scheme rest
    | .other => readOther scheme rest

end KernelHub.Url
