import KernelHub.Url.Host

/-
Addresses. The path of an address is a list of segments, each already in its
percent-encoded form; an address like `mailto:x` has a path that is no list. To push
segments onto a path is the way to extend an address by names from outside: whatever
they hold, each becomes one segment.
-/

namespace KernelHub

namespace Url

/-- How the addresses of a scheme are read. -/
inductive Kind
  /-- There is a host, and a backslash is a slash. -/
  | web
  /-- The host may be missing, a backslash is a slash, and a path may start at a drive. -/
  | file
  | other
deriving DecidableEq, Repr

namespace Kind

def isSpecial : Kind → Bool
  | other => false
  | _ => true

end Kind

/-- The port of a scheme whose addresses have a host. -/
def defaultPort? (scheme : List Char) : Option Nat :=
  match String.ofList scheme with
  | "http" => some 80
  | "ws" => some 80
  | "https" => some 443
  | "wss" => some 443
  | "ftp" => some 21
  | _ => none

def kindOf (scheme : List Char) : Kind :=
  if (defaultPort? scheme).isSome then .web
  else if String.ofList scheme = "file" then .file
  else .other

/-- The path of an address. -/
inductive Path
  /-- A text without segments. -/
  | opaqueText (text : List Char)
  /-- Segments, each after a slash. A path that was read without a host and starts with
  an empty segment is marked, or it would read as a host. -/
  | segments (segments : List (List Char)) (marked : Bool)
deriving DecidableEq, Repr

/-- Who is asked, and where. -/
structure Authority where
  username : List Char := []
  password : Option (List Char) := none
  host : List Char
  port : Option Nat := none
deriving DecidableEq, Repr

end Url

/-- An address. -/
structure Url where
  scheme : List Char
  authority : Option Url.Authority
  path : Url.Path
  query : Option (List Char) := none
  fragment : Option (List Char) := none
deriving DecidableEq, Repr

namespace Url

def kind (u : Url) : Kind := kindOf u.scheme

def isSpecial (u : Url) : Bool := u.kind.isSpecial

/-! ## Writing -/

def Authority.chars (a : Authority) : List Char :=
  let secret := match a.password with
    | some p => ':' :: p
    | none => []
  let user := a.username ++ secret
  (if user = [] then [] else user ++ ['@']) ++ a.host ++
    match a.port with
    | some p => ':' :: decimal p
    | none => []

def segmentChars (segments : List (List Char)) : List Char := segments.flatMap ('/' :: ·)

/-- The path, after its mark if it has one. -/
def Path.chars : Path → List Char
  | opaqueText t => t
  | segments ss marked => (if marked then ['/', '.'] else []) ++ segmentChars ss

/-- The written form. -/
def chars (u : Url) : List Char :=
  u.scheme ++ ':' ::
    ((match u.authority with
      | some a => '/' :: '/' :: a.chars
      | none => []) ++
    u.path.chars ++
    (match u.query with
      | some q => '?' :: q
      | none => []) ++
    (match u.fragment with
      | some f => '#' :: f
      | none => []))

def text (u : Url) : String := String.ofList u.chars

/-! ## Extending -/

/-- Tabs and line ends never count. -/
def isIgnored (c : Char) : Bool := c = '\t' || c = '\n' || c = '\r'

def isSingleDot (s : List Char) : Bool :=
  let t := s.map Char.toLower
  t = ['.'] || t = "%2e".toList

def isDoubleDot (s : List Char) : Bool :=
  let t := s.map Char.toLower
  t = ['.', '.'] || t = ".%2e".toList || t = "%2e.".toList || t = "%2e%2e".toList

/-- Is it the name of a drive: a letter, and a colon or a bar? -/
def isDrive : List Char → Bool
  | [c, d] => c.isAlpha && (d = ':' || d = '|')
  | _ => false

/-- Does it start with the name of a drive, and end there or go on with a backslash? -/
def startsAtDrive (s : List Char) : Bool :=
  isDrive (s.take 2) && (s.length = 2 || s[2]? = some '\\')

/-- The segments without the last one. No step leads back from a drive. -/
def stepBack (ss : List (List Char)) : List (List Char) :=
  if ss.getLast?.any startsAtDrive then ss else ss.dropLast

/-- A path of one empty segment is a path to push onto as if it were empty. -/
def stem (ss : List (List Char)) : List (List Char) := if ss = [[]] then [] else ss

/-- Without an empty segment at the end. -/
def withoutEmpty (ss : List (List Char)) : List (List Char) :=
  if 1 < ss.length ∧ ss.getLast? = some [] then ss.dropLast else ss

/-- The segments after one more name. The names `.` and `..` add nothing; a name that
becomes one of them without its ignored characters is followed as a relative step. -/
def push (special : Bool) (ss : List (List Char)) (name : List Char) : List (List Char) :=
  if name = ['.'] ∨ name = ['.', '.'] then ss
  else
    let s := encode (keepSegment special) (name.filter fun c => !isIgnored c)
    if isDoubleDot s then stepBack (stem ss) ++ [[]]
    else if isSingleDot s then stem ss ++ [[]]
    else stem ss ++ [s]

/-- The address with more segments, if its path has segments at all. -/
def extend? (u : Url) (names : List String) : Option Url :=
  match u.path with
  | .opaqueText _ => none
  | .segments ss marked =>
    let ss := (names.map String.toList).foldl (push u.isSpecial) (withoutEmpty ss)
    some { u with path := .segments ss marked }

/-- A character in the value of a query pair: letters, digits and `*-._` stay. -/
def keepPair (c : Char) : Bool := c.isAlphanum || ['*', '-', '.', '_'].contains c

/-- The address with one more pair in its query. Key and value are plain ASCII words. -/
def withPair (u : Url) (k v : String) : Url :=
  let pair := encode keepPair k.toList ++ '=' :: encode keepPair v.toList
  { u with query := some (match u.query with
      | some [] => pair
      | some q => q ++ '&' :: pair
      | none => pair) }

end Url

end KernelHub
