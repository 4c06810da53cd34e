import KernelHub.Table

/-
Header fields: which names and values can be sent, and what is sent when a name comes
more than once.
-/

namespace KernelHub.Gateway

/-- Header fields in the order they are set. -/
abbrev Headers := List (String × String)

namespace Headers

/-- Characters of a header name. -/
def isToken (c : Char) : Bool :=
  c.isAlphanum ||
    ['!', '#', '$', '%', '&', '\'', '*', '+', '-', '.', '^', '_', '\x60', '|', '~'].contains c

def validName (name : String) : Bool :=
  name ≠ "" && name.toList.all isToken && name.length < UInt16.size

/-- Characters of a header value: no control but the tab. -/
def inValue (c : Char) : Bool := c = '\t' || (0x20 ≤ c.toNat && c.toNat ≠ 0x7F)

def validValue (value : String) : Bool := value.toList.all inValue

/-- Why a header cannot be sent. -/
inductive Fault
  | name
  | value
deriving DecidableEq, Repr

def Fault.message : Fault → String
  | name => "invalid HTTP header name"
  | value => "failed to parse header value"

/-- The first header that cannot be sent. -/
def fault? (hs : Headers) : Option (String × Fault) :=
  hs.findSome? fun (name, value) =>
    if !validName name then some (name, .name)
    else if !validValue value then some (name, .value)
    else none

/-- What is sent: names in lower case, and of several with one name the last. -/
def sent (hs : Headers) : Table String String :=
  hs.foldl (fun t h => Table.set (String.ofList (h.1.toList.map Char.toLower)) h.2 t) []

/-- Values that a handshake can carry are ASCII. -/
def isAscii (value : String) : Bool := value.toList.all fun c => c.toNat < 128

end Headers

end KernelHub.Gateway
