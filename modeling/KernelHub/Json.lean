import KernelHub.Double
import KernelHub.Entries

/-
JSON values. A whole number stays whole as long as it fits 64 bits; every other
number is a double. The members of an object that was read are in key order,
one per key; a record writes its members in the order it declares them.
-/

namespace KernelHub

/-- A JSON value. -/
inductive Json
  | null
  | bool (b : Bool)
  | int (n : Int)
  | double (x : Double)
  | string (s : String)
  | array (items : List Json)
  | object (members : List (String × Json))

namespace Json

instance : Inhabited Json := ⟨.null⟩

/-- An object without members. -/
def empty : Json := .object []

/-- The member of an object; nothing of any other value. -/
def get? (k : String) : Json → Option Json
  | .object ms => Entries.find? k ms
  | _ => none

def string? : Json → Option String
  | .string s => some s
  | _ => none

def array? : Json → Option (List Json)
  | .array items => some items
  | _ => none

def object? : Json → Option (List (String × Json))
  | .object ms => some ms
  | _ => none

def bool? : Json → Option Bool
  | .bool b => some b
  | _ => none

/-- A whole number. -/
def int? : Json → Option Int
  | .int n => some n
  | _ => none

/-- A whole number that an unsigned 64-bit word holds. -/
def word? : Json → Option Nat
  | .int n => if 0 ≤ n ∧ n < UInt64.size then some n.toNat else none
  | _ => none

mutual

/-- The value with the members of every object put in key order. -/
def sorted : Json → Json
  | .array items => .array (sortedItems items)
  | .object ms => .object (Entries.ofList (sortedMembers ms))
  | v => v

def sortedItems : List Json → List Json
  | [] => []
  | v :: vs => v.sorted :: sortedItems vs

def sortedMembers : List (String × Json) → List (String × Json)
  | [] => []
  | (k, v) :: ms => (k, v.sorted) :: sortedMembers ms

end

mutual

/-- How deep arrays and objects nest; the outermost counts as one. -/
def depth : Json → Nat
  | .array items => depthItems items + 1
  | .object ms => depthMembers ms + 1
  | _ => 0

def depthItems : List Json → Nat
  | [] => 0
  | v :: vs => max v.depth (depthItems vs)

def depthMembers : List (String × Json) → Nat
  | [] => 0
  | (_, v) :: ms => max v.depth (depthMembers ms)

end

mutual

/-- Values that reading can give: whole numbers fit 64 bits, doubles are finite
words, members are in key order. -/
def Normal : Json → Prop
  | .int n => -0x8000000000000000 ≤ n ∧ n < UInt64.size
  | .double x => x.Valid
  | .array items => NormalItems items
  | .object ms => Entries.Ordered ms ∧ NormalMembers ms
  | _ => True

def NormalItems : List Json → Prop
  | [] => True
  | v :: vs => v.Normal ∧ NormalItems vs

def NormalMembers : List (String × Json) → Prop
  | [] => True
  | (_, v) :: ms => v.Normal ∧ NormalMembers ms

end

end Json

end KernelHub
