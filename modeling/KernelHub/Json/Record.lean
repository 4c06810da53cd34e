import KernelHub.Json.Reader

/-
Records in JSON. A record is written as an object of its fields, or as an array
of them in their order, where fields at the end may be missing. Members that
are no fields are ignored unevaluated; a field that comes twice is an error.
-/

namespace KernelHub.Json.Document

/-- Did the member carry this key? -/
def hasKey (f : String) (m : Option String × Document) : Bool := m.1 = some f

/-- What is given for each field, in the order of the fields. Fails when a key
cannot be read, a field comes twice, or an array is too long. -/
def slots? (fields : List String) : Document → Option (List (Option Document))
  | .object ms =>
    if ms.all (·.1.isSome) && fields.all fun f => (ms.filter (hasKey f)).length ≤ 1 then
      some (fields.map fun f => (ms.find? (hasKey f)).map (·.2))
    else none
  | .array items =>
    if items.length ≤ fields.length then
      some (items.map some ++ List.replicate (fields.length - items.length) none)
    else none
  | _ => none

/-! ## Field values -/

variable {α : Type}

/-- A field that must be there. -/
def required (read : Document → Option α) : Option Document → Option α
  | some d => read d
  | none => none

/-- A field that may be missing. -/
def defaulted (a : α) (read : Document → Option α) : Option Document → Option α
  | some d => read d
  | none => some a

/-- A value or `null`. -/
def nullable (read : Document → Option α) : Document → Option (Option α)
  | .null => some none
  | d => (read d).map some

def string? : Document → Option String
  | .string s => s
  | _ => none

/-- A whole number below a bound. -/
def natBelow? (bound : Nat) : Document → Option Nat
  | .number n => do
    let i ← (← n.value?).int?
    if 0 ≤ i ∧ i.toNat < bound then some i.toNat else none
  | _ => none

/-- An object as free members. -/
def membersAt? (room : Nat) (d : Document) : Option (Entries Json) :=
  match d with
  | .object _ => (d.value? room).bind Json.object?
  | _ => none

/-- An array of free values. -/
def itemsAt? (room : Nat) (d : Document) : Option (List Json) :=
  match d with
  | .array _ => (d.value? room).bind Json.array?
  | _ => none

/-- An object of strings; of several members with one key the last counts. -/
def stringsAt? : Document → Option (Entries String)
  | .object ms => do
    let es ← ms.mapM fun (k, d) => do return (← k, ← d.string?)
    return Entries.ofList es
  | _ => none

/-- A word out of a fixed set: a string, or an object with that one member `null`. -/
def word? (ofWord? : String → Option α) : Document → Option α
  | .string s => s.bind ofWord?
  | .object [(k, .null)] => k.bind ofWord?
  | _ => none

end KernelHub.Json.Document
