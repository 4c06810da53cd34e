import KernelHub.Instant.Reader
import KernelHub.Json.Printer
import KernelHub.Json.Record

/-
What a host tells about a running kernel.
-/

namespace KernelHub

open Json (Document)

/-- What a kernel is doing. -/
inductive ExecutionState
  | starting
  | idle
  | busy
  | restarting
  | terminating
  | dead
  | unknown
deriving DecidableEq, Repr

namespace ExecutionState

instance : Inhabited ExecutionState := ⟨unknown⟩

def word : ExecutionState → String
  | starting => "starting"
  | idle => "idle"
  | busy => "busy"
  | restarting => "restarting"
  | terminating => "terminating"
  | dead => "dead"
  | unknown => "unknown"

instance : ToString ExecutionState := ⟨word⟩

def all : List ExecutionState := [starting, idle, busy, restarting, terminating, dead, unknown]

def ofWord? (w : String) : Option ExecutionState := all.find? (·.word = w)

/-- The state that a word names; a word that is none reads as `unknown`. -/
def ofWord (w : String) : ExecutionState := (ofWord? w).getD unknown

end ExecutionState

/-- What a host tells about a kernel. -/
structure Model where
  id : String
  name : String
  lastActivity : Option Instant := none
  executionState : Option ExecutionState := none
  connections : UInt32 := 0
  /-- What only that host knows about. -/
  additional : Option Json := none

namespace Model

instance : Inhabited Model := ⟨{ id := "", name := "" }⟩

/-! ## JSON -/

/-- The member, if there is a value. -/
def member (k : String) : Option Json → List (String × Json)
  | some v => [(k, v)]
  | none => []

def toJson (m : Model) : Json :=
  .object ([("id", .string m.id), ("name", .string m.name),
    ("last_activity", (m.lastActivity.map fun t => Json.string (toString t)).getD .null)] ++
    member "execution_state" (m.executionState.map fun s => .string s.word) ++
    [("connections", .int m.connections.toNat)] ++
    member "additional" m.additional)

def fields : List String :=
  ["id", "name", "last_activity", "execution_state", "connections", "additional"]

def instant? (d : Document) : Option Instant := d.string?.bind Instant.ofRelaxed?

def word32? (d : Document) : Option UInt32 := (d.natBelow? UInt32.size).map UInt32.ofNat

/-- Decodes a document that may nest `room` deep. -/
def decode? (room : Nat) (d : Document) : Option Model := do
  if room = 0 then none
  match ← d.slots? fields with
  | [id, name, lastActivity, executionState, connections, additional] =>
    return {
      id := ← Document.required Document.string? id
      name := ← Document.required Document.string? name
      lastActivity := ← Document.defaulted none (Document.nullable instant?) lastActivity
      executionState := ← Document.defaulted none
        (Document.nullable (Document.word? ExecutionState.ofWord?)) executionState
      connections := ← Document.defaulted 0 word32? connections
      additional := ← Document.defaulted none
        (Document.nullable (Document.value? (room - 1))) additional }
  | _ => none

/-- Decodes a text. -/
def read? (text : String) : Option Model := do
  decode? Document.maxDepth (← Document.read? text)

def text (m : Model) : String := m.toJson.text

end Model

end KernelHub
