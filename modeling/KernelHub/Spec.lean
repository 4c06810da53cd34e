import KernelHub.Json.Printer
import KernelHub.Json.Record

/-
Kernel types. A type is known by its name; its display name is for people, and
the only part that depends on the side that offers it.
-/

namespace KernelHub

open Json (Document)

/-- The two sides that can host kernels: this machine, and a gateway elsewhere. -/
inductive Side
  | home
  | remote
deriving DecidableEq, Repr

namespace Side

instance : Inhabited Side := ⟨home⟩

def word : Side → String
  | home => "local"
  | remote => "remote"

instance : ToString Side := ⟨word⟩

def isRemote (s : Side) : Bool := s = remote

def ofWord? (w : String) : Option Side := [home, remote].find? (·.word = w)

end Side

/-- A kernel type. -/
structure Spec where
  name : String
  displayName : String
  language : String
  metadata : Entries Json := []

namespace Spec

instance : Inhabited Spec := ⟨"", "", "", []⟩

/-- Sets an entry of the metadata. -/
def withMetadata (s : Spec) (k : String) (v : Json) : Spec :=
  { s with metadata := Entries.insert k v s.metadata }

/-- The text with a suffix, unless it ends so already. -/
def suffixed (s suffix : String) : String :=
  if suffix.toList.isSuffixOf s.toList then s else s ++ suffix

/-- The type with a suffix on its display name, which tells its side. -/
def withSuffix (s : Spec) (suffix : String) : Spec :=
  { s with displayName := suffixed s.displayName suffix }

/-! ## JSON -/

def toJson (s : Spec) : Json :=
  .object ([("name", .string s.name), ("display_name", .string s.displayName),
    ("language", .string s.language)] ++
    if s.metadata = [] then [] else [("metadata", .object s.metadata)])

def fields : List String := ["name", "display_name", "language", "metadata"]

/-- Decodes a document that may nest `room` deep. -/
def decode? (room : Nat) (d : Document) : Option Spec := do
  if room = 0 then none
  match ← d.slots? fields with
  | [name, displayName, language, metadata] =>
    return {
      name := ← Document.required Document.string? name
      displayName := ← Document.required Document.string? displayName
      language := ← Document.required Document.string? language
      metadata := ← Document.defaulted [] (Document.membersAt? (room - 1)) metadata }
  | _ => none

/-- Decodes a text. -/
def read? (text : String) : Option Spec := do
  decode? Document.maxDepth (← Document.read? text)

def text (s : Spec) : String := s.toJson.text

end Spec

end KernelHub
