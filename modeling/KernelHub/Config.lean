import KernelHub.Json.Printer
import KernelHub.Json.Record

/-
Settings of a hub: how display names tell the sides apart, and which kernel type
is offered first. The environment may name another first type.
-/

namespace KernelHub

open Json (Document)

/-- Variables set outside. -/
abbrev Environment := Entries String

/-- The value of a variable that is set and not empty. -/
def Environment.value? (env : Environment) (name : String) : Option String :=
  (Entries.find? name env).filter (· ≠ "")

/-- Settings of a hub. -/
structure Config where
  homeSuffix : String := " (Local)"
  remoteSuffix : String := " (Remote)"
  defaultName : Option String := none
deriving DecidableEq, Repr, Inhabited

namespace Config

/-- The variable that names the default type. -/
def defaultNameVariable : String := "KERNELMIX_DEFAULT_KERNEL"

/-- The configured default type; the environment goes before the settings. -/
def resolvedDefault (c : Config) (env : Environment) : Option String :=
  Environment.value? env defaultNameVariable <|> c.defaultName

/-! ## JSON -/

def toJson (c : Config) : Json :=
  .object ([("local_suffix", .string c.homeSuffix), ("remote_suffix", .string c.remoteSuffix)] ++
    match c.defaultName with
    | some d => [("default_kernel_name", .string d)]
    | none => [])

def fields : List String := ["local_suffix", "remote_suffix", "default_kernel_name"]

/-- Decodes a document. -/
def decode? (d : Document) : Option Config := do
  match ← d.slots? fields with
  | [homeSuffix, remoteSuffix, defaultName] =>
    return {
      homeSuffix := ← Document.defaulted " (Local)" Document.string? homeSuffix
      remoteSuffix := ← Document.defaulted " (Remote)" Document.string? remoteSuffix
      defaultName := ← Document.defaulted none (Document.nullable Document.string?) defaultName }
  | _ => none

def text (c : Config) : String := c.toJson.text

end Config

end KernelHub
