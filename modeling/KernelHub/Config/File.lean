import KernelHub.Config
import KernelHub.Toml.Reader

/-
Settings of a hub in a TOML file. Every setting may be left out; an empty file is one
with the defaults.
-/

namespace KernelHub

/-- Why a file gives no text. -/
inductive FileError
  | missing
  | directory
  | notFolder
  | tooLong
  /-- The path has a character that no path has. -/
  | nul
  | notText
deriving DecidableEq, Repr

def FileError.message : FileError → String
  | .missing => "No such file or directory (os error 2)"
  | .directory => "Is a directory (os error 21)"
  | .notFolder => "Not a directory (os error 20)"
  | .tooLong => "File name too long (os error 36)"
  | .nul => "file name contained an unexpected NUL byte"
  | .notText => "stream did not contain valid UTF-8"

namespace Config

/-- Why there are no settings. -/
inductive FileFault
  | unread (path : String) (cause : FileError)
  | malformed
deriving DecidableEq, Repr

def FileFault.message : FileFault → String
  | .unread path cause => "failed to read config " ++ path ++ ": " ++ cause.message
  | .malformed => "invalid config"

/-- The settings in a table. -/
def ofTable? (t : Toml.Table) : Option Config := do
  let optional := t.defaulted none fun v => (Toml.Value.string? v).map some
  return {
    homeSuffix := ← t.defaulted " (Local)" Toml.Value.string? "local_suffix"
    remoteSuffix := ← t.defaulted " (Remote)" Toml.Value.string? "remote_suffix"
    defaultName := ← optional "default_kernel_name" }

/-- Decodes a TOML text. -/
def readToml? (text : String) : Option Config := (Toml.read? text).bind ofTable?

/-- The text of a file's bytes. -/
def fileText (bytes : ByteArray) : Except FileError String :=
  match String.fromUTF8? bytes with
  | some s => .ok s
  | none => .error .notText

/-- The settings in the file at a path, which has these bytes or cannot be read. -/
def ofFile (path : String) (file : Except FileError ByteArray) : Except FileFault Config :=
  match file.bind fileText with
  | .error e => .error (.unread path e)
  | .ok s =>
    match readToml? s with
    | some c => .ok c
    | none => .error .malformed

end Config

end KernelHub
