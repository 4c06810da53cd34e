import KernelHub.Config.File

/-
The files of a machine, as far as settings can be read from them: a tree of folders that
a path leads through, name by name.
-/

namespace KernelHub.Simulation

/-- What a path can lead to. -/
inductive Node
  | file (bytes : ByteArray)
  /-- Reads as empty, and keeps nothing that is written to it. -/
  | sink
  | folder (entries : List (String × Node))
deriving Inhabited

namespace Node

/-- The longest name of an entry, and the longest path, in bytes. -/
def longestName : Nat := 255
def longestPath : Nat := 4095

/-- Follows names from a node, whose parents are known, the nearest first. -/
def walk : Node → List Node → List String → Except FileError Node
  | node, _, [] => .ok node
  | .folder es, up, name :: names =>
    if name = "" ∨ name = "." then walk (.folder es) up names
    else if name = ".." then walk (up.headD (.folder es)) up.tail names
    else if longestName < name.utf8ByteSize then .error .tooLong
    else
      match es.lookup name with
      | some node => walk node (.folder es :: up) names
      | none => .error .missing
  | _, _, _ :: _ => .error .notFolder

/-- The bytes that a node reads as. -/
def bytes : Node → Except FileError ByteArray
  | file bs => .ok bs
  | sink => .ok .empty
  | folder _ => .error .directory

end Node

/-- A machine: its root, and the folders that paths without a leading slash start from,
the nearest first. -/
structure Files where
  root : Node
  here : List Node

namespace Files

/-- The names of a path, if the system takes it at all. -/
def names (path : String) : Except FileError (List String) :=
  if path.contains '\x00' then .error .nul
  else if path = "" then .error .missing
  else if Node.longestPath < path.utf8ByteSize then .error .tooLong
  else .ok (path.splitOn "/")

/-- What some names lead to. -/
def follow (f : Files) (names : List String) : Except FileError Node :=
  match names, f.here with
  | "" :: _ :: _, _ => f.root.walk [] names
  | _, here :: up => here.walk up names
  | _, [] => .error .missing

/-- What reading a file gives. -/
def read (f : Files) (path : String) : Except FileError ByteArray := do
  (← f.follow (← names path)).bytes

/-- What reading a file gives right after bytes were written to it. Where nothing can be
written it gives what was there before. -/
def readWritten (f : Files) (path : String) (bytes : ByteArray) : Except FileError ByteArray := do
  let parts ← names path
  let last := parts.getLastD ""
  if ["", ".", ".."].contains last then f.read path
  else
    match ← f.follow (parts.dropLast ++ [""]) with
    | .folder es =>
      if Node.longestName < last.utf8ByteSize then .error .tooLong
      else
        match es.lookup last with
        | some (.file _) => .ok bytes
        | some node => node.bytes
        | none => .ok bytes
    | _ => .error .notFolder

/-- A machine with what all machines have. Paths start from a new folder in `/tmp`. -/
def machine : Files :=
  let line (s : String) : Node := .file s.toUTF8
  let empty (name : String) : String × Node := (name, .folder [])
  let tmp : Node := .folder [empty "new"]
  let root : Node := .folder ([("dev", .folder [("null", .sink)]), ("tmp", tmp),
    ("etc", .folder [("hosts", line "127.0.0.1 localhost"), ("passwd", line "root:x:0:0")])] ++
    ["bin", "boot", "home", "lib", "mnt", "opt", "proc", "root", "run", "sbin", "srv", "sys", "usr",
      "var"].map empty)
  ⟨root, [.folder [], tmp, root]⟩

end Files

end KernelHub.Simulation
