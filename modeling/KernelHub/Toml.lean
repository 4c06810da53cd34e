import KernelHub.Entries
import KernelHub.Toml.Moment

/-
TOML documents as tables. A table remembers what made it, because that decides who
may add to it: one written in braces is closed, one made by a header is closed to
dotted keys, one that a longer header implied may still get a header of its own,
and one that a dotted key made is open to dotted keys only.
-/

namespace KernelHub.Toml

/-- What made a table. -/
inductive Origin
  | braces
  | header
  | implied
  | dotted
deriving DecidableEq, Repr

/-- A value. What a float is worth is not kept: no setting is a float. -/
inductive Value
  | string (s : String)
  | integer (n : Int)
  | float
  | boolean (b : Bool)
  | moment (m : Moment)
  | array (items : List Value)
  | table (origin : Origin) (entries : List (String × Value))
  /-- Tables under one header in double brackets, the newest first. -/
  | tables (newest : List (String × Value)) (older : List (List (String × Value)))

instance : Inhabited Value := ⟨.float⟩

/-- Entries by key. -/
abbrev Table := Entries Value

namespace Table

/-- Adds a value under a dotted key. The key's tables are made as needed; a table that
exists is entered unless it is closed to dotted keys, and the value itself only goes into
a table that a dotted key made. -/
def add : List String → Value → Table → Option Table
  | [], _, _ => none
  | [k], v, t => if (Entries.find? k t).isSome then none else some (Entries.insert k v t)
  | k :: k' :: path, v, t =>
    match Entries.find? k t with
    | none => (add (k' :: path) v []).map fun u => Entries.insert k (.table .dotted u) t
    | some (.table .dotted u) =>
      (add (k' :: path) v u).map fun u => Entries.insert k (.table .dotted u) t
    | some (.table .implied u) =>
      if path = [] then none
      else (add (k' :: path) v u).map fun u => Entries.insert k (.table .implied u) t
    | some (.tables u older) =>
      if path = [] then none
      else (add (k' :: path) v u).map fun u => Entries.insert k (.tables u older) t
    | some _ => none

/-- Adds the values of some lines. -/
def addAll (lines : List (List String × Value)) (t : Table) : Option Table :=
  lines.foldlM (fun t l => add l.1 l.2 t) t

/-- Changes the table that the keys of a header lead to. Tables on the way are implied;
of tables under one header the newest is entered. -/
def within : List String → (Table → Option Table) → Table → Option Table
  | [], f, t => f t
  | k :: path, f, t =>
    match Entries.find? k t with
    | none => (within path f []).map fun u => Entries.insert k (.table .implied u) t
    | some (.table .braces _) => none
    | some (.table o u) => (within path f u).map fun u => Entries.insert k (.table o u) t
    | some (.tables u older) => (within path f u).map fun u => Entries.insert k (.tables u older) t
    | some _ => none

/-- Gives a table its header and lines: a table has one header at most. -/
def open? (k : String) (lines : List (List String × Value)) (t : Table) : Option Table :=
  match Entries.find? k t with
  | none => (addAll lines []).map fun u => Entries.insert k (.table .header u) t
  | some (.table .implied u) => (addAll lines u).map fun u => Entries.insert k (.table .header u) t
  | some _ => none

/-- Starts one more table under a header in double brackets. -/
def append? (k : String) (lines : List (List String × Value)) (t : Table) : Option Table :=
  match Entries.find? k t with
  | none => (addAll lines []).map fun u => Entries.insert k (.tables u []) t
  | some (.tables u older) =>
    (addAll lines []).map fun new => Entries.insert k (.tables new (u :: older)) t
  | some _ => none

end Table

/-- The lines under one header. The path of a header is its keys but the last. -/
structure Block where
  path : List String
  key : String
  /-- Is the header in double brackets? -/
  repeated : Bool
  lines : List (List String × Value)

/-- A document: the lines before the first header, and the blocks. -/
structure Source where
  lines : List (List String × Value)
  blocks : List Block

/-- The table of a document. -/
def Source.table? (s : Source) : Option Table := do
  s.blocks.foldlM (fun t b => Table.within b.path
    (if b.repeated then Table.append? b.key b.lines else Table.open? b.key b.lines) t)
    (← Table.addAll s.lines [])

/-! ## Looking up settings -/

namespace Value

def string? : Value → Option String
  | .string s => some s
  | _ => none

/-- A whole number that is not negative. -/
def nat? : Value → Option Nat
  | .integer n => if 0 ≤ n then some n.toNat else none
  | _ => none

/-- The name of the one entry of a date or time that is taken as a table. -/
def momentKey : String := "$__toml_private_datetime"

/-- A table of strings. -/
def strings? : Value → Option (Entries String)
  | .table _ es => es.mapM fun e => (string? e.2).map (e.1, ·)
  | .moment m => some [(momentKey, m.text)]
  | _ => none

end Value

namespace Table

/-- A setting that must be there. -/
def required {α : Type} (f : Value → Option α) (k : String) (t : Table) : Option α :=
  (Entries.find? k t).bind f

/-- A setting that may be left out. -/
def defaulted {α : Type} (a : α) (f : Value → Option α) (k : String) (t : Table) : Option α :=
  match Entries.find? k t with
  | some v => f v
  | none => some a

end Table

end KernelHub.Toml
