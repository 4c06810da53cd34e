import KernelHub.Uuid.Reader

/-
Identifiers of kernels and of client sessions. Both are universally unique
identifiers; the types keep one from being passed for the other. The ids that
hosts give to their own kernels are plain text and have no type here.
-/

namespace KernelHub

/-- The id by which clients know a kernel. -/
structure KernelId where
  uuid : Uuid
deriving DecidableEq, Repr

/-- The id of one client's session with a kernel. -/
structure SessionId where
  uuid : Uuid
deriving DecidableEq, Repr

/-- A text that is no id: what was to be read, the text, and its fault. -/
structure IdError where
  noun : String
  input : String
  cause : Uuid.ReadError
deriving DecidableEq, Repr

def IdError.message (e : IdError) : String :=
  s!"invalid {e.noun} id '{e.input}': {e.cause.message}"

/-- The first eight digits, for people to tell ids apart. -/
def Uuid.short (u : Uuid) : String := String.ofList (u.digits.take 8)

namespace KernelId

def zero : KernelId := ⟨.zero⟩

instance : Inhabited KernelId := ⟨zero⟩

instance : LT KernelId := ⟨fun a b => a.uuid < b.uuid⟩

instance (a b : KernelId) : Decidable (a < b) := inferInstanceAs (Decidable (a.uuid < b.uuid))

instance : ToString KernelId := ⟨fun k => toString k.uuid⟩

def isZero (k : KernelId) : Bool := k = zero

def short (k : KernelId) : String := k.uuid.short

/-- The form used in diagnostics. -/
def debug (k : KernelId) : String := s!"KernelId({k.short})"

def read (s : String) : Except IdError KernelId :=
  match Uuid.read s with
  | .ok u => .ok ⟨u⟩
  | .error e => .error ⟨"kernel", s, e⟩

def ofRandom (n : Nat) : KernelId := ⟨.ofRandom n⟩

end KernelId

namespace SessionId

def zero : SessionId := ⟨.zero⟩

instance : Inhabited SessionId := ⟨zero⟩

instance : LT SessionId := ⟨fun a b => a.uuid < b.uuid⟩

instance (a b : SessionId) : Decidable (a < b) := inferInstanceAs (Decidable (a.uuid < b.uuid))

instance : ToString SessionId := ⟨fun s => toString s.uuid⟩

def isZero (s : SessionId) : Bool := s = zero

def short (s : SessionId) : String := s.uuid.short

/-- The form used in diagnostics. -/
def debug (s : SessionId) : String := s!"SessionId({s.short})"

def read (s : String) : Except IdError SessionId :=
  match Uuid.read s with
  | .ok u => .ok ⟨u⟩
  | .error e => .error ⟨"session", s, e⟩

def ofTime (millis n : Nat) : SessionId := ⟨.ofTime millis n⟩

end SessionId

end KernelHub
