import KernelHub.HostError
import KernelHub.Ids
import KernelHub.Model
import KernelHub.Spec

/-
What a hub asks of a host, and what a host can answer. A host names its kernels by
ids of its own, which are text.
-/

namespace KernelHub

/-- What a caller may add to a start. -/
structure StartOptions where
  /-- The id the kernel should have; also a hint to its host. -/
  id : Option KernelId := none
  env : Entries String := []
  directory : Option String := none
deriving DecidableEq, Repr, Inhabited

/-- A kernel's host and the id that the host gave it. -/
structure Binding where
  side : Side
  delegate : String
deriving DecidableEq, Repr, Inhabited

/-- What one session is about. -/
structure SessionBinding where
  kernel : KernelId
  session : SessionId
  binding : Binding
deriving DecidableEq, Repr, Inhabited

/-- A call on a host. -/
inductive Request
  | specs
  | spec (name : String)
  | start (name : String) (options : StartOptions)
  | shutdown (delegate : String) (now : Bool)
  | interrupt (delegate : String)
  | restart (delegate : String) (now : Bool)
  | model (delegate : String)
  | list
  | has (delegate : String)
  | openChannel (delegate : String) (session : SessionId)
  /-- Connects an open channel to the session it was opened for. -/
  | connect (channel : Nat) (session : SessionBinding)
deriving DecidableEq, Repr, Inhabited

/-- What a host answers. -/
inductive Answer
  | specs (specs : List Spec)
  | spec (spec : Spec)
  | started (delegate : String)
  | done
  | model (model : Model)
  | models (models : List Model)
  | has (held : Bool)
  | opened (channel : Nat)
  | refused (e : HostError)
  /-- The call crashed on the way. -/
  | crashed
deriving Inhabited

end KernelHub
