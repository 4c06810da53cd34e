/-
Why a host refused a call.
-/

namespace KernelHub

/-- Why a host refused a call. -/
inductive HostError
  /-- There is no kernel or kernel type by that name. -/
  | notFound (what : String)
  /-- Credentials are missing or rejected. -/
  | unauthorized (why : String)
  /-- The host cannot be reached, or refuses service. -/
  | unavailable (why : String)
  /-- The call took too long. -/
  | timeout (why : String)
  /-- The host answered that the operation failed. -/
  | failed (why : String)
  /-- The host's answer makes no sense. -/
  | protocol (why : String)
  /-- A message could not be carried. -/
  | transport (why : String)
deriving DecidableEq, Repr

namespace HostError

def message : HostError → String
  | notFound s => "not found: " ++ s
  | unauthorized s => "unauthorized: " ++ s
  | unavailable s => "backend unavailable: " ++ s
  | timeout s => "timed out: " ++ s
  | failed s => s
  | protocol s => "protocol error: " ++ s
  | transport s => "transport error: " ++ s

def isNotFound : HostError → Bool
  | notFound _ => true
  | _ => false

end HostError

end KernelHub
