import KernelHub.HostError
import KernelHub.Ids

/-
What can go wrong with a kernel, as its clients hear of it.
-/

namespace KernelHub

/-- Where a kernel is in its life. -/
inductive KernelState
  | unborn
  | starting
  | running
  | interrupting
  | restarting
  | dead
deriving DecidableEq, Repr

namespace KernelState

instance : Inhabited KernelState := ⟨unborn⟩

def word : KernelState → String
  | unborn => "unborn"
  | starting => "starting"
  | running => "running"
  | interrupting => "interrupting"
  | restarting => "restarting"
  | dead => "dead"

instance : ToString KernelState := ⟨word⟩

def all : List KernelState := [unborn, starting, running, interrupting, restarting, dead]

def ofWord? (w : String) : Option KernelState := all.find? (·.word = w)

/-- Can the kernel never run again? -/
def isTerminal (s : KernelState) : Bool := s = dead

end KernelState

/-- What is done to one kernel. -/
inductive Operation
  | start
  | shutdown
  | interrupt
  | restart
  | model
deriving DecidableEq, Repr

namespace Operation

instance : Inhabited Operation := ⟨model⟩

def word : Operation → String
  | start => "start"
  | shutdown => "shutdown"
  | interrupt => "interrupt"
  | restart => "restart"
  | model => "model"

instance : ToString Operation := ⟨word⟩

def all : List Operation := [start, shutdown, interrupt, restart, model]

def ofWord? (w : String) : Option Operation := all.find? (·.word = w)

end Operation

/-- Why an operation of the hub failed. -/
inductive KernelError
  | kernelNotFound (id : KernelId)
  | specNotFound (name : String)
  /-- The id belongs to a kernel that lives or has lived. -/
  | alreadyExists (id : KernelId)
  | invalidState (id : KernelId) (op : Operation) (state : KernelState)
  | operationFailed (id : KernelId) (op : Operation) (source : HostError)
  /-- The local host could not list what it has. -/
  | catalog (source : HostError)
  | channel (session : SessionId) (source : HostError)
  /-- The work crashed. -/
  | crashed
deriving DecidableEq, Repr

namespace KernelError

def message : KernelError → String
  | kernelNotFound id => s!"kernel not found: {id}"
  | specNotFound name => s!"kernel spec not found: {name}"
  | alreadyExists id => s!"kernel id already in use: {id}"
  | invalidState id op state => s!"cannot {op} kernel {id}: kernel is {state}"
  | operationFailed id op source => s!"{op} failed for kernel {id}: {source.message}"
  | catalog source => s!"local backend unavailable: {source.message}"
  | channel session source => s!"channel error for session {session}: {source.message}"
  | crashed => "kernel task failed"

/-- Does it say that there is no such kernel or kernel type? -/
def isNotFound : KernelError → Bool
  | kernelNotFound _ => true
  | specNotFound _ => true
  | _ => false

/-- The host's own error, if one is passed on. -/
def source? : KernelError → Option HostError
  | operationFailed _ _ e => some e
  | catalog e => some e
  | channel _ e => some e
  | _ => none

end KernelError

end KernelHub
