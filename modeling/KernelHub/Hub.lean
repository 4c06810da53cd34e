import KernelHub.Catalog
import KernelHub.Host
import KernelHub.KernelError
import KernelHub.Table

/-
A hub over two hosts. Clients know a kernel by an id of the hub; which host runs it,
and under which id of its own, stays inside. A kernel that was started successfully
keeps its id for ever: shutting it down retires the id.
-/

namespace KernelHub

/-- A kernel's record. -/
structure Record where
  id : KernelId
  name : String
  state : KernelState := .unborn
  /-- Where the kernel runs, from its start to its shutdown. -/
  binding : Option Binding := none
  /-- Is an operation at work on the record? -/
  guarded : Bool := false
deriving DecidableEq, Repr, Inhabited

/-- The state of a hub. Records are only ever added; the registry says which record
an id has now. -/
structure Hub where
  config : Config := {}
  environment : Environment := []
  hasRemote : Bool := false
  provenance : Provenance := {}
  records : List Record := []
  registry : Table KernelId Nat := []
  idMap : Table KernelId Binding := []
  /-- Ids of kernels that were shut down. -/
  retired : List KernelId := []
deriving Inhabited

namespace Hub

/-- Is there a host on that side? -/
def hasSide (h : Hub) : Side → Bool
  | .home => true
  | .remote => h.hasRemote

def record? (h : Hub) (r : Nat) : Option Record := h.records[r]?

/-- Changes one record. -/
def edit (h : Hub) (r : Nat) (f : Record → Record) : Hub :=
  { h with records := h.records.modify r f }

def setState (h : Hub) (r : Nat) (s : KernelState) : Hub := h.edit r fun x => { x with state := s }

def setBinding (h : Hub) (r : Nat) (b : Option Binding) : Hub :=
  h.edit r fun x => { x with binding := b }

def setGuard (h : Hub) (r : Nat) (g : Bool) : Hub := h.edit r fun x => { x with guarded := g }

def map (h : Hub) (id : KernelId) (b : Binding) : Hub := { h with idMap := Table.set id b h.idMap }

def unmap (h : Hub) (id : KernelId) : Hub := { h with idMap := Table.erase id h.idMap }

def retire (h : Hub) (id : KernelId) : Hub :=
  { h with retired := if id ∈ h.retired then h.retired else id :: h.retired }

def unregister (h : Hub) (id : KernelId) : Hub := { h with registry := Table.erase id h.registry }

/-- Adds a record that the registry does not know. Returns its place. -/
def adopt (h : Hub) (id : KernelId) (name : String) : Hub × Nat :=
  ({ h with records := h.records ++ [{ id, name }] }, h.records.length)

/-- Adds a record under an id that is neither registered nor retired. -/
def register? (h : Hub) (id : KernelId) (name : String) : Option (Hub × Nat) :=
  if Table.contains id h.registry ∨ id ∈ h.retired then none
  else
    let (h, r) := h.adopt id name
    some ({ h with registry := Table.set id r h.registry }, r)

/-- The binding of a record, if there is a host for it. -/
def bound? (h : Hub) (r : Record) : Option Binding := r.binding.filter fun b => h.hasSide b.side

/-! ## What clients can see -/

def hasKernel (h : Hub) (id : KernelId) : Bool := Table.contains id h.registry

def kernelIds (h : Hub) : List KernelId := Table.keys h.registry

/-- The record that an id has now. -/
def kernel? (h : Hub) (id : KernelId) : Option Record :=
  (Table.find? id h.registry).bind h.record?

def kernelState? (h : Hub) (id : KernelId) : Option KernelState := (h.kernel? id).map (·.state)

def kernelSide? (h : Hub) (id : KernelId) : Option Side :=
  ((h.kernel? id).bind (·.binding)).map (·.side)

/-- The id under which clients know a host's kernel. -/
def externalId? (h : Hub) (side : Side) (delegate : String) : Option KernelId :=
  (List.find? (fun e => e.2.side = side ∧ e.2.delegate = delegate) h.idMap).map (·.1)

/-- The kernels of one side: the host's id, and the id that clients know. -/
def delegates (h : Hub) (side : Side) : List (String × KernelId) :=
  (List.filter (fun e => e.2.side = side) h.idMap).map fun e => (e.2.delegate, e.1)

/-- A host's model as clients see it: under their id, with only the parts that make
sense for its side. -/
def clientModel (id : KernelId) (side : Side) (m : Model) : Model :=
  match side with
  | .home => { m with id := toString id, additional := none }
  | .remote => { m with id := toString id, executionState := none }

/-- The listed models that clients know of, as they see them. -/
def clientModels (h : Hub) (side : Side) (listed : List Model) : List Model :=
  listed.filterMap fun m => (h.externalId? side m.id).map fun id => clientModel id side m

end Hub

end KernelHub
