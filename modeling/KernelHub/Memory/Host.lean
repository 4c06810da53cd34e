import KernelHub.Host
import KernelHub.Memory.Kernel
import KernelHub.Table

/-
A host that keeps its kernels in memory. It can be made unreachable, made to refuse
operations, and slowed down. A call that takes time is accepted first and finished
later; the host counts how often two such operations met on one kernel.
-/

namespace KernelHub.Memory

/-- A channel to a kernel. Its lane tells which of its client's queues it feeds, once
it is connected. -/
structure Channel where
  kernel : Nat
  session : SessionId
  lane : Option Nat := none
deriving DecidableEq, Repr, Inhabited

/-- A host in memory. Kernels are only ever added; `live` says which of them the host
has, under which id. -/
structure Host where
  side : Side
  specs : List Spec := []
  kernels : List Kernel := []
  live : Table String Nat := []
  channels : List Channel := []
  available : Bool := true
  failing : Bool := false
  /-- Milliseconds that operations take. -/
  delay : Nat := 0
  overlaps : Nat := 0
  nextProcess : UInt32 := 4000
  /-- May channels connect? -/
  gateOpen : Bool := true
deriving Inhabited

/-- A call that was accepted and is not finished. -/
inductive Flight
  | specs
  | start (name : String) (options : StartOptions)
  | shutdown (id : String) (kernel : Nat)
  | interrupt (kernel : Nat)
  | restart (kernel : Nat)
deriving DecidableEq, Repr, Inhabited

namespace Host

/-- What the ids of the host's own making start with. -/
def lead (h : Host) : String :=
  match h.side with
  | .home => "local"
  | .remote => "gw"

def editKernel (h : Host) (k : Nat) (f : Kernel → Kernel) : Host :=
  { h with kernels := h.kernels.modify k f }

def editChannel (h : Host) (c : Nat) (f : Channel → Channel) : Host :=
  { h with channels := h.channels.modify c f }

def checkAvailable (h : Host) : Except HostError Unit :=
  if h.available then .ok () else .error (.unavailable s!"{h.side} host is down")

def checkWilling (h : Host) (op : String) : Except HostError Unit :=
  if h.failing then .error (.failed s!"{op} rejected by {h.side} host") else .ok ()

def spec (h : Host) (name : String) : Except HostError Spec := do
  h.checkAvailable
  match h.specs.find? (·.name = name) with
  | some s => return s
  | none => .error (.notFound s!"kernel spec {name}")

/-- The kernel that the host has under an id. -/
def find (h : Host) (id : String) : Except HostError Nat :=
  match Table.find? id h.live with
  | some k => .ok k
  | none => .error (.notFound s!"kernel {id}")

/-- Enters an operation on a kernel, counting a meeting with another one. -/
def enter (h : Host) (op id : String) : Except HostError (Host × Nat) := do
  h.checkAvailable
  h.checkWilling op
  let k ← h.find id
  let meets := (h.kernels[k]?.map (·.busy)).getD false
  let h := h.editKernel k fun x => { x with busy := true }
  return (if meets then { h with overlaps := h.overlaps + 1 } else h, k)

/-- Leaves an operation on a kernel. -/
def leave (h : Host) (k : Nat) : Host := h.editKernel k fun x => { x with busy := false }

/-- Adds a kernel: under the id asked for if it is free, else under one of the host's
own making. Returns that id. -/
def add (h : Host) (s : Spec) (options : StartOptions) (fresh : Uuid) (now : Instant) :
    Host × String :=
  let wanted := (options.id.map toString).filter fun id => !Table.contains id h.live
  let id := wanted.getD (h.lead ++ "-" ++ toString fresh)
  let kernel : Kernel :=
    { name := s.name, language := s.language, process := h.nextProcess, lastActivity := now }
  ({ h with
      kernels := h.kernels ++ [kernel]
      live := Table.set id h.kernels.length h.live
      nextProcess := h.nextProcess + 1 }, id)

def models (h : Host) : List Model :=
  List.filterMap (fun e => h.kernels[e.2]?.map fun k => k.model h.side e.1) h.live

/-- The answer that a fallible look at the host gives. -/
def looked {α : Type} (f : α → Answer) : Except HostError α → Answer
  | .ok a => f a
  | .error e => .refused e

/-- Enters an operation on a kernel that takes time, or refuses it. -/
def accepted (h : Host) (op id : String) (onKernel : Kernel → Kernel) (flight : Nat → Flight) :
    Host × (Answer ⊕ Flight) :=
  match h.enter op id with
  | .ok (h, k) => (h.editKernel k onKernel, .inr (flight k))
  | .error e => (h, .inl (.refused e))

/-- Takes a call: answers it, or accepts it to be finished later. A connection is none
of the host's own calls. -/
def accept (h : Host) (now : Instant) : Request → Host × (Answer ⊕ Flight)
  | .specs => (h, .inr .specs)
  | .spec name => (h, .inl (looked .spec (h.spec name)))
  | .start name options => (h, .inr (.start name options))
  | .shutdown id _ =>
    h.accepted "shutdown" id (fun k => k.touch .terminating now) (.shutdown id)
  | .interrupt id => h.accepted "interrupt" id (fun k => k) .interrupt
  | .restart id _ => h.accepted "restart" id (fun k => k.touch .restarting now) .restart
  | .model id =>
    (h, .inl (looked .model do
      h.checkAvailable
      let k ← h.find id
      return (h.kernels[k]?.getD default).model h.side id))
  | .list => (h, .inl (looked (fun () => .models h.models) h.checkAvailable))
  | .has id => (h, .inl (.has (h.available && Table.contains id h.live)))
  | .openChannel id session =>
    match (do h.checkAvailable; h.find id) with
    | .ok kernel =>
      let channel : Channel := { kernel, session }
      ({ h with channels := h.channels ++ [channel] }, .inl (.opened h.channels.length))
    | .error e => (h, .inl (.refused e))
  | .connect .. => (h, .inl .crashed)

/-- Finishes a call that was accepted. -/
def finish (h : Host) (now : Instant) (fresh : Uuid) : Flight → Host × Answer
  | .specs => (h, looked (fun () => .specs h.specs) h.checkAvailable)
  | .start name options =>
    match (do h.checkAvailable; h.checkWilling "start"; h.spec name) with
    | .ok s =>
      let (h, id) := h.add s options fresh now
      (h, .started id)
    | .error e => (h, .refused e)
  | .shutdown id k =>
    match h.find id with
    | .ok dying =>
      let h := { h with live := Table.erase id h.live }.editKernel dying fun x => x.touch .dead now
      (h.leave k, .done)
    | .error e => (h.leave k, .refused e)
  | .interrupt k => ((h.editKernel k fun x => x.touch .idle now).leave k, .done)
  | .restart k =>
    ((h.editKernel k fun x => { x with executions := 0 }.touch .idle now).leave k, .done)

/-- Gives up a call that was accepted. -/
def abandon (h : Host) : Flight → Host
  | .shutdown _ k => h.leave k
  | .interrupt k => h.leave k
  | .restart k => h.leave k
  | _ => h

/-- Milliseconds that an accepted call takes. The host at home answers at once. -/
def pause (h : Host) : Nat := if h.side = .remote then h.delay else 0

/-! ## Controls -/

/-- Loses a kernel, as if it had crashed. Was there one? -/
def kill (h : Host) (id : String) : Host × Bool :=
  ({ h with live := Table.erase id h.live }, Table.contains id h.live)

def count (h : Host) : Nat := h.live.length

def ids (h : Host) : List String := Table.keys h.live

/-- The messages that a kernel has received. -/
def received (h : Host) (id : String) : List Message :=
  (((Table.find? id h.live).bind fun k => h.kernels[k]?).map (·.received)).getD []

/-! ## Channels -/

def notConnected : HostError := .transport "channel not connected"

def wentAway : HostError := .transport "client went away"

/-- What a channel has to say to a client that listens or not: nothing reaches a client
that has gone, and saying something to it is an error. -/
def say (listening : Bool) (ms : List Message) : Except HostError Unit × List Message :=
  if listening then (.ok (), ms)
  else if ms.isEmpty then (.ok (), [])
  else (.error wentAway, [])

/-- Connects a channel to a lane, and greets the client. A connection counts from the
moment it is made, also when the greeting fails. -/
def connect (h : Host) (st : Kernel.Stamps) (c lane : Nat) (listening : Bool) :
    Host × Except HostError Unit × List Message :=
  match h.channels[c]? with
  | none => (h, .error notConnected, [])
  | some ch =>
    let h := if ch.lane.isNone then
      h.editKernel ch.kernel fun k => { k with connections := k.connections + 1 } else h
    (h.editChannel c fun ch => { ch with lane := some lane },
          say listening (Kernel.greeting st ch.session))

/-- Hands a client's message to the kernel, which answers on the same channel. -/
def send (h : Host) (st : Kernel.Stamps) (c : Nat) (listening : Bool) (m : Message) :
    Host × Except HostError Unit × List Message :=
  match h.channels[c]? with
  | none => (h, .error notConnected, [])
  | some ch =>
    if ch.lane.isNone then (h, .error notConnected, [])
    else
      let k := h.kernels[ch.kernel]?.getD default
      let (k, answers) := { k with received := k.received ++ [m] }.answer st ch.session m
      (h.editKernel ch.kernel fun _ => k, say listening answers)

/-- Disconnects a channel. It may be connected again. -/
def disconnect (h : Host) (c : Nat) : Host :=
  match h.channels[c]? with
  | none => h
  | some ch =>
    let h := if ch.lane.isSome then
      h.editKernel ch.kernel fun k => { k with connections := k.connections - 1 } else h
    h.editChannel c fun ch => { ch with lane := none }

end Host

end KernelHub.Memory
