import KernelHub.KernelError
import KernelHub.Host
import KernelHub.Message

/-
A client's session with a kernel. What the kernel says at home goes straight to the
client's socket. A remote kernel needs time to connect, so the client first hears a
`starting` status made here; what the kernel says then waits in a queue, which a pump
carries to the socket message by message, leaving out any further `starting`.

Each connection is made on a lane of its own. The lanes of a remote session each have
a queue, and only the last one is open.
-/

namespace KernelHub

/-- A client's socket: whether the client still listens, and what has reached it. -/
structure Socket where
  listening : Bool := true
  arrived : List Message := []
deriving Inhabited

namespace Socket

/-- Sends a message to the client, if it listens. -/
def send? (s : Socket) (m : Message) : Option Socket :=
  if s.listening then some { s with arrived := s.arrived ++ [m] } else none

end Socket

/-- The way from a kernel to a client. -/
structure Bridge where
  socket : Socket := {}
  /-- Is there a queue, and a `starting` status to be left out? -/
  tunnel : Bool
  /-- The lane of the last connection that was begun. -/
  lane : Nat := 0
  /-- Lanes before this one are closed. -/
  since : Nat := 0
  /-- What waits in the queue of the last lane. -/
  queue : List Message := []
  /-- Is the pump of the last lane at work? -/
  pumping : Bool := false
deriving Inhabited

namespace Bridge

def socketClosed : HostError := .transport "client socket closed"

/-- Brings a message to the socket. Returns whether it was let through. -/
def forward (b : Bridge) (m : Message) : Bridge × Except HostError Bool :=
  if b.tunnel && m.reportsStarting then (b, .ok false)
  else
    match b.socket.send? m with
    | some socket => ({ b with socket }, .ok true)
    | none => (b, .error socketClosed)

/-- Begins a connection. A remote session announces itself to the client, closes the
lane before and opens a new one; when the client has gone nothing is begun. -/
def begin (b : Bridge) (st : Stamp) (session : SessionId) : Except HostError Bridge :=
  if b.tunnel then
    match b.socket.send? (.status st session .starting) with
    | none => .error socketClosed
    | some socket =>
      .ok { b with socket, lane := b.lane + 1, since := b.lane + 1, queue := [], pumping := true }
  else .ok { b with lane := b.lane + 1 }

/-- Does anyone listen to what a kernel says on a lane? -/
def hears (b : Bridge) (lane : Nat) : Bool :=
  b.since ≤ lane && if b.tunnel then b.pumping else b.socket.listening

/-- Takes what a kernel says on a lane. -/
def push (b : Bridge) (lane : Nat) (ms : List Message) : Bridge :=
  if !b.hears lane then b
  else if b.tunnel then { b with queue := b.queue ++ ms }
  else { b with socket := { b.socket with arrived := b.socket.arrived ++ ms } }

/-- The pump carries one message on. It stops when the client has gone. -/
def pump (b : Bridge) : Bridge :=
  match b.pumping, b.queue with
  | true, m :: queue =>
    let (b, r) := { b with queue }.forward m
    match r with
    | .ok _ => b
    | .error _ => { b with queue := [], pumping := false }
  | _, _ => b

/-- Stops the pump and drops what waits. -/
def stop (b : Bridge) : Bridge := { b with queue := [], pumping := false }

/-- The client stops listening. -/
def close (b : Bridge) : Bridge := { b with socket := { b.socket with listening := false } }

/-- Another client's socket takes the place of the one before. -/
def renew (b : Bridge) : Bridge :=
  { b with socket := {}, lane := b.lane + 1, since := b.lane + 1, queue := [] }

/-- The pump carries on all that waits. -/
def drain (b : Bridge) : Bridge := (b.queue.length).repeat pump b

end Bridge

/-- A client's session with a kernel. -/
structure Session where
  about : SessionBinding
  channel : Nat
  bridge : Bridge
  connected : Bool := false
deriving Inhabited

namespace Session

/-- A session that was opened and not connected. -/
def ofOpened (about : SessionBinding) (channel : Nat) : Session where
  about := about
  channel := channel
  bridge := { tunnel := about.binding.side.isRemote }

/-- A session that was opened for the client of another one. -/
def reopened (s : Session) (about : SessionBinding) (channel : Nat) : Session :=
  let new := ofOpened about channel
  { new with bridge := { new.bridge with socket := s.bridge.socket } }

/-- The error of a session whose host refused. -/
def fault (s : Session) (e : HostError) : KernelError := .channel s.about.session e

/-- A connection succeeded. -/
def connectedNow (s : Session) : Session := { s with connected := true }

/-- A session after a disconnection, whether it succeeded or not. -/
def disconnected (s : Session) : Session :=
  { s with connected := false, bridge := if s.bridge.tunnel then s.bridge.stop else s.bridge }

/-- The form used in diagnostics. -/
def debug (s : Session) : String :=
  let side := match s.about.binding.side with
    | .home => "Local"
    | .remote => "Remote"
  "ChannelDelegator \x7b binding: SessionBinding \x7b kernel_id: " ++ s.about.kernel.debug ++
    ", session_id: " ++ s.about.session.debug ++ ", backend: " ++ side ++ ", delegate_id: " ++
    (Json.string s.about.binding.delegate).text ++ " \x7d, connected: " ++
    (if s.connected then "true" else "false") ++ ", .. \x7d"

end Session

end KernelHub
