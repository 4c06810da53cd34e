import KernelHub.Gateway.Channel
import KernelHub.Hub.Call
import KernelHub.Memory.Host
import KernelHub.Session
import KernelHub.Simulation.Tap

/-
A world to try hubs in: one hub or two over the same hosts, a tap before the hosts,
clients with sockets, and a clock that moves only when everyone waits for it.
-/

namespace KernelHub.Simulation

/-- A gateway on a network that carries nothing. -/
structure Outpost where
  client : Gateway.Client
  channels : List Gateway.Channel := []

/-- The remote host. -/
inductive Remote
  | memory (host : Memory.Host)
  | outpost (site : Outpost)

/-- A client's end of a channel. A bare line has a channel and no session. -/
structure Line where
  session : Session
  bare : Bool := false
deriving Inhabited

/-- The state of a world. -/
structure World where
  hub : Hub
  second : Option Hub := none
  home : Memory.Host
  remote : Option Remote := none
  tap : Tap := {}
  lines : List Line := []
  /-- The lines that channels are known by, and those whose sockets clients hold. -/
  channels : Table String Nat := []
  sockets : Table String Nat := []
  /-- Milliseconds that have passed. -/
  clock : Nat := 0
  /-- How many fresh ids were made. -/
  drawn : Nat := 0

namespace World

/-! ## Fresh ids and time -/

/-- Spreads a count over 128 bits; the factor is odd, so no two counts meet. -/
def scatter (n : Nat) : Nat := (n + 1) * 0x9E3779B97F4A7C15F39CC0605CEDC835 % Nat.pow 2 128

/-- Makes a fresh id. -/
def fresh (w : World) : World × Uuid :=
  ({ w with drawn := w.drawn + 1 }, .ofRandom (scatter w.drawn))

/-- The time on the clock. -/
def now (w : World) : Instant :=
  (Instant.ofUnix? (1704067200 + w.clock / 1000) (w.clock % 1000 * 1000000)).getD .epoch

def stamp (w : World) : World × Stamp :=
  let (w, id) := w.fresh
  (w, ⟨id, w.now⟩)

def stamps (w : World) : World × Memory.Kernel.Stamps :=
  let (w, a) := w.stamp
  let (w, b) := w.stamp
  let (w, c) := w.stamp
  (w, ⟨a, b, c⟩)

/-! ## Hubs -/

/-- The second hub or the first. -/
def pick (w : World) (second : Bool) : Hub := if second then w.second.getD w.hub else w.hub

/-- Puts a hub back. The hubs share what they know about where types come from. -/
def put (w : World) (second : Bool) (h : Hub) : World :=
  if second && w.second.isSome then
    { w with second := some h, hub := { w.hub with provenance := h.provenance } }
  else
    { w with hub := h, second := w.second.map fun s => { s with provenance := h.provenance } }

/-! ## Hosts -/

/-- Changes a host in memory. -/
def editHost (w : World) (side : Side) (f : Memory.Host → Memory.Host) : World :=
  match side, w.remote with
  | .home, _ => { w with home := f w.home }
  | .remote, some (.memory h) => { w with remote := some (.memory (f h)) }
  | _, _ => w

def host? (w : World) (side : Side) : Option Memory.Host :=
  match side, w.remote with
  | .home, _ => some w.home
  | .remote, some (.memory h) => some h
  | _, _ => none

def hasSide (w : World) (side : Side) : Bool := side = .home || w.remote.isSome

/-- How a call on a host went: it was answered, or is under way until a time. -/
inductive Issued
  | answered (a : Answer)
  | underWay (flight : Memory.Flight) (due : Nat)

/-- The answer of a host that could not answer properly. To the question whether a
kernel is there it is no. -/
def refusing (r : Request) (e : HostError) : Answer :=
  match r with
  | .has _ => .has false
  | _ => .refused e

/-- The error of a call that crashed inside the host at home. -/
def crashedAtHome : HostError := .failed "spawn_blocking: task panicked"

/-- Calls a host in memory. -/
def callMemory (w : World) (side : Side) (h : Memory.Host) (r : Request) : World × Issued :=
  match h.accept w.now r with
  | (h', .inl a) => (w.editHost side fun _ => h', .answered a)
  | (h', .inr f) =>
    if h'.pause = 0 then
      let (w, id) := w.fresh
      let (h', a) := h'.finish w.now id f
      (w.editHost side fun _ => h', .answered a)
    else (w.editHost side fun _ => h', .underWay f (w.clock + h'.pause))

/-- Calls a gateway that cannot be reached. -/
def callOutpost (w : World) (o : Outpost) (r : Request) : World × Issued :=
  match r with
  | .openChannel id session =>
    match Gateway.Channel.make o.client id session with
    | .ok c =>
      ({ w with remote := some (.outpost { o with channels := o.channels ++ [c] }) },
        .answered (.opened o.channels.length))
    | .error e => (w, .answered (.refused e))
  | _ =>
    let ending := if o.client.config.requestTimeout = 0 then Gateway.Exchange.late else .unreachable
    (w, .answered (o.client.call (fun _ _ => ending) r))

/-- Calls a host through the tap. -/
def issue (w : World) (side : Side) (r : Request) : World × Issued :=
  let (tap, fault) := w.tap.pass side (.host r)
  let w := { w with tap }
  match fault with
  | some (.refuse e) => (w, .answered (refusing r e))
  | some .crash => (w, .answered .crashed)
  | none =>
    match side, w.remote with
    | .home, _ =>
      let (tap, crashes) := w.tap.crashesAtHome (Tapped.host r).verb
      let w := { w with tap }
      if crashes then (w, .answered (refusing r crashedAtHome)) else w.callMemory .home w.home r
    | .remote, some (.memory h) => w.callMemory .remote h r
    | .remote, some (.outpost o) => w.callOutpost o r
    | .remote, none => (w, .answered .crashed)

/-- Finishes a call that was under way. -/
def land (w : World) (side : Side) (f : Memory.Flight) : World × Answer :=
  match w.host? side with
  | none => (w, .crashed)
  | some h =>
    let (w, id) := w.fresh
    let (h, a) := h.finish w.now id f
    (w.editHost side fun _ => h, a)

/-! ## Lines -/

def editLine (w : World) (l : Nat) (f : Line → Line) : World :=
  { w with lines := w.lines.modify l f }

def editBridge (w : World) (l : Nat) (f : Bridge → Bridge) : World :=
  w.editLine l fun x => { x with session := { x.session with bridge := f x.session.bridge } }

def line (w : World) (l : Nat) : Line := w.lines[l]?.getD default

/-- Adds a line that is not open yet. -/
def addLine (w : World) (line : Line) : World × Nat :=
  ({ w with lines := w.lines ++ [line] }, w.lines.length)

/-- Gives a client the socket of a line under a name. The socket that had the name is
closed. -/
def claimSocket (w : World) (name : String) (l : Nat) : World :=
  let w := match Table.find? name w.sockets with
    | some old => if old = l then w else w.editBridge old Bridge.close
    | none => w
  { w with sockets := Table.set name l w.sockets }

/-- The client drops the socket of a name. Was there one? -/
def closeSocket (w : World) (name : String) : World × Bool :=
  match Table.find? name w.sockets with
  | some l => ({ w.editBridge l Bridge.close with sockets := Table.erase name w.sockets }, true)
  | none => (w, false)

/-- What has arrived at the sockets that clients hold, by name, since it was last taken. -/
def takeArrived (w : World) : World × List (String × List Message) :=
  let found := List.map (fun e => (e.1, (w.line e.2).session.bridge.socket.arrived)) w.sockets
  let w := { w with lines := w.lines.map fun x =>
    { x with session := { x.session with bridge :=
      { x.session.bridge with socket := { x.session.bridge.socket with arrived := [] } } } } }
  (w, found.filter fun e => !e.2.isEmpty)

/-- What the tap has noted since it was last taken. -/
def takeNoted (w : World) : World × List (Side × Tapped) :=
  ({ w with tap := { w.tap with noted := [] } }, w.tap.noted)

/-! ## Channels of lines -/

/-- A call through the tap on the channel of a line. -/
def passLine (w : World) (l : Nat) (c : Tapped) : World × Option Fault :=
  let (tap, fault) := w.tap.pass (w.line l).session.about.binding.side c
  ({ w with tap }, fault)

/-- Is the host of a line holding connections back? -/
def held (w : World) (l : Nat) : Bool :=
  match (w.line l).session.about.binding.side, w.remote with
  | .remote, some (.memory h) => !h.gateOpen
  | _, _ => false

/-- Connects the channel of a line to the line's last lane. -/
def connectLine (w : World) (l : Nat) : World × Except HostError Unit :=
  let session := (w.line l).session
  match session.about.binding.side, w.remote with
  | .remote, some (.outpost o) =>
    match o.channels[session.channel]? with
    | none => (w, .error Memory.Host.notConnected)
    | some c =>
      let (c, r) := c.connect (.unreachable "Network is unreachable (os error 101)")
      let channels := o.channels.set session.channel c
      ({ w with remote := some (.outpost { o with channels }) }, r)
  | side, _ =>
    match w.host? side with
    | none => (w, .error Memory.Host.notConnected)
    | some h =>
      let (w, st) := w.stamps
      let lane := session.bridge.lane
      let (h, r, ms) := h.connect st session.channel lane (session.bridge.hears lane)
      ((w.editHost side fun _ => h).editBridge l fun b => b.push lane ms, r)

/-- Sends a client's message on the channel of a line. -/
def sendLine (w : World) (l : Nat) (m : Message) : World × Except HostError Unit :=
  let session := (w.line l).session
  match session.about.binding.side, w.remote with
  | .remote, some (.outpost o) =>
    (w, match o.channels[session.channel]? with
      | some c => c.send
      | none => .error Memory.Host.notConnected)
  | side, _ =>
    match w.host? side with
    | none => (w, .error Memory.Host.notConnected)
    | some h =>
      let (w, st) := w.stamps
      let lane := ((h.channels[session.channel]?.bind (·.lane)).getD 0)
      let (h, r, ms) := h.send st session.channel (session.bridge.hears lane) m
      ((w.editHost side fun _ => h).editBridge l fun b => b.push lane ms, r)

/-- Disconnects the channel of a line. -/
def disconnectLine (w : World) (l : Nat) : World :=
  let session := (w.line l).session
  match session.about.binding.side, w.remote with
  | .remote, some (.outpost o) =>
    { w with remote := some (.outpost { o with
        channels := o.channels.modify session.channel Gateway.Channel.disconnect }) }
  | side, _ => w.editHost side fun h => h.disconnect session.channel

end World

end KernelHub.Simulation
