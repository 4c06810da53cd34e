import KernelHub.Gateway.Client

/-
Channels to kernels at a gateway. A channel connects at an address below the
gateway's, which names the kernel as one segment and the session in its query.
-/

namespace KernelHub.Gateway

/-- The address of a channel. -/
def channelUrl (base kernel : String) (session : SessionId) : Except HostError Url :=
  match Url.read base with
  | .error e => .error (.protocol s!"invalid WebSocket URL {base}: {e.message}")
  | .ok u =>
    match u.extend? ["api", "kernels", kernel, "channels"] with
    | none => .error (.protocol s!"WebSocket URL {base} cannot be a base")
    | some u => .ok (u.withPair "session_id" (toString session))

/-- A channel to a kernel at a gateway. -/
structure Channel where
  url : Url
  headers : Headers
  connectTimeout : Nat
  connected : Bool := false
deriving DecidableEq, Repr

/-- How an attempt to connect can end. -/
inductive Handshake
  | accepted
  /-- The gateway answered with another status. -/
  | rejected (status : Nat)
  /-- The network did not carry it; in the system's words. -/
  | unreachable (why : String)
  | late
  /-- What came was no handshake. -/
  | lost

namespace Channel

/-- Opens a channel. -/
def make (c : Client) (kernel : String) (session : SessionId) : Except HostError Channel := do
  let url ← channelUrl c.config.channelBase kernel session
  return { url, headers := c.headers, connectTimeout := c.config.connectTimeout }

/-- A character in the host of an address that a request can be made for. -/
def inRequestHost (c : Char) : Bool :=
  c.isAlphanum || ['!', '$', '&', '\'', '(', ')', '*', '+', ',', '-', '.', ':', ';', '=', '[', ']',
    '_', '~'].contains c

/-- Can a request be made for the address? It needs a host, in plain characters. -/
def isRequestable (u : Url) : Bool :=
  match u.authority with
  | some a => a.host ≠ [] && a.host.all inRequestHost
  | none => false

/-- Is the scheme one of channels? -/
def hasScheme (c : Channel) : Bool := ["ws", "wss"].contains (String.ofList c.url.scheme)

def schemeError : HostError := .transport "URL error: URL scheme not supported"

/-- What keeps a channel from trying to connect: an address that no request can be made
for, a header that cannot be sent, or a scheme that does not tell the port. -/
def obstacle? (c : Channel) : Option HostError :=
  if !isRequestable c.url then some (.transport "HTTP format error")
  else
    match Headers.fault? c.headers with
    | some (name, .name) => some (.protocol s!"invalid header {name}: {Headers.Fault.name.message}")
    | some (_, .value) => some (.protocol s!"invalid header value: {Headers.Fault.value.message}")
    | none =>
      if c.hasScheme || (c.url.authority.bind (·.port)).isSome then none else some schemeError

/-- Can every header value be written into a handshake? -/
def canHandshake (c : Channel) : Bool := (Headers.sent c.headers).all fun h => Headers.isAscii h.2

/-- Connects, given how the attempt ends. -/
def connect (c : Channel) (h : Handshake) : Channel × Except HostError Unit :=
  match c.obstacle?, h with
  | some e, _ => (c, .error e)
  | none, .unreachable why => (c, .error (.unavailable why))
  | none, .late => (c, .error (.timeout s!"no connection after {c.connectTimeout}s"))
  | none, h =>
    if !c.hasScheme then (c, .error schemeError)
    else if !c.canHandshake then (c, .error (.transport "UTF-8 encoding error"))
    else
      match h with
      | .accepted => ({ c with connected := true }, .ok ())
      | .rejected status => (c, .error (Client.refusal status "websocket handshake rejected"))
      | _ => (c, .error (.transport "WebSocket protocol error"))

/-- May a message be sent? -/
def send (c : Channel) : Except HostError Unit :=
  if c.connected then .ok () else .error (.transport "channel not connected")

def disconnect (c : Channel) : Channel := { c with connected := false }

end Channel

end KernelHub.Gateway
