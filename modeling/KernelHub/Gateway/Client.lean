import KernelHub.Gateway.Config
import KernelHub.Host
import KernelHub.Json.Reader
import KernelHub.Url.Reader

/-
Calls on a gateway. Each call is one request at an address below the gateway's own,
with names and ids as single segments; the answer's status and body say how it went.
-/

namespace KernelHub.Gateway

/-- Why a client cannot be made. -/
inductive SetupError
  | header (name : String) (fault : Headers.Fault)
  | url (text : String)
deriving DecidableEq, Repr

def SetupError.message : SetupError → String
  | header name fault => s!"invalid header {name}: {fault.message}"
  | url text => s!"invalid gateway URL {text}"

/-- A client of a gateway. -/
structure Client where
  config : Config
  base : Url
  headers : Headers
deriving DecidableEq, Repr

/-- How a call is made. -/
inductive Method
  | get
  | post (body : Json)
  | delete

/-- How an exchange with a gateway can end. -/
inductive Exchange
  /-- An answer with its status and body. -/
  | answered (status : Nat) (body : String)
  /-- No connection could be made. -/
  | unreachable
  /-- The answer took too long. -/
  | late
  /-- The answer broke off. -/
  | brokenOff
  /-- The exchange failed in any other way. -/
  | lost

namespace Client

/-- Makes a client, unless the address or a header cannot be used. -/
def make (c : Config) (env : Environment) : Except SetupError Client :=
  if (Config.after? "http://" c.url).isNone && (Config.after? "https://" c.url).isNone then
    .error (.url c.url)
  else
    match Url.read c.httpBase with
    | .error _ => .error (.url c.url)
    | .ok base =>
      let headers := c.requestHeaders env
      match Headers.fault? headers with
      | some (name, fault) => .error (.header name fault)
      | none => .ok { config := c, base, headers }

/-- The address below the gateway's own. -/
def address (c : Client) (names : List String) : Except HostError Url :=
  match c.base.extend? names with
  | some u => .ok u
  | none => .error (.protocol s!"gateway URL {c.base.text} cannot be a base")

/-- The segments of a call's endpoint. -/
def endpoint : Request → List String
  | .specs => ["api", "kernelspecs"]
  | .spec name => ["api", "kernelspecs", name]
  | .start .. => ["api", "kernels"]
  | .list => ["api", "kernels"]
  | .model id => ["api", "kernels", id]
  | .has id => ["api", "kernels", id]
  | .shutdown id _ => ["api", "kernels", id]
  | .interrupt id => ["api", "kernels", id, "interrupt"]
  | .restart id _ => ["api", "kernels", id, "restart"]
  | .openChannel .. => []
  | .connect .. => []

/-- The environment of a start: the caller's, with the id and the directory asked for. -/
def startEnvironment (o : StartOptions) : Entries String :=
  let add (k : String) (v : Option String) (env : Entries String) : Entries String :=
    match v with
    | some v => Entries.insert k v env
    | none => env
  add "KERNEL_WORKING_DIR" o.directory (add "KERNEL_ID" (o.id.map toString) o.env)

/-- How a call is made. -/
def method : Request → Method
  | .start name options =>
    .post (.object [
      ("env", .object ((startEnvironment options).map fun e => (e.1, .string e.2))),
      ("name", .string name)])
  | .interrupt _ => .post .empty
  | .restart .. => .post .empty
  | .shutdown .. => .delete
  | _ => .get

/-! ## Answers -/

/-- What a status other than success says. -/
def refusal (status : Nat) (body : String) : HostError :=
  if status = 404 then .notFound body
  else if status = 401 ∨ status = 403 then .unauthorized s!"HTTP {status}: {body}"
  else if 500 ≤ status ∧ status ≤ 599 then .unavailable s!"HTTP {status}: {body}"
  else .failed s!"HTTP {status}: {body}"

/-- The body of a successful exchange. -/
def body (u : Url) : Exchange → Except HostError String
  | .answered status body =>
    if 200 ≤ status ∧ status ≤ 299 then .ok body else .error (refusal status body)
  | .unreachable => .error (.unavailable s!"error sending request for url ({u.text})")
  | .late => .error (.timeout s!"error sending request for url ({u.text})")
  | .brokenOff => .error (.protocol s!"error decoding response body for url ({u.text})")
  | .lost => .error (.transport s!"error sending request for url ({u.text})")

def readBody (s : String) : Except HostError Json :=
  match Json.read? s with
  | some v => .ok v
  | none => .error (.protocol "invalid JSON response: ")

/-- One kernel type as a gateway describes it, listed under a name. -/
def readSpec (listed : String) (entry : Json) : Except HostError Spec :=
  match entry.get? "spec" with
  | none => .error (.protocol s!"kernel spec {listed} missing 'spec'")
  | some spec =>
    let string? (v : Json) (k : String) : Option String := (v.get? k).bind Json.string?
    let name := (string? entry "name").getD listed
    .ok {
      name
      displayName := (string? spec "display_name").getD name
      language := (string? spec "language").getD ""
      metadata := ((spec.get? "metadata").bind Json.object?).getD [] }

/-- A number of connections, cut off at the largest word. -/
def connections (v : Json) : UInt32 :=
  UInt32.ofNat (min (((v.get? "connections").bind Json.word?).getD 0) (UInt32.size - 1))

/-- A kernel as a gateway describes it; the description itself is kept. Only the id has
to be there. -/
def readModel (v : Json) : Except HostError Model :=
  match v with
  | .object _ =>
    let string? (k : String) : Option String := (v.get? k).bind Json.string?
    match string? "id" with
    | none => .error (.protocol "kernel model missing 'id'")
    | some id =>
      .ok {
        id
        name := (string? "name").getD ""
        lastActivity := (string? "last_activity").bind Instant.ofStrict?
        executionState := (string? "execution_state").map ExecutionState.ofWord
        connections := connections v
        additional := some v }
  | _ => .error (.protocol "kernel model is not an object")

def readSpecs (v : Json) : Except HostError (List Spec) :=
  match (v.get? "kernelspecs").bind Json.object? with
  | some entries => entries.mapM fun e => readSpec e.1 e.2
  | none => .error (.protocol "kernelspecs listing missing 'kernelspecs'")

def readModels (v : Json) : Except HostError (List Model) :=
  match v.array? with
  | some items => items.mapM readModel
  | none => .error (.protocol "kernel listing is not an array")

/-- What the body of an answer to a post says; it may be blank. -/
def readPosted (s : String) : Except HostError Json :=
  if Text.allBlank s then .ok .null else readBody s

/-- The answer to a call, from the exchange it took. -/
def answer (r : Request) (u : Url) (x : Exchange) : Except HostError Answer := do
  match r with
  | .specs => return .specs (← readSpecs (← readBody (← body u x)))
  | .spec name => return .spec (← readSpec name (← readBody (← body u x)))
  | .start .. => return .started (← readModel (← readPosted (← body u x))).id
  | .model _ => return .model (← readModel (← readBody (← body u x)))
  | .list => return .models (← readModels (← readBody (← body u x)))
  | .has _ => return .has (match (do readModel (← readBody (← body u x))) with
      | .ok _ => true
      | .error _ => false)
  | .shutdown .. => let _ ← body u x; return .done
  | .interrupt _ => let _ ← readPosted (← body u x); return .done
  | .restart .. => let _ ← readPosted (← body u x); return .done
  | .openChannel .. => return .crashed
  | .connect .. => return .crashed

/-- A call by way of exchanges. -/
def call (c : Client) (exchange : Method → Url → Exchange) (r : Request) : Answer :=
  match c.address (endpoint r) with
  | .error e => .refused e
  | .ok u =>
    match answer r u (exchange (method r) u) with
    | .ok a => a
    | .error e => .refused e

end Client

end KernelHub.Gateway
