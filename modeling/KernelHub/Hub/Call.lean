import KernelHub.Hub.Work

/-
Calls on the hub. A call is a machine like the work on a record, which most calls
end in: a step is either the call's own and touches the hub at one point, or takes
the answer of a host and touches only the call.

A caller may stop waiting. What the call does in the caller's name ends then; once
it is at work on a record, it goes on, together with what has to follow: a failed
start leaves the registry, a shutdown retires the id.
-/

namespace KernelHub

/-- What callers ask of a hub. -/
inductive Command
  /-- All kernel types. -/
  | types
  | type (name : String)
  | defaultName
  /-- Starts a kernel, under the fresh id unless the options name one. -/
  | start (name : Option String) (options : StartOptions) (fresh : KernelId)
  /-- Does something to the kernel that an id has. -/
  | kernel (id : KernelId) (job : Job)
  | list
  /-- Opens and connects a channel for a session. -/
  | openSession (id : KernelId) (session : SessionId)
  /-- Does something to a record, registered or not. -/
  | record (place : Nat) (job : Job)
  /-- Does the host of a record's kernel still have it? -/
  | active (place : Nat)
  /-- Opens a channel to a record's kernel without connecting it. -/
  | openRecord (place : Nat) (session : SessionId)
deriving Inhabited

namespace Call

/-- What a merge of the catalogs is made for. -/
inductive Goal
  | types
  | start (name : String) (options : StartOptions) (fresh : KernelId)
deriving Inhabited

/-- What has to follow the work on a record. -/
inductive After
  | nothing
  /-- If the work fails, the id leaves the registry. -/
  | started (id : KernelId)
  /-- If the work succeeds, the id is retired and leaves the registry. -/
  | shutDown (id : KernelId)
deriving DecidableEq, Repr, Inhabited

end Call

open Call in
/-- How far a call has come. -/
inductive Call
  | asked (c : Command)
  /-- Waits for the types at home, of which the first by name is to be started. -/
  | naming (options : StartOptions) (fresh : KernelId)
  /-- Looks whether the type is known. -/
  | checking (name : String) (options : StartOptions) (fresh : KernelId)
  | mergingHome (goal : Goal)
  | mergedHome (goal : Goal) (home : List Spec)
  | mergingRemote (goal : Goal) (home : List Spec)
  /-- Both sides have been listed; the outcome is to be published. -/
  | merged (goal : Goal) (home remote : List Spec)
  | registering (name : String) (options : StartOptions) (fresh : KernelId)
  | describing (name suffix : String) (side : Side)
  | defaulting
  /-- Looks for the record that the id has now. -/
  | seeking (id : KernelId) (job : Job)
  | working (work : Work) (after : After)
  /-- A start failed; its id is to leave the registry. -/
  | dropping (id : KernelId) (e : KernelError)
  /-- A shutdown went well; its id is to be retired, then to leave the registry. -/
  | retiring (id : KernelId)
  | leaving (id : KernelId)
  | listing (side : Side) (found : List Model)
  | listed (side : Side) (models found : List Model)
  | activating (b : Binding)
  | opening (session : SessionBinding) (connect : Bool)
  | connecting (session : SessionBinding) (channel : Nat)
  | ended (result : Result)

namespace Call

instance : Inhabited Call := ⟨asked default⟩

/-- The first step of a call. -/
def begin (h : Hub) : Command → Call
  | .types => mergingHome .types
  | .type name =>
    let side := h.provenance.route name
    if h.hasSide side then describing name (h.config.suffix side) side
    else ended (.error (.specNotFound name))
  | .defaultName =>
    match h.config.resolvedDefault h.environment with
    | some name => ended (.ok (.defaultName (some name)))
    | none => defaulting
  | .start (some name) options fresh => checking name options fresh
  | .start none options fresh =>
    match h.config.resolvedDefault h.environment with
    | some name => checking name options fresh
    | none => naming options fresh
  | .kernel id (.shutdown now) =>
    if id ∈ h.retired then ended (.ok .done) else seeking id (.shutdown now)
  | .kernel id job => seeking id job
  | .list => if h.hasRemote then listing .remote [] else listing .home []
  | .openSession id session =>
    match Table.find? id h.registry with
    | none => ended (.error (.kernelNotFound id))
    | some place =>
      match (h.record? place).bind h.bound? with
      | none => ended (.error (.kernelNotFound id))
      | some b => opening ⟨id, session, b⟩ true
  | .record place job => working { job, place } .nothing
  | .active place =>
    match (h.record? place).bind h.bound? with
    | none => ended (.ok (.active false))
    | some b => activating b
  | .openRecord place session =>
    match h.record? place with
    | none => ended (.error (.kernelNotFound .zero))
    | some r =>
      match h.bound? r with
      | none => ended (.error (.kernelNotFound r.id))
      | some b => opening ⟨r.id, session, b⟩ false

/-- What follows work that is over. -/
def follow (result : Result) : After → Call
  | .nothing => ended result
  | .started id =>
    match result with
    | .ok _ => ended result
    | .error e => dropping id e
  | .shutDown id =>
    match result with
    | .ok _ => retiring id
    | .error _ => ended result

/-- What has to follow a job that was asked of a registered id. -/
def afterJob (id : KernelId) : Job → After
  | .shutdown _ => .shutDown id
  | _ => .nothing

/-- The call's own next step. There is none while it waits, or when it is over. -/
def step? (h : Hub) : Call → Option (Hub × Call)
  | asked c => some (h, begin h c)
  | checking name options fresh =>
    some (h, if h.provenance.knows name then registering name options fresh
      else mergingHome (.start name options fresh))
  | mergedHome goal home =>
    some (h, if h.hasRemote then mergingRemote goal home else merged goal home [])
  | merged goal home remote =>
    some ({ h with provenance := Catalog.provenance h.config home remote },
      match goal with
      | .types => ended (.ok (.types (Catalog.merge h.config home remote)))
      | .start name options fresh => registering name options fresh)
  | registering name options fresh =>
    let id := options.id.getD fresh
    match h.register? id name with
    | none => some (h, ended (.error (.alreadyExists id)))
    | some (h, place) => some (h, working { job := .start options, place } (.started id))
  | seeking id job =>
    some (h, match Table.find? id h.registry with
      | none => ended (.error (.kernelNotFound id))
      | some place => working { job, place } (afterJob id job))
  | working w after =>
    match w.phase with
    | .ended result => some (h, follow result after)
    | _ => (w.step? h).map fun (h, w) => (h, working w after)
  | dropping id e => some (h.unregister id, ended (.error e))
  | retiring id => some (h.retire id, leaving id)
  | leaving id => some (h.unregister id, ended (.ok .done))
  | listed side models found =>
    let found := found ++ h.clientModels side models
    some (h, if side = .remote then listing .home found else ended (.ok (.models found)))
  | _ => none

/-- The call on a host whose answer is waited for. -/
def request? : Call → Option (Side × Request)
  | naming .. => some (.home, .specs)
  | mergingHome _ => some (.home, .specs)
  | mergingRemote .. => some (.remote, .specs)
  | describing name _ side => some (side, .spec name)
  | defaulting => some (.home, .specs)
  | working w _ => w.request?
  | listing side _ => some (side, .list)
  | activating b => some (b.side, .has b.delegate)
  | opening s _ => some (s.binding.side, .openChannel s.binding.delegate s.session)
  | connecting s channel => some (s.binding.side, .connect channel s)
  | _ => none

/-- The call after its host's answer. What the remote host cannot list is left out;
what the host at home cannot list is an error. -/
def answered? (h : Hub) : Call → Answer → Option Call
  | working w after, a => (w.answered? h a).map (working · after)
  | asked _, .crashed => none
  | ended _, .crashed => none
  | _, .crashed => some (ended (.error .crashed))
  | naming options fresh, .specs specs =>
    match Catalog.firstName? specs with
    | some name => some (checking name options fresh)
    | none => some (ended (.error (.specNotFound "<default>")))
  | naming .., .refused e => some (ended (.error (.catalog e)))
  | mergingHome goal, .specs home => some (mergedHome goal home)
  | mergingHome _, .refused e => some (ended (.error (.catalog e)))
  | mergingRemote goal home, .specs remote => some (merged goal home remote)
  | mergingRemote goal home, .refused _ => some (merged goal home [])
  | describing _ suffix _, .spec s => some (ended (.ok (.type (s.withSuffix suffix))))
  | describing name _ _, .refused (.notFound _) => some (ended (.error (.specNotFound name)))
  | describing .., .refused e => some (ended (.error (.catalog e)))
  | defaulting, .specs specs => some (ended (.ok (.defaultName (Catalog.firstName? specs))))
  | defaulting, .refused e => some (ended (.error (.catalog e)))
  | listing side found, .models models => some (listed side models found)
  | listing .remote found, .refused _ => some (listing .home found)
  | listing .home _, .refused e => some (ended (.error (.catalog e)))
  | activating _, .has held => some (ended (.ok (.active held)))
  | opening s connect, .opened channel =>
    some (if connect then connecting s channel else ended (.ok (.opened s channel)))
  | opening s _, .refused (.notFound _) => some (ended (.error (.kernelNotFound s.kernel)))
  | opening s _, .refused e => some (ended (.error (.channel s.session e)))
  | connecting s channel, .done => some (ended (.ok (.opened s channel)))
  | connecting s _, .refused e => some (ended (.error (.channel s.session e)))
  | _, _ => none

/-- Does the call go on when its caller stops waiting? -/
def detached : Call → Bool
  | working .. => true
  | dropping .. => true
  | retiring _ => true
  | leaving _ => true
  | _ => false

def result? : Call → Option Result
  | ended result => some result
  | _ => none

end Call

end KernelHub
