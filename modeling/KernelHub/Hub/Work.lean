import KernelHub.Hub

/-
Work on one record. Operations on a record take turns: each waits for the record's
guard, reads the state, makes its calls on the host, writes what they changed, and
gives the guard back. Once begun, work goes on to its end, whoever waits for it.

Work is a small machine. A step either is the work's own (`step?`) and changes the
hub at one point only, or takes the answer of the host (`answered?`) and changes
nothing but the work. Steps of other work may come between any two.
-/

namespace KernelHub

/-- What a call on the hub gives. -/
inductive Outcome
  | types (types : Entries Spec)
  | type (spec : Spec)
  | defaultName (name : Option String)
  | started (id : KernelId)
  | done
  | model (model : Model)
  | models (models : List Model)
  | active (held : Bool)
  | opened (session : SessionBinding) (channel : Nat)
deriving Inhabited

abbrev Result := Except KernelError Outcome

/-- What is to be done to a record. -/
inductive Job
  | start (options : StartOptions)
  | shutdown (now : Bool)
  | interrupt
  | restart (now : Bool)
  | model
deriving DecidableEq, Repr, Inhabited

namespace Work

/-- How far work has come. -/
inductive Phase
  /-- Waits for the guard. -/
  | waiting
  /-- Has the guard, and has looked at nothing yet. -/
  | entered
  /-- Waits for the host's answer. -/
  | calling (side : Side) (request : Request)
  /-- A restart failed; waits for the host to tell whether the kernel is still there. -/
  | probing (b : Binding) (e : HostError)
  /-- A start went well; the id map is to be written, then the record. -/
  | mapping (b : Binding)
  | binding (b : Binding)
  /-- A shutdown went well; the id map is to be cleared, then the record. -/
  | unmapping
  | unbinding
  /-- The new state is to be written. -/
  | settling (state : KernelState) (result : Result)
  /-- The guard is to be given back. -/
  | releasing (result : Result)
  | ended (result : Result)

end Work

/-- Work on the record at a place. -/
structure Work where
  job : Job
  place : Nat
  phase : Work.Phase := .waiting

namespace Work

/-- What the work looks at once it has the guard: the next phase, and the state to
write on the way. -/
def enter (h : Hub) (r : Record) : Job → Option KernelState × Phase
  | .start options =>
    if r.state ≠ .unborn then (none, .releasing (.error (.invalidState r.id .start r.state)))
    else
      let side := h.provenance.route r.name
      if h.hasSide side then (some .starting, .calling side (.start r.name options))
      else (some .dead, .releasing (.error (.specNotFound r.name)))
  | .shutdown now =>
    match h.bound? r with
    | some b => (none, .calling b.side (.shutdown b.delegate now))
    | none =>
      if r.state = .dead then (none, .releasing (.ok .done))
      else (none, .releasing (.error (.invalidState r.id .shutdown r.state)))
  | .interrupt =>
    if r.state ≠ .running then (none, .releasing (.error (.invalidState r.id .interrupt r.state)))
    else
      match h.bound? r with
      | some b => (some .interrupting, .calling b.side (.interrupt b.delegate))
      | none => (none, .releasing (.error (.kernelNotFound r.id)))
  | .restart now =>
    if r.state ≠ .running then (none, .releasing (.error (.invalidState r.id .restart r.state)))
    else
      match h.bound? r with
      | some b => (some .restarting, .calling b.side (.restart b.delegate now))
      | none => (none, .releasing (.error (.kernelNotFound r.id)))
  | .model =>
    match h.bound? r with
    | some b => (none, .calling b.side (.model b.delegate))
    | none => (none, .releasing (.error (.kernelNotFound r.id)))

/-- Writes a state, if there is one to write. -/
def writeState (h : Hub) (place : Nat) : Option KernelState → Hub
  | some s => h.setState place s
  | none => h

/-- The work's own next step. There is none while it waits for the guard or for an
answer, or when it is over. -/
def step? (h : Hub) (w : Work) : Option (Hub × Work) := do
  let r ← h.record? w.place
  match w.phase with
  | .waiting =>
    if r.guarded then none else return (h.setGuard w.place true, { w with phase := .entered })
  | .entered =>
    let (state, phase) := enter h r w.job
    return (writeState h w.place state, { w with phase })
  | .calling .. => none
  | .probing .. => none
  | .mapping b => return (h.map r.id b, { w with phase := .binding b })
  | .binding b =>
    return (h.setBinding w.place (some b),
      { w with phase := .settling .running (.ok (.started r.id)) })
  | .unmapping => return (h.unmap r.id, { w with phase := .unbinding })
  | .unbinding =>
    return (h.setBinding w.place none, { w with phase := .settling .dead (.ok .done) })
  | .settling state result =>
    return (h.setState w.place state, { w with phase := .releasing result })
  | .releasing result => return (h.setGuard w.place false, { w with phase := .ended result })
  | .ended _ => none

/-- The call whose answer the work waits for. -/
def request? (w : Work) : Option (Side × Request) :=
  match w.phase with
  | .calling side request => some (side, request)
  | .probing b _ => some (b.side, .model b.delegate)
  | _ => none

/-- What follows the answer to the main call of a job on a record. An answer to
another question has no place here. -/
def afterCall (r : Record) (side : Side) : Job → Request → Answer → Option Phase
  | _, _, .crashed => some (.releasing (.error .crashed))
  | .start _, _, .started d => some (.mapping ⟨side, d⟩)
  | .start _, _, .refused (.notFound _) => some (.settling .dead (.error (.specNotFound r.name)))
  | .start _, _, .refused e => some (.settling .dead (.error (.operationFailed r.id .start e)))
  | .shutdown _, _, .done => some .unmapping
  | .shutdown _, _, .refused (.notFound _) => some .unmapping
  | .shutdown _, _, .refused e => some (.releasing (.error (.operationFailed r.id .shutdown e)))
  | .interrupt, _, .done => some (.settling .running (.ok .done))
  | .interrupt, _, .refused e =>
    some (.settling .running (.error (.operationFailed r.id .interrupt e)))
  | .restart _, _, .done => some (.settling .running (.ok .done))
  | .restart _, .restart d _, .refused e => some (.probing ⟨side, d⟩ e)
  | .model, _, .model m => some (.releasing (.ok (.model (Hub.clientModel r.id side m))))
  | .model, _, .refused (.notFound _) => some (.releasing (.error (.kernelNotFound r.id)))
  | .model, _, .refused e => some (.releasing (.error (.operationFailed r.id .model e)))
  | _, _, _ => none

/-- After a failed restart the kernel counts as dead only when its host says that it
is gone; when the host cannot be reached it counts as running. -/
def afterProbe (r : Record) (e : HostError) : Answer → Option Phase
  | .crashed => some (.releasing (.error .crashed))
  | .refused (.notFound _) => some (.settling .dead (.error (.operationFailed r.id .restart e)))
  | .refused _ => some (.settling .running (.error (.operationFailed r.id .restart e)))
  | .model _ => some (.settling .running (.error (.operationFailed r.id .restart e)))
  | _ => none

/-- The work after its host's answer. -/
def answered? (h : Hub) (w : Work) (a : Answer) : Option Work := do
  let r ← h.record? w.place
  match w.phase with
  | .calling side request => return { w with phase := ← afterCall r side w.job request a }
  | .probing _ e => return { w with phase := ← afterProbe r e a }
  | _ => none

end Work

end KernelHub
