import KernelHub.Simulation.Stage

/-
What tasks do. A task runs until it waits, and what can run does so in turn. When all
wait, the clock moves on to the next time that a task waits for.
-/

namespace KernelHub.Simulation

namespace Stage

/-! ## Calls on hubs -/

/-- What the call's next step does to a guard. -/
inductive GuardUse
  | takes (place : Nat)
  | frees (place : Nat)
  | none

def guardUse : Call → GuardUse
  | .working w _ =>
    match w.phase with
    | .waiting => .takes w.place
    | .releasing _ => .frees w.place
    | _ => .none
  | _ => .none

/-- A task takes the call's own step, or waits for a guard. -/
def stepCall (s : Stage) (t : Nat) (second : Bool) (c : Call) (again : Call → Activity) : Stage :=
  let take (s : Stage) : Stage :=
    match c.step? (s.world.pick second) with
    | some (h, c) => { s with world := s.world.put second h }.setActivity t (again c)
    | none => s.finish t .crashed
  match guardUse c with
  | .takes place =>
    let free := (((s.world.pick second).record? place).map fun r => !r.guarded).getD true
    if free && s.mayTake second place t then
      take { s with guards := s.guards.filter fun e => e.2.2 ≠ t }
    else
      let s :=
        if s.guards.any (fun e => e.2.2 = t) then s
        else { s with guards := s.guards ++ [(second, place, t)] }
      s.park t (.guard second place)
  | .frees place => (take s).passGuard second place
  | .none => take s

/-! ## Connections -/

/-- Begins a connection on a line: the client's end first, then the tap. -/
def beginConnect (s : Stage) (l : Nat) : Stage × Option Answer :=
  let x := s.world.line l
  let begun : World × Except HostError Bridge :=
    if x.bare then (s.world, .ok x.session.bridge.renew)
    else
      let (w, st) := s.world.stamp
      (w, x.session.bridge.begin st x.session.about.session)
  match begun with
  | (w, .error e) => ({ s with world := w }, some (.refused e))
  | (w, .ok b) =>
    let (w, fault) := (w.editBridge l fun _ => b).passLine l .connect
    ({ s with world := w }.wakePump l,
      match fault with
      | some (.refuse e) => some (.refused e)
      | some .crash => some .crashed
      | none => none)

/-- Connects a line whose connection has begun. -/
def endConnect (s : Stage) (l : Nat) : Stage × Answer :=
  let (w, r) := s.world.connectLine l
  let s := { s with world := w }.wakePump l
  match r with
  | .ok () =>
    ({ s with world := s.world.editLine l fun x => { x with session := x.session.connectedNow } },
      .done)
  | .error e => (s, .refused e)

/-- The reply of an operation on a line. -/
def lineReply (s : Stage) (l : Nat) (a : Answer) : Reply :=
  let x := s.world.line l
  if x.bare then .answer a
  else
    match a with
    | .refused e => .session (.error (x.session.fault e)) x.session.connected
    | .crashed => .crashed
    | _ => .session (.ok ()) x.session.connected

/-- Ends an operation on a line, which the next task may use. -/
def finishOnLine (s : Stage) (t l : Nat) (r : Reply) : Stage := (s.leave t l).finish t r

/-- Disconnects a line. A fault that is an error does not keep the session from being
disconnected at the client's end. -/
def disconnectNow (s : Stage) (t l : Nat) : Stage :=
  let (w, fault) := s.world.passLine l .disconnect
  let atEnd (w : World) : World := w.editLine l fun x =>
    if x.bare then x else { x with session := x.session.disconnected }
  let (w, a) := match fault with
    | some .crash => (w, Answer.crashed)
    | some (.refuse e) => (atEnd w, .refused e)
    | none => (atEnd (w.disconnectLine l), .done)
  let s := { s with world := w }
  s.finishOnLine t l (s.lineReply l a)

/-- Carries a client's message to the kernel. -/
def sendNow (s : Stage) (t l : Nat) (m : Message) : Stage :=
  let (w, fault) := s.world.passLine l (.send m.header.type)
  let (w, a) := match fault with
    | some .crash => (w, Answer.crashed)
    | some (.refuse e) => (w, .refused e)
    | none =>
      match w.sendLine l m with
      | (w, .ok ()) => (w, .done)
      | (w, .error e) => (w, .refused e)
  let s := { s with world := w }.wakePump l
  s.finishOnLine t l (s.lineReply l a)

/-- Carries a message to the client, past the pump. -/
def forwardNow (s : Stage) (t l : Nat) (m : Message) : Stage :=
  let x := (s.world.line l).session
  let (b, r) := x.bridge.forward m
  let s := { s with world := s.world.editBridge l fun _ => b }
  s.finishOnLine t l (.passed (r.mapError x.fault))

/-! ## Running -/

/-- A task gets the answer to the call it made. -/
def feed (s : Stage) (t : Nat) (a : Answer) : Stage :=
  match (s.tasks[t]?).map Task.activity with
  | some (.call second c opens) =>
    match c.answered? (s.world.pick second) a with
    | some c => s.setActivity t (.call second c opens)
    | none => s.finish t .crashed
  | some (.shutdowns second now rest c) =>
    match c.answered? (s.world.pick second) a with
    | some c => s.setActivity t (.shutdowns second now rest c)
    | none => s.finish t .crashed
  | some (.request side (.openChannel _ session) name) =>
    match a with
    | .opened channel =>
      let about : SessionBinding := ⟨.zero, session, ⟨side, ""⟩⟩
      let (w, l) := s.world.addLine
        { session := { about, channel, bridge := { tunnel := false } }, bare := true }
      ({ s with world := w }.nameChannel name l).finish t (.answer .done)
    | a => s.finish t (.answer a)
  | some (.request ..) => s.finish t (.answer a)
  | some (.connect l) => s.finishOnLine t l (s.lineReply l a)
  | _ => s

/-- A task makes a call on a host. -/
def make (s : Stage) (t : Nat) (side : Side) (r : Request) : Stage :=
  match s.world.issue side r with
  | (w, .answered a) => { s with world := w }.feed t a
  | (w, .underWay f due) => { s with world := w }.park t (.landing side f due)

/-- A task connects a line: it waits while the host holds connections back. -/
def makeConnect (s : Stage) (t l : Nat) : Stage :=
  match s.beginConnect l with
  | (s, some a) => s.feed t a
  | (s, none) =>
    if s.world.held l then s.park t (.gate l)
    else
      let (s, a) := s.endConnect l
      s.feed t a

/-- The end of a call, as the task's reply; an open channel gets its name. -/
def conclude (s : Stage) (t : Nat) (r : Result) (opens : Option (Nat × String)) : Stage :=
  match r, opens with
  | .ok (.opened about channel), some (l, name) =>
    let x := s.world.line l
    let session := if x.session.connected then x.session else x.session.reopened about channel
    let w := s.world.editLine l fun x => { x with session }
    ({ s with world := w }.nameChannel name l).finish t (.opened session)
  | r, some (l, _) => (s.dropUnnamed l).finish t (.result r)
  | r, none => s.finish t (.result r)

/-- A call's request is made, or its own step taken. -/
def advanceCall (s : Stage) (t : Nat) (second : Bool) (c : Call) (opens : Option (Nat × String))
    (again : Call → Activity) : Stage :=
  match c.request?, opens with
  | some (_, .connect channel about), some (l, _) =>
    let s := { s with world := s.world.editLine l fun x =>
      { x with session := x.session.reopened about channel } }
    s.makeConnect t l
  | some (side, r), _ => s.make t side r
  | none, _ => s.stepCall t second c again

/-- A task takes a step of what it does. -/
def act (s : Stage) (t : Nat) : Activity → Stage
  | .call second c opens =>
    match c.result? with
    | some r => s.conclude t r opens
    | none => s.advanceCall t second c opens fun c => .call second c opens
  | .shutdowns second now rest c =>
    match c.result?, rest with
    | some _, id :: rest =>
      s.setActivity t (.shutdowns second now rest (.asked (.kernel id (.shutdown now))))
    | some _, [] => s.finish t .done
    | none, _ => s.advanceCall t second c none fun c => .shutdowns second now rest c
  | .request side r _ => s.make t side r
  | .connect l => s.onLine t l fun s => s.makeConnect t l
  | .disconnect l => s.onLine t l fun s => s.disconnectNow t l
  | .incoming l m => s.onLine t l fun s => s.sendNow t l m
  | .outgoing l m => s.onLine t l fun s => s.forwardNow t l m
  | .inspect l => s.onLine t l fun s => s.finishOnLine t l (.opened (s.world.line l).session)
  | .sleep millis => s.park t (.time (s.world.clock + millis))
  | .join t' =>
    match s.reply? t' with
    | some r => s.finish t r
    | none => s.park t (.task t')

/-- A task goes on: with what it waited for, or with the next step of what it does. -/
def advance (s : Stage) (t : Nat) : Stage :=
  match s.tasks[t]? with
  | none => s.unready t
  | some x =>
    let s := s.editTask t fun x => { x with wait := .nothing }
    match x.wait with
    | .time _ => s.finish t .done
    | .landing side f _ =>
      let (w, a) := s.world.land side f
      { s with world := w }.feed t a
    | .gate l =>
      let (s, a) := s.endConnect l
      s.feed t a
    | _ => s.act t x.activity

/-- Runs what can run, each as long as it can, until all wait. -/
def settle : Nat → Stage → Stage
  | 0, s => s
  | fuel + 1, s =>
    match s.ready with
    | [] => s
    | .task t :: _ => settle fuel (s.advance t)
    | .pump l lane :: _ => settle fuel (s.runPump l lane)

/-- More steps than the tasks of a world ever take before they all wait. -/
def enough : Nat := 1000000

def settled (s : Stage) : Stage := s.settle enough

/-! ## Time -/

/-- The clock moves on to the next time that a task waits for. -/
def tick? (s : Stage) : Option Stage :=
  (s.timers.map (·.1)).min?.map fun due =>
    let woken := (s.timers.filter (·.1 = due)).map (·.2)
    let s := { s with
      world := { s.world with clock := max s.world.clock due }
      timers := s.timers.filter (·.1 ≠ due) }
    (woken.foldl (fun s t => s.wake (.task t)) s).settled

/-- Lets time pass until a task has ended, or nobody waits for a time any more. -/
def elapse (t : Nat) : Nat → Stage → Stage
  | 0, s => s
  | fuel + 1, s =>
    if (s.reply? t).isSome then s
    else
      match s.tick? with
      | some s => elapse t fuel s
      | none => s

/-- Starts a task and runs it until it waits. -/
def spawn (s : Stage) (a : Activity) : Stage × Nat :=
  let t := s.tasks.length
  let s := { s with tasks := s.tasks ++ [({ activity := a } : Task)] }
  ((s.wake (.task t)).settled, t)

/-- Starts a task and waits for its end. There is no reply when nothing can end it. -/
def perform (s : Stage) (a : Activity) : Stage × Nat × Option Reply :=
  let (s, t) := s.spawn a
  let s := s.elapse t enough
  (s, t, s.reply? t)

/-- The waits of a task that was given up do not count any more. -/
def forget (s : Stage) (t : Nat) : Stage :=
  let s := (s.editTask t fun x => { x with wait := .nothing, reply := some .cancelled }).unready t
  let s := { s with
    timers := s.timers.filter (·.2 ≠ t)
    guards := s.guards.filter fun e => e.2.2 ≠ t }
  (s.uses.filter (·.2 = t)).foldl (fun s e => s.leave t e.1) s

/-- Gives a task up. What it has begun on a record goes on; all else ends where it is. -/
def abort (s : Stage) (t : Nat) : Stage :=
  match s.tasks[t]? with
  | none => s
  | some x =>
    if x.reply.isSome then s
    else
      let leaveAlone (c : Call) (a : Activity) : Stage :=
        if c.detached then s.editTask t fun x => { x with activity := a, reply := some .cancelled }
        else s.forget t
      match x.activity, x.wait with
      | .call second c _, _ => leaveAlone c (.call second c none)
      | .shutdowns second _ _ c, _ => leaveAlone c (.call second c none)
      | .request .., .landing side f _ =>
        { s.forget t with world := s.world.editHost side fun h => h.abandon f }
      | _, _ => (s.forget t).settled

/-- Lets connections through, or holds them back. -/
def setGate (s : Stage) (isOpen : Bool) : Stage :=
  let s := { s with world := s.world.editHost .remote fun h => { h with gateOpen := isOpen } }
  if isOpen then
    (s.wakeAll fun
      | .gate _ => true
      | _ => false).settled
  else s

end Stage

end KernelHub.Simulation
