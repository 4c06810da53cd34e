import KernelHub.Simulation.World

/-
A world with tasks. A task waits for a time, for a record's guard, for a held connection,
for a line that is in use, or for another task. Guards and lines are got in the order in
which tasks came for them.
-/

namespace KernelHub.Simulation

/-- What a task does. -/
inductive Activity
  /-- A call on a hub; a call that opens a channel has a line and a name for it. -/
  | call (second : Bool) (c : Call) (opens : Option (Nat × String))
  /-- Shuts kernels down one after the other, whatever becomes of each. -/
  | shutdowns (second now : Bool) (rest : List KernelId) (c : Call)
  /-- A call on a host; one that opens a channel has a name for it. -/
  | request (side : Side) (r : Request) (name : String)
  | connect (line : Nat)
  | disconnect (line : Nat)
  | incoming (line : Nat) (m : Message)
  | outgoing (line : Nat) (m : Message)
  /-- Looks at a line's session. -/
  | inspect (line : Nat)
  | sleep (millis : Nat)
  | join (task : Nat)

/-- What a task gave in the end. -/
inductive Reply
  | result (r : Result)
  /-- A session as it is. -/
  | opened (session : Session)
  | answer (a : Answer)
  /-- A client's operation on its session, and whether it is connected then. -/
  | session (r : Except KernelError Unit) (connected : Bool)
  /-- Whether a message was let through to the client. -/
  | passed (r : Except KernelError Bool)
  | done
  | cancelled
  | crashed
deriving Inhabited

/-- What a task waits for. -/
inductive Wait
  | nothing
  | time (due : Nat)
  | landing (side : Side) (flight : Memory.Flight) (due : Nat)
  | guard (second : Bool) (place : Nat)
  | gate (line : Nat)
  | line (line : Nat)
  | task (task : Nat)

structure Task where
  activity : Activity
  wait : Wait := .nothing
  /-- A task that was given up has its reply at once, even when it goes on. -/
  reply : Option Reply := none

/-- What runs: a task, or the pump of a line's lane. -/
inductive Runner
  | task (task : Nat)
  | pump (line lane : Nat)
deriving DecidableEq

/-- A world with tasks. -/
structure Stage where
  world : World
  tasks : List Task := []
  /-- What can run, in the order it will. -/
  ready : List Runner := []
  /-- Tasks that wait for a time, in the order they began to. -/
  timers : List (Nat × Nat) := []
  /-- Tasks that wait for the guard of a record, in the order they came. -/
  guards : List (Bool × Nat × Nat) := []
  /-- Tasks that came to use a line, in the order they came: the first one uses it, and
  the others wait. -/
  uses : List (Nat × Nat) := []

namespace Stage

def editTask (s : Stage) (t : Nat) (f : Task → Task) : Stage :=
  { s with tasks := s.tasks.modify t f }

def setActivity (s : Stage) (t : Nat) (a : Activity) : Stage :=
  s.editTask t fun x => { x with activity := a }

def reply? (s : Stage) (t : Nat) : Option Reply := (s.tasks[t]?).bind (·.reply)

/-! ## Waiting -/

/-- Lets something run again. -/
def wake (s : Stage) (r : Runner) : Stage :=
  if s.ready.contains r then s else { s with ready := s.ready ++ [r] }

/-- Wakes the tasks whose wait is of a kind. -/
def wakeAll (s : Stage) (p : Wait → Bool) : Stage :=
  (List.range s.tasks.length).foldl (fun s t =>
    match s.tasks[t]? with
    | some x => if x.reply.isNone && p x.wait then s.wake (.task t) else s
    | none => s) s

/-- Lets nothing more run on a task's account. -/
def unready (s : Stage) (t : Nat) : Stage := { s with ready := s.ready.filter (· ≠ .task t) }

/-- Lets the task that runs wait. -/
def park (s : Stage) (t : Nat) (wait : Wait) : Stage :=
  let s := (s.editTask t fun x => { x with wait }).unready t
  match wait with
  | .time due => { s with timers := s.timers ++ [(due, t)] }
  | .landing _ _ due => { s with timers := s.timers ++ [(due, t)] }
  | _ => s

/-- Ends a task, and wakes those that wait for it. -/
def finish (s : Stage) (t : Nat) (r : Reply) : Stage :=
  let s := (s.editTask t fun x => { x with reply := some (x.reply.getD r) }).unready t
  s.wakeAll fun
    | .task t' => t' = t
    | _ => false

/-- The pump of a line's last lane may have something to carry. -/
def wakePump (s : Stage) (l : Nat) : Stage :=
  let b := (s.world.line l).session.bridge
  if b.pumping then s.wake (.pump l b.lane) else s

/-- The pump of a lane carries on all that waits, unless another lane took its place. -/
def runPump (s : Stage) (l lane : Nat) : Stage :=
  { s with
    ready := s.ready.filter (· ≠ .pump l lane)
    world := s.world.editBridge l fun b => if b.lane = lane then b.drain else b }

/-! ## Guards of records -/

/-- May the task take the guard, or is another one before it? -/
def mayTake (s : Stage) (second : Bool) (place t : Nat) : Bool :=
  match s.guards.find? fun e => e.1 = second ∧ e.2.1 = place with
  | some e => e.2.2 = t
  | none => true

/-- The guard of a record was given back: the first in the queue may try. -/
def passGuard (s : Stage) (second : Bool) (place : Nat) : Stage :=
  match s.guards.find? fun e => e.1 = second ∧ e.2.1 = place with
  | some e => s.wake (.task e.2.2)
  | none => s

/-! ## Use of lines -/

/-- The task that uses a line. -/
def user? (s : Stage) (l : Nat) : Option Nat := (s.uses.find? (·.1 = l)).map (·.2)

/-- A line that no one uses and no name stands for is gone, and its pump with it. -/
def dropUnnamed (s : Stage) (l : Nat) : Stage :=
  if (s.user? l).isSome || s.world.channels.any (·.2 = l) then s
  else { s with world := s.world.editBridge l Bridge.stop }

/-- A task has used a line, or does not want to any more: the next one may use it. -/
def leave (s : Stage) (t l : Nat) : Stage :=
  let user := s.user? l
  let s := { s with uses := s.uses.filter (· ≠ (l, t)) }
  match s.user? l with
  | some t' => if user = some t then s.wake (.task t') else s
  | none => s.dropUnnamed l

/-- A task does something on a line as soon as it may use it. -/
def onLine (s : Stage) (t l : Nat) (act : Stage → Stage) : Stage :=
  let s := if s.uses.contains (l, t) then s else { s with uses := s.uses ++ [(l, t)] }
  if s.user? l = some t then act s else s.park t (.line l)

/-- Makes a line known as a channel, in the place of the one that had the name. -/
def nameChannel (s : Stage) (name : String) (l : Nat) : Stage :=
  let old := Table.find? name s.world.channels
  let s := { s with world := { s.world with channels := Table.set name l s.world.channels } }
  match old with
  | some l' => s.dropUnnamed l'
  | none => s

/-- Drops a channel. Was there one? -/
def dropChannel (s : Stage) (name : String) : Stage × Bool :=
  match Table.find? name s.world.channels with
  | some l =>
    let world := { s.world with channels := Table.erase name s.world.channels }
    ({ s with world }.dropUnnamed l, true)
  | none => (s, false)

end Stage

end KernelHub.Simulation
