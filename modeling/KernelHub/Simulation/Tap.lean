import KernelHub.Host

/-
A tap between a hub and its hosts: it notes every call and can make one fail before
it reaches the host.
-/

namespace KernelHub.Simulation

/-- A call as the tap sees it. -/
inductive Tapped
  | host (request : Request)
  | connect
  | send (type : String)
  | disconnect
deriving DecidableEq, Repr, Inhabited

/-- What kind of call it is. -/
inductive Verb
  | specs
  | spec
  | start
  | shutdown
  | interrupt
  | restart
  | model
  | list
  | has
  | openChannel
  | connect
  | send
  | disconnect
deriving DecidableEq, Repr, Inhabited

def Tapped.verb : Tapped → Verb
  | host .specs => .specs
  | host (.spec _) => .spec
  | host (.start ..) => .start
  | host (.shutdown ..) => .shutdown
  | host (.interrupt _) => .interrupt
  | host (.restart ..) => .restart
  | host (.model _) => .model
  | host .list => .list
  | host (.has _) => .has
  | host (.openChannel ..) => .openChannel
  | host (.connect ..) => .connect
  | connect => .connect
  | send _ => .send
  | disconnect => .disconnect

/-- How a call is made to fail. -/
inductive Fault
  | refuse (e : HostError)
  /-- The caller's work crashes. -/
  | crash
deriving DecidableEq, Repr, Inhabited

/-- A tap with what it has noted and the faults that wait, in the order they were put in. -/
structure Tap where
  noted : List (Side × Tapped) := []
  faults : List (Side × Verb × Fault) := []
  /-- Calls that are to crash inside the host at home. Only the first one counts. -/
  crashes : List Verb := []
deriving Inhabited

namespace Tap

/-- Notes a call, and takes the first fault that waits for it. -/
def pass (t : Tap) (side : Side) (c : Tapped) : Tap × Option Fault :=
  let t := { t with noted := t.noted ++ [(side, c)] }
  let hit (f : Side × Verb × Fault) : Bool := f.1 = side ∧ f.2.1 = c.verb
  match t.faults.find? hit with
  | some f => ({ t with faults := t.faults.eraseP hit }, some f.2.2)
  | none => (t, none)

/-- Takes the first crash, if it waits for the call. -/
def crashesAtHome (t : Tap) (v : Verb) : Tap × Bool :=
  match t.crashes with
  | c :: cs => if c = v then ({ t with crashes := cs }, true) else (t, false)
  | [] => (t, false)

end Tap

end KernelHub.Simulation
