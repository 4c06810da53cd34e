import KernelHub.Proofs.Solo

/-
The hub as a ledger. When each call runs to its end before the next comes, clients see no
records, no id map and no guards: they see which ids stand for which kernels, and which
ids are spent. `Ledger.Step` says what each command does to that, given what the hosts
answered; the hub does the same.
-/

namespace KernelHub

/-- Does the command leave all kernels alone? -/
def Command.looks : Command → Bool
  | .types => true
  | .type _ => true
  | .defaultName => true
  | .list => true
  | .openSession .. => true
  | _ => false

namespace Ledger

/-- Does a kernel run, or did its host lose it? -/
inductive Status
  | running
  | dead
deriving DecidableEq, Repr

def Status.state : Status → KernelState
  | running => .running
  | dead => .dead

/-- What is known of a kernel. -/
structure Entry where
  name : String
  binding : Binding
  status : Status
deriving DecidableEq, Repr

/-- What a hub has from its maker: the type to start when none is named, and whether there is
a remote host. -/
structure Setting where
  default? : Option String
  remote : Bool
deriving Repr

end Ledger

/-- The kernels by id, and the ids of kernels that were shut down. -/
structure Ledger where
  live : Table KernelId Ledger.Entry := []
  retired : List KernelId := []

namespace Ledger

/-- Is the id in either part? -/
def Holds (l : Ledger) (id : KernelId) : Prop :=
  Table.contains id l.live = true ∨ id ∈ l.retired

def add (l : Ledger) (id : KernelId) (e : Entry) : Ledger :=
  { l with live := Table.set id e l.live }

def retire (l : Ledger) (id : KernelId) : Ledger :=
  { live := Table.erase id l.live, retired := id :: l.retired }

/-- Which type a start is for: the one it names, else the default, else the first by name of
the types at home. -/
inductive Names (s : Setting) : Option String → List Exchange → Except KernelError String → Prop
  | given {name} : Names s (some name) [] (.ok name)
  | default {name} (hd : s.default? = some name) : Names s none [] (.ok name)
  | first {specs name} (hd : s.default? = none) (hf : Catalog.firstName? specs = some name) :
    Names s none [(.home, .specs, .specs specs)] (.ok name)
  | nothing {specs} (hd : s.default? = none) (hf : Catalog.firstName? specs = none) :
    Names s none [(.home, .specs, .specs specs)] (.error (.specNotFound "<default>"))
  | unlisted {e} (hd : s.default? = none) :
    Names s none [(.home, .specs, .refused e)] (.error (.catalog e))

/-- The catalog is merged anew, if it has to be. What the remote host cannot list is left out;
what the host at home cannot list is an error. -/
inductive Refreshes (s : Setting) : List Exchange → Option HostError → Prop
  | known : Refreshes s [] none
  | unlisted {e} : Refreshes s [(.home, .specs, .refused e)] (some e)
  | home {specs} (hr : s.remote = false) : Refreshes s [(.home, .specs, .specs specs)] none
  | both {specs a} (hr : s.remote = true) :
    Refreshes s [(.home, .specs, .specs specs), (.remote, .specs, a)] none

/-- What a command does to the ledger, given what the hosts answered, and what it gives. -/
inductive Step (s : Setting) (l : Ledger) : Command → List Exchange → Result → Ledger → Prop
  | unnamed {asked o fresh es e} (hn : Names s asked es (.error e)) :
    Step s l (.start asked o fresh) es (.error e) l
  | unlisted {asked o fresh es fs name e} (hn : Names s asked es (.ok name))
    (hr : Refreshes s fs (some e)) :
    Step s l (.start asked o fresh) (es ++ fs) (.error (.catalog e)) l
  /-- The id is in use, or was. -/
  | taken {asked o fresh es fs name} (hn : Names s asked es (.ok name))
    (hr : Refreshes s fs none) (hh : l.Holds (o.id.getD fresh)) :
    Step s l (.start asked o fresh) (es ++ fs) (.error (.alreadyExists (o.id.getD fresh))) l
  /-- The type is known as remote, and there is no remote host. -/
  | homeless {asked o fresh es fs name} (hn : Names s asked es (.ok name))
    (hr : Refreshes s fs none) (hh : ¬ l.Holds (o.id.getD fresh)) (hs : s.remote = false) :
    Step s l (.start asked o fresh) (es ++ fs) (.error (.specNotFound name)) l
  | started {asked o fresh es fs name side d} (hn : Names s asked es (.ok name))
    (hr : Refreshes s fs none) (hh : ¬ l.Holds (o.id.getD fresh))
    (hs : side = .home ∨ s.remote = true) :
    Step s l (.start asked o fresh) (es ++ fs ++ [(side, .start name o, .started d)])
      (.ok (.started (o.id.getD fresh))) (l.add (o.id.getD fresh) ⟨name, ⟨side, d⟩, .running⟩)
  | unstarted {asked o fresh es fs name side e} (hn : Names s asked es (.ok name))
    (hr : Refreshes s fs none) (hh : ¬ l.Holds (o.id.getD fresh))
    (hs : side = .home ∨ s.remote = true) :
    Step s l (.start asked o fresh) (es ++ fs ++ [(side, .start name o, .refused e)])
      (.error (if e.isNotFound = true then .specNotFound name
        else .operationFailed (o.id.getD fresh) .start e)) l
  /-- A second shutdown does nothing. -/
  | again {id now} (hr : id ∈ l.retired) : Step s l (.kernel id (.shutdown now)) [] (.ok .done) l
  | unknown {id job} (hf : Table.find? id l.live = none)
    (hr : ∀ now, job = .shutdown now → id ∉ l.retired) :
    Step s l (.kernel id job) [] (.error (.kernelNotFound id)) l
  | shutDown {id now e a} (hf : Table.find? id l.live = some e)
    (ha : a = .done ∨ ∃ w, a = .refused (.notFound w)) :
    Step s l (.kernel id (.shutdown now))
      [(e.binding.side, .shutdown e.binding.delegate now, a)] (.ok .done) (l.retire id)
  | notShutDown {id now e x} (hf : Table.find? id l.live = some e) (hx : x.isNotFound = false) :
    Step s l (.kernel id (.shutdown now))
      [(e.binding.side, .shutdown e.binding.delegate now, .refused x)]
      (.error (.operationFailed id .shutdown x)) l
  | interruptDead {id e} (hf : Table.find? id l.live = some e) (hd : e.status = .dead) :
    Step s l (.kernel id .interrupt) [] (.error (.invalidState id .interrupt .dead)) l
  | interrupted {id e} (hf : Table.find? id l.live = some e) (hd : e.status = .running) :
    Step s l (.kernel id .interrupt)
      [(e.binding.side, .interrupt e.binding.delegate, .done)] (.ok .done) l
  | notInterrupted {id e x} (hf : Table.find? id l.live = some e) (hd : e.status = .running) :
    Step s l (.kernel id .interrupt)
      [(e.binding.side, .interrupt e.binding.delegate, .refused x)]
      (.error (.operationFailed id .interrupt x)) l
  | restartDead {id now e} (hf : Table.find? id l.live = some e) (hd : e.status = .dead) :
    Step s l (.kernel id (.restart now)) [] (.error (.invalidState id .restart .dead)) l
  | restarted {id now e} (hf : Table.find? id l.live = some e) (hd : e.status = .running) :
    Step s l (.kernel id (.restart now))
      [(e.binding.side, .restart e.binding.delegate now, .done)] (.ok .done) l
  /-- The restart failed, and the host knows no such kernel any more. -/
  | lost {id now e x w} (hf : Table.find? id l.live = some e) (hd : e.status = .running) :
    Step s l (.kernel id (.restart now))
      [(e.binding.side, .restart e.binding.delegate now, .refused x),
        (e.binding.side, .model e.binding.delegate, .refused (.notFound w))]
      (.error (.operationFailed id .restart x)) (l.add id { e with status := .dead })
  /-- The restart failed, and the kernel may still be there. -/
  | notRestarted {id now e x a} (hf : Table.find? id l.live = some e) (hd : e.status = .running)
    (ha : ∀ w, a ≠ .refused (.notFound w)) :
    Step s l (.kernel id (.restart now))
      [(e.binding.side, .restart e.binding.delegate now, .refused x),
        (e.binding.side, .model e.binding.delegate, a)]
      (.error (.operationFailed id .restart x)) l
  | modelled {id e m} (hf : Table.find? id l.live = some e) :
    Step s l (.kernel id .model) [(e.binding.side, .model e.binding.delegate, .model m)]
      (.ok (.model (Hub.clientModel id e.binding.side m))) l
  | notModelled {id e x} (hf : Table.find? id l.live = some e) :
    Step s l (.kernel id .model) [(e.binding.side, .model e.binding.delegate, .refused x)]
      (.error (if x.isNotFound = true then .kernelNotFound id else .operationFailed id .model x)) l
  | looked {c es res} (hc : c.looks = true) : Step s l c es res l

end Ledger

end KernelHub
