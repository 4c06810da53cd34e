import KernelHub.Proofs.Call
import KernelHub.Proofs.Table
import KernelHub.Proofs.Work

/-
A hub with all the calls on it. Calls take their steps in any order, one at a time, and
hosts answer when they like and what they like. A caller that stops waiting needs no
event of its own: what it leaves behind is a call that takes no more steps, or one at
work on a record, which goes on as before.
-/

namespace KernelHub

/-- Is the command one that callers of a hub can give? Those that take a record by its
place, registered or not, are for its owner only; so is the start of a record. -/
def Command.offered : Command → Bool
  | .kernel _ (.start _) => false
  | .record .. => false
  | .active _ => false
  | .openRecord .. => false
  | _ => true

/-- A hub before the first call on it. -/
structure Hub.Unused (h : Hub) : Prop where
  records : h.records = []
  registry : h.registry = []
  idMap : h.idMap = []
  retired : h.retired = []

/-- A hub over one host, where one type is known. -/
def pythonHub : Hub := { provenance := { home := ["python3"] } }

theorem pythonHub_unused : pythonHub.Unused := ⟨rfl, rfl, rfl, rfl⟩

/-- A hub and the calls on it, in the order they came. -/
structure Traffic where
  hub : Hub
  calls : List Call := []

namespace Traffic

/-- What can happen next. -/
inductive Event
  /-- Someone calls. -/
  | ask (c : Command)
  /-- A call takes a step of its own. -/
  | step (i : Nat)
  /-- A call gets the answer it waits for. -/
  | answer (i : Nat) (a : Answer)
  /-- Another hub over the same hosts has merged its catalogs. -/
  | shared (p : Provenance)

/-- The traffic after an event, if the event is possible. -/
def next? (t : Traffic) : Event → Option Traffic
  | .ask c => if c.offered then some { t with calls := t.calls ++ [.asked c] } else none
  | .step i =>
    match t.calls[i]? with
    | none => none
    | some c => (c.step? t.hub).map fun (h, c) => ⟨h, t.calls.set i c⟩
  | .answer i a =>
    match t.calls[i]? with
    | none => none
    | some c =>
      if c.request?.isSome then
        (c.answered? t.hub a).map fun c => { t with calls := t.calls.set i c }
      else none
  | .shared p => some { t with hub := { t.hub with provenance := p } }

/-- The traffic after some events, if they are possible. -/
def run? : Traffic → List Event → Option Traffic
  | t, [] => some t
  | t, e :: es => (t.next? e).bind fun t => run? t es

/-- The traffic that an unused hub can come to. -/
def Reachable (t : Traffic) : Prop :=
  ∃ h es, h.Unused ∧ run? ⟨h, []⟩ es = some t

end Traffic

namespace Call

/-- Is the call none that works on a record, has to follow such work, or has started a
kernel? -/
def light : Call → Bool
  | working .. => false
  | dropping .. => false
  | retiring _ => false
  | leaving _ => false
  | ended (.ok (.started _)) => false
  | _ => true

/-- Does the call come from an offered command? -/
def offered : Call → Bool
  | asked c => c.offered
  | seeking _ (.start _) => false
  | _ => true

/-- What a step of a call's own can be: one that touches nothing but what is known about
types, or one of the seven that registered kernels live by. -/
inductive Move (h : Hub) : Call → Hub → Call → Prop
  | aside {c c' p} (hc : c.light = true) (hc' : c'.light = true) (ho : c'.offered = true) :
    Move h c { h with provenance := p } c'
  | register {name options fresh h' place}
    (hr : h.register? (options.id.getD fresh) name = some (h', place)) :
    Move h (registering name options fresh) h'
      (working { job := .start options, place } (.started (options.id.getD fresh)))
  | seek {id job place} (hr : Table.find? id h.registry = some place)
    (hj : (seeking id job).offered = true) :
    Move h (seeking id job) h (working { job, place } (afterJob id job))
  | work {w after h' w'} (hw : w.step? h = some (h', w')) :
    Move h (working w after) h' (working w' after)
  | follow {w after res} (hp : w.phase = .ended res) :
    Move h (working w after) h (follow res after)
  | drop {id e} : Move h (dropping id e) (h.unregister id) (ended (.error e))
  | retire {id} : Move h (retiring id) (h.retire id) (leaving id)
  | leave {id} : Move h (leaving id) (h.unregister id) (ended (.ok .done))

/-- What becomes of a call that gets its answer. -/
inductive Reply (h : Hub) : Call → Call → Prop
  | aside {c c'} (hc : c.light = true) (hc' : c'.light = true) (ho : c'.offered = true) :
    Reply h c c'
  | heard {w after a w'} (hw : w.answered? h a = some w') :
    Reply h (working w after) (working w' after)

theorem light_begun {h : Hub} {k : Command} {c : Call} (hk : k.offered = true)
    (hb : Begun h k c) : c.light = true ∧ c.offered = true := by
  cases hb with
  | record | inactive | activating | unopened | openingRecord => cases hk
  | @sought id job =>
    cases job with
    | start => cases hk
    | shutdown | interrupt | restart | model => exact ⟨rfl, rfl⟩
  | _ => exact ⟨rfl, rfl⟩

theorem move_of_step? {h h' : Hub} {c c' : Call} (ho : c.offered = true)
    (hs : c.step? h = some (h', c')) : Move h c h' c' := by
  cases advance_of_step? hs with
  | begun hb =>
    obtain ⟨hc, hc'⟩ := light_begun ho hb
    exact .aside rfl hc hc'
  | registered hr => exact .register hr
  | found hf => exact .seek hf ho
  | worked hw => exact .work hw
  | followed hp => exact .follow hp
  | dropped => exact .drop
  | retired => exact .retire
  | left => exact .leave
  | _ => exact .aside rfl rfl rfl

theorem light_of_request? {c : Call} (hq : c.request?.isSome = true)
    (hw : ∀ w after, c ≠ working w after) : c.light = true := by
  cases c with
  | working w after => exact absurd rfl (hw w after)
  | dropping | retiring | leaving | ended => cases hq
  | _ => rfl

theorem reply_of_answered? {h : Hub} {c c' : Call} {a : Answer} (hq : c.request?.isSome = true)
    (hs : c.answered? h a = some c') : Reply h c c' := by
  cases reaction_of_answered? hs with
  | heard hw => exact .heard hw
  | crashed hw => exact .aside (light_of_request? hq hw) rfl rfl
  | _ => exact .aside rfl rfl rfl

end Call

end KernelHub
