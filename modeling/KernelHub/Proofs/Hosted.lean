import KernelHub.Proofs.Memory
import KernelHub.Proofs.Traffic.Shift

/-
A hub with all the calls on it, over two hosts in memory that nobody else uses. A question
reaches its host at one time, is worked on, is answered at another, and the answer arrives
at a third; anything else may happen in between. Hosts can become unreachable or unwilling
at any time, but lose no kernel by themselves.
-/

namespace KernelHub

/-- What has become of the question that a call has asked. -/
inductive Transit
  | accepted (side : Side) (f : Memory.Flight)
  /-- The answer is on its way back. -/
  | answered (a : Answer)

/-- A hub, the calls on it, and its hosts. -/
structure Hosted where
  traffic : Traffic
  hosts : Side → Memory.Host
  transits : Table Nat Transit := []
  /-- The fresh ids that the hosts have drawn. -/
  drawn : List Uuid := []

/-- A call that waits for an answer takes no step of its own. -/
theorem Call.step?_of_request? {h : Hub} {c : Call} (hq : c.request?.isSome = true) :
    c.step? h = none := by
  cases c with
  | working w =>
    obtain ⟨job, place, phase⟩ := w
    cases phase with
    | calling | probing => simp [step?, Work.step?]
    | _ => cases hq
  | naming | mergingHome | mergingRemote | describing | defaulting | listing | activating
  | opening | connecting => rfl
  | _ => cases hq

namespace Hosted

/-- What can happen next. -/
inductive Event
  /-- Something happens on the hub that is no answer. -/
  | own (e : Traffic.Event)
  /-- The question of a call reaches its host. -/
  | pose (i : Nat) (now : Instant)
  /-- The same, when the question is for a connection. -/
  | connect (i : Nat) (st : Memory.Kernel.Stamps) (lane : Nat) (listening : Bool)
  /-- A host ends the work on the question of a call. -/
  | finish (i : Nat) (now : Instant) (fresh : Uuid)
  /-- The answer reaches its call. -/
  | deliver (i : Nat)
  /-- Something else happens to a host. -/
  | control (side : Side) (c : Memory.Control)

/-- The question of a call, with the side it is for. -/
def asked? (s : Hosted) (i : Nat) : Option (Side × Request) :=
  s.traffic.calls[i]?.bind Call.request?

def setHost (s : Hosted) (side : Side) (h : Memory.Host) : Hosted :=
  { s with hosts := fun x => if x = side then h else s.hosts x }

def setTransit (s : Hosted) (i : Nat) (x : Transit) : Hosted :=
  { s with transits := Table.set i x s.transits }

/-- The state after an event, if the event is possible. A fresh id is none that was drawn
before. -/
def next? (s : Hosted) : Event → Option Hosted
  | .own (.answer ..) => none
  | .own e => (s.traffic.next? e).map fun t => { s with traffic := t }
  | .pose i now =>
    match s.asked? i, Table.find? i s.transits with
    | some (_, .connect ..), _ => none
    | some (side, q), none =>
      match (s.hosts side).accept now q with
      | (h, .inl a) => some ((s.setHost side h).setTransit i (.answered a))
      | (h, .inr f) => some ((s.setHost side h).setTransit i (.accepted side f))
    | _, _ => none
  | .connect i st lane listening =>
    match s.asked? i, Table.find? i s.transits with
    | some (side, .connect c _), none =>
      match (s.hosts side).connect st c lane listening with
      | (h, .ok (), _) => some ((s.setHost side h).setTransit i (.answered .done))
      | (h, .error e, _) => some ((s.setHost side h).setTransit i (.answered (.refused e)))
    | _, _ => none
  | .finish i now fresh =>
    match Table.find? i s.transits with
    | some (.accepted side f) =>
      if fresh ∈ s.drawn then none
      else
        let (h, a) := (s.hosts side).finish now fresh f
        some { (s.setHost side h).setTransit i (.answered a) with drawn := fresh :: s.drawn }
    | _ => none
  | .deliver i =>
    match Table.find? i s.transits with
    | some (.answered a) =>
      (s.traffic.next? (.answer i a)).map fun t =>
        { s with traffic := t, transits := Table.erase i s.transits }
    | _ => none
  | .control side c => some (s.setHost side (c.apply (s.hosts side)))

/-- The state after some events, if they are possible. -/
def run? : Hosted → List Event → Option Hosted
  | s, [] => some s
  | s, e :: es => (s.next? e).bind fun s => run? s es

/-- Hosts that have no kernels, one on each side. -/
def Vacant (hosts : Side → Memory.Host) : Prop :=
  ∀ side, (hosts side).side = side ∧ (hosts side).live = []

/-- What an unused hub over vacant hosts can come to. -/
def Reachable (s : Hosted) : Prop :=
  ∃ h hosts es, h.Unused ∧ Vacant hosts ∧ run? ⟨⟨h, []⟩, hosts, [], []⟩ es = some s

/-- What an event can do. -/
inductive Shift (s : Hosted) : Hosted → Prop
  | own {e t} (ht : s.traffic.next? e = some t) (he : ∀ i a, e ≠ .answer i a) :
    Shift s { s with traffic := t }
  /-- A question is answered at once. -/
  | told {i side q h a} (hq : s.asked? i = some (side, q)) (hi : Table.find? i s.transits = none)
    (hk : (s.hosts side).Keeps h) (hs : ∀ name o, q ≠ .start name o)
    (hd : ∀ d now, q = .shutdown d now → ∃ e, a = .refused e ∧
      (e.isNotFound = true → Table.find? d (s.hosts side).live = none))
    (hf : q.Fits a = true) :
    Shift s ((s.setHost side h).setTransit i (.answered a))
  | taken {i side q h f} (hq : s.asked? i = some (side, q)) (hi : Table.find? i s.transits = none)
    (hk : (s.hosts side).Keeps h) (hf : f.Of q) :
    Shift s ((s.setHost side h).setTransit i (.accepted side f))
  | finished {i side f now fresh h a} (hi : Table.find? i s.transits = some (.accepted side f))
    (hd : fresh ∉ s.drawn) (hf : (s.hosts side).finish now fresh f = (h, a)) :
    Shift s { (s.setHost side h).setTransit i (.answered a) with drawn := fresh :: s.drawn }
  | delivered {i a t} (hi : Table.find? i s.transits = some (.answered a))
    (ht : s.traffic.next? (.answer i a) = some t) :
    Shift s { s with traffic := t, transits := Table.erase i s.transits }
  | control {side h} (hk : (s.hosts side).Keeps h) : Shift s (s.setHost side h)

variable {s s' : Hosted}

theorem shift_of_pose {i : Nat} {now : Instant} (hn : s.next? (.pose i now) = some s') :
    s.Shift s' := by
  simp only [next?] at hn
  split at hn
  · cases hn
  · next side q hc hq hi =>
    have hk := Memory.Host.keeps_accept (s.hosts side) now q
    split at hn
    · next h a ha =>
      cases hn
      have ha₂ : ((s.hosts side).accept now q).2 = .inl a := by rw [ha]
      rw [ha] at hk
      refine .told hq hi hk (fun name o he => ?_) (fun d n he => ?_)
        (Memory.Host.fits_accept ha₂ hc)
      · subst he
        exact Memory.Host.not_answered_start ha₂
      · subst he
        exact Memory.Host.answered_shutdown ha₂
    · next h f ha =>
      cases hn
      have ha₂ : ((s.hosts side).accept now q).2 = .inr f := by rw [ha]
      rw [ha] at hk
      exact .taken hq hi hk (Memory.Host.of_accept ha₂)
  · cases hn

theorem shift_of_next? {e : Event} (hn : s.next? e = some s') : s.Shift s' := by
  cases e with
  | own e =>
    cases e with
    | answer => cases hn
    | ask | step | shared =>
      simp only [next?, Option.map_eq_some_iff] at hn
      obtain ⟨t, ht, rfl⟩ := hn
      exact .own ht (by rintro j a ⟨⟩)
  | pose => exact shift_of_pose hn
  | connect i st lane listening =>
    simp only [next?] at hn
    split at hn
    · next side c about hq hi =>
      have hk := Memory.Control.keeps_apply (s.hosts side) (.connect st c lane listening)
      split at hn
      all_goals
        next hh =>
        cases hn
        simp only [Memory.Control.apply, hh] at hk
        exact .told hq hi hk (by simp) (by simp) rfl
    · cases hn
  | finish i now fresh =>
    simp only [next?] at hn
    split at hn
    · next side f hi =>
      split at hn
      · cases hn
      · next hd =>
        cases hn
        exact .finished hi hd rfl
    · cases hn
  | deliver i =>
    simp only [next?] at hn
    split at hn
    · next a hi =>
      obtain ⟨t, ht, rfl⟩ := Option.map_eq_some_iff.1 hn
      exact .delivered hi ht
    · cases hn
  | control side c =>
    cases hn
    exact .control (Memory.Control.keeps_apply _ c)

/-- On the hub, what happens is what can happen with any hosts. -/
theorem reachable_shift (hs : s.Shift s') (hr : s.traffic.Reachable) : s'.traffic.Reachable := by
  cases hs with
  | own ht => exact Traffic.reachable_next hr ht
  | delivered _ ht => exact Traffic.reachable_next hr ht
  | _ => exact hr

/-- What holds of an unused hub over vacant hosts, and is kept by every event, holds of all
that they can come to. -/
theorem reachable_induct {P : Hosted → Prop}
    (base : ∀ h hosts, h.Unused → Vacant hosts → P ⟨⟨h, []⟩, hosts, [], []⟩)
    (step : ∀ s s', s.traffic.Reachable → P s → s.Shift s' → P s') (hs : s.Reachable) :
    s.traffic.Reachable ∧ P s := by
  obtain ⟨h, hosts, es, hu, hv, hr⟩ := hs
  have run {es : List Event} {s s' : Hosted} (hs : s.traffic.Reachable ∧ P s)
      (hr : run? s es = some s') : s'.traffic.Reachable ∧ P s' := by
    induction es generalizing s with
    | nil => cases hr; exact hs
    | cons e es ih =>
      obtain ⟨u, hn, hr⟩ := Option.bind_eq_some_iff.1 hr
      have hsh := shift_of_next? hn
      exact ih ⟨reachable_shift hsh hs.1, step _ _ hs.1 hs.2 hsh⟩ hr
  exact run ⟨Traffic.reachable_unused hu, base h hosts hu hv⟩ hr

/-! ## Questions on their way -/

/-- A call that waits stays as it is until it gets its answer. -/
theorem waits {t t' : Traffic} {e : Traffic.Event} {i : Nat} {c : Call}
    (hn : t.next? e = some t') (he : ∀ a, e ≠ .answer i a) (hc : t.calls[i]? = some c)
    (hq : c.request?.isSome = true) : t'.calls[i]? = some c := by
  cases e with
  | ask d =>
    simp only [Traffic.next?] at hn
    split at hn
    · cases hn
      exact (List.getElem?_append_left (List.getElem?_eq_some_iff.1 hc).1).trans hc
    · cases hn
  | step j =>
    simp only [Traffic.next?] at hn
    split at hn
    · cases hn
    · next d hd =>
      obtain ⟨⟨h', d'⟩, hs, rfl⟩ := Option.map_eq_some_iff.1 hn
      have hij : j ≠ i := by
        rintro rfl
        cases hc.symm.trans hd
        rw [Call.step?_of_request? hq] at hs
        cases hs
      exact (List.getElem?_set_ne hij).trans hc
  | answer j a =>
    simp only [Traffic.next?] at hn
    split at hn
    · cases hn
    · next d hd =>
      split at hn
      · obtain ⟨d', hs, rfl⟩ := Option.map_eq_some_iff.1 hn
        have hij : j ≠ i := fun hji => he a (hji ▸ rfl)
        exact (List.getElem?_set_ne hij).trans hc
      · cases hn
  | shared p =>
    cases hn
    exact hc

/-- Each question on its way is the one that its call waits for the answer of. -/
def Carried (s : Hosted) : Prop :=
  ∀ i x, Table.find? i s.transits = some x → ∃ side q, s.asked? i = some (side, q) ∧
    ∀ side' f, x = .accepted side' f → side' = side ∧ f.Of q

theorem asked?_waits {t : Traffic} {e : Traffic.Event} {i : Nat} {x : Side × Request}
    (hn : s.traffic.next? e = some t) (he : ∀ a, e ≠ .answer i a) (hx : s.asked? i = some x) :
    t.calls[i]? = s.traffic.calls[i]? := by
  obtain ⟨c, hc, hq⟩ := Option.bind_eq_some_iff.1 hx
  rw [hc, waits hn he hc (by rw [hq]; rfl)]

theorem carried_set {i : Nat} {x : Transit} {hosts : Side → Memory.Host} {drawn : List Uuid}
    (hc : s.Carried) (hx : ∃ side q, s.asked? i = some (side, q) ∧
      ∀ side' f, x = .accepted side' f → side' = side ∧ f.Of q) :
    Carried ⟨s.traffic, hosts, Table.set i x s.transits, drawn⟩ := by
  intro j y hy
  rcases (Table.find?_set i j x s.transits).symm.trans hy with hy
  split at hy
  · next hij =>
    cases hy
    exact hij ▸ hx
  · exact hc j y hy

theorem carried_shift (hs : s.Shift s') (hc : s.Carried) : s'.Carried := by
  cases hs with
  | own ht he =>
    intro i x hx
    obtain ⟨side, q, hq, hf⟩ := hc i x hx
    refine ⟨side, q, ?_, hf⟩
    rw [asked?, asked?_waits ht (he i) hq]
    exact hq
  | told hq => exact carried_set hc ⟨_, _, hq, nofun⟩
  | taken hq _ _ hf =>
    refine carried_set hc ⟨_, _, hq, fun side' f' he => ?_⟩
    cases he
    exact ⟨rfl, hf⟩
  | finished hi =>
    obtain ⟨side, q, hq, -⟩ := hc _ _ hi
    exact carried_set hc ⟨side, q, hq, nofun⟩
  | @delivered i a t hi ht =>
    intro j x hx
    rcases (Table.find?_erase i j s.transits).symm.trans hx with hx
    split at hx
    · cases hx
    · next hij =>
      obtain ⟨side, q, hq, hf⟩ := hc j x hx
      refine ⟨side, q, ?_, hf⟩
      have he : ∀ b, Traffic.Event.answer i a ≠ .answer j b := by
        rintro b ⟨⟩
        exact hij rfl
      rw [asked?, asked?_waits ht he hq]
      exact hq
  | control => exact hc

end Hosted

end KernelHub
