import KernelHub.Proofs.Traffic.Guards
import Mathlib.Data.List.Chain

/-
What the work inside a record's guard knows of the record's state, and what one turn of it
does to the record. Nothing here depends on which calls there are, or on how records come to
be registered.
-/

namespace KernelHub

/-- The changes of state that there are. -/
inductive KernelState.Leads : KernelState → KernelState → Prop
  | begun : Leads .unborn .starting
  /-- There is no host for the kernel's type. -/
  | homeless : Leads .unborn .dead
  | started : Leads .starting .running
  | failed : Leads .starting .dead
  | interrupt : Leads .running .interrupting
  | interrupted : Leads .interrupting .running
  | restart : Leads .running .restarting
  | restarted : Leads .restarting .running
  /-- The kernel did not survive its restart. -/
  | lost : Leads .restarting .dead
  | stopped : Leads .running .dead

/-- Does the state last only while an operation is at work? -/
def KernelState.passing : KernelState → Bool
  | .starting => true
  | .interrupting => true
  | .restarting => true
  | _ => false

namespace Record

def Bound (r : Record) : Prop := ∃ b, r.binding = some b

/-- Can the record be like this while nobody is at work on it? -/
def Rests (r : Record) : Prop :=
  match r.state with
  | .unborn => r.binding = none
  | .running => r.Bound
  | .dead => True
  | _ => False

/-- The record after a state was written, if there was one to write. -/
def write (r : Record) : Option KernelState → Record
  | some s => { r with state := s }
  | none => r

theorem Rests.not_passing {r : Record} (hr : r.Rests) : r.state.passing = false := by
  unfold Rests at hr
  cases hs : r.state <;> simp_all [KernelState.passing]

/-- A record at rest that is bound is running, or dead and not yet shut down. -/
theorem Rests.of_bound {r : Record} (hr : r.Rests) (hb : r.Bound) :
    r.state = .running ∨ r.state = .dead := by
  obtain ⟨b, hb⟩ := hb
  unfold Rests at hr
  cases hs : r.state <;> simp_all

theorem Rests.unbound {r : Record} (hr : r.Rests) (hs : r.state = .unborn) : r.binding = none := by
  unfold Rests at hr
  rw [hs] at hr
  exact hr

theorem rests_running {r : Record} (hs : r.state = .running) (hb : r.Bound) : r.Rests := by
  unfold Rests
  rw [hs]
  exact hb

theorem rests_dead {r : Record} (hs : r.state = .dead) : r.Rests := by
  unfold Rests
  rw [hs]
  trivial

/-- What one event can do to a record. -/
inductive Passes (h : Hub) (r : Record) : Record → Prop
  | stays (g : Bool) : Passes h r { r with guarded := g }
  | moves {s} (hl : r.state.Leads s)
    (hh : r.state = .unborn → s = .dead → h.hasSide (h.provenance.route r.name) = false) :
    Passes h r { r with state := s }
  | binds {b} (hs : r.state = .starting) (hb : r.binding = none) :
    Passes h r { r with binding := some b }
  | clears (hs : r.state = .running ∨ r.state = .dead) (hb : r.Bound) :
    Passes h r { r with binding := none }

theorem passes_refl (h : Hub) (r : Record) : r.Passes h r := .stays r.guarded

theorem Passes.leads {h : Hub} {r r' : Record} (hp : r.Passes h r') :
    r.state = r'.state ∨ r.state.Leads r'.state := by
  cases hp with
  | moves hl => exact .inr hl
  | stays | binds | clears => exact .inl rfl

/-! ## Bindings over time -/

/-- Can nothing bind the record any more? -/
def Past (r : Record) : Prop := r.binding = none ∧ r.state ≠ .unborn ∧ r.state ≠ .starting

theorem Passes.past {h : Hub} {r r' : Record} (hp : r.Passes h r') (hr : r.Past) : r'.Past := by
  obtain ⟨hb, hu, hs⟩ := hr
  cases hp with
  | stays => exact ⟨hb, hu, hs⟩
  | moves hl =>
    generalize r.state = x at hl hu
    refine ⟨hb, ?_, ?_⟩ <;> rintro rfl <;> cases hl
    exact hu rfl
  | binds hst => exact absurd hst hs
  | clears => exact ⟨rfl, hu, hs⟩

/-- The records of one place, one after the other. -/
def Succeeds (r r' : Record) : Prop := ∃ h, r.Passes h r'

theorem bindings_past {r : Record} {rs : List Record} (hc : (r :: rs).IsChain Succeeds)
    (hr : r.Past) : (r :: rs).map (·.binding) = List.replicate (rs.length + 1) none := by
  induction rs generalizing r with
  | nil => simp [hr.1]
  | cons r' rs ih =>
    obtain ⟨⟨h, hp⟩, hc⟩ := List.isChain_cons_cons.1 hc
    rw [List.map_cons, ih hc (hp.past hr), hr.1]
    rfl

theorem bindings_bound {r : Record} {rs : List Record} {b : Binding}
    (hc : (r :: rs).IsChain Succeeds) (hr : r.binding = some b) :
    ∃ l m, (r :: rs).map (·.binding) = List.replicate l (some b) ++ List.replicate m none := by
  induction rs generalizing r with
  | nil => exact ⟨1, 0, by simp [hr]⟩
  | cons r' rs ih =>
    obtain ⟨⟨h, hp⟩, hc⟩ := List.isChain_cons_cons.1 hc
    have kept (hb : r'.binding = some b) : ∃ l m, (r :: r' :: rs).map (·.binding) =
        List.replicate l (some b) ++ List.replicate m none := by
      obtain ⟨l, m, he⟩ := ih hc hb
      exact ⟨l + 1, m, by rw [List.map_cons, he, hr]; rfl⟩
    cases hp with
    | stays | moves => exact kept hr
    | binds _ hn => cases hn.symm.trans hr
    | clears hs =>
      -- What is cleared is running or dead, and so never starts again.
      have hpast : Past { r with binding := none } := by
        refine ⟨rfl, ?_, ?_⟩ <;> rcases hs with hs | hs <;> simp [hs]
      refine ⟨1, rs.length + 1, ?_⟩
      rw [List.map_cons, bindings_past hc hpast, hr]
      rfl

/-- A record that begins unbound is bound once at most, and cleared once at most. -/
theorem bindings_once {r : Record} {rs : List Record} (hc : (r :: rs).IsChain Succeeds)
    (hr : r.binding = none) : ∃ b k l m, (r :: rs).map (·.binding) =
      List.replicate k none ++ List.replicate l (some b) ++ List.replicate m none := by
  induction rs generalizing r with
  | nil => exact ⟨default, 1, 0, 0, by simp [hr]⟩
  | cons r' rs ih =>
    obtain ⟨⟨h, hp⟩, hc⟩ := List.isChain_cons_cons.1 hc
    cases hb : r'.binding with
    | none =>
      obtain ⟨b, k, l, m, he⟩ := ih hc hb
      exact ⟨b, k + 1, l, m, by rw [List.map_cons, he, hr]; rfl⟩
    | some b =>
      obtain ⟨l, m, he⟩ := bindings_bound hc hb
      exact ⟨b, 1, l, m, by rw [List.map_cons, he, hr]; rfl⟩

end Record

namespace Work

variable {h h' : Hub} {w w' : Work} {r r' : Record} {job : Job} {p p' : Phase}

/-- What a turn does to the record and to the phase. -/
inductive Stride (h : Hub) (r : Record) (job : Job) : Phase → Record → Phase → Prop
  | take : Stride h r job .waiting { r with guarded := true } .entered
  | enter {s p} (he : Entry h r job s p) : Stride h r job .entered (r.write s) p
  | map {b} : Stride h r job (.mapping b) r (.binding b)
  | bind {b} : Stride h r job (.binding b) { r with binding := some b }
      (.settling .running (.ok (.started r.id)))
  | unmap : Stride h r job .unmapping r .unbinding
  | unbind : Stride h r job .unbinding { r with binding := none } (.settling .dead (.ok .done))
  | settle {s res} : Stride h r job (.settling s res) { r with state := s } (.releasing res)
  | release {res} : Stride h r job (.releasing res) { r with guarded := false } (.ended res)

theorem stride_turn (hr : h.record? w.place = some r) (ht : w.Turn h r h' w') :
    ∃ r', h'.record? w.place = some r' ∧ Stride h r w.job w.phase r' w'.phase := by
  have edit (f : Record → Record) : (h.edit w.place f).record? w.place = some (f r) := by
    simp [Hub.record?_edit_self, hr]
  cases ht with
  | take hp => rw [hp]; exact ⟨_, edit _, .take⟩
  | @enter s p hp he =>
    rw [hp]
    refine ⟨r.write s, ?_, .enter he⟩
    cases s with
    | none => exact hr
    | some s => exact edit _
  | map hp => rw [hp]; exact ⟨r, hr, .map⟩
  | bind hp => rw [hp]; exact ⟨_, edit _, .bind⟩
  | unmap hp => rw [hp]; exact ⟨r, hr, .unmap⟩
  | unbind hp => rw [hp]; exact ⟨_, edit _, .unbind⟩
  | settle hp => rw [hp]; exact ⟨_, edit _, .settle⟩
  | release hp => rw [hp]; exact ⟨_, edit _, .release⟩

/-- What a phase says of the state and the binding of its record. -/
def Phase.Meets (r : Record) (job : Job) : Phase → Prop
  | .waiting | .ended _ => True
  | .entered | .releasing _ => r.Rests
  | .calling .. =>
    match job with
    | .start _ => r.state = .starting ∧ r.binding = none
    | .shutdown _ => r.Rests ∧ r.Bound
    | .interrupt => r.state = .interrupting ∧ r.Bound
    | .restart _ => r.state = .restarting ∧ r.Bound
    | .model => r.Rests
  | .probing .. => r.state = .restarting ∧ r.Bound
  | .mapping _ | .binding _ => job.Starts ∧ r.state = .starting ∧ r.binding = none
  | .unmapping | .unbinding => (∃ now, job = .shutdown now) ∧ r.Rests ∧ r.Bound
  | .settling s _ =>
    { r with state := s }.Rests ∧ r.state ≠ .unborn ∧ (r.state = s ∨ r.state.Leads s)

/-! ## What a turn keeps -/

theorem meets_enter {s : Option KernelState} (he : Entry h r job s p) (hr : r.Rests) :
    p.Meets (r.write s) job ∧ r.Passes h (r.write s) := by
  cases he with
  | refused | gone => exact ⟨hr, Record.passes_refl h r⟩
  | began hs hh =>
    exact ⟨⟨rfl, hr.unbound hs⟩, .moves (hs ▸ .begun) fun _ => nofun⟩
  | homeless hs hh =>
    exact ⟨Record.rests_dead (r := { r with state := .dead }) rfl,
      .moves (hs ▸ .homeless) fun _ _ => hh⟩
  | @asked job b q s hb hh hq hs =>
    cases job with
    | start => cases hq
    | shutdown => cases hq; exact ⟨⟨hr, b, hb⟩, Record.passes_refl h r⟩
    | interrupt =>
      cases hq
      have hrun := hs nofun
      exact ⟨⟨rfl, b, hb⟩, .moves (hrun ▸ .interrupt) fun _ => nofun⟩
    | restart =>
      cases hq
      have hrun := hs nofun
      exact ⟨⟨rfl, b, hb⟩, .moves (hrun ▸ .restart) fun _ => nofun⟩
    | model => cases hq; exact ⟨hr, Record.passes_refl h r⟩

/-- A turn leaves the record as the next phase wants it, and changes it as the diagram allows. -/
theorem meets_stride (hs : Stride h r job p r' p') (hm : p.Meets r job)
    (hw : p = .waiting → r.Rests) : p'.Meets r' job ∧ r.Passes h r' := by
  cases hs with
  | take => exact ⟨hw rfl, .stays true⟩
  | enter he => exact meets_enter he hm
  | map | unmap => exact ⟨hm, Record.passes_refl h r⟩
  | @bind b =>
    obtain ⟨-, hs, hb⟩ := hm
    exact ⟨⟨Record.rests_running rfl ⟨b, rfl⟩, by simp [hs], .inr (hs ▸ .started)⟩, .binds hs hb⟩
  | unbind =>
    obtain ⟨-, hr, hb⟩ := hm
    have hs := hr.of_bound hb
    refine ⟨⟨Record.rests_dead rfl, ?_, ?_⟩, .clears hs hb⟩
    · rcases hs with hs | hs <;> simp [hs]
    · rcases hs with hs | hs
      · exact .inr (show r.state.Leads .dead by rw [hs]; exact .stopped)
      · exact .inl hs
  | settle =>
    obtain ⟨hr, hne, hs | hl⟩ := hm
    · exact ⟨hr, by subst hs; exact Record.passes_refl h r⟩
    · exact ⟨hr, .moves hl fun hu => absurd hu hne⟩
  | release => exact ⟨trivial, .stays false⟩

/-- Work that leaves the guard, or has not taken it, leaves the record at rest. -/
theorem rests_stride (hs : Stride h r job p r' p') (hm : p.Meets r job)
    (hi : p'.inside = false) : r'.Rests := by
  cases hs with
  | release => exact hm
  | enter he => cases (inside_enter he).symm.trans hi
  | _ => cases hi

/-- Only a start that goes well binds, and only a shutdown that goes well clears. -/
theorem rebound_stride (hs : Stride h r job p r' p') (hm : p.Meets r job)
    (hb : r'.binding ≠ r.binding) :
    (job.Starts ∧ r.binding = none ∧ r'.Bound ∧ p' = .settling .running (.ok (.started r.id))) ∨
      (∃ now, job = .shutdown now) ∧ r.Bound ∧ r'.binding = none ∧
        p' = .settling .dead (.ok .done) := by
  cases hs with
  | bind => exact .inl ⟨hm.1, hm.2.2, ⟨_, rfl⟩, rfl⟩
  | unbind => exact .inr ⟨hm.1, hm.2.2, rfl, rfl⟩
  | @enter s =>
    refine absurd ?_ hb
    cases s <;> rfl
  | _ => exact absurd rfl hb

/-! ## What an answer keeps -/

theorem meets_replied {side : Side} {q : Request} {a : Answer}
    (hr : Replied r side job q a p) (hn : a ≠ .crashed)
    (hm : (Phase.calling side q).Meets r job) : p.Meets r job := by
  cases hr with
  | crashed => exact absurd rfl hn
  | started | stopped | gone => exact ⟨⟨_, rfl⟩, hm⟩
  | unknown | unstarted => exact ⟨Record.rests_dead rfl, by simp [hm.1], .inr (hm.1 ▸ .failed)⟩
  | unstopped => exact hm.1
  | interrupted | uninterrupted =>
    exact ⟨Record.rests_running rfl hm.2, by simp [hm.1], .inr (hm.1 ▸ .interrupted)⟩
  | restarted =>
    exact ⟨Record.rests_running rfl hm.2, by simp [hm.1], .inr (hm.1 ▸ .restarted)⟩
  | unrestarted | described | missing | undescribed => exact hm

theorem meets_probed {b : Binding} {e : HostError} {a : Answer}
    (hp : Probed r e a p) (hn : a ≠ .crashed)
    (hm : (Phase.probing b e).Meets r job) : p.Meets r job := by
  cases hp with
  | crashed => exact absurd rfl hn
  | lost => exact ⟨Record.rests_dead rfl, by simp [hm.1], .inr (hm.1 ▸ .lost)⟩
  | unseen | seen =>
    exact ⟨Record.rests_running rfl hm.2, by simp [hm.1], .inr (hm.1 ▸ .restarted)⟩

/-- An answer leaves the record as it is, and as the next phase wants it. -/
theorem meets_answered {a : Answer} (hr : h.record? w.place = some r)
    (hs : w.answered? h a = some w') (hn : a ≠ .crashed) (hm : w.phase.Meets r w.job) :
    w'.place = w.place ∧ w.phase.inside = true ∧ w'.phase.inside = true ∧
      w'.phase.Meets r w'.job := by
  obtain ⟨r₀, p, hr₀, hx, rfl⟩ := reaction_of_answered? hs
  cases hr.symm.trans hr₀
  obtain ⟨hi, hi'⟩ := inside_heard (heard_of_reaction hx)
  refine ⟨rfl, hi, hi', ?_⟩
  obtain ⟨job, place, phase⟩ := w
  simp only at hm hx
  cases hx with
  | replied hx => exact meets_replied hx hn hm
  | probed hx => exact meets_probed hx hn hm

end Work

end KernelHub
