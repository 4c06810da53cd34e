import KernelHub.Proofs.Traffic.Shift

/-
A call that runs alone. What the call and the hub come to when nothing else happens on
the hub, and what the hosts were asked and answered on the way, is told by `Leads`; from
each state of a call one lemma says where its next step leads.
-/

namespace KernelHub

/-- A question to a host, and the host's answer. -/
abbrev Exchange := Side × Request × Answer

/-- The call leads to another state of it and of the hub, through these exchanges, of which
none crashes. -/
inductive Call.Leads : Hub → Call → List Exchange → Hub → Call → Prop
  | refl {h c} : Leads h c [] h c
  | step {h c h₁ c₁ es h' c'} (hs : c.step? h = some (h₁, c₁)) (hl : Leads h₁ c₁ es h' c') :
    Leads h c es h' c'
  | answer {h c c₁ side q a es h' c'} (hq : c.request? = some (side, q)) (ha : a ≠ .crashed)
    (hs : c.answered? h a = some c₁) (hl : Leads h c₁ es h' c') :
    Leads h c ((side, q, a) :: es) h' c'

namespace Hub

/-- The hub with another record at a place. -/
def put (h : Hub) (p : Nat) (r : Record) : Hub := { h with records := h.records.set p r }

theorem record?_put {h : Hub} {p : Nat} (hp : p < h.records.length) (r : Record) :
    (h.put p r).record? p = some r := by
  simp [record?, put, hp]

theorem record?_put_of_ne {p q : Nat} (hq : q ≠ p) (h : Hub) (r : Record) :
    (h.put p r).record? q = h.record? q := by
  simp [record?, put, List.getElem?_set_ne (Ne.symm hq)]

theorem edit_put {h : Hub} {p : Nat} (hp : p < h.records.length) (r : Record)
    (f : Record → Record) : (h.put p r).edit p f = h.put p (f r) := by
  simp [edit, put, List.modify_eq_set, hp]

theorem put_self {h : Hub} {p : Nat} {r : Record} (hr : h.record? p = some r) : h.put p r = h := by
  obtain ⟨hp, rfl⟩ := List.getElem?_eq_some_iff.1 hr
  simp [put]

end Hub

namespace Call

variable {h h' : Hub} {c c₁ : Call} {es : List Exchange} {res : Result}

theorem of_ended {res₁ : Result} (hl : Leads h (ended res₁) es h' (ended res)) :
    es = [] ∧ h' = h ∧ res = res₁ := by
  cases hl with
  | refl => exact ⟨rfl, rfl, rfl⟩
  | step hs => cases hs
  | answer hq => cases hq

/-- A call that asks nothing takes its own step. -/
theorem of_step {h₁ : Hub} (hl : Leads h c es h' (ended res)) (hq : c.request? = none)
    (hs : c.step? h = some (h₁, c₁)) : Leads h₁ c₁ es h' (ended res) := by
  cases hl with
  | refl => cases hs
  | step hs' hl => cases hs.symm.trans hs'; exact hl
  | answer hq' => cases hq.symm.trans hq'

/-- A call that waits for an answer gets one. -/
theorem of_request {side : Side} {q : Request} (hl : Leads h c es h' (ended res))
    (hs : c.step? h = none) (hq : c.request? = some (side, q)) :
    ∃ a c₁ fs, es = (side, q, a) :: fs ∧ a ≠ .crashed ∧ c.answered? h a = some c₁ ∧
      Leads h c₁ fs h' (ended res) := by
  cases hl with
  | refl => cases hq
  | step hs' => cases hs.symm.trans hs'
  | answer hq' ha hs hl => cases hq.symm.trans hq'; exact ⟨_, _, _, rfl, ha, hs, hl⟩

end Call

namespace Work

/-! ## The phases of work -/

variable {h h' : Hub} {p : Nat} {r : Record} {job : Job} {after : Call.After}
  {es : List Exchange} {res : Result}

/-- What is left of the work, from a phase on: the call gives this result. -/
abbrev Goes (h : Hub) (p : Nat) (r : Record) (job : Job) (after : Call.After) (ph : Phase)
    (es : List Exchange) (h' : Hub) (res : Result) : Prop :=
  (Call.working ⟨job, p, ph⟩ after).Leads (h.put p r) es h' (.ended res)

theorem of_waiting (hp : p < h.records.length) (hg : r.guarded = false)
    (hl : Goes h p r job after .waiting es h' res) :
    Goes h p { r with guarded := true } job after .entered es h' res := by
  refine Call.of_step hl rfl ?_
  simp [Call.step?, step?, Hub.record?_put hp, hg, Hub.setGuard, Hub.edit_put hp]

theorem of_entered (hp : p < h.records.length) (hl : Goes h p r job after .entered es h' res) :
    Goes h p ((enter h r job).1.elim r fun s => { r with state := s }) job after
      (enter h r job).2 es h' res := by
  have he : enter (h.put p r) r job = enter h r job := rfl
  refine Call.of_step hl rfl ?_
  cases hs : (enter h r job).1 <;>
    simp [Call.step?, step?, Hub.record?_put hp, he, hs, writeState, Hub.setState, Hub.edit_put hp]

theorem of_mapping {b : Binding} (hp : p < h.records.length)
    (hl : Goes h p r job after (.mapping b) es h' res) :
    Goes (h.map r.id b) p r job after (.binding b) es h' res := by
  refine Call.of_step hl rfl ?_
  simp [Call.step?, step?, Hub.record?_put hp]
  rfl

theorem of_binding {b : Binding} (hp : p < h.records.length)
    (hl : Goes h p r job after (.binding b) es h' res) :
    Goes h p { r with binding := some b } job after (.settling .running (.ok (.started r.id)))
      es h' res := by
  refine Call.of_step hl rfl ?_
  simp [Call.step?, step?, Hub.record?_put hp, Hub.setBinding, Hub.edit_put hp]

theorem of_unmapping (hp : p < h.records.length)
    (hl : Goes h p r job after .unmapping es h' res) :
    Goes (h.unmap r.id) p { r with binding := none } job after (.settling .dead (.ok .done))
      es h' res := by
  have hu : Goes (h.unmap r.id) p r job after .unbinding es h' res := by
    refine Call.of_step hl rfl ?_
    simp [Call.step?, step?, Hub.record?_put hp]
    rfl
  refine Call.of_step hu rfl ?_
  have hp' : p < (h.unmap r.id).records.length := hp
  simp [Call.step?, step?, Hub.record?_put hp', Hub.setBinding, Hub.edit_put hp']

theorem of_releasing {res₁ : Result} (hp : p < h.records.length)
    (hl : Goes h p r job after (.releasing res₁) es h' res) :
    (Call.follow res₁ after).Leads (h.put p { r with guarded := false }) es h' (.ended res) := by
  have he : Goes h p { r with guarded := false } job after (.ended res₁) es h' res := by
    refine Call.of_step hl rfl ?_
    simp [Call.step?, step?, Hub.record?_put hp, Hub.setGuard, Hub.edit_put hp]
  exact Call.of_step he rfl rfl

theorem of_settling {s : KernelState} {res₁ : Result} (hp : p < h.records.length)
    (hl : Goes h p r job after (.settling s res₁) es h' res) :
    (Call.follow res₁ after).Leads (h.put p { r with state := s, guarded := false }) es h'
      (.ended res) := by
  have hr : Goes h p { r with state := s } job after (.releasing res₁) es h' res := by
    refine Call.of_step hl rfl ?_
    simp [Call.step?, step?, Hub.record?_put hp, Hub.setState, Hub.edit_put hp]
  exact of_releasing hp hr

theorem of_calling {side : Side} {q : Request} (hp : p < h.records.length)
    (hl : Goes h p r job after (.calling side q) es h' res) :
    ∃ a ph fs, es = (side, q, a) :: fs ∧ a ≠ .crashed ∧ Replied r side job q a ph ∧
      Goes h p r job after ph fs h' res := by
  obtain ⟨a, c, fs, rfl, ha, hs, hl⟩ := Call.of_request hl
    (by simp [Call.step?, step?]) rfl
  simp only [Call.answered?, answered?, Hub.record?_put hp, Option.bind_eq_bind, Option.bind_some,
    Option.map_eq_some_iff, Option.bind_eq_some_iff] at hs
  obtain ⟨w, ⟨ph, hph, hw⟩, rfl⟩ := hs
  cases hw
  exact ⟨a, ph, fs, rfl, ha, replied_of_afterCall hph, hl⟩

theorem of_probing {b : Binding} {e : HostError} (hp : p < h.records.length)
    (hl : Goes h p r job after (.probing b e) es h' res) :
    ∃ a ph fs, es = (b.side, .model b.delegate, a) :: fs ∧ a ≠ .crashed ∧
      Probed r e a ph ∧ Goes h p r job after ph fs h' res := by
  obtain ⟨a, c, fs, rfl, ha, hs, hl⟩ := Call.of_request hl
    (by simp [Call.step?, step?]) rfl
  simp only [Call.answered?, answered?, Hub.record?_put hp, Option.bind_eq_bind, Option.bind_some,
    Option.map_eq_some_iff, Option.bind_eq_some_iff] at hs
  obtain ⟨w, ⟨ph, hph, hw⟩, rfl⟩ := hs
  cases hw
  exact ⟨a, ph, fs, rfl, ha, probed_of_afterProbe hph, hl⟩

/-! ## Whole jobs -/

variable {id : KernelId} {name : String} {st : KernelState} {bd : Option Binding} {b : Binding}
  {now : Bool}

/-- A job that its record refuses leaves the hub as it is. -/
theorem refused_spec {res₁ : Result} (hr : h.record? p = some ⟨id, name, st, bd, false⟩)
    (he : enter h ⟨id, name, st, bd, true⟩ job = (none, .releasing res₁))
    (hl : (Call.working { job, place := p } after).Leads h es h' (.ended res)) :
    (Call.follow res₁ after).Leads h es h' (.ended res) := by
  have hp := Hub.lt_length_of_record? hr
  rw [← Hub.put_self hr] at hl
  have h1 := of_entered hp (of_waiting hp rfl hl)
  rw [he] at h1
  have h2 : (Call.follow res₁ after).Leads (h.put p ⟨id, name, st, bd, false⟩) es h'
      (.ended res) := of_releasing hp h1
  rwa [Hub.put_self hr] at h2

/-- A job that asks a host is inside the guard when the answer comes. -/
theorem asked_spec {s : Option KernelState} {side : Side} {q : Request}
    (hr : h.record? p = some ⟨id, name, st, bd, false⟩)
    (he : enter h ⟨id, name, st, bd, true⟩ job = (s, .calling side q))
    (hl : (Call.working { job, place := p } after).Leads h es h' (.ended res)) :
    ∃ a ph fs, es = (side, q, a) :: fs ∧ a ≠ .crashed ∧
      Replied ⟨id, name, s.getD st, bd, true⟩ side job q a ph ∧
      Goes h p ⟨id, name, s.getD st, bd, true⟩ job after ph fs h' res := by
  have hp := Hub.lt_length_of_record? hr
  rw [← Hub.put_self hr] at hl
  have h1 := of_entered hp (of_waiting hp rfl hl)
  rw [he] at h1
  cases s <;> exact of_calling hp h1

/-- An interrupt of a running kernel asks its host once, and changes nothing. -/
theorem interrupt_spec (hr : h.record? p = some ⟨id, name, .running, some b, false⟩)
    (hs : h.hasSide b.side = true)
    (hl : (Call.working { job := .interrupt, place := p } after).Leads h es h' (.ended res)) :
    ∃ a fs res₁, es = (b.side, .interrupt b.delegate, a) :: fs ∧
      (a = .done ∧ res₁ = .ok .done ∨
        ∃ e, a = .refused e ∧ res₁ = .error (.operationFailed id .interrupt e)) ∧
      (Call.follow res₁ after).Leads h fs h' (.ended res) := by
  have hp := Hub.lt_length_of_record? hr
  have he : enter h ⟨id, name, .running, some b, true⟩ .interrupt =
      (some .interrupting, .calling b.side (.interrupt b.delegate)) := by
    simp [enter, Hub.bound?, Option.filter, hs]
  obtain ⟨a, ph, fs, rfl, ha, hx, hl⟩ := asked_spec hr he hl
  have settle {res₁ : Result} (hl : Goes h p ⟨id, name, .interrupting, some b, true⟩ .interrupt
      after (.settling .running res₁) fs h' res) :
      (Call.follow res₁ after).Leads h fs h' (.ended res) := by
    have h1 : (Call.follow res₁ after).Leads (h.put p ⟨id, name, .running, some b, false⟩) fs h'
        (.ended res) := of_settling hp hl
    rwa [Hub.put_self hr] at h1
  cases hx with
  | interrupted => exact ⟨_, _, _, rfl, .inl ⟨rfl, rfl⟩, settle hl⟩
  | uninterrupted => exact ⟨_, _, _, rfl, .inr ⟨_, rfl, rfl⟩, settle hl⟩
  | crashed => exact absurd rfl ha

/-- The model of a bound kernel is asked of its host, and nothing changes. -/
theorem model_spec (hr : h.record? p = some ⟨id, name, st, some b, false⟩)
    (hs : h.hasSide b.side = true)
    (hl : (Call.working { job := .model, place := p } after).Leads h es h' (.ended res)) :
    ∃ a fs res₁, es = (b.side, .model b.delegate, a) :: fs ∧
      ((∃ m, a = .model m ∧ res₁ = .ok (.model (Hub.clientModel id b.side m))) ∨
        ∃ e, a = .refused e ∧ res₁ = .error (if e.isNotFound = true then .kernelNotFound id
          else .operationFailed id .model e)) ∧
      (Call.follow res₁ after).Leads h fs h' (.ended res) := by
  have hp := Hub.lt_length_of_record? hr
  have he : enter h ⟨id, name, st, some b, true⟩ .model =
      (none, .calling b.side (.model b.delegate)) := by
    simp [enter, Hub.bound?, Option.filter, hs]
  obtain ⟨a, ph, fs, rfl, ha, hx, hl⟩ := asked_spec hr he hl
  have release {res₁ : Result} (hl : Goes h p ⟨id, name, st, some b, true⟩ .model after
      (.releasing res₁) fs h' res) : (Call.follow res₁ after).Leads h fs h' (.ended res) := by
    have h1 : (Call.follow res₁ after).Leads (h.put p ⟨id, name, st, some b, false⟩) fs h'
        (.ended res) := of_releasing hp hl
    rwa [Hub.put_self hr] at h1
  cases hx with
  | described => exact ⟨_, _, _, rfl, .inl ⟨_, rfl, rfl⟩, release hl⟩
  | missing => exact ⟨_, _, _, rfl, .inr ⟨_, rfl, rfl⟩, release hl⟩
  | undescribed hn => exact ⟨_, _, _, rfl, .inr ⟨_, rfl, by rw [hn]; rfl⟩, release hl⟩
  | crashed => exact absurd rfl ha

/-- A restart of a running kernel asks its host once, and when that fails asks for the model.
The kernel is dead after it exactly when the host then knows no such kernel. -/
theorem restart_spec (hr : h.record? p = some ⟨id, name, .running, some b, false⟩)
    (hs : h.hasSide b.side = true)
    (hl : (Call.working { job := .restart now, place := p } after).Leads h es h' (.ended res)) :
    (∃ fs, es = (b.side, .restart b.delegate now, .done) :: fs ∧
      (Call.follow (.ok .done) after).Leads h fs h' (.ended res)) ∨
    ∃ e a fs h₁, es = (b.side, .restart b.delegate now, .refused e) ::
        (b.side, .model b.delegate, a) :: fs ∧
      ((∃ s, a = .refused (.notFound s)) ∧ h₁ = h.put p ⟨id, name, .dead, some b, false⟩ ∨
        (∀ s, a ≠ .refused (.notFound s)) ∧ h₁ = h) ∧
      (Call.follow (.error (.operationFailed id .restart e)) after).Leads h₁ fs h'
        (.ended res) := by
  have hp := Hub.lt_length_of_record? hr
  have he : enter h ⟨id, name, .running, some b, true⟩ (.restart now) =
      (some .restarting, .calling b.side (.restart b.delegate now)) := by
    simp [enter, Hub.bound?, Option.filter, hs]
  obtain ⟨a, ph, fs, rfl, ha, hx, hl⟩ := asked_spec hr he hl
  have settle {s : KernelState} {res₁ : Result} {fs : List Exchange} (hl : Goes h p
      ⟨id, name, .restarting, some b, true⟩ (.restart now) after (.settling s res₁) fs h' res) :
      (Call.follow res₁ after).Leads (h.put p ⟨id, name, s, some b, false⟩) fs h' (.ended res) :=
    of_settling hp hl
  have live {res₁ : Result} {fs : List Exchange} (hl : Goes h p
      ⟨id, name, .restarting, some b, true⟩ (.restart now) after (.settling .running res₁) fs h'
      res) : (Call.follow res₁ after).Leads h fs h' (.ended res) := by
    have h1 := settle hl
    rwa [Hub.put_self hr] at h1
  cases hx with
  | restarted => exact .inl ⟨fs, rfl, live hl⟩
  | @unrestarted _ _ _ e =>
    obtain ⟨a, ph, fs, rfl, ha, hx, hl⟩ := of_probing hp hl
    refine .inr ⟨e, a, fs, ?_⟩
    cases hx with
    | lost => exact ⟨_, rfl, .inl ⟨⟨_, rfl⟩, rfl⟩, settle hl⟩
    | unseen hn =>
      refine ⟨h, rfl, .inr ⟨?_, rfl⟩, live hl⟩
      rintro s ⟨⟩
      cases hn
    | seen =>
      refine ⟨h, rfl, .inr ⟨?_, rfl⟩, live hl⟩
      rintro s ⟨⟩
    | crashed => exact absurd rfl ha
  | crashed => exact absurd rfl ha

/-- A shutdown of a bound kernel asks its host once. Unless the host refuses for another
reason than that it knows no such kernel, the kernel is unmapped, unbound and dead. -/
theorem shutdown_spec (hr : h.record? p = some ⟨id, name, st, some b, false⟩)
    (hs : h.hasSide b.side = true)
    (hl : (Call.working { job := .shutdown now, place := p } after).Leads h es h' (.ended res)) :
    (∃ a fs, es = (b.side, .shutdown b.delegate now, a) :: fs ∧
      (a = .done ∨ ∃ s, a = .refused (.notFound s)) ∧
      (Call.follow (.ok .done) after).Leads
        ((h.unmap id).put p ⟨id, name, .dead, none, false⟩) fs h' (.ended res)) ∨
    ∃ e fs, es = (b.side, .shutdown b.delegate now, .refused e) :: fs ∧ e.isNotFound = false ∧
      (Call.follow (.error (.operationFailed id .shutdown e)) after).Leads h fs h'
        (.ended res) := by
  have hp := Hub.lt_length_of_record? hr
  have he : enter h ⟨id, name, st, some b, true⟩ (.shutdown now) =
      (none, .calling b.side (.shutdown b.delegate now)) := by
    simp [enter, Hub.bound?, Option.filter, hs]
  obtain ⟨a, ph, fs, rfl, ha, hx, hl⟩ := asked_spec hr he hl
  have stop (hl : Goes h p ⟨id, name, st, some b, true⟩ (.shutdown now) after .unmapping fs h'
      res) : (Call.follow (.ok .done) after).Leads
      ((h.unmap id).put p ⟨id, name, .dead, none, false⟩) fs h' (.ended res) :=
    of_settling (h := h.unmap id) hp (of_unmapping hp hl)
  cases hx with
  | stopped => exact .inl ⟨_, fs, rfl, .inl rfl, stop hl⟩
  | gone => exact .inl ⟨_, fs, rfl, .inr ⟨_, rfl⟩, stop hl⟩
  | @unstopped _ _ e hn =>
    have h1 : (Call.follow (.error (.operationFailed id .shutdown e)) after).Leads
        (h.put p ⟨id, name, st, some b, false⟩) fs h' (.ended res) := of_releasing hp hl
    rw [Hub.put_self hr] at h1
    exact .inr ⟨e, fs, rfl, hn, h1⟩
  | crashed => exact absurd rfl ha

/-- The start of an unborn record asks the host of its type once, if there is one, and binds
the record when the host has started a kernel. -/
theorem start_spec {o : StartOptions} {side : Side}
    (hr : h.record? p = some ⟨id, name, .unborn, none, false⟩)
    (hs : h.provenance.route name = side)
    (hl : (Call.working { job := .start o, place := p } after).Leads h es h' (.ended res)) :
    (h.hasSide side = false ∧ (Call.follow (.error (.specNotFound name)) after).Leads
      (h.put p ⟨id, name, .dead, none, false⟩) es h' (.ended res)) ∨
    h.hasSide side = true ∧ ∃ a fs, es = (side, .start name o, a) :: fs ∧
      ((∃ d, a = .started d ∧ (Call.follow (.ok (.started id)) after).Leads
        ((h.map id ⟨side, d⟩).put p ⟨id, name, .running, some ⟨side, d⟩, false⟩) fs h'
          (.ended res)) ∨
      ∃ e res₁, a = .refused e ∧ res₁ = .error (if e.isNotFound = true then .specNotFound name
          else .operationFailed id .start e) ∧
        (Call.follow res₁ after).Leads (h.put p ⟨id, name, .dead, none, false⟩) fs h'
          (.ended res)) := by
  have hp := Hub.lt_length_of_record? hr
  subst hs
  cases hh : h.hasSide (h.provenance.route name) with
  | false =>
    rw [← Hub.put_self hr] at hl
    have h1 := of_entered hp (of_waiting hp rfl hl)
    have he : enter h ⟨id, name, .unborn, none, true⟩ (.start o) =
        (some .dead, .releasing (.error (.specNotFound name))) := by simp [enter, hh]
    rw [he] at h1
    exact .inl ⟨rfl, of_releasing hp h1⟩
  | true =>
    have he : enter h ⟨id, name, .unborn, none, true⟩ (.start o) = (some .starting,
        .calling (h.provenance.route name) (.start name o)) := by simp [enter, hh]
    obtain ⟨a, ph, fs, rfl, ha, hx, hl⟩ := asked_spec hr he hl
    refine .inr ⟨rfl, a, fs, rfl, ?_⟩
    cases hx with
    | started =>
      exact .inl ⟨_, rfl, of_settling (h := h.map id _) hp (of_binding hp (of_mapping hp hl))⟩
    | unknown => exact .inr ⟨_, _, rfl, rfl, of_settling hp hl⟩
    | unstarted hn => exact .inr ⟨_, _, rfl, by rw [hn]; rfl, of_settling hp hl⟩
    | crashed => exact absurd rfl ha

end Work

end KernelHub
