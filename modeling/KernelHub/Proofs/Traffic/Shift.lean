import KernelHub.Proofs.Traffic

/-
What one event does to the traffic on a hub, and the induction over all that the traffic
can come to. An event either leaves everything alone that registered kernels live by
(`Alike`), or is one of eight moves of one call.
-/

namespace KernelHub

namespace Hub

/-- The hub with one more record, registered under its id. -/
def enroll (h : Hub) (id : KernelId) (name : String) : Hub :=
  { h with
    records := h.records ++ [{ id, name }]
    registry := Table.set id h.records.length h.registry }

theorem register?_eq_some {h h' : Hub} {id : KernelId} {name : String} {place : Nat}
    (hr : h.register? id name = some (h', place)) :
    Table.contains id h.registry = false ∧ id ∉ h.retired ∧ place = h.records.length ∧
      h' = h.enroll id name := by
  unfold register? at hr
  split at hr
  · cases hr
  · next hn =>
    simp only [not_or, Bool.not_eq_true] at hn
    cases hr
    exact ⟨hn.1, hn.2, rfl, rfl⟩

theorem register?_eq_none {h : Hub} {id : KernelId} {name : String} :
    h.register? id name = none ↔ Table.contains id h.registry = true ∨ id ∈ h.retired := by
  unfold register?
  split
  · next hn => exact iff_of_true rfl hn
  · next hn => exact iff_of_false nofun hn

theorem record?_enroll (h : Hub) (id : KernelId) (name : String) (p : Nat) :
    (h.enroll id name).record? p =
      if p = h.records.length then some { id, name } else h.record? p := by
  simp only [record?, enroll, List.getElem?_append]
  split
  · next hp => rw [if_neg (by omega)]
  · next hp =>
    split
    · next he => simp [he]
    · next hne => rw [List.getElem?_eq_none (by simp; omega), List.getElem?_eq_none (by omega)]

theorem mem_retire {h : Hub} {id x : KernelId} (hx : x ∈ h.retired) :
    x ∈ (h.retire id).retired := by
  simp only [retire]
  split
  · exact hx
  · exact List.mem_cons_of_mem _ hx

theorem of_mem_retire {h : Hub} {id x : KernelId} (hx : x ∈ (h.retire id).retired) :
    x = id ∨ x ∈ h.retired := by
  simp only [retire] at hx
  split at hx
  · exact .inr hx
  · exact List.mem_cons.1 hx

theorem mem_retire_self (h : Hub) (id : KernelId) : id ∈ (h.retire id).retired := by
  simp only [retire]
  split
  · assumption
  · exact List.mem_cons_self

theorem lt_length_of_record? {h : Hub} {p : Nat} {r : Record} (hr : h.record? p = some r) :
    p < h.records.length := by
  obtain ⟨hp, -⟩ := List.getElem?_eq_some_iff.1 hr
  exact hp

end Hub

/-- No step of a call changes what the hub has from its maker, and what is known about types
changes in one place only: where a call that has got its listings publishes them. -/
theorem Call.maker_step {h h' : Hub} {c c' : Call} (hs : c.step? h = some (h', c')) :
    h'.config = h.config ∧ h'.environment = h.environment ∧ h'.hasRemote = h.hasRemote ∧
      (h'.provenance = h.provenance ∨ ∃ goal home remote, c = .merged goal home remote ∧
        h'.provenance = Catalog.provenance h.config home remote) := by
  cases advance_of_step? hs with
  | published | learnt => exact ⟨rfl, rfl, rfl, .inr ⟨_, _, _, rfl, rfl⟩⟩
  | registered hr =>
    obtain ⟨-, -, -, rfl⟩ := Hub.register?_eq_some hr
    exact ⟨rfl, rfl, rfl, .inl rfl⟩
  | worked hw =>
    obtain ⟨r, -, ht⟩ := Work.turn_of_step? hw
    cases ht with
    | @enter s => cases s <;> exact ⟨rfl, rfl, rfl, .inl rfl⟩
    | _ => exact ⟨rfl, rfl, rfl, .inl rfl⟩
  | _ => exact ⟨rfl, rfl, rfl, .inl rfl⟩

namespace Traffic

/-! ## Changing one call -/

theorem getElem?_set_call {calls : List Call} {i : Nat} {c : Call} (hc : calls[i]? = some c)
    (c' : Call) (j : Nat) : (calls.set i c')[j]? = if i = j then some c' else calls[j]? := by
  obtain ⟨hi, -⟩ := List.getElem?_eq_some_iff.1 hc
  rw [List.getElem?_set]
  split
  · simp
  · rfl

theorem set_call_self {calls : List Call} {i : Nat} {c : Call} (hc : calls[i]? = some c)
    (c' : Call) : (calls.set i c')[i]? = some c' := by simp [getElem?_set_call hc]

/-- A call found after one was set is that one, or was there before. -/
theorem of_set_call {calls : List Call} {i j : Nat} {c c' d : Call} (hc : calls[i]? = some c)
    (hd : (calls.set i c')[j]? = some d) : i = j ∧ c' = d ∨ i ≠ j ∧ calls[j]? = some d := by
  rw [getElem?_set_call hc] at hd
  split at hd
  · next hi => exact .inl ⟨hi, Option.some.inj hd⟩
  · next hi => exact .inr ⟨hi, hd⟩

/-- The two differ in nothing but what is known about types and in light calls. -/
structure Alike (t t' : Traffic) : Prop where
  hub : ∃ p, t'.hub = { t.hub with provenance := p }
  calls : ∀ (i : Nat) (c : Call), c.light = false → (t'.calls[i]? = some c ↔ t.calls[i]? = some c)

theorem alike_ask (t : Traffic) (c : Command) :
    Alike t { t with calls := t.calls ++ [.asked c] } := by
  refine ⟨⟨_, rfl⟩, fun i d hd => ?_⟩
  simp only [List.getElem?_append]
  split
  · rfl
  · next hi =>
    rw [List.getElem?_eq_none (by omega : t.calls.length ≤ i)]
    refine ⟨fun he => ?_, fun he => by cases he⟩
    have hm := List.mem_of_getElem? he
    simp only [List.mem_singleton] at hm
    subst hm
    cases hd

theorem alike_set {t : Traffic} {i : Nat} {c c' : Call} (hc : t.calls[i]? = some c)
    (hl : c.light = true) (hl' : c'.light = true) (p : Provenance) :
    Alike t ⟨{ t.hub with provenance := p }, t.calls.set i c'⟩ := by
  refine ⟨⟨p, rfl⟩, fun j d hd => ?_⟩
  have hne : c' ≠ d := by rintro rfl; simp [hl'] at hd
  have hne' : c ≠ d := by rintro rfl; simp [hl] at hd
  simp only [getElem?_set_call hc]
  split
  · next he =>
    subst he
    simp [hc, hne, hne']
  · rfl

/-- What an event can do. -/
inductive Shift (t : Traffic) : Event → Traffic → Prop
  | aside {e t'} (ha : Alike t t') : Shift t e t'
  | register {i name options fresh}
    (hc : t.calls[i]? = some (Call.registering name options fresh))
    (hk : Table.contains (options.id.getD fresh) t.hub.registry = false)
    (hr : options.id.getD fresh ∉ t.hub.retired) :
    Shift t (.step i) ⟨t.hub.enroll (options.id.getD fresh) name,
      t.calls.set i (.working { job := .start options, place := t.hub.records.length }
        (.started (options.id.getD fresh)))⟩
  | seek {i id job place} (hc : t.calls[i]? = some (Call.seeking id job))
    (hr : Table.find? id t.hub.registry = some place)
    (hj : (Call.seeking id job).offered = true) :
    Shift t (.step i) ⟨t.hub, t.calls.set i (.working { job, place } (Call.afterJob id job))⟩
  | work {i w after r h' w'} (hc : t.calls[i]? = some (Call.working w after))
    (hr : t.hub.record? w.place = some r) (ht : w.Turn t.hub r h' w') :
    Shift t (.step i) ⟨h', t.calls.set i (.working w' after)⟩
  | heard {i w after r p a} (hc : t.calls[i]? = some (Call.working w after))
    (hr : t.hub.record? w.place = some r) (hh : Work.Heard r w.job w.phase p) :
    Shift t (.answer i a) ⟨t.hub, t.calls.set i (.working { w with phase := p } after)⟩
  | follow {i w after res} (hc : t.calls[i]? = some (Call.working w after))
    (hp : w.phase = .ended res) :
    Shift t (.step i) ⟨t.hub, t.calls.set i (Call.follow res after)⟩
  | drop {i id e} (hc : t.calls[i]? = some (Call.dropping id e)) :
    Shift t (.step i) ⟨t.hub.unregister id, t.calls.set i (.ended (.error e))⟩
  | retire {i id} (hc : t.calls[i]? = some (Call.retiring id)) :
    Shift t (.step i) ⟨t.hub.retire id, t.calls.set i (.leaving id)⟩
  | leave {i id} (hc : t.calls[i]? = some (Call.leaving id)) :
    Shift t (.step i) ⟨t.hub.unregister id, t.calls.set i (.ended (.ok .done))⟩

/-- All calls come from offered commands. -/
def Offered (t : Traffic) : Prop := ∀ (i : Nat) (c : Call), t.calls[i]? = some c → c.offered = true

theorem offered_set {t : Traffic} (ho : t.Offered) {i : Nat} {c c' : Call} {h : Hub}
    (hc : t.calls[i]? = some c) (hc' : c'.offered = true) :
    Offered ⟨h, t.calls.set i c'⟩ := by
  intro j d hd
  simp only [getElem?_set_call hc] at hd
  split at hd
  · cases hd; exact hc'
  · exact ho j d hd

theorem shift_of_step {t : Traffic} {i : Nat} {c c' : Call} {h' : Hub} (ho : t.Offered)
    (hc : t.calls[i]? = some c) (hs : c.step? t.hub = some (h', c')) :
    t.Shift (.step i) ⟨h', t.calls.set i c'⟩ ∧ Offered ⟨h', t.calls.set i c'⟩ := by
  cases Call.move_of_step? (ho i c hc) hs with
  | aside hl hl' hof => exact ⟨.aside (alike_set hc hl hl' _), offered_set ho hc hof⟩
  | register hr =>
    obtain ⟨hk, hn, rfl, rfl⟩ := Hub.register?_eq_some hr
    exact ⟨.register hc hk hn, offered_set ho hc rfl⟩
  | seek hr hj => exact ⟨.seek hc hr hj, offered_set ho hc rfl⟩
  | work hw =>
    obtain ⟨r, hr, ht⟩ := Work.turn_of_step? hw
    exact ⟨.work hc hr ht, offered_set ho hc rfl⟩
  | @follow w after res hp =>
    refine ⟨.follow hc hp, offered_set ho hc ?_⟩
    cases after <;> cases res <;> rfl
  | drop => exact ⟨.drop hc, offered_set ho hc rfl⟩
  | retire => exact ⟨.retire hc, offered_set ho hc rfl⟩
  | leave => exact ⟨.leave hc, offered_set ho hc rfl⟩

theorem shift_of_answer {t : Traffic} {i : Nat} {a : Answer} {c c' : Call} (ho : t.Offered)
    (hc : t.calls[i]? = some c) (hq : c.request?.isSome = true)
    (hs : c.answered? t.hub a = some c') :
    t.Shift (.answer i a) ⟨t.hub, t.calls.set i c'⟩ ∧ Offered ⟨t.hub, t.calls.set i c'⟩ := by
  cases Call.reply_of_answered? hq hs with
  | aside hl hl' hof => exact ⟨.aside (alike_set hc hl hl' _), offered_set ho hc hof⟩
  | heard hw =>
    obtain ⟨r, p, hr, hh, rfl⟩ := Work.heard_of_answered? hw
    exact ⟨.heard hc hr hh, offered_set ho hc rfl⟩

theorem shift_of_next? {t t' : Traffic} {e : Event} (ho : t.Offered) (hn : t.next? e = some t') :
    t.Shift e t' ∧ t'.Offered := by
  cases e with
  | ask c =>
    simp only [next?] at hn
    split at hn
    · next hc =>
      cases hn
      refine ⟨.aside (alike_ask t c), fun i d hd => ?_⟩
      simp only [List.getElem?_append] at hd
      split at hd
      · exact ho i d hd
      · have hm := List.mem_of_getElem? hd
        simp only [List.mem_singleton] at hm
        exact hm ▸ hc
    · cases hn
  | step i =>
    simp only [next?] at hn
    split at hn
    · cases hn
    · next c hc =>
      obtain ⟨⟨h', c'⟩, hs, he⟩ := Option.map_eq_some_iff.1 hn
      cases he
      exact shift_of_step ho hc hs
  | answer i a =>
    simp only [next?] at hn
    split at hn
    · cases hn
    · next c hc =>
      split at hn
      · next hq =>
        obtain ⟨c', hs, he⟩ := Option.map_eq_some_iff.1 hn
        cases he
        exact shift_of_answer ho hc hq hs
      · cases hn
  | shared p =>
    cases hn
    exact ⟨.aside ⟨⟨p, rfl⟩, fun _ _ _ => Iff.rfl⟩, ho⟩

/-! ## Runs -/

theorem run?_append (t : Traffic) (es fs : List Event) :
    run? t (es ++ fs) = (run? t es).bind fun t => run? t fs := by
  induction es generalizing t with
  | nil => rfl
  | cons e es ih =>
    simp only [List.cons_append, run?]
    cases t.next? e with
    | none => rfl
    | some t => simp [ih]

theorem run?_cons {t t' : Traffic} {e : Event} {es : List Event} (hr : run? t (e :: es) = some t') :
    ∃ u, t.next? e = some u ∧ run? u es = some t' := Option.bind_eq_some_iff.1 hr

theorem reachable_unused {h : Hub} (hu : h.Unused) : Reachable ⟨h, []⟩ := ⟨h, [], hu, rfl⟩

theorem reachable_run {t t' : Traffic} {es : List Event} (ht : t.Reachable)
    (hr : run? t es = some t') : t'.Reachable := by
  obtain ⟨h, ds, hu, hd⟩ := ht
  exact ⟨h, ds ++ es, hu, by rw [run?_append, hd]; exact hr⟩

theorem reachable_next {t t' : Traffic} {e : Event} (ht : t.Reachable)
    (hn : t.next? e = some t') : t'.Reachable :=
  reachable_run ht (show run? t [e] = some t' by simp [run?, hn])

theorem offered_run {t t' : Traffic} {es : List Event} (ho : t.Offered)
    (hr : run? t es = some t') : t'.Offered := by
  induction es generalizing t with
  | nil => cases hr; exact ho
  | cons e es ih =>
    obtain ⟨u, hu, hr⟩ := run?_cons hr
    exact ih (shift_of_next? ho hu).2 hr

theorem offered_of_reachable {t : Traffic} (ht : t.Reachable) : t.Offered := by
  obtain ⟨h, es, -, hr⟩ := ht
  exact offered_run (by intro i c hc; cases hc) hr

theorem shift_of_reachable {t t' : Traffic} {e : Event} (ht : t.Reachable)
    (hn : t.next? e = some t') : t.Shift e t' := (shift_of_next? (offered_of_reachable ht) hn).1

/-- What holds of the traffic, and is kept by every event, holds after every run. -/
theorem run_induct {P : Traffic → Prop}
    (step : ∀ t t' e, t.Reachable → P t → t.Shift e t' → P t') {t u : Traffic} {es : List Event}
    (ht : t.Reachable) (hp : P t) (hr : run? t es = some u) : P u := by
  induction es generalizing t with
  | nil => cases hr; exact hp
  | cons e es ih =>
    obtain ⟨v, hv, hr⟩ := run?_cons hr
    exact ih (reachable_next ht hv) (step t v e ht hp (shift_of_reachable ht hv)) hr

/-- What holds of an unused hub, and is kept by every event, holds of all that the traffic
can come to. -/
theorem reachable_induct {P : Traffic → Prop} (base : ∀ h : Hub, h.Unused → P ⟨h, []⟩)
    (step : ∀ t t' e, t.Reachable → P t → t.Shift e t' → P t') {t : Traffic} (ht : t.Reachable) :
    P t := by
  obtain ⟨h, es, hu, hr⟩ := ht
  exact run_induct step (reachable_unused hu) (base h hu) hr

end Traffic

end KernelHub
