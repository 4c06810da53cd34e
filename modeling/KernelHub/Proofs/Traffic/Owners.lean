import KernelHub.Proofs.Traffic.Guards

/-
Which record an id stands for. Several records can have one id over time, each left
behind by a start that failed; at most one of them is open, and the registry knows that
one until its id is retired.
-/

namespace KernelHub

namespace Traffic

variable {t t' : Traffic}

/-- Is a kernel bound to the record, or may a start still bind one? -/
def Open (t : Traffic) (p : Nat) : Prop :=
  (∃ r b, t.hub.record? p = some r ∧ r.binding = some b) ∨
    ∃ (i : Nat) (w : Work) (id : KernelId),
      t.calls[i]? = some (.working w (.started id)) ∧ w.place = p

/-- A call that goes on without touching a record opens none. -/
theorem open_set {i : Nat} {c c' : Call} {h' : Hub} {p : Nat} (hc : t.calls[i]? = some c)
    (hrec : h'.records = t.hub.records)
    (hst : ∀ w id, c' = .working w (.started id) →
      ∃ v, c = .working v (.started id) ∧ v.place = w.place)
    (ho : Open ⟨h', t.calls.set i c'⟩ p) : t.Open p := by
  rcases ho with ⟨r, b, hr, hb⟩ | ⟨j, w, id, hw, hp⟩
  · exact .inl ⟨r, b, by simpa only [Hub.record?, hrec] using hr, hb⟩
  · rcases of_set_call hc hw with ⟨rfl, he⟩ | ⟨-, hw⟩
    · obtain ⟨v, rfl, hv⟩ := hst w id he
      exact .inr ⟨i, v, id, hc, hv.trans hp⟩
    · exact .inr ⟨j, w, id, hw, hp⟩

theorem starts_of_suits {id x : KernelId} {job : Job} (hs : Call.Suits id job (.started x)) :
    job.Starts ∧ x = id := by
  cases hs with
  | start => exact ⟨⟨_, rfl⟩, rfl⟩

theorem started_of_starts {id : KernelId} {job : Job} {after : Call.After}
    (hs : Call.Suits id job after) (hj : job.Starts) : after = .started id := by
  obtain ⟨o, rfl⟩ := hj
  cases hs with
  | start => rfl
  | other _ hn => exact absurd rfl (hn o)

theorem open_work {i : Nat} {w w' : Work} {after : Call.After} {r : Record} {h' : Hub} {p : Nat}
    (hpl : t.Placed) (hc : t.calls[i]? = some (.working w after))
    (hr : t.hub.record? w.place = some r) (ht : w.Turn t.hub r h' w')
    (ho : Open ⟨h', t.calls.set i (.working w' after)⟩ p) : t.Open p := by
  have hf := Work.frame_turn hr ht
  rcases ho with ⟨q, b, hq, hb⟩ | ⟨j, v, id, hv, hp⟩
  · by_cases hp : p = w.place
    · subst hp
      have hbt := Work.binding_turn hr ht hq
      cases hph : w.phase <;> rw [hph] at hbt
      case binding c =>
        -- The start binds, which held the record open before.
        obtain ⟨r₀, hr₀, hsu, hty⟩ := hpl.working i w after hc
        rw [hph] at hty
        have ha := started_of_starts hsu hty
        subst ha
        exact .inr ⟨i, w, r₀.id, hc, rfl⟩
      case unbinding => cases hbt.symm.trans hb
      all_goals exact .inl ⟨r, b, hr, hbt.symm.trans hb⟩
    · exact .inl ⟨q, b, by rw [← hf.others p hp]; exact hq, hb⟩
  · rcases of_set_call hc hv with ⟨rfl, he⟩ | ⟨-, hv⟩
    · cases he
      exact .inr ⟨i, w, id, hc, hf.place.symm.trans hp⟩
    · exact .inr ⟨j, v, id, hv, hp⟩

/-- What holds a record open after an event held it open before, unless the record is new. -/
theorem open_shift {e : Event} (hs : t.Shift e t') (hpl : t.Placed) {p : Nat} {r : Record}
    (hr : t.hub.record? p = some r) (ho : t'.Open p) : t.Open p := by
  cases hs with
  | aside ha =>
    obtain ⟨m, hm⟩ := ha.hub
    rcases ho with ⟨q, b, hq, hb⟩ | ⟨j, w, id, hw, hp⟩
    · exact .inl ⟨q, b, by rw [hm] at hq; exact hq, hb⟩
    · exact .inr ⟨j, w, id, (ha.calls j _ rfl).1 hw, hp⟩
  | register hc =>
    have hne := Nat.ne_of_lt (Hub.lt_length_of_record? hr)
    rcases ho with ⟨q, b, hq, hb⟩ | ⟨j, w, id, hw, hp⟩
    · exact .inl ⟨q, b, by rwa [Hub.record?_enroll, if_neg hne] at hq, hb⟩
    · rcases of_set_call hc hw with ⟨-, he⟩ | ⟨-, hw⟩
      · cases he
        exact absurd hp.symm hne
      · exact .inr ⟨j, w, id, hw, hp⟩
  | @seek i id job place hc _ hj =>
    refine open_set hc rfl (fun w id he => ?_) ho
    cases job <;> cases he
  | work hc hr ht => exact open_work hpl hc hr ht ho
  | @heard i w after _ _ _ hc =>
    refine open_set hc rfl (fun v id he => ?_) ho
    cases he
    exact ⟨w, rfl, rfl⟩
  | @follow i w after res hc hph =>
    refine open_set hc rfl (fun v id he => ?_) ho
    cases after <;> cases res <;> cases he
  | drop hc | retire hc | leave hc => exact open_set hc rfl (fun v id he => by cases he) ho

/-- Which records are open, and who knows them. -/
structure Owned (t : Traffic) : Prop where
  owned : ∀ (p : Nat) (r : Record), t.hub.record? p = some r → t.Open p →
    Table.find? r.id t.hub.registry = some p ∨ r.id ∈ t.hub.retired
  single : ∀ (p q : Nat) (r s : Record), t.hub.record? p = some r → t.hub.record? q = some s →
    r.id = s.id → t.Open p → t.Open q → p = q
  dropped : ∀ (i : Nat) (id : KernelId) (e : KernelError) (p : Nat) (r : Record),
    t.calls[i]? = some (.dropping id e) → t.hub.record? p = some r → r.id = id → ¬ t.Open p

/-- An event that adds no record. The registry may lose an id that no open record has, or one
that is retired. -/
theorem owned_quiet {e : Event} (hs : t.Shift e t') (hpl : t.Placed) (hp : t.Owned)
    (hlen : t'.hub.records.length = t.hub.records.length)
    (hreg : ∀ p r, t.hub.record? p = some r → t.Open p →
      Table.find? r.id t'.hub.registry = Table.find? r.id t.hub.registry ∨
        r.id ∈ t'.hub.retired)
    (hret : ∀ id ∈ t.hub.retired, id ∈ t'.hub.retired)
    (hdrop : ∀ (i : Nat) (id : KernelId) (e : KernelError) (p : Nat) (r : Record),
      t'.calls[i]? = some (.dropping id e) → t.calls[i]? = some (.dropping id e) ∨
        (t.hub.record? p = some r → r.id = id → ¬ t'.Open p)) : t'.Owned := by
  have hback {p : Nat} {r' : Record} (hr' : t'.hub.record? p = some r') :
      ∃ r, t.hub.record? p = some r ∧ r'.id = r.id := by
    have hlt := Hub.lt_length_of_record? hr'
    have hr : t.hub.record? p = some t.hub.records[p] := List.getElem?_eq_getElem (hlen ▸ hlt)
    obtain ⟨s, hs, hid, -⟩ := record?_shift hs hr
    cases hr'.symm.trans hs
    exact ⟨_, hr, hid⟩
  refine ⟨fun p r' hr' ho => ?_, fun p q r' s' hr' hs' hid hop hoq => ?_,
    fun i id e p r' hc hr' hid ho => ?_⟩
  · obtain ⟨r, hr, hid⟩ := hback hr'
    have ho := open_shift hs hpl hr ho
    rw [hid]
    rcases hreg p r hr ho with hk | hk
    · rw [hk]
      exact (hp.owned p r hr ho).imp_right (hret _)
    · exact .inr hk
  · obtain ⟨r, hr, hidr⟩ := hback hr'
    obtain ⟨s, hsr, hids⟩ := hback hs'
    exact hp.single p q r s hr hsr (hidr.symm.trans (hid.trans hids))
      (open_shift hs hpl hr hop) (open_shift hs hpl hsr hoq)
  · obtain ⟨r, hr, hidr⟩ := hback hr'
    rcases hdrop i id e p r hc with hc | hn
    · exact hp.dropped i id e p r hc hr (hidr.symm.trans hid) (open_shift hs hpl hr ho)
    · exact hn hr (hidr.symm.trans hid) ho

/-- A new record is the only open one of its id: another would have kept the id held. -/
theorem owned_register {i : Nat} {c : Call} {name : String} {o : StartOptions} {id : KernelId}
    {u : Traffic} (hcl : t.Claimed) (hp : t.Owned) (hc : t.calls[i]? = some c)
    (hk : Table.contains id t.hub.registry = false) (hn : id ∉ t.hub.retired)
    (hu : u = ⟨t.hub.enroll id name, t.calls.set i
      (.working { job := .start o, place := t.hub.records.length } (.started id))⟩)
    (hopen : ∀ p r, t.hub.record? p = some r → u.Open p → t.Open p) : u.Owned := by
  have hfree : ¬ t.hub.Held id := fun hh => hh.elim (by simp [hk]) hn
  -- A record of after is new, or as it was.
  have hback {p : Nat} {r : Record} (hr : u.hub.record? p = some r) :
      (p = t.hub.records.length ∧ r.id = id) ∨ t.hub.record? p = some r := by
    subst hu
    rw [Hub.record?_enroll] at hr
    split at hr
    · next hp => cases hr; exact .inl ⟨hp, rfl⟩
    · exact .inr hr
  have hold {p : Nat} {r : Record} (hr : t.hub.record? p = some r) (ho : u.Open p) :
      r.id ≠ id := by
    rintro rfl
    rcases hp.owned p r hr (hopen p r hr ho) with hf | hf
    · exact hfree (.inl (Table.contains_of_find? hf))
    · exact hfree (.inr hf)
  refine ⟨fun p r hr ho => ?_, fun p q r s hr hs hid hop hoq => ?_, fun j x e p r hd hr hx ho => ?_⟩
  · rcases hback hr with ⟨rfl, rfl⟩ | hr₀
    · subst hu
      exact .inl (Table.find?_set_self _ _ _)
    · have hne := hold hr₀ ho
      have hown := hp.owned p r hr₀ (hopen p r hr₀ ho)
      subst hu
      exact hown.imp_left fun hf =>
        (Table.find?_set_of_ne hne _ _).trans hf
  · rcases hback hr with ⟨rfl, hrid⟩ | hr <;> rcases hback hs with ⟨rfl, hsid⟩ | hs
    · rfl
    · exact absurd (hid.symm.trans hrid) (hold hs hoq)
    · exact absurd (hid.trans hsid) (hold hr hop)
    · exact hp.single p q r s hr hs hid (hopen p r hr hop) (hopen q s hs hoq)
  · have hd' : t.calls[j]? = some (.dropping x e) := by
      subst hu
      rcases of_set_call hc hd with ⟨-, he⟩ | ⟨-, hd⟩
      · cases he
      · exact hd
    rcases hback hr with ⟨-, rfl⟩ | hr
    · exact hfree (hx ▸ hcl.held j _ x hd' rfl)
    · exact hp.dropped j x e p r hd' hr hx (hopen p r hr ho)

/-- What is left when a start has failed: no record of the id is open. -/
theorem not_open_of_failed {i : Nat} {w : Work} {id : KernelId} {e e' : KernelError} {p : Nat}
    {r : Record} (hpl : t.Placed) (hcl : t.Claimed) (hg : t.Guarded) (hp : t.Owned)
    (hc : t.calls[i]? = some (.working w (.started id))) (hph : w.phase = .ended (.error e))
    (hr : t.hub.record? p = some r) (hid : r.id = id) :
    ¬ Open ⟨t.hub, t.calls.set i (.dropping id e')⟩ p := by
  obtain ⟨s, hs, hsu, hty⟩ := hpl.working i w _ hc
  obtain ⟨hj, rfl⟩ := starts_of_suits hsu
  have hfit := hg.fits i w _ s hc hs
  rw [hph] at hfit
  intro ho
  have hsub : t.Open p := open_set hc rfl (fun v x he => by cases he) ho
  obtain rfl := hp.single p w.place r s hr hs hid hsub (.inr ⟨i, w, _, hc, rfl⟩)
  rcases ho with ⟨q, b, hq, hb⟩ | ⟨j, v, x, hv, hpv⟩
  · cases hs.symm.trans hq
    cases (hfit hj ⟨e, rfl⟩).symm.trans hb
  · rcases of_set_call hc hv with ⟨-, he⟩ | ⟨hij, hv⟩
    · cases he
    · obtain ⟨q, hq, hsv, -⟩ := hpl.working j v _ hv
      exact hij (start_unique hpl hcl hc hv hpv.symm hj (starts_of_suits hsv).1)

theorem owned_shift {e : Event} (hs : t.Shift e t') (hpl : t.Placed) (hcl : t.Claimed)
    (hg : t.Guarded) (hp : t.Owned) : t'.Owned := by
  have hs' := hs
  cases hs with
  | aside ha =>
    obtain ⟨m, hm⟩ := ha.hub
    exact owned_quiet hs' hpl hp (by rw [hm]) (fun p r _ _ => .inl (by rw [hm]))
      (fun id hid => by rw [hm]; exact hid) fun i id e p r hc => .inl ((ha.calls i _ rfl).1 hc)
  | register hc hk hn =>
    exact owned_register hcl hp hc hk hn rfl fun p r hr ho => open_shift hs' hpl hr ho
  | seek hc =>
    refine owned_quiet hs' hpl hp rfl (fun p r _ _ => .inl rfl) (fun id hid => hid)
      fun j id e p r hd => ?_
    rcases of_set_call hc hd with ⟨-, he⟩ | ⟨-, hd⟩
    · cases he
    · exact .inl hd
  | work hc hr ht =>
    have hf := Work.frame_turn hr ht
    have hlen := Work.length_turn ht
    refine owned_quiet hs' hpl hp hlen (fun p r _ _ => .inl (by rw [hf.registry]))
      (fun id hid => by rw [hf.retired]; exact hid) fun j id e p r hd => ?_
    rcases of_set_call hc hd with ⟨-, he⟩ | ⟨-, hd⟩
    · cases he
    · exact .inl hd
  | heard hc =>
    refine owned_quiet hs' hpl hp rfl (fun p r _ _ => .inl rfl) (fun id hid => hid)
      fun j id e p r hd => ?_
    rcases of_set_call hc hd with ⟨-, he⟩ | ⟨-, hd⟩
    · cases he
    · exact .inl hd
  | @follow i w after res hc hph =>
    refine owned_quiet hs' hpl hp rfl (fun p r _ _ => .inl rfl) (fun id hid => hid)
      fun j id e p r hd => ?_
    rcases of_set_call hc hd with ⟨rfl, he⟩ | ⟨-, hd⟩
    · cases after <;> cases res <;> cases he
      exact .inr fun hr hid => not_open_of_failed hpl hcl hg hp hc hph hr hid
    · exact .inl hd
  | @drop i id e hc =>
    refine owned_quiet hs' hpl hp rfl (fun p r hr ho => .inl ?_) (fun id hid => hid)
      fun j id e p r hd => ?_
    · have hne : r.id ≠ id := fun hid => hp.dropped i id e p r hc hr hid ho
      exact Table.find?_erase_of_ne hne _
    · rcases of_set_call hc hd with ⟨-, he⟩ | ⟨-, hd⟩
      · cases he
      · exact .inl hd
  | @retire i id hc =>
    refine owned_quiet hs' hpl hp rfl (fun p r _ _ => .inl rfl) (fun x hx => ?_)
      fun j id e p r hd => ?_
    · exact Hub.mem_retire hx
    · rcases of_set_call hc hd with ⟨-, he⟩ | ⟨-, hd⟩
      · cases he
      · exact .inl hd
  | @leave i id hc =>
    refine owned_quiet hs' hpl hp rfl (fun p r hr ho => ?_) (fun id hid => hid)
      fun j id e p r hd => ?_
    · by_cases hid : r.id = id
      · exact .inr (hid ▸ hcl.leaving i id hc)
      · exact .inl (Table.find?_erase_of_ne hid _)
    · rcases of_set_call hc hd with ⟨-, he⟩ | ⟨-, hd⟩
      · cases he
      · exact .inl hd

theorem owned_of_reachable (ht : t.Reachable) : t.Owned := by
  refine reachable_induct (fun h hu => ?_) (fun t t' e ht hp hs =>
    owned_shift hs (placed_of_reachable ht) (claimed_of_reachable ht) (guarded_of_reachable ht) hp)
    ht
  have hnone (p : Nat) : h.record? p = none := by simp [Hub.record?, hu.records]
  exact ⟨fun p r hr => by simp [hnone] at hr, fun p q r s hr => by simp [hnone] at hr,
    fun i id e p r hc => by cases hc⟩

end Traffic

end KernelHub
