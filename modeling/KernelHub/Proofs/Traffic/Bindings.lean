import KernelHub.Proofs.Traffic.Owners

/-
The id map and the records' bindings. The two are written one after the other, by the
call inside the record's guard; between the two writes that call accounts for the
difference. What is bound was bound by a start that went well.
-/

namespace KernelHub

namespace Work

variable {h h' : Hub} {w w' : Work} {r : Record}

/-- Is the id map ahead of the record in this phase? -/
def Phase.writing : Phase → Bool
  | .binding _ => true
  | .unbinding => true
  | _ => false

/-- Are the id map and the record being changed, one after the other? -/
def Phase.changing : Phase → Bool
  | .mapping _ => true
  | .unmapping => true
  | p => p.writing

/-- The id map after a turn that is taken in this phase, on a record with this id. -/
def Phase.remap (id : KernelId) : Phase → Table KernelId Binding → Table KernelId Binding
  | .mapping b, m => Table.set id b m
  | .unmapping, m => Table.erase id m
  | _, m => m

theorem remap_turn (ht : w.Turn h r h' w') : h'.idMap = w.phase.remap r.id h.idMap := by
  cases ht with
  | @enter s p hp he => rw [hp]; cases s <;> rfl
  | take hp | map hp | bind hp | unmap hp | unbind hp | settle hp | release hp => rw [hp]; rfl

theorem inside_of_changing {p : Phase} (hp : p.changing = true) : p.inside = true := by
  cases p <;> first | rfl | cases hp

theorem remap_of_not_changing {p : Phase} (hp : p.changing = false) (id : KernelId)
    (m : Table KernelId Binding) : p.remap id m = m := by
  cases p <;> first | rfl | cases hp

theorem rebind_of_not_changing {p : Phase} (hp : p.changing = false) (b : Option Binding) :
    p.rebind b = b := by
  cases p <;> first | rfl | cases hp

/-- An entry after a turn was written by it, or was there and is not erased. -/
theorem find?_remap {p : Phase} {id x : KernelId} {m : Table KernelId Binding} {b : Binding}
    (hf : Table.find? x (p.remap id m) = some b) :
    (p = .mapping b ∧ x = id) ∨ Table.find? x m = some b := by
  cases p with
  | mapping c =>
    simp only [Phase.remap, Table.find?_set] at hf
    split at hf
    · next hx => cases hf; exact .inl ⟨rfl, hx⟩
    · exact .inr hf
  | unmapping =>
    simp only [Phase.remap, Table.find?_erase] at hf
    split at hf
    · cases hf
    · exact .inr hf
  | _ => exact .inr hf

theorem nodup_remap {m : Table KernelId Binding} (hm : (Table.keys m).Nodup) (id : KernelId)
    (p : Phase) : (Table.keys (p.remap id m)).Nodup := by
  cases p with
  | mapping b => exact Table.nodup_set hm id b
  | unmapping => exact Table.nodup_erase hm id
  | _ => exact hm

theorem writing_enter {job s p} (he : Entry h r job s p) : p.writing = false := by
  cases he <;> rfl

theorem writing_turn (ht : w.Turn h r h' w') :
    (∀ b, w'.phase = .binding b → w.phase = .mapping b) ∧
      (w'.phase = .unbinding → w.phase = .unmapping) := by
  cases ht with
  | @enter s p hp he =>
    have hn := writing_enter he
    refine ⟨fun b hb => ?_, fun hb => ?_⟩
    · rw [show p = .binding b from hb] at hn
      cases hn
    · rw [show p = .unbinding from hb] at hn
      cases hn
  | map hp => exact ⟨fun b hb => by cases hb; exact hp, nofun⟩
  | unmap hp => exact ⟨nofun, fun _ => hp⟩
  | take | bind | unbind | settle | release => exact ⟨nofun, nofun⟩

theorem binding_of_mapping {b : Binding} (ht : w.Turn h r h' w') (hp : w.phase = .mapping b) :
    w'.phase = .binding b := by
  cases ht with
  | map hp' => rw [hp] at hp'; cases hp'; rfl
  | take hp' | enter hp' | bind hp' | unmap hp' | unbind hp' | settle hp' | release hp' =>
    rw [hp] at hp'
    cases hp'

theorem unbinding_of_unmapping (ht : w.Turn h r h' w') (hp : w.phase = .unmapping) :
    w'.phase = .unbinding := by
  cases ht with
  | unmap => rfl
  | take hp' | enter hp' | map hp' | bind hp' | unbind hp' | settle hp' | release hp' =>
    rw [hp] at hp'
    cases hp'

theorem writing_heard {job p p'} (hh : Heard r job p p') :
    p.writing = false ∧ p'.writing = false := by
  cases hh with
  | @crashed job p hp => cases p <;> first | exact ⟨rfl, rfl⟩ | cases hp
  | _ => exact ⟨rfl, rfl⟩

end Work

namespace Traffic

variable {t t' : Traffic}

/-- How the id map and the bindings agree. -/
structure Mapped (t : Traffic) : Prop where
  mapped : ∀ id b, Table.find? id t.hub.idMap = some b →
    ∃ p r, t.hub.record? p = some r ∧ r.id = id ∧
      (r.binding = some b ∨ ∃ (i : Nat) (w : Work),
        t.calls[i]? = some (.working w (.started id)) ∧ w.place = p ∧ w.phase = .binding b)
  bound : ∀ p r b, t.hub.record? p = some r → r.binding = some b →
    Table.find? r.id t.hub.idMap = some b ∨ ∃ (i : Nat) (w : Work) (a : Call.After),
      t.calls[i]? = some (.working w a) ∧ w.place = p ∧ w.phase = .unbinding
  binding : ∀ (i : Nat) (w : Work) (a : Call.After) (r : Record) (b : Binding),
    t.calls[i]? = some (.working w a) → t.hub.record? w.place = some r → w.phase = .binding b →
      Table.find? r.id t.hub.idMap = some b
  unbinding : ∀ (i : Nat) (w : Work) (a : Call.After) (r : Record),
    t.calls[i]? = some (.working w a) → t.hub.record? w.place = some r → w.phase = .unbinding →
      Table.find? r.id t.hub.idMap = none

/-- An event that writes neither the id map nor a binding. -/
theorem mapped_quiet (hp : t.Mapped) (hmap : t'.hub.idMap = t.hub.idMap)
    (hkeep : ∀ p r, t.hub.record? p = some r →
      ∃ r', t'.hub.record? p = some r' ∧ r'.id = r.id ∧ r'.binding = r.binding)
    (hback : ∀ p r' b, t'.hub.record? p = some r' → r'.binding = some b →
      ∃ r, t.hub.record? p = some r)
    (hplace : ∀ (i : Nat) (w : Work) (a : Call.After), t.calls[i]? = some (.working w a) →
      ∃ r, t.hub.record? w.place = some r)
    (hcall : ∀ (i : Nat) (w : Work) (a : Call.After), w.phase.writing = true →
      (t'.calls[i]? = some (.working w a) ↔ t.calls[i]? = some (.working w a))) : t'.Mapped := by
  have hold {i : Nat} {w : Work} {a : Call.After} {r' : Record}
      (hw : t'.calls[i]? = some (.working w a)) (hr' : t'.hub.record? w.place = some r')
      (hph : w.phase.writing = true) : t.calls[i]? = some (.working w a) ∧
        ∃ r, t.hub.record? w.place = some r ∧ r'.id = r.id := by
    have hw := (hcall i w a hph).1 hw
    obtain ⟨r, hr⟩ := hplace i w a hw
    obtain ⟨s, hs, hid, -⟩ := hkeep w.place r hr
    cases hr'.symm.trans hs
    exact ⟨hw, r, hr, hid⟩
  refine ⟨fun id b hf => ?_, fun p r' b hr' hb => ?_, fun i w a r' b hw hr' hph => ?_,
    fun i w a r' hw hr' hph => ?_⟩
  · rw [hmap] at hf
    obtain ⟨p, r, hr, hid, hor⟩ := hp.mapped id b hf
    obtain ⟨r', hr', hid', hb'⟩ := hkeep p r hr
    refine ⟨p, r', hr', hid'.trans hid, ?_⟩
    rcases hor with hb | ⟨i, w, hw, hpl, hph⟩
    · exact .inl (hb'.trans hb)
    · exact .inr ⟨i, w, (hcall i w _ (by rw [hph]; rfl)).2 hw, hpl, hph⟩
  · obtain ⟨r, hr⟩ := hback p r' b hr' hb
    obtain ⟨s, hs, hid, hbs⟩ := hkeep p r hr
    cases hr'.symm.trans hs
    rw [hmap, hid]
    rcases hp.bound p r b hr (hbs.symm.trans hb) with hf | ⟨i, w, a, hw, hpl, hph⟩
    · exact .inl hf
    · exact .inr ⟨i, w, a, (hcall i w a (by rw [hph]; rfl)).2 hw, hpl, hph⟩
  · obtain ⟨hw, r, hr, hid⟩ := hold hw hr' (by rw [hph]; rfl)
    rw [hmap, hid]
    exact hp.binding i w a r b hw hr hph
  · obtain ⟨hw, r, hr, hid⟩ := hold hw hr' (by rw [hph]; rfl)
    rw [hmap, hid]
    exact hp.unbinding i w a r hw hr hph

/-- Work that changes a binding holds its record open. -/
theorem open_of_changing {i : Nat} {w : Work} {a : Call.After} {r : Record} (hpl : t.Placed)
    (hg : t.Guarded) (hc : t.calls[i]? = some (.working w a))
    (hr : t.hub.record? w.place = some r) (hch : w.phase.changing = true) : t.Open w.place := by
  obtain ⟨hsu, hty⟩ := hpl.suits hc hr
  have hfit := hg.fits i w a r hc hr
  cases hph : w.phase <;> rw [hph] at hty hfit hch
  case mapping | binding =>
    have ha := started_of_starts hsu hty
    subst ha
    exact .inr ⟨i, w, _, hc, rfl⟩
  case unmapping | unbinding =>
    obtain ⟨b, hb⟩ := hfit
    exact .inl ⟨r, b, hr, hb⟩
  all_goals cases hch

/-- A turn of work on one record leaves the entry of every other open record: two open ones
do not share an id. -/
theorem find?_turn {i : Nat} {w : Work} {a : Call.After} {r s : Record} {q : Nat}
    (hpl : t.Placed) (hg : t.Guarded) (ho : t.Owned) (hc : t.calls[i]? = some (.working w a))
    (hr : t.hub.record? w.place = some r) (hs : t.hub.record? q = some s) (hq : t.Open q)
    (hne : q ≠ w.place) :
    Table.find? s.id (w.phase.remap r.id t.hub.idMap) = Table.find? s.id t.hub.idMap := by
  cases hch : w.phase.changing with
  | true =>
    have hid : s.id ≠ r.id := fun hid =>
      hne (ho.single q w.place s r hs hr hid hq (open_of_changing hpl hg hc hr hch))
    cases w.phase
    case mapping => exact Table.find?_set_of_ne hid _ _
    case unmapping => exact Table.find?_erase_of_ne hid _
    all_goals rfl
  | false => rw [Work.remap_of_not_changing hch]

/-- What another call that changes a binding knows of its entry is still so after the turn. -/
theorem find?_changing {i j : Nat} {w w' v : Work} {a b : Call.After} {r s : Record} {h' : Hub}
    {o : Option Binding} (hpl : t.Placed) (hg : t.Guarded) (ho : t.Owned)
    (hc : t.calls[i]? = some (.working w a)) (hr : t.hub.record? w.place = some r)
    (ht : w.Turn t.hub r h' w') (hij : i ≠ j) (hv : t.calls[j]? = some (.working v b))
    (hs : h'.record? v.place = some s) (hch : v.phase.changing = true)
    (hold : ∀ s₀, t.hub.record? v.place = some s₀ → Table.find? s₀.id t.hub.idMap = o) :
    Table.find? s.id h'.idMap = o := by
  have hpv : v.place ≠ w.place := fun hpv =>
    hij (alone_of_turn hg hc hr ht hv hpv (Work.inside_of_changing hch))
  rw [(Work.frame_turn hr ht).others _ hpv] at hs
  rw [Work.remap_turn ht, find?_turn hpl hg ho hc hr hs (open_of_changing hpl hg hv hs hch) hpv]
  exact hold s hs

/-- An entry that was there before the turn still has its record. -/
theorem mapped_kept {i : Nat} {w w' : Work} {after : Call.After} {r : Record} {h' : Hub}
    {id : KernelId} {b : Binding} (hg : t.Guarded) (hp : t.Mapped)
    (hc : t.calls[i]? = some (.working w after)) (hr : t.hub.record? w.place = some r)
    (ht : w.Turn t.hub r h' w') (hfd : Table.find? id t.hub.idMap = some b) :
    ∃ p s, h'.record? p = some s ∧ s.id = id ∧
      (s.binding = some b ∨ ∃ (j : Nat) (v : Work),
        (t.calls.set i (.working w' after))[j]? = some (.working v (.started id)) ∧
          v.place = p ∧ v.phase = .binding b) := by
  have hf := Work.frame_turn hr ht
  obtain ⟨r', hr', hid, -⟩ := hf.record
  have hb := Work.binding_turn hr ht hr'
  have hfit := hg.fits i w after r hc hr
  obtain ⟨p, s, hs, hsid, hor⟩ := hp.mapped id b hfd
  by_cases hpw : p = w.place
  · subst hpw
    cases hr.symm.trans hs
    refine ⟨w.place, r', hr', hid.trans hsid, ?_⟩
    rcases hor with hsb | ⟨j, v, hv, hvp, hph⟩
    · cases hph : w.phase <;> rw [hph] at hb hfit
      case binding => cases hfit.1.symm.trans hsb
      case unbinding =>
        rw [← hsid, hp.unbinding i w after r hc hr hph] at hfd
        cases hfd
      all_goals exact .inl (hb.trans hsb)
    · by_cases hij : i = j
      · subst hij
        cases hc.symm.trans hv
        rw [hph] at hb
        exact .inl hb
      · exact .inr ⟨j, v, (List.getElem?_set_ne hij).trans hv, hvp, hph⟩
  · refine ⟨p, s, (hf.others p hpw).trans hs, hsid, hor.imp_right ?_⟩
    rintro ⟨j, v, hv, hvp, hph⟩
    have hij : i ≠ j := by
      rintro rfl
      cases hc.symm.trans hv
      exact hpw hvp.symm
    exact ⟨j, v, (List.getElem?_set_ne hij).trans hv, hvp, hph⟩

/-- A record that is bound after the turn has its entry, or its binding is about to go. -/
theorem bound_kept {i p : Nat} {w w' : Work} {after : Call.After} {r s : Record} {h' : Hub}
    {b : Binding} (hpl : t.Placed) (hg : t.Guarded) (ho : t.Owned) (hp : t.Mapped)
    (hc : t.calls[i]? = some (.working w after)) (hr : t.hub.record? w.place = some r)
    (ht : w.Turn t.hub r h' w') (hs : h'.record? p = some s) (hsb : s.binding = some b) :
    Table.find? s.id h'.idMap = some b ∨ ∃ (j : Nat) (v : Work) (a : Call.After),
      (t.calls.set i (.working w' after))[j]? = some (.working v a) ∧ v.place = p ∧
        v.phase = .unbinding := by
  have hf := Work.frame_turn hr ht
  -- Another call that clears a binding goes on doing so.
  have hother {j : Nat} {v : Work} {a : Call.After} (hij : i ≠ j)
      (hv : t.calls[j]? = some (.working v a)) :
      (t.calls.set i (.working w' after))[j]? = some (.working v a) :=
    (List.getElem?_set_ne hij).trans hv
  by_cases hpw : p = w.place
  · subst hpw
    obtain ⟨r', hr', hid, -⟩ := hf.record
    cases hr'.symm.trans hs
    have hfit := hg.fits i w after r hc hr
    rw [Work.binding_turn hr ht hr'] at hsb
    rw [Work.remap_turn ht, hid]
    cases hch : w.phase.changing with
    | true =>
      cases hph : w.phase <;> rw [hph] at hsb hfit hch
      case binding c =>
        cases hsb
        exact .inl (hp.binding i w after r b hc hr hph)
      case unbinding => cases hsb
      case mapping => cases hfit.1.symm.trans hsb
      case unmapping =>
        exact .inr ⟨i, w', after, set_call_self hc _, hf.place,
          Work.unbinding_of_unmapping ht hph⟩
      all_goals cases hch
    | false =>
      rw [Work.rebind_of_not_changing hch] at hsb
      rw [Work.remap_of_not_changing hch]
      refine (hp.bound w.place r b hr hsb).imp_right fun ⟨j, v, a, hv, hvp, hph⟩ => ?_
      have hij : i ≠ j := by
        rintro rfl
        cases hc.symm.trans hv
        rw [hph] at hch
        cases hch
      exact ⟨j, v, a, hother hij hv, hvp, hph⟩
  · rw [hf.others p hpw] at hs
    rw [Work.remap_turn ht, find?_turn hpl hg ho hc hr hs (.inl ⟨s, b, hs, hsb⟩) hpw]
    refine (hp.bound p s b hs hsb).imp_right fun ⟨j, v, a, hv, hvp, hph⟩ => ?_
    have hij : i ≠ j := by
      rintro rfl
      cases hc.symm.trans hv
      exact hpw hvp.symm
    exact ⟨j, v, a, hother hij hv, hvp, hph⟩

theorem mapped_work {i : Nat} {w w' : Work} {after : Call.After} {r : Record} {h' : Hub}
    (hpl : t.Placed) (hg : t.Guarded) (ho : t.Owned) (hp : t.Mapped)
    (hc : t.calls[i]? = some (.working w after)) (hr : t.hub.record? w.place = some r)
    (ht : w.Turn t.hub r h' w') : Mapped ⟨h', t.calls.set i (.working w' after)⟩ := by
  have hf := Work.frame_turn hr ht
  obtain ⟨r', hr', hid, -⟩ := hf.record
  have hm := Work.remap_turn ht
  obtain ⟨hwb, hwu⟩ := Work.writing_turn ht
  refine ⟨fun id b hfd => ?_, fun p s b hs hsb => bound_kept hpl hg ho hp hc hr ht hs hsb,
    fun j v a s b hv hs hph => ?_, fun j v a s hv hs hph => ?_⟩
  · rw [hm] at hfd
    rcases Work.find?_remap hfd with ⟨hph, rfl⟩ | hfd
    · obtain ⟨hsu, hty⟩ := hpl.suits hc hr
      rw [hph] at hty
      have ha := started_of_starts hsu hty
      subst ha
      exact ⟨w.place, r', hr', hid, .inr ⟨i, w', set_call_self hc _, hf.place,
        Work.binding_of_mapping ht hph⟩⟩
    · exact mapped_kept hg hp hc hr ht hfd
  · rcases of_set_call hc hv with ⟨rfl, he⟩ | ⟨hij, hv⟩
    · cases he
      rw [hf.place, hr'] at hs
      cases hs
      rw [hm, hwb b hph, hid]
      exact Table.find?_set_self _ _ _
    · exact find?_changing hpl hg ho hc hr ht hij hv hs (by rw [hph]; rfl) fun s₀ hs₀ =>
        hp.binding j v a s₀ b hv hs₀ hph
  · rcases of_set_call hc hv with ⟨rfl, he⟩ | ⟨hij, hv⟩
    · cases he
      rw [hf.place, hr'] at hs
      cases hs
      rw [hm, hwu hph, hid]
      exact Table.find?_erase_self _ _
    · exact find?_changing hpl hg ho hc hr ht hij hv hs (by rw [hph]; rfl) fun s₀ hs₀ =>
        hp.unbinding j v a s₀ hv hs₀ hph

/-- A call that goes on without touching a record or the id map, neither of which it was
writing or is to write. -/
theorem mapped_set {i : Nat} {c c' : Call} {h' : Hub} (hpl : t.Placed) (hp : t.Mapped)
    (hc : t.calls[i]? = some c) (hrec : h'.records = t.hub.records)
    (hmap : h'.idMap = t.hub.idMap) (hw : ∀ w a, c = .working w a → w.phase.writing = false)
    (hw' : ∀ w a, c' = .working w a → w.phase.writing = false) :
    Mapped ⟨h', t.calls.set i c'⟩ := by
  have hsame (p : Nat) : h'.record? p = t.hub.record? p := by simp [Hub.record?, hrec]
  refine mapped_quiet hp hmap (fun p r hr => ⟨r, (hsame p).trans hr, rfl, rfl⟩)
    (fun p r b hr _ => ⟨r, (hsame p).symm.trans hr⟩)
    (fun j w a hw => (hpl.working j w a hw).imp fun _ h => h.1) fun j w a hph => ?_
  have hne : c ≠ .working w a := fun he => by simp [hw w a he] at hph
  have hne' : c' ≠ .working w a := fun he => by simp [hw' w a he] at hph
  simp only [getElem?_set_call hc]
  split
  · next hij =>
    subst hij
    simp [hc, hne, hne']
  · rfl

theorem mapped_shift {e : Event} (hs : t.Shift e t') (hpl : t.Placed) (hg : t.Guarded)
    (ho : t.Owned) (hp : t.Mapped) : t'.Mapped := by
  cases hs with
  | aside ha =>
    obtain ⟨m, hm⟩ := ha.hub
    have hsame (p : Nat) : t'.hub.record? p = t.hub.record? p := by rw [hm]; rfl
    exact mapped_quiet hp (by rw [hm]) (fun p r hr => ⟨r, (hsame p).trans hr, rfl, rfl⟩)
      (fun p r b hr _ => ⟨r, (hsame p).symm.trans hr⟩)
      (fun j w a hw => (hpl.working j w a hw).imp fun _ h => h.1) fun j w a _ => ha.calls j _ rfl
  | @register i name options fresh hc =>
    refine mapped_quiet hp rfl (fun p r hr => ?_) (fun p r b hr hb => ?_)
      (fun j w a hw => (hpl.working j w a hw).imp fun _ h => h.1) fun j w a hph => ?_
    · have hne := Nat.ne_of_lt (Hub.lt_length_of_record? hr)
      exact ⟨r, by simp [Hub.record?_enroll, hne, hr], rfl, rfl⟩
    · rw [Hub.record?_enroll] at hr
      split at hr
      · cases hr
        cases hb
      · exact ⟨r, hr⟩
    · simp only [getElem?_set_call hc]
      split
      · next hij =>
        subst hij
        simp only [hc, Option.some.injEq, reduceCtorEq, iff_false, Call.working.injEq, not_and]
        rintro rfl
        cases hph
      · rfl
  | seek hc =>
    exact mapped_set hpl hp hc rfl rfl (fun w a he => by cases he)
      (fun w a he => by cases he; rfl)
  | work hc hr ht => exact mapped_work hpl hg ho hp hc hr ht
  | heard hc hr hh =>
    obtain ⟨hn, hn'⟩ := Work.writing_heard hh
    exact mapped_set hpl hp hc rfl rfl (fun v a he => by cases he; exact hn)
      (fun v a he => by cases he; exact hn')
  | @follow i w after res hc hph =>
    refine mapped_set hpl hp hc rfl rfl (fun v a he => ?_) (fun v a he => ?_)
    · cases he
      rw [hph]
      rfl
    · cases after <;> cases res <;> cases he
  | drop hc | retire hc | leave hc =>
    exact mapped_set hpl hp hc rfl rfl (fun v a he => by cases he) (fun v a he => by cases he)

theorem mapped_of_reachable (ht : t.Reachable) : t.Mapped := by
  refine reachable_induct (fun h hu => ?_) (fun t t' e ht hp hs =>
    mapped_shift hs (placed_of_reachable ht) (guarded_of_reachable ht) (owned_of_reachable ht) hp)
    ht
  refine ⟨fun id b hf => ?_, fun p r b hr => ?_, (fun i w a r b hw => nomatch hw),
    (fun i w a r hw => nomatch hw)⟩
  · rw [hu.idMap] at hf
    cases hf
  · simp [Hub.record?, hu.records] at hr

/-- No id has two entries in the id map. -/
theorem nodup_idMap (ht : t.Reachable) : (Table.keys t.hub.idMap).Nodup := by
  refine reachable_induct (P := fun t => (Table.keys t.hub.idMap).Nodup) (fun h hu => ?_)
    (fun t t' e _ hn hs => ?_) ht
  · rw [hu.idMap]
    exact List.nodup_nil
  · cases hs with
    | aside ha =>
      obtain ⟨p, hp⟩ := ha.hub
      rw [hp]
      exact hn
    | @work i w a r h' w' _ _ ht =>
      rw [Work.remap_turn ht]
      exact Work.nodup_remap hn r.id w.phase
    | _ => exact hn

end Traffic

end KernelHub
