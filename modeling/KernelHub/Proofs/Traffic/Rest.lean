import KernelHub.Proofs.Coherence

/-
Hubs at rest. A record is guarded only while some call is inside; and a registered id whose record
is not bound, or that is retired, has a start or a shutdown that is not over. So when nothing is
under way, each registered id stands for a kernel that is bound, mapped and free for anyone to use.
-/

namespace KernelHub

namespace Work

variable {h h' : Hub} {w w' : Work} {r r' : Record}

/-- Outside the guard a turn leaves its record unguarded. -/
theorem unguarded_turn (hr : h.record? w.place = some r) (ht : w.Turn h r h' w')
    (hr' : h'.record? w.place = some r') (ho : w'.phase.inside = false) : r'.guarded = false := by
  cases ht with
  | release =>
    simp only [Hub.setGuard, Hub.record?_edit_self, hr, Option.map_some, Option.some.injEq] at hr'
    rw [← hr']
  | enter _ he => cases (inside_enter he).symm.trans ho
  | take | map | bind | unmap | unbind | settle => cases ho

/-- A start that has not bound its record does so now, or has still not. -/
theorem not_well_turn (ht : w.Turn h r h' w') (hs : w.job.Starts) (hty : w.phase.Typed r.id w.job)
    (hw : w.phase.well = false) : w'.phase.well = false ∨ ∃ b, w.phase = .binding b := by
  obtain ⟨o, ho⟩ := hs
  cases ht with
  | take | map | unmap => exact .inl rfl
  | @enter s p hp he =>
    rw [ho] at he
    cases he with
    | asked _ _ hq => cases hq
    | _ => exact .inl rfl
  | @bind b hp => exact .inr ⟨b, hp⟩
  | unbind hp =>
    rw [hp, ho] at hty
    obtain ⟨now, hj⟩ := hty
    cases hj
  | @settle s res hp | @release res hp =>
    rw [hp] at hw
    cases res with
    | ok => cases hw
    | error => exact .inl rfl

theorem not_well_heard {o : StartOptions} {p p' : Phase} (hh : Heard r (.start o) p p') :
    p'.well = false := by
  cases hh with
  | _ => rfl

/-- A shutdown that is over on its record stays so. -/
theorem finished_kept (ht : w.Turn h r h' w') (hw : w.phase.finished = true) :
    w'.phase.finished = true := by
  cases ht with
  | unbind => rfl
  | @settle s res hp | @release res hp =>
    rw [hp] at hw
    cases res with
    | ok => rfl
    | error => cases hw
  | take hp | enter hp | map hp | bind hp | unmap hp =>
    rw [hp] at hw
    cases hw

end Work

/-- Is it left to the call to bind the record at the place, or to take the id from the registry? -/
def Call.Tends (id : KernelId) (p : Nat) : Call → Prop
  | .working w (.started x) => x = id ∧ w.place = p ∧ w.phase.well = false
  | .working w (.shutDown x) => x = id ∧ w.phase.finished = true
  | .dropping x _ => x = id
  | .retiring x => x = id
  | .leaving x => x = id
  | _ => False

theorem Call.detached_of_tends {id : KernelId} {p : Nat} {c : Call} (hc : c.Tends id p) :
    c.detached = true ∧ c.light = false := by
  cases c with
  | working | dropping | retiring | leaving => exact ⟨rfl, rfl⟩
  | _ => cases hc

namespace Traffic

variable {t t' : Traffic} {e : Event}

/-- A call stays when another one steps. -/
theorem getElem?_set_other {calls : List Call} {i j : Nat} {c c' d : Call}
    (hc : calls[i]? = some c) (hd : calls[j]? = some d) (hne : d ≠ c) :
    (calls.set i c')[j]? = some d := by
  have hij : i ≠ j := by
    rintro rfl
    exact hne (Option.some.inj (hd.symm.trans hc))
  exact (List.getElem?_set_ne hij).trans hd

/-- Some call is inside the guard of the record at the place. -/
def Occupied (t : Traffic) (p : Nat) : Prop :=
  ∃ (i : Nat) (w : Work) (a : Call.After), t.calls[i]? = some (.working w a) ∧ w.place = p ∧
    w.phase.inside = true

/-- A call that goes on leaves the others where they are. -/
theorem occupied_set {i : Nat} {c c' : Call} {h' : Hub} {p : Nat} (hc : t.calls[i]? = some c)
    (hp : t.Occupied p)
    (hin : ∀ w a, c = .working w a → w.place = p → w.phase.inside = true →
      ∃ v, c' = .working v a ∧ v.place = p ∧ v.phase.inside = true) :
    Occupied ⟨h', t.calls.set i c'⟩ p := by
  obtain ⟨j, w, a, hw, hpl, hi⟩ := hp
  by_cases he : Call.working w a = c
  · obtain ⟨v, rfl, hv⟩ := hin w a he.symm hpl hi
    exact ⟨i, v, a, set_call_self hc _, hv⟩
  · exact ⟨j, w, a, getElem?_set_other hc hw he, hpl, hi⟩

theorem occupied_shift (hs : t.Shift e t')
    (hp : ∀ p r, t.hub.record? p = some r → r.guarded = true → t.Occupied p) :
    ∀ p r, t'.hub.record? p = some r → r.guarded = true → t'.Occupied p := by
  intro p r hr hg
  cases hs with
  | aside ha =>
    obtain ⟨q, hq⟩ := ha.hub
    rw [hq] at hr
    obtain ⟨i, w, a, hw, hi⟩ := hp p r hr hg
    exact ⟨i, w, a, (ha.calls i _ rfl).2 hw, hi⟩
  | register hc =>
    rw [Hub.record?_enroll] at hr
    split at hr
    · cases hr
      cases hg
    · exact occupied_set hc (hp p r hr hg) fun v a he => by cases he
  | @work i w after r₀ h' w' hc hr₀ ht =>
    have hf := Work.frame_turn hr₀ ht
    by_cases hpw : p = w.place
    · subst hpw
      have hin : w'.phase.inside = true := by
        cases ho : w'.phase.inside with
        | true => rfl
        | false => cases hg.symm.trans (Work.unguarded_turn hr₀ ht hr ho)
      exact ⟨i, w', after, set_call_self hc _, hf.place, hin⟩
    · have hr' : t.hub.record? p = some r := by rw [← hf.others p hpw]; exact hr
      refine occupied_set hc (hp p r hr' hg) fun v a he hv => ?_
      cases he
      exact absurd hv.symm hpw
  | heard hc _ hh =>
    refine occupied_set hc (hp p r hr hg) fun v a he hv _ => ?_
    cases he
    exact ⟨_, rfl, hv, (Work.inside_heard hh).2⟩
  | follow hc hph =>
    refine occupied_set hc (hp p r hr hg) fun v a he _ hi => ?_
    cases he
    rw [hph] at hi
    cases hi
  | seek hc | drop hc | retire hc | leave hc =>
    exact occupied_set hc (hp p r hr hg) fun v a he => by cases he

theorem occupied_of_reachable (ht : t.Reachable) :
    ∀ p r, t.hub.record? p = some r → r.guarded = true → t.Occupied p := by
  refine reachable_induct (P := fun t => ∀ p r, t.hub.record? p = some r → r.guarded = true →
    t.Occupied p) (fun h hu p r hp => ?_) (fun t t' e _ hp hs => occupied_shift hs hp) ht
  simp [Hub.record?, hu.records] at hp

/-- The record of the registered id is bound, or some call tends to the id. -/
def Tended (t : Traffic) (id : KernelId) (p : Nat) : Prop :=
  (∃ r b, t.hub.record? p = some r ∧ r.binding = some b) ∨
    ∃ (i : Nat) (c : Call), t.calls[i]? = some c ∧ c.Tends id p

/-- A call that goes on keeps tending to the id. -/
theorem tended_set {i : Nat} {c c' : Call} {h' : Hub} {id : KernelId} {p : Nat}
    (hc : t.calls[i]? = some c) (hp : t.Tended id p)
    (hb : ∀ r b, t.hub.record? p = some r → r.binding = some b →
      Tended ⟨h', t.calls.set i c'⟩ id p)
    (ht : c.Tends id p → Tended ⟨h', t.calls.set i c'⟩ id p) :
    Tended ⟨h', t.calls.set i c'⟩ id p := by
  rcases hp with ⟨r, b, hr, hrb⟩ | ⟨j, d, hd, hdt⟩
  · exact hb r b hr hrb
  · by_cases he : d = c
    · exact ht (he ▸ hdt)
    · exact .inr ⟨j, d, getElem?_set_other hc hd he, hdt⟩

/-- What was bound before a turn is bound after it, unless the turn is one of a shutdown, which
then tends to the id. -/
theorem tended_turn {i : Nat} {w w' : Work} {after : Call.After} {r : Record} {h' : Hub}
    {id : KernelId} {p : Nat} (hpl : t.Placed) (hc : t.calls[i]? = some (.working w after))
    (hr : t.hub.record? w.place = some r) (ht : w.Turn t.hub r h' w')
    (hk : Table.find? id t.hub.registry = some p) (hp : t.Tended id p) :
    Tended ⟨h', t.calls.set i (.working w' after)⟩ id p := by
  have hf := Work.frame_turn hr ht
  obtain ⟨hsu, hty⟩ := hpl.suits hc hr
  obtain ⟨r', hr', -⟩ := hf.record
  have hbt := Work.binding_turn hr ht hr'
  refine tended_set hc hp (fun s b hs hb => ?_) fun htd => ?_
  · by_cases hpw : p = w.place
    · subst hpw
      cases hr.symm.trans hs
      cases hph : w.phase <;> rw [hph] at hbt hty
      case unbinding =>
        obtain ⟨s, hs', rfl⟩ := hpl.registered id _ hk
        cases hr.symm.trans hs'
        obtain ⟨now, hj⟩ := hty
        rw [hj] at hsu
        cases hsu with
        | shutdown =>
          have hfin : w.phase.finished = true := by rw [hph]; rfl
          exact .inr ⟨i, _, set_call_self hc _, rfl, Work.finished_kept ht hfin⟩
        | other ha => cases ha
      case binding c => exact .inl ⟨r', c, hr', hbt⟩
      all_goals exact .inl ⟨r', b, hr', hbt.trans hb⟩
    · exact .inl ⟨s, b, by rw [← hf.others p hpw] at hs; exact hs, hb⟩
  · cases after with
    | started x =>
      obtain ⟨rfl, rfl, hw⟩ := htd
      rcases Work.not_well_turn ht (starts_of_suits hsu).1 hty hw with hw | ⟨b, hph⟩
      · exact .inr ⟨i, _, set_call_self hc _, rfl, hf.place, hw⟩
      · rw [hph] at hbt
        exact .inl ⟨r', b, hr', hbt⟩
    | shutDown x => exact .inr ⟨i, _, set_call_self hc _, htd.1, Work.finished_kept ht htd.2⟩
    | nothing => cases htd

theorem tended_shift (hs : t.Shift e t') (hpl : t.Placed)
    (hp : ∀ id p, Table.find? id t.hub.registry = some p → t.Tended id p) :
    ∀ id p, Table.find? id t'.hub.registry = some p → t'.Tended id p := by
  intro id p hk
  -- What touches no record leaves what is bound as it is.
  have keep {i : Nat} {c c' : Call} {h' : Hub} (hc : t.calls[i]? = some c)
      (hk : Table.find? id t.hub.registry = some p) (hrec : h'.records = t.hub.records)
      (ht : c.Tends id p → c'.Tends id p) : Tended ⟨h', t.calls.set i c'⟩ id p := by
    refine tended_set hc (hp id p hk) (fun r b hr hb => .inl ⟨r, b, ?_, hb⟩) fun h =>
      .inr ⟨i, c', set_call_self hc _, ht h⟩
    rw [Hub.record?, hrec]
    exact hr
  cases hs with
  | aside ha =>
    obtain ⟨q, hq⟩ := ha.hub
    rw [hq] at hk
    rcases hp id p hk with ⟨r, b, hr, hb⟩ | ⟨i, c, hc, ht⟩
    · exact .inl ⟨r, b, by rw [hq]; exact hr, hb⟩
    · exact .inr ⟨i, c, (ha.calls i c (Call.detached_of_tends ht).2).2 hc, ht⟩
  | @register i name o fresh hc =>
    simp only [Hub.enroll, Table.find?_set] at hk
    split at hk
    · next hid =>
      cases hk
      exact .inr ⟨i, _, set_call_self hc _, hid.symm, rfl, rfl⟩
    · refine tended_set hc (hp id p hk) (fun r b hr hb => .inl ⟨r, b, ?_, hb⟩) fun h => by cases h
      rw [Hub.record?_enroll, if_neg (Nat.ne_of_lt (Hub.lt_length_of_record? hr))]
      exact hr
  | seek hc => exact keep hc hk rfl fun h => by cases h
  | work hc hr ht =>
    rw [(Work.frame_turn hr ht).registry] at hk
    exact tended_turn hpl hc hr ht hk (hp id p hk)
  | @heard i w after r q a hc hr hh =>
    refine keep hc hk rfl fun h => ?_
    cases after with
    | started x =>
      obtain ⟨⟨o, ho⟩, -⟩ := starts_of_suits (hpl.suits hc hr).1
      rw [ho] at hh
      exact ⟨h.1, h.2.1, Work.not_well_heard hh⟩
    | shutDown x =>
      have hw := Work.not_well_of_asking (Work.asking_heard hh)
      have hf := h.2
      cases hph : w.phase <;> rw [hph] at hh hf hw <;> first | cases hf | cases hw.symm.trans hf
      cases Work.asking_heard hh
    | nothing => cases h
  | @follow i w after res hc hph =>
    refine keep hc hk rfl fun h => ?_
    cases after with
    | started x =>
      have hw := h.2.2
      rw [hph] at hw
      cases res with
      | ok => cases hw
      | error => exact h.1
    | shutDown x =>
      have hf := h.2
      rw [hph] at hf
      cases res with
      | ok => exact h.1
      | error => cases hf
    | nothing => cases h
  | retire hc => exact keep hc hk rfl fun h => h
  | drop hc | leave hc =>
    rw [Hub.unregister, Table.find?_erase] at hk
    split at hk
    · cases hk
    · next hid => exact keep hc hk rfl fun h => absurd h.symm hid

theorem tended_of_reachable (ht : t.Reachable) :
    ∀ id p, Table.find? id t.hub.registry = some p → t.Tended id p := by
  refine reachable_induct (P := fun t => ∀ id p, Table.find? id t.hub.registry = some p →
    t.Tended id p) (fun h hu id p hf => ?_)
    (fun t t' e ht hp hs => tended_shift hs (placed_of_reachable ht) hp) ht
  rw [hu.registry] at hf
  cases hf

/-- Is some call about to take the id from the registry? -/
def Leaves (t : Traffic) (id : KernelId) : Prop := ∃ i : Nat, t.calls[i]? = some (.leaving id)

theorem leaves_shift (hs : t.Shift e t')
    (hp : ∀ id ∈ t.hub.retired, t.hub.hasKernel id = true → t.Leaves id) :
    ∀ id ∈ t'.hub.retired, t'.hub.hasKernel id = true → t'.Leaves id := by
  intro id hi hk
  have keep {i : Nat} {c c' : Call} {h' : Hub} (hc : t.calls[i]? = some c)
      (hne : Call.leaving id ≠ c) (hi : id ∈ t.hub.retired) (hk : t.hub.hasKernel id = true) :
      Leaves ⟨h', t.calls.set i c'⟩ id := by
    obtain ⟨j, hj⟩ := hp id hi hk
    exact ⟨j, getElem?_set_other hc hj hne⟩
  cases hs with
  | aside ha =>
    obtain ⟨q, hq⟩ := ha.hub
    rw [hq] at hi hk
    obtain ⟨i, hc⟩ := hp id hi hk
    exact ⟨i, (ha.calls i _ rfl).2 hc⟩
  | @register i name o fresh hc _ hn =>
    have hid : id ≠ o.id.getD fresh := fun he => hn (he ▸ hi)
    simp only [Hub.hasKernel, Hub.enroll, Table.contains_set, hid, decide_false,
      Bool.false_or] at hk
    exact keep hc (fun he => by cases he) hi hk
  | work hc hr ht =>
    have hf := Work.frame_turn hr ht
    rw [Hub.hasKernel, hf.registry] at hk
    exact keep hc (fun he => by cases he) (hf.retired ▸ hi) hk
  | @retire i x hc =>
    rcases Hub.of_mem_retire hi with rfl | hi
    · exact ⟨i, set_call_self hc _⟩
    · exact keep hc (fun he => by cases he) hi hk
  | drop hc | leave hc =>
    simp only [Hub.hasKernel, Hub.unregister, Table.contains_erase, Bool.and_eq_true,
      decide_eq_true_eq] at hk
    refine keep hc (fun he => ?_) hi hk.2
    cases he <;> exact hk.1 rfl
  | seek hc | heard hc | follow hc => exact keep hc (fun he => by cases he) hi hk

theorem leaves_of_reachable (ht : t.Reachable) :
    ∀ id ∈ t.hub.retired, t.hub.hasKernel id = true → t.Leaves id := by
  refine reachable_induct (P := fun t => ∀ id ∈ t.hub.retired, t.hub.hasKernel id = true →
    t.Leaves id) (fun h hu id hi => ?_) (fun t t' e _ hp hs => leaves_shift hs hp) ht
  rw [hu.retired] at hi
  cases hi

/-- No id is registered twice. -/
theorem nodup_registry (ht : t.Reachable) : (Table.keys t.hub.registry).Nodup := by
  refine reachable_induct (P := fun t => (Table.keys t.hub.registry).Nodup) (fun h hu => ?_)
    (fun t t' e _ hn hs => ?_) ht
  · rw [hu.registry]
    exact List.nodup_nil
  · cases hs with
    | aside ha =>
      obtain ⟨p, hp⟩ := ha.hub
      rw [hp]
      exact hn
    | register => exact Table.nodup_set hn _ _
    | work _ hr ht =>
      rw [(Work.frame_turn hr ht).registry]
      exact hn
    | drop | leave => exact Table.nodup_erase hn _
    | _ => exact hn

/-! ## At rest -/

/-- Nothing is under way that would go on by itself. Calls that their callers gave up before they
came to a record do not count. -/
def AtRest (t : Traffic) : Prop := ∀ c ∈ t.calls, c.detached = false

end Traffic

/-- Each registered id stands for a kernel that is bound, mapped and free for anyone to use. -/
structure Hub.Orderly (h : Hub) : Prop where
  distinct : (Table.keys h.registry).Nodup
  kernel : ∀ id p, Table.find? id h.registry = some p → ∃ name st b,
    h.record? p = some ⟨id, name, st, some b, false⟩ ∧ h.hasSide b.side = true ∧
      Table.find? id h.idMap = some b
  unretired : ∀ id, h.hasKernel id = true → id ∉ h.retired

theorem Traffic.orderly_of_rest {t : Traffic} (ht : t.Reachable) (hr : t.AtRest) :
    t.hub.Orderly := by
  have still {i : Nat} {c : Call} (hc : t.calls[i]? = some c) : c.detached = false :=
    hr c (List.mem_of_getElem? hc)
  refine ⟨nodup_registry ht, fun id p hf => ?_, fun id hk hi => ?_⟩
  · obtain ⟨r, hrec, rfl⟩ := (placed_of_reachable ht).registered id p hf
    have hg : r.guarded = false := by
      refine Bool.eq_false_iff.2 fun hg => ?_
      obtain ⟨i, w, a, hc, -⟩ := occupied_of_reachable ht p r hrec hg
      cases still hc
    rcases tended_of_reachable ht r.id p hf with ⟨s, b, hs, hb⟩ | ⟨i, c, hc, hct⟩
    · cases hrec.symm.trans hs
      have hmap : Table.find? r.id t.hub.idMap = some b := by
        rcases (mapped_of_reachable ht).bound p r b hrec hb with hm | ⟨i, w, a, hc, -⟩
        · exact hm
        · cases still hc
      obtain ⟨id, name, st, bd, g⟩ := r
      cases hb
      cases hg
      exact ⟨name, st, b, hrec, (guarded_of_reachable ht).sided p _ b hrec rfl, hmap⟩
    · cases (still hc).symm.trans (Call.detached_of_tends hct).1
  · obtain ⟨i, hc⟩ := leaves_of_reachable ht id hi hk
    cases still hc

end KernelHub
