import KernelHub.Proofs.Traffic.Bindings

/-
When the registry, the id map and the retired ids agree. They do as long as no shutdown
is misled. A shutdown that waited for a record may find that its start has failed
meanwhile, and takes it for one that was shut down: it retires the id although it was
never given, or although another start has it by now.
-/

namespace KernelHub

/-- Has the work written all it is to write, without an error? -/
def Work.Phase.well : Phase → Bool
  | .settling _ (.ok _) => true
  | .releasing (.ok _) => true
  | .ended (.ok _) => true
  | _ => false

namespace Work

theorem well_turn {h h' : Hub} {w w' : Work} {r : Record} (ht : w.Turn h r h' w')
    (hw : w.phase.well = true) : w.phase.inside = true ∧ w'.phase.well = true := by
  cases ht with
  | @settle s res hp =>
    rw [hp] at hw
    cases res with
    | ok => exact ⟨by rw [hp]; rfl, rfl⟩
    | error => cases hw
  | @release res hp =>
    rw [hp] at hw
    cases res with
    | ok => exact ⟨by rw [hp]; rfl, rfl⟩
    | error => cases hw
  | take hp | enter hp | map hp | bind hp | unmap hp | unbind hp =>
    rw [hp] at hw
    cases hw

theorem well_of_binding {h h' : Hub} {w w' : Work} {r : Record} {b : Binding}
    (ht : w.Turn h r h' w') (hp : w.phase = .binding b) : w'.phase.well = true := by
  cases ht with
  | bind => rfl
  | take hp' | enter hp' | map hp' | unmap hp' | unbind hp' | settle hp' | release hp' =>
    rw [hp] at hp'
    cases hp'

/-- Has a shutdown cleared the id map, or found nothing to clear, in this phase? -/
def Phase.finished : Phase → Bool
  | .unbinding => true
  | p => p.well

/-- How a turn of a shutdown comes to be over: it was before, or it clears the id map, or it
finds its record dead and unbound. -/
theorem finished_turn {h h' : Hub} {w w' : Work} {r : Record} {now : Bool} (ht : w.Turn h r h' w')
    (hj : w.job = .shutdown now) (hty : w.phase.Typed r.id w.job) (ho : w'.phase.finished = true) :
    w.phase.finished = true ∨ w.phase = .unmapping ∨
      w.phase = .entered ∧ r.state = .dead ∧ h.bound? r = none := by
  cases ht with
  | take | map => cases ho
  | @enter s p hp he =>
    rw [hj] at he
    cases he with
    | gone hb hs => exact .inr (.inr ⟨hp, hs, hb⟩)
    | _ => cases ho
  | bind hp =>
    rw [hp, hj] at hty
    obtain ⟨o, ho⟩ := hty
    cases ho
  | unmap hp => exact .inr (.inl hp)
  | unbind hp => exact .inl (by rw [hp]; rfl)
  | @settle s res hp =>
    rw [hp]
    cases res with
    | ok => exact .inl rfl
    | error => cases ho
  | @release res hp =>
    rw [hp]
    cases res with
    | ok => exact .inl rfl
    | error => cases ho

theorem finished_heard {r : Record} {now p p'} (hh : Heard r (.shutdown now) p p')
    (hty : p.Typed r.id (.shutdown now)) : p'.finished = false := by
  cases hh with
  | probed => obtain ⟨_, hj⟩ := hty; cases hj
  | _ => rfl

theorem asking_heard {r : Record} {job p p'} (hh : Heard r job p p') : p.asking = true := by
  cases hh with
  | crashed hp => exact hp
  | _ => rfl

theorem not_well_of_asking {p : Phase} (hp : p.asking = true) : p.well = false := by
  cases p <;> first | rfl | cases hp

end Work

namespace Call

/-- Has the call's start of the id bound its record? -/
def Wrote (id : KernelId) : Call → Prop
  | working w (.started x) => x = id ∧ w.phase.well = true
  | ended (.ok (.started x)) => x = id
  | _ => False

/-- Has the call's start of the id succeeded? -/
def Issues (id : KernelId) (c : Call) : Prop :=
  c.Wrote id ∧ ∀ w a, c = working w a → w.phase.inside = false

theorem claims_of_wrote {id : KernelId} {c : Call} (hc : c.Wrote id) : c.Claims id := by
  cases c with
  | working w after =>
    cases after with
    | started x => exact hc.1
    | _ => cases hc
  | ended res =>
    cases res with
    | error => cases hc
    | ok o =>
      cases o with
      | started x => exact hc
      | _ => cases hc
  | _ => cases hc

/-- What follows a start that bound its record gives the id. -/
theorem wrote_follow {id : KernelId} {w : Work} {after : After} {r : Record} {res : Result}
    (hs : Suits r.id w.job after) (ht : w.phase.Typed r.id w.job) (hp : w.phase = .ended res)
    (hc : (working w after).Wrote id) : (follow res after).Issues id := by
  cases after with
  | started x =>
    obtain ⟨⟨o, ho⟩, rfl⟩ := Traffic.starts_of_suits hs
    obtain ⟨rfl, hw⟩ := hc
    rw [hp] at hw ht
    cases res with
    | error => cases hw
    | ok y =>
      rw [ho] at ht
      have hy : y = .started r.id := ht
      subst hy
      refine ⟨show r.id = r.id from rfl, fun v a he => ?_⟩
      cases he
  | _ => cases hc

end Call

namespace Traffic

variable {t t' : Traffic}

/-- Has some start of the id succeeded? -/
def Issued (t : Traffic) (id : KernelId) : Prop :=
  ∃ (i : Nat) (c : Call), t.calls[i]? = some c ∧ c.Issues id

/-- A start that bound its record goes on to give the id. -/
theorem wrote_shift {e : Event} (hs : t.Shift e t') (hpl : t.Placed) {i : Nat} {c : Call}
    {id : KernelId} (hc : t.calls[i]? = some c) (hw : c.Wrote id) :
    ∃ c', t'.calls[i]? = some c' ∧ c'.Wrote id ∧ (c.Issues id → c'.Issues id) := by
  have hcl := Call.claims_of_wrote hw
  -- A call that steps is this one, or leaves it as it is.
  have hset {j : Nat} {d d' : Call} (hd : t.calls[j]? = some d)
      (hgo : d = c → d'.Wrote id ∧ (c.Issues id → d'.Issues id)) :
      ∃ c', (t.calls.set j d')[i]? = some c' ∧ c'.Wrote id ∧ (c.Issues id → c'.Issues id) := by
    by_cases hij : j = i
    · subst hij
      exact ⟨d', set_call_self hd d', hgo (Option.some.inj (hd.symm.trans hc))⟩
    · exact ⟨c, (List.getElem?_set_ne hij).trans hc, hw, fun h => h⟩
  cases hs with
  | aside ha =>
    exact ⟨c, (ha.calls i c (Call.light_of_claims hcl)).2 hc, hw, fun h => h⟩
  | register hd | seek hd | retire hd | leave hd =>
    refine hset hd fun he => ?_
    subst he
    cases hcl
  | drop hd =>
    refine hset hd fun he => ?_
    subst he
    cases hw
  | @work j w after r h' w' hd hr ht =>
    refine hset hd fun he => ?_
    subst he
    cases after with
    | started x =>
      obtain ⟨hin, hwell⟩ := Work.well_turn ht hw.2
      refine ⟨⟨hw.1, hwell⟩, fun hi => ?_⟩
      simp [hi.2 w _ rfl] at hin
    | _ => cases hw
  | @heard j w after r p a hd hr hh =>
    refine hset hd fun he => ?_
    subst he
    cases after with
    | started x =>
      have hn := hw.2.symm.trans (Work.not_well_of_asking (Work.asking_heard hh))
      cases hn
    | _ => cases hw
  | @follow j w after res hd hph =>
    refine hset hd fun he => ?_
    subst he
    obtain ⟨r, hr, hsu, hty⟩ := hpl.working j w after hd
    have hi := Call.wrote_follow hsu hty hph hw
    exact ⟨hi.1, fun _ => hi⟩

theorem issued_shift {e : Event} (hs : t.Shift e t') (hpl : t.Placed) {id : KernelId}
    (hi : t.Issued id) : t'.Issued id := by
  obtain ⟨i, c, hc, hi⟩ := hi
  obtain ⟨c', hc', -, hi'⟩ := wrote_shift hs hpl hc hi.1
  exact ⟨i, c', hc', hi' hi⟩

/-- What is bound was bound by a start. -/
def Sourced (t : Traffic) : Prop :=
  ∀ p r b, t.hub.record? p = some r → r.binding = some b →
    ∃ (i : Nat) (c : Call), t.calls[i]? = some c ∧ c.Wrote r.id

theorem sourced_shift {e : Event} (hs : t.Shift e t') (hpl : t.Placed) (hp : t.Sourced) :
    t'.Sourced := by
  have hkeep {id : KernelId} (hw : ∃ (i : Nat) (c : Call), t.calls[i]? = some c ∧ c.Wrote id) :
      ∃ (i : Nat) (c : Call), t'.calls[i]? = some c ∧ c.Wrote id := by
    obtain ⟨i, c, hc, hw⟩ := hw
    obtain ⟨c', hc', hw', -⟩ := wrote_shift hs hpl hc hw
    exact ⟨i, c', hc', hw'⟩
  cases hs with
  | aside ha =>
    obtain ⟨m, hm⟩ := ha.hub
    intro p r b hr hb
    exact hkeep (hp p r b (by rw [hm] at hr; exact hr) hb)
  | register =>
    intro p r b hr hb
    rw [Hub.record?_enroll] at hr
    split at hr
    · cases hr
      cases hb
    · exact hkeep (hp p r b hr hb)
  | @work i w after r h' w' hc hr ht =>
    have hf := Work.frame_turn hr ht
    intro p s b hs hb
    by_cases hpw : p = w.place
    · subst hpw
      obtain ⟨r', hr', hid, -⟩ := hf.record
      cases hr'.symm.trans hs
      have hbt := Work.binding_turn hr ht hr'
      cases hph : w.phase <;> rw [hph] at hbt
      case binding c =>
        obtain ⟨hsu, hty⟩ := hpl.suits hc hr
        rw [hph] at hty
        have ha := started_of_starts hsu hty
        subst ha
        exact ⟨i, _, set_call_self hc _, hid.symm, Work.well_of_binding ht hph⟩
      case unbinding => cases hbt.symm.trans hb
      all_goals exact hid ▸ hkeep (hp _ r b hr (hbt.symm.trans hb))
    · exact hkeep (hp p s b (by rw [← hf.others p hpw]; exact hs) hb)
  | seek | heard | follow | drop | retire | leave => exact fun p r b hr hb => hkeep (hp p r b hr hb)

theorem sourced_of_reachable (ht : t.Reachable) : t.Sourced := by
  refine reachable_induct (fun h hu => ?_)
    (fun t t' e ht hp hs => sourced_shift hs (placed_of_reachable ht) hp) ht
  intro p r b hr
  simp [Hub.record?, hu.records] at hr

/-! ## Misled shutdowns -/

/-- Is the event the step in which a shutdown finds its record dead and unbound although no
start of the id has succeeded, or one has and the id still stands for its kernel? -/
def Misled (t : Traffic) (e : Event) : Prop :=
  ∃ (i : Nat) (w : Work) (id : KernelId) (r : Record), e = .step i ∧
    t.calls[i]? = some (.working w (.shutDown id)) ∧ w.phase = .entered ∧
    t.hub.record? w.place = some r ∧ r.state = .dead ∧ r.binding = none ∧
    ¬ (t.Issued id ∧ Table.find? id t.hub.idMap = none)

/-- Is no shutdown misled by these events? -/
def Straight (t : Traffic) : List Event → Prop
  | [] => True
  | e :: es => ¬ t.Misled e ∧ ∀ u, t.next? e = some u → u.Straight es

/-- Was the id given to a kernel that is gone? -/
def Spent (t : Traffic) (id : KernelId) : Prop :=
  t.Issued id ∧ Table.find? id t.hub.idMap = none

/-- A spent id stays spent: it would take its start to map it again, which is over. -/
theorem spent_shift {e : Event} (hs : t.Shift e t') (hpl : t.Placed) (hcl : t.Claimed)
    {id : KernelId} (hp : t.Spent id) : t'.Spent id := by
  refine ⟨issued_shift hs hpl hp.1, ?_⟩
  obtain ⟨⟨j, c, hc, hi⟩, hn⟩ := hp
  cases hs with
  | aside ha =>
    obtain ⟨m, hm⟩ := ha.hub
    rw [hm]
    exact hn
  | @work i w after r h' w' hw hr ht =>
    show Table.find? id h'.idMap = none
    rw [Work.remap_turn ht]
    cases hf : Table.find? id (w.phase.remap r.id t.hub.idMap) with
    | none => rfl
    | some b =>
      rcases Work.find?_remap hf with ⟨hph, rfl⟩ | hf
      · obtain ⟨hsu, hty⟩ := hpl.suits hw hr
        rw [hph] at hty
        have ha := started_of_starts hsu hty
        subst ha
        obtain rfl := hcl.unique i j _ c r.id hw hc rfl (Call.claims_of_wrote hi.1)
        cases hw.symm.trans hc
        have hin := hi.2 w _ rfl
        rw [hph] at hin
        cases hin
      · exact hn ▸ hf.symm
  | register | seek | heard | follow | drop | retire | leave => exact hn

/-- Are all ids that are retired, or about to be, spent? -/
structure Honest (t : Traffic) : Prop where
  retired : ∀ id ∈ t.hub.retired, t.Spent id
  retiring : ∀ (i : Nat) (id : KernelId), t.calls[i]? = some (.retiring id) → t.Spent id
  finished : ∀ (i : Nat) (w : Work) (id : KernelId),
    t.calls[i]? = some (.working w (.shutDown id)) → w.phase.finished = true → t.Spent id

/-- A bound record that some other call than its start is at work on was given. -/
theorem issued_of_bound {i : Nat} {w : Work} {id : KernelId} {r : Record} {b : Binding}
    (hpl : t.Placed) (hg : t.Guarded) (ho : t.Owned) (hso : t.Sourced)
    (hc : t.calls[i]? = some (.working w (.shutDown id))) (hin : w.phase.inside = true)
    (hr : t.hub.record? w.place = some r) (hb : r.binding = some b) : t.Issued r.id := by
  obtain ⟨j, d, hd, hw⟩ := hso w.place r b hr hb
  refine ⟨j, d, hd, hw, fun v a he => ?_⟩
  subst he
  refine Bool.eq_false_iff.2 fun hv => ?_
  cases a with
  | started x =>
    obtain rfl : x = r.id := hw.1
    obtain ⟨s, hs, hsu, -⟩ := hpl.working j v _ hd
    obtain ⟨-, hid⟩ := starts_of_suits hsu
    have hp : w.place = v.place :=
      ho.single w.place v.place r s hr hs hid (.inl ⟨r, b, hr, hb⟩) (.inr ⟨j, v, _, hd, rfl⟩)
    obtain rfl := hg.exclusive i j w v _ _ hc hd hp hin hv
    cases hc.symm.trans hd
  | _ => cases hw

/-- A call takes a step, and to something that is about to retire an id only if it is spent. -/
theorem honest_set {i : Nat} {c c' : Call} {h' : Hub} (hc : t.calls[i]? = some c) (hp : t.Honest)
    (hk : ∀ id, t.Spent id → Spent ⟨h', t.calls.set i c'⟩ id)
    (hret : ∀ id ∈ h'.retired, Spent ⟨h', t.calls.set i c'⟩ id)
    (hre : ∀ id, c' = .retiring id → Spent ⟨h', t.calls.set i c'⟩ id)
    (hov : ∀ w id, c' = .working w (.shutDown id) → w.phase.finished = true →
      Spent ⟨h', t.calls.set i c'⟩ id) : Honest ⟨h', t.calls.set i c'⟩ := by
  refine ⟨hret, fun j id hd => ?_, fun j w id hd hw => ?_⟩
  · rcases of_set_call hc hd with ⟨-, he⟩ | ⟨-, hd⟩
    · exact hre id he
    · exact hk id (hp.retiring j id hd)
  · rcases of_set_call hc hd with ⟨-, he⟩ | ⟨-, hd⟩
    · exact hov w id he hw
    · exact hk id (hp.finished j w id hd hw)

/-- The id of a shutdown that is over on its record is spent, unless the shutdown was misled. -/
theorem spent_of_finished {i : Nat} {w w' : Work} {id : KernelId} {r : Record} {h' : Hub}
    (hpl : t.Placed) (hcl : t.Claimed) (hg : t.Guarded) (ho : t.Owned) (hso : t.Sourced)
    (hn : ¬ t.Misled (.step i)) (hp : t.Honest)
    (hc : t.calls[i]? = some (.working w (.shutDown id)))
    (hr : t.hub.record? w.place = some r) (ht : w.Turn t.hub r h' w')
    (hv : w'.phase.finished = true) :
    Spent ⟨h', t.calls.set i (.working w' (.shutDown id))⟩ id := by
  have hs : t.Shift (.step i) ⟨h', t.calls.set i (.working w' (.shutDown id))⟩ := .work hc hr ht
  obtain ⟨hsu, hty⟩ := hpl.suits hc hr
  obtain ⟨now, hj, rfl⟩ : ∃ now, w.job = .shutdown now ∧ r.id = id := by
    generalize w.job = job at hsu
    cases hsu
    exact ⟨_, rfl, rfl⟩
  rcases Work.finished_turn ht hj hty hv with hov | hph | ⟨hph, hst, hb⟩
  · exact spent_shift hs hpl hcl (hp.finished i w r.id hc hov)
  · have hfit := hg.fits i w _ r hc hr
    rw [hph] at hfit
    obtain ⟨b, hb⟩ := hfit
    have hi := issued_of_bound hpl hg ho hso hc (by rw [hph]; rfl) hr hb
    refine ⟨issued_shift hs hpl hi, ?_⟩
    show Table.find? r.id h'.idMap = none
    rw [Work.remap_turn ht, hph]
    exact Table.find?_erase_self _ _
  · have hb : r.binding = none := by
      cases hrb : r.binding with
      | none => rfl
      | some b =>
        rw [Hub.bound?_some.2 ⟨hrb, hg.sided w.place r b hr hrb⟩] at hb
        cases hb
    refine spent_shift hs hpl hcl (Classical.byContradiction fun hsp => hn ?_)
    exact ⟨i, w, r.id, r, rfl, hc, hph, hr, hst, hb, hsp⟩

theorem honest_shift {e : Event} (hs : t.Shift e t') (hpl : t.Placed) (hcl : t.Claimed)
    (hg : t.Guarded) (ho : t.Owned) (hso : t.Sourced) (hn : ¬ t.Misled e) (hp : t.Honest) :
    t'.Honest := by
  have keep (id : KernelId) (hi : t.Spent id) : t'.Spent id := spent_shift hs hpl hcl hi
  cases hs with
  | aside ha =>
    obtain ⟨m, hm⟩ := ha.hub
    refine ⟨fun id hi => keep id (hp.retired id (by rw [hm] at hi; exact hi)), fun j id hc => ?_,
      fun j w id hc hw => ?_⟩
    · exact keep id (hp.retiring j id ((ha.calls j _ rfl).1 hc))
    · exact keep id (hp.finished j w id ((ha.calls j _ rfl).1 hc) hw)
  | register hc | drop hc | leave hc =>
    exact honest_set hc hp keep (fun id hi => keep id (hp.retired id hi)) nofun
      (by rintro w id ⟨⟩)
  | seek hc =>
    refine honest_set hc hp keep (fun id hi => keep id (hp.retired id hi)) nofun
      fun w id he hw => ?_
    obtain ⟨rfl, -⟩ := Call.working.inj he
    cases hw
  | @work i w after r h' w' hc hr ht =>
    have hf := Work.frame_turn hr ht
    refine honest_set hc hp keep (fun id hi => keep id (hp.retired id (hf.retired ▸ hi))) nofun
      fun v id he hv => ?_
    cases he
    exact spent_of_finished hpl hcl hg ho hso hn hp hc hr ht hv
  | @heard i w after r p a hc hr hh =>
    refine honest_set hc hp keep (fun id hi => keep id (hp.retired id hi)) nofun
      fun v id he hv => ?_
    cases he
    obtain ⟨hsu, hty⟩ := hpl.suits hc hr
    generalize w.job = job at hsu hh hty
    cases hsu
    exact absurd hv (by simp [Work.finished_heard hh hty])
  | @follow i w after res hc hph =>
    refine honest_set hc hp keep (fun id hi => keep id (hp.retired id hi)) (fun id he => ?_)
      fun v id he hv => ?_
    · cases after <;> cases res <;> cases he
      exact keep id (hp.finished i w _ hc (by rw [hph]; rfl))
    · cases after <;> cases res <;> cases he
  | @retire i id hc =>
    refine honest_set hc hp keep (fun x hx => keep x ?_) nofun (by rintro w id ⟨⟩)
    rcases Hub.of_mem_retire hx with rfl | hx
    · exact hp.retiring i x hc
    · exact hp.retired x hx

theorem honest_run {u : Traffic} {es : List Event} (ht : t.Reachable) (hp : t.Honest)
    (hst : t.Straight es) (hr : run? t es = some u) : u.Honest := by
  induction es generalizing t with
  | nil => cases hr; exact hp
  | cons e es ih =>
    obtain ⟨v, hv, hr⟩ := run?_cons hr
    have hs := shift_of_reachable ht hv
    refine ih (reachable_next ht hv) ?_ (hst.2 v hv) hr
    exact honest_shift hs (placed_of_reachable ht) (claimed_of_reachable ht)
      (guarded_of_reachable ht) (owned_of_reachable ht) (sourced_of_reachable ht) hst.1 hp

/-! ## Coherence -/

/-- How the registry, the id map, the records and the retired ids agree. -/
structure Coherent (t : Traffic) : Prop where
  /-- What is mapped is registered, with a record that is bound to the entry or that a start
  inside the guard is about to bind to it. -/
  mapped : ∀ id b, Table.find? id t.hub.idMap = some b → ∃ p r,
    Table.find? id t.hub.registry = some p ∧ t.hub.record? p = some r ∧ r.id = id ∧
      (r.binding = some b ∨ r.guarded = true ∧ ∃ (i : Nat) (w : Work),
        t.calls[i]? = some (.working w (.started id)) ∧ w.place = p ∧ w.phase = .binding b)
  /-- What is bound is registered and mapped, unless a shutdown inside the guard has cleared
  the map and is about to clear the record. -/
  bound : ∀ p r b, t.hub.record? p = some r → r.binding = some b →
    Table.find? r.id t.hub.registry = some p ∧ Table.find? r.id t.hub.idMap = some b ∨
      r.guarded = true ∧ ∃ (i : Nat) (w : Work),
        t.calls[i]? = some (.working w (.shutDown r.id)) ∧ w.place = p ∧ w.phase = .unbinding
  /-- What is retired and no longer registered is not mapped. -/
  gone : ∀ id ∈ t.hub.retired, t.hub.hasKernel id = false → Table.find? id t.hub.idMap = none
  /-- What is retired was given by a start that succeeded. -/
  retired : ∀ id ∈ t.hub.retired, t.Issued id
  /-- What no start holds, or was given, can be registered. -/
  free : ∀ id, (∀ (i : Nat) (c : Call), t.calls[i]? = some c → ¬ c.Claims id) →
    t.hub.hasKernel id = false ∧ id ∉ t.hub.retired

theorem coherent_of_honest (ht : t.Reachable) (hp : t.Honest) : t.Coherent := by
  have hpl := placed_of_reachable ht
  have hcl := claimed_of_reachable ht
  have hg := guarded_of_reachable ht
  have hm := mapped_of_reachable ht
  -- An open record whose id is mapped is the registered one: the id is not retired.
  have hown {p : Nat} {r : Record} {b : Binding} (hr : t.hub.record? p = some r) (ho : t.Open p)
      (hf : Table.find? r.id t.hub.idMap = some b) :
      Table.find? r.id t.hub.registry = some p := by
    rcases (owned_of_reachable ht).owned p r hr ho with hk | hk
    · exact hk
    · cases (hp.retired r.id hk).2.symm.trans hf
  refine ⟨fun id b hf => ?_, fun p r b hr hb => ?_, fun id hi _ => (hp.retired id hi).2,
    fun id hi => (hp.retired id hi).1, fun id hn => ⟨?_, fun hi => ?_⟩⟩
  · obtain ⟨p, r, hr, rfl, hor⟩ := hm.mapped id b hf
    rcases hor with hb | ⟨i, w, hw, rfl, hph⟩
    · exact ⟨p, r, hown hr (.inl ⟨r, b, hr, hb⟩) hf, hr, rfl, .inl hb⟩
    · have hgd := hg.guarded i w _ r hw (by rw [hph]; rfl) hr
      exact ⟨w.place, r, hown hr (.inr ⟨i, w, _, hw, rfl⟩) hf, hr, rfl,
        .inr ⟨hgd, i, w, hw, rfl, hph⟩⟩
  · rcases hm.bound p r b hr hb with hf | ⟨i, w, a, hw, rfl, hph⟩
    · exact .inl ⟨hown hr (.inl ⟨r, b, hr, hb⟩) hf, hf⟩
    · have hgd := hg.guarded i w a r hw (by rw [hph]; rfl) hr
      obtain ⟨hsu, hty⟩ := hpl.suits hw hr
      rw [hph] at hty
      obtain ⟨now, hj⟩ := hty
      rw [hj] at hsu
      cases hsu with
      | shutdown => exact .inr ⟨hgd, i, w, hw, rfl, hph⟩
      | other ha => cases ha
  · refine Bool.eq_false_iff.2 fun hk => ?_
    obtain ⟨i, c, hc, hm⟩ := hcl.registered id hk
    exact hn i c hc hm
  · obtain ⟨⟨i, c, hc, hi⟩, -⟩ := hp.retired id hi
    exact hn i c hc (Call.claims_of_wrote hi.1)

/-- What is retired stays so, and once it has left the registry never comes back. -/
theorem retired_shift {e : Event} (hs : t.Shift e t') {id : KernelId} (hi : id ∈ t.hub.retired) :
    id ∈ t'.hub.retired ∧ (t.hub.hasKernel id = false → t'.hub.hasKernel id = false) := by
  cases hs with
  | aside ha =>
    obtain ⟨m, hm⟩ := ha.hub
    rw [hm]
    exact ⟨hi, fun hk => hk⟩
  | @register i name options fresh hc hk hn =>
    refine ⟨hi, fun hk' => ?_⟩
    have hne : id ≠ options.id.getD fresh := fun he => hn (he ▸ hi)
    simpa [Hub.hasKernel, Hub.enroll, Table.contains_set, hne] using hk'
  | work _ hr ht =>
    have hf := Work.frame_turn hr ht
    exact ⟨hf.retired ▸ hi, fun hk => by simpa only [Hub.hasKernel, hf.registry] using hk⟩
  | retire => exact ⟨Hub.mem_retire hi, fun hk => hk⟩
  | drop | leave =>
    refine ⟨hi, fun hk => ?_⟩
    simp only [Hub.hasKernel, Hub.unregister, Table.contains_erase] at hk ⊢
    simp [hk]
  | seek | heard | follow => exact ⟨hi, fun hk => hk⟩

/-- A call steps again, from where its last step left it. -/
theorem run?_step {h h' : Hub} {calls : List Call} {i : Nat} {c₀ c c' : Call} {es : List Event}
    (hi : calls[i]? = some c₀) (hs : c.step? h = some (h', c')) :
    run? ⟨h, calls.set i c⟩ (.step i :: es) = run? ⟨h', calls.set i c'⟩ es := by
  simp [run?, next?, set_call_self hi, hs]

/-- A misled shutdown retires the id and takes it out of the registry, whatever the id stands
for by now. -/
theorem misled_run (hpl : t.Placed) {i : Nat} (hm : t.Misled (.step i)) :
    ∃ u id, run? t (List.replicate 5 (.step i)) = some u ∧ id ∈ u.hub.retired ∧
      u.hub.hasKernel id = false ∧ u.hub.idMap = t.hub.idMap ∧ (u.Issued id → t.Issued id) ∧
      ¬ t.Spent id := by
  obtain ⟨j, w, id, r, he, hc, hph, hr, hst, hb, hsp⟩ := hm
  cases he
  obtain ⟨now, hj⟩ : ∃ now, w.job = .shutdown now := by
    obtain ⟨r₀, -, hsu, -⟩ := hpl.working i w _ hc
    generalize w.job = job at hsu
    cases hsu
    exact ⟨_, rfl⟩
  have hbd : t.hub.bound? r = none := by simp [Hub.bound?, hb]
  -- It finds the record dead, gives the guard back, and retires the id.
  have h1 : (Call.working w (.shutDown id)).step? t.hub = some (t.hub,
      .working { w with phase := .releasing (.ok .done) } (.shutDown id)) := by
    simp [Call.step?, hph, Work.step?, hr, hj, Work.enter, hbd, hst, Work.writeState]
  have h2 : (Call.working { w with phase := .releasing (.ok .done) } (.shutDown id)).step? t.hub =
      some (t.hub.setGuard w.place false,
        .working { w with phase := .ended (.ok .done) } (.shutDown id)) := by
    simp [Call.step?, Work.step?, hr]
  refine ⟨⟨((t.hub.setGuard w.place false).retire id).unregister id,
    t.calls.set i (.ended (.ok .done))⟩, id, ?_, ?_, ?_, rfl, ?_, hsp⟩
  · calc run? t (List.replicate 5 (.step i))
        = run? ⟨t.hub, t.calls.set i
            (.working { w with phase := .releasing (.ok .done) } (.shutDown id))⟩
            (List.replicate 4 (.step i)) := by simp [List.replicate, run?, next?, hc, h1]
      _ = run? ⟨t.hub.setGuard w.place false, t.calls.set i
            (.working { w with phase := .ended (.ok .done) } (.shutDown id))⟩
            (List.replicate 3 (.step i)) := run?_step hc h2
      _ = run? ⟨t.hub.setGuard w.place false, t.calls.set i (.retiring id)⟩
            (List.replicate 2 (.step i)) := run?_step hc rfl
      _ = run? ⟨(t.hub.setGuard w.place false).retire id, t.calls.set i (.leaving id)⟩
            [.step i] := run?_step hc rfl
      _ = _ := run?_step hc rfl
  · exact Hub.mem_retire_self _ id
  · simp [Hub.hasKernel, Hub.unregister, Table.contains_erase]
  · rintro ⟨k, c, hk, hi⟩
    rcases of_set_call hc hk with ⟨-, rfl⟩ | ⟨-, hk⟩
    · cases hi.1
    · exact ⟨k, c, hk, hi⟩

/-- The registry, the id map and the retired ids agree in every run in which no shutdown is
misled, and what has been retired and has left the registry stays out of both; and from where
a shutdown is about to be misled, its steps alone lead to where they disagree. -/
theorem coherent_unless_misled {h : Hub} {es : List Event} {t : Traffic} (hu : h.Unused)
    (hr : run? ⟨h, []⟩ es = some t) :
    (Straight ⟨h, []⟩ es → t.Coherent ∧
      ∀ fs u, t.Straight fs → run? t fs = some u → ∀ id ∈ t.hub.retired,
        t.hub.hasKernel id = false → id ∈ u.hub.retired ∧ u.hub.hasKernel id = false ∧
          Table.find? id u.hub.idMap = none) ∧
    (∀ i, t.Misled (.step i) →
      ∃ u, run? t (List.replicate 5 (.step i)) = some u ∧ ¬ u.Coherent) := by
  have ht₀ : Reachable ⟨h, []⟩ := reachable_unused hu
  have ht : t.Reachable := reachable_run ht₀ hr
  refine ⟨fun hst => ?_, fun i hm => ?_⟩
  · have hh₀ : Honest ⟨h, []⟩ :=
      ⟨fun id hi => by simp [hu.retired] at hi, (fun i id hc => nomatch hc),
        fun i w id hc => nomatch hc⟩
    have hh : t.Honest := honest_run ht₀ hh₀ hst hr
    refine ⟨coherent_of_honest ht hh, fun fs u hfs hfr id hi hk => ?_⟩
    have hback : id ∈ u.hub.retired ∧ u.hub.hasKernel id = false := by
      refine run_induct (P := fun v => id ∈ v.hub.retired ∧ v.hub.hasKernel id = false)
        (fun v v' e _ hv hs => ?_) ht ⟨hi, hk⟩ hfr
      obtain ⟨hi', hk'⟩ := retired_shift hs hv.1
      exact ⟨hi', hk' hv.2⟩
    exact ⟨hback.1, hback.2, ((honest_run ht hh hfs hfr).retired id hback.1).2⟩
  · obtain ⟨u, id, hur, hi, hk, hmap, hiss, hsp⟩ := misled_run (placed_of_reachable ht) hm
    refine ⟨u, hur, fun hco => hsp ⟨hiss (hco.retired id hi), ?_⟩⟩
    rw [← hmap]
    exact hco.gone id hi hk

/-! ## Two runs -/

/-- Does the event let a shutdown find its record dead and unbound? -/
def findsDead (t : Traffic) : Event → Bool
  | .step i =>
    match t.calls[i]? with
    | some (.working ⟨_, p, .entered⟩ (.shutDown _)) =>
      (t.hub.record? p).any fun r => r.state = .dead ∧ r.binding = none
    | _ => false
  | _ => false

/-- Does no shutdown find its record dead and unbound? -/
def undisturbed (t : Traffic) : List Event → Bool
  | [] => true
  | e :: es => !t.findsDead e && ((t.next? e).all fun u => u.undisturbed es)

theorem straight_of_undisturbed {es : List Event} (hu : t.undisturbed es = true) :
    t.Straight es := by
  induction es generalizing t with
  | nil => trivial
  | cons e es ih =>
    simp only [undisturbed, Bool.and_eq_true, Bool.not_eq_true'] at hu
    refine ⟨?_, fun u hn => ih (by simpa [hn] using hu.2)⟩
    rintro ⟨i, ⟨job, p, ph⟩, id, r, rfl, hc, hph, hr, hst, hb, -⟩
    simp only at hph hr
    subst hph
    simp [findsDead, hc, hr, hst, hb] at hu

/-- A start that its host refuses while a shutdown waits for the record. -/
def refusedStart : List Event :=
  [.ask (.start (some "python3") { id := some .zero } .zero), .step 0, .step 0, .step 0, .step 0,
    .step 0, .ask (.kernel .zero (.shutdown false)), .step 1, .step 1,
    .answer 0 (.refused (.failed "no")), .step 0, .step 0, .step 0, .step 0]

/-- Another start of the id, which succeeds. -/
def secondStart : List Event :=
  [.ask (.start (some "python3") { id := some .zero } .zero), .step 2, .step 2, .step 2, .step 2,
    .step 2, .answer 2 (.started "k"), .step 2, .step 2, .step 2, .step 2, .step 2]

/-- The shutdown that waited goes on to its end. -/
def lateShutdown : List Event := .step 1 :: List.replicate 5 (.step 1)

theorem coherent_until_misled :
    (∃ t, run? ⟨pythonHub, []⟩ (twoStarts ++ thirdShutdown) = some t ∧ t.Coherent) ∧
    ∃ t u, run? ⟨pythonHub, []⟩ (refusedStart ++ [.step 1]) = some t ∧
      run? t (List.replicate 5 (.step 1)) = some u ∧ ¬ u.Coherent := by
  have straight {t : Traffic} (hr : run? ⟨pythonHub, []⟩ (twoStarts ++ thirdShutdown) = some t) :
      t.Coherent :=
    ((coherent_unless_misled ⟨rfl, rfl, rfl, rfl⟩ hr).1 (straight_of_undisturbed rfl)).1
  have misled {t : Traffic} (hr : run? ⟨pythonHub, []⟩ (refusedStart ++ [.step 1]) = some t)
      (hc : t.calls = [.ended (.error (.operationFailed .zero .start (.failed "no"))),
        .working ⟨.shutdown false, 0, .entered⟩ (.shutDown .zero)])
      (hd : t.hub.record? 0 = some ⟨.zero, "python3", .dead, none, true⟩) :
      ∃ u, run? t (List.replicate 5 (.step 1)) = some u ∧ ¬ u.Coherent := by
    refine (coherent_unless_misled ⟨rfl, rfl, rfl, rfl⟩ hr).2 1
      ⟨1, ⟨.shutdown false, 0, .entered⟩, .zero, ⟨.zero, "python3", .dead, none, true⟩, rfl, ?_,
        rfl, hd, rfl, rfl, ?_⟩
    · rw [hc]
      rfl
    · rintro ⟨⟨i, c, hi, hw⟩, -⟩
      rw [hc] at hi
      match i with
      | 0 => cases hi; cases hw.1
      | 1 => cases hi; cases hw.1
      | n + 2 => cases hi
  refine ⟨⟨_, rfl, straight rfl⟩, ?_⟩
  obtain ⟨u, hu⟩ := misled rfl rfl rfl
  exact ⟨_, u, rfl, hu⟩

/-- The kernel of a start that succeeded is mapped and bound, and no longer registered. -/
theorem started_kernel_orphaned :
    ∃ t, run? ⟨pythonHub, []⟩ (refusedStart ++ secondStart ++ lateShutdown) = some t ∧
      t.calls[2]? = some (.ended (.ok (.started .zero))) ∧
      Table.find? KernelId.zero t.hub.idMap = some ⟨.home, "k"⟩ ∧
      (t.hub.record? 1).map (·.binding) = some (some ⟨.home, "k"⟩) ∧
      t.hub.hasKernel .zero = false ∧ ¬ t.Coherent := by
  have key {t : Traffic} (hm : Table.find? KernelId.zero t.hub.idMap = some ⟨.home, "k"⟩)
      (hk : Table.find? KernelId.zero t.hub.registry = none) : ¬ t.Coherent := by
    intro hco
    obtain ⟨p, r, hr, -⟩ := hco.mapped _ _ hm
    cases hk.symm.trans hr
  exact ⟨_, rfl, rfl, rfl, rfl, rfl, key rfl rfl⟩

end Traffic

end KernelHub
