import KernelHub.Proofs.Traffic.Issue

/-
Guards. At most one call is inside the guard of a record, and only the call inside
changes the record; so what a call knows of its record's binding stays true while it
waits for answers.
-/

namespace KernelHub

namespace Hub

theorem record?_edit_self (h : Hub) (p : Nat) (f : Record → Record) :
    (h.edit p f).record? p = (h.record? p).map f := by simp [record?_edit]

theorem hasSide_congr {h h' : Hub} (hr : h'.hasRemote = h.hasRemote) (s : Side) :
    h'.hasSide s = h.hasSide s := by
  cases s
  · rfl
  · exact hr

end Hub

/-- Is the job the start of a record? -/
def Job.Starts (job : Job) : Prop := ∃ o, job = .start o

namespace Work

variable {h h' : Hub} {w w' : Work} {r r' : Record}

theorem inside_enter {job s p} (he : Entry h r job s p) : p.inside = true := by
  cases he <;> rfl

theorem inside_heard {job p p'} (hh : Heard r job p p') : p.inside = true ∧ p'.inside = true := by
  cases hh with
  | @crashed job p hp => cases p <;> first | exact ⟨rfl, rfl⟩ | cases hp
  | _ => exact ⟨rfl, rfl⟩

/-- A turn takes the guard, stays inside, or gives it back. -/
theorem guard_turn (hr : h.record? w.place = some r) (ht : w.Turn h r h' w')
    (hr' : h'.record? w.place = some r') :
    w.phase.inside = false ∧ r.guarded = false ∧ r'.guarded = true ∨
      w.phase.inside = true ∧ w'.phase.inside = true ∧ r'.guarded = r.guarded ∨
      w.phase.inside = true ∧ w'.phase.inside = false := by
  cases ht with
  | take hp hg =>
    simp only [Hub.setGuard, Hub.record?_edit_self, hr, Option.map_some, Option.some.injEq] at hr'
    subst hr'
    exact .inl ⟨by rw [hp]; rfl, hg, rfl⟩
  | release hp => exact .inr (.inr ⟨by rw [hp]; rfl, rfl⟩)
  | @enter s p hp he =>
    refine .inr (.inl ⟨by rw [hp]; rfl, inside_enter he, ?_⟩)
    cases s with
    | none => cases hr.symm.trans hr'; rfl
    | some s =>
      simp only [writeState, Hub.setState, Hub.record?_edit_self, hr, Option.map_some,
        Option.some.injEq] at hr'
      subst hr'
      rfl
  | map hp | unmap hp =>
    cases hr.symm.trans hr'
    exact .inr (.inl ⟨by rw [hp]; rfl, rfl, rfl⟩)
  | bind hp | unbind hp | settle hp =>
    simp only [Hub.setBinding, Hub.setState, Hub.record?_edit_self, hr, Option.map_some,
      Option.some.injEq] at hr'
    subst hr'
    exact .inr (.inl ⟨by rw [hp]; rfl, rfl, rfl⟩)

/-- What a phase says of the binding of its record. -/
def Phase.Fits (h : Hub) (r : Record) (job : Job) : Phase → Prop
  | .waiting | .entered => job.Starts → r.binding = none
  | .calling side q =>
    (∃ o, job = .start o ∧ q = .start r.name o ∧ h.hasSide side = true ∧ r.binding = none) ∨
      ∃ b s, r.binding = some b ∧ side = b.side ∧ job.asks b = some (q, s)
  | .probing b _ => r.binding = some b
  | .mapping b | .binding b => r.binding = none ∧ h.hasSide b.side = true
  | .unmapping | .unbinding => ∃ b, r.binding = some b
  | .settling _ res | .releasing res => job.Starts → (r.binding = none ↔ ∃ e, res = .error e)
  | .ended res => job.Starts → (∃ e, res = .error e) → r.binding = none

/-- The binding after a turn that is taken in this phase. -/
def Phase.rebind : Phase → Option Binding → Option Binding
  | .binding b, _ => some b
  | .unbinding, _ => none
  | _, b => b

theorem binding_turn (hr : h.record? w.place = some r) (ht : w.Turn h r h' w')
    (hr' : h'.record? w.place = some r') : r'.binding = w.phase.rebind r.binding := by
  cases ht with
  | @enter s p hp he =>
    rw [hp]
    cases s with
    | none => cases hr.symm.trans hr'; rfl
    | some s =>
      simp only [writeState, Hub.setState, Hub.record?_edit_self, hr, Option.map_some,
        Option.some.injEq] at hr'
      subst hr'
      rfl
  | map hp | unmap hp =>
    rw [hp]
    cases hr.symm.trans hr'
    rfl
  | take hp | bind hp | unbind hp | settle hp | release hp =>
    simp only [Hub.setGuard, Hub.setState, Hub.setBinding, Hub.record?_edit_self, hr,
      Option.map_some, Option.some.injEq] at hr'
    subst hr'
    rw [hp]
    rfl

/-- Only starts bind. -/
theorem rebind_of_not_starts {id : KernelId} {job : Job} {p : Phase} (hty : p.Typed id job)
    (hj : ¬ job.Starts) (b : Option Binding) : p.rebind b = b ∨ p.rebind b = none := by
  cases p with
  | binding c => exact absurd hty hj
  | unbinding => exact .inr rfl
  | _ => exact .inl rfl

theorem fits_congr {job : Job} {p : Phase} (hf : p.Fits h r job) (hs : h'.hasRemote = h.hasRemote)
    (hn : r'.name = r.name) (hb : r'.binding = r.binding) : p.Fits h' r' job := by
  have hside := Hub.hasSide_congr hs
  cases p <;> simpa only [Phase.Fits, hn, hb, hside] using hf

/-- What work outside the guard knows survives all but a start. -/
theorem fits_outside {job : Job} {p : Phase} (hf : p.Fits h r job) (hp : p.inside = false)
    (hb : job.Starts → r'.binding = r.binding ∨ r'.binding = none) : p.Fits h' r' job := by
  have keep (hj : job.Starts) (hn : r.binding = none) : r'.binding = none := by
    rcases hb hj with hb | hb
    · rw [hb, hn]
    · exact hb
  cases p with
  | waiting => exact fun hj => keep hj (hf hj)
  | ended res => exact fun hj he => keep hj (hf hj he)
  | _ => cases hp

theorem fits_enter {job s p} (he : Entry h r job s p) (hf : job.Starts → r.binding = none) :
    p.Fits h r job := by
  cases he with
  | refused => exact fun hj => ⟨fun _ => ⟨_, rfl⟩, fun _ => hf hj⟩
  | began hs hh => exact .inl ⟨_, rfl, rfl, hh, hf ⟨_, rfl⟩⟩
  | homeless => exact fun hj => ⟨fun _ => ⟨_, rfl⟩, fun _ => hf hj⟩
  | gone => exact fun hj => by obtain ⟨o, ho⟩ := hj; cases ho
  | asked hb hh hq hs => exact .inr ⟨_, _, hb, rfl, hq⟩

theorem fits_turn (hr : h.record? w.place = some r) (ht : w.Turn h r h' w')
    (hr' : h'.record? w.place = some r') (hty : w.phase.Typed r.id w.job)
    (hf : w.phase.Fits h r w.job) : w'.phase.Fits h' r' w'.job := by
  have hfr := frame_turn hr ht
  have hn : r'.name = r.name := by
    obtain ⟨r₀, hr₀, -, hn⟩ := hfr.record
    cases hr'.symm.trans hr₀
    exact hn
  have hb := binding_turn hr ht hr'
  cases ht with
  | take hp hg =>
    rw [hp] at hf hb
    exact fits_congr (p := .entered) hf rfl hn hb
  | @enter s p hp he =>
    rw [hp] at hf hb
    exact fits_congr (fits_enter he hf) hfr.hasRemote hn hb
  | @map b hp =>
    rw [hp] at hf hb
    exact fits_congr (p := .binding b) hf rfl hn hb
  | unmap hp =>
    rw [hp] at hf hb
    exact fits_congr (p := .unbinding) hf rfl hn hb
  | bind hp =>
    rw [hp] at hb
    intro _
    simp [show r'.binding = some _ from hb]
  | unbind hp =>
    rw [hp] at hty
    obtain ⟨now, hj⟩ := hty
    rintro ⟨o, ho⟩
    cases hj.symm.trans ho
  | @settle s res hp =>
    rw [hp] at hf hb
    exact fits_congr (p := .releasing res) hf rfl hn hb
  | release hp =>
    rw [hp] at hf hb
    intro hj he
    rw [show r'.binding = r.binding from hb]
    exact (hf hj).2 he

theorem not_starts_of_asks {job : Job} {b : Binding} {q : Request × Option KernelState}
    (hq : job.asks b = some q) : ¬ job.Starts := by
  rintro ⟨o, rfl⟩
  cases hq

theorem fits_heard {job p p'} (hh : Heard r job p p') (hty : p.Typed r.id job)
    (hf : p.Fits h r job) : p'.Fits h r job := by
  cases hh with
  | @crashed job p hp =>
    intro hj
    refine ⟨fun _ => ⟨_, rfl⟩, fun _ => ?_⟩
    cases p with
    | calling side q =>
      rcases hf with ⟨o, -, -, -, hb⟩ | ⟨b, s, -, -, hq⟩
      · exact hb
      · exact absurd hj (not_starts_of_asks hq)
    | probing b e =>
      obtain ⟨now, rfl⟩ := hty
      obtain ⟨o, ho⟩ := hj
      cases ho
    | _ => cases hp
  | started =>
    rcases hf with ⟨o, -, -, hs, hb⟩ | ⟨b, s, -, -, hq⟩
    · exact ⟨hb, hs⟩
    · cases hq
  | unstarted =>
    rcases hf with ⟨o, -, -, -, hb⟩ | ⟨b, s, -, -, hq⟩
    · exact fun _ => ⟨fun _ => ⟨_, rfl⟩, fun _ => hb⟩
    · cases hq
  | stopped =>
    rcases hf with ⟨o, ho, -⟩ | ⟨b, s, hb, -⟩
    · cases ho
    · exact ⟨b, hb⟩
  | unrestarted =>
    rcases hf with ⟨o, ho, -⟩ | ⟨b, s, hb, rfl, hq⟩
    · cases ho
    · cases hq
      exact hb
  | probed =>
    obtain ⟨now, rfl⟩ := hty
    rintro ⟨o, ho⟩
    cases ho
  | unstopped | interrupted | restarted | told =>
    rintro ⟨o, ho⟩
    cases ho

end Work

namespace Traffic

variable {t t' : Traffic}

/-- Who is inside a guard, and what work knows of its record. -/
structure Guarded (t : Traffic) : Prop where
  exclusive : ∀ (i j : Nat) (w v : Work) (a b : Call.After), t.calls[i]? = some (.working w a) →
    t.calls[j]? = some (.working v b) → w.place = v.place → w.phase.inside = true →
    v.phase.inside = true → i = j
  guarded : ∀ (i : Nat) (w : Work) (a : Call.After) (r : Record),
    t.calls[i]? = some (.working w a) → w.phase.inside = true →
    t.hub.record? w.place = some r → r.guarded = true
  fits : ∀ (i : Nat) (w : Work) (a : Call.After) (r : Record), t.calls[i]? = some (.working w a) →
    t.hub.record? w.place = some r → w.phase.Fits t.hub r w.job
  sided : ∀ (p : Nat) (r : Record) (b : Binding), t.hub.record? p = some r → r.binding = some b →
    t.hub.hasSide b.side = true

/-- Two starts at one place are one. -/
theorem start_unique (hpl : t.Placed) (hcl : t.Claimed) {i j : Nat} {w v : Work}
    {a b : Call.After} (hw : t.calls[i]? = some (.working w a))
    (hv : t.calls[j]? = some (.working v b)) (hp : w.place = v.place) (hsw : w.job.Starts)
    (hsv : v.job.Starts) : i = j := by
  have claims {u : Work} {c : Call.After} {r : Record} (hs : Call.Suits r.id u.job c)
      (hu : u.job.Starts) : (Call.working u c).Claims r.id := by
    obtain ⟨o, ho⟩ := hu
    rw [ho] at hs
    cases hs with
    | start => rfl
    | other _ hn => exact absurd rfl (hn o)
  obtain ⟨r, hr, hsu, -⟩ := hpl.working i w a hw
  obtain ⟨r₀, hr₀, hsu₀, -⟩ := hpl.working j v b hv
  rw [← hp] at hr₀
  cases hr.symm.trans hr₀
  exact hcl.unique i j _ _ r.id hw hv (claims hsu hsw) (claims hsu₀ hsv)

/-- A call that goes on without touching a record. -/
theorem guarded_set {i : Nat} {c c' : Call} {h' : Hub} (hp : t.Guarded) (hc : t.calls[i]? = some c)
    (hrec : h'.records = t.hub.records) (hrem : h'.hasRemote = t.hub.hasRemote)
    (hin : ∀ w a, c' = .working w a → w.phase.inside = true →
      ∃ v, c = .working v a ∧ v.place = w.place ∧ v.phase.inside = true)
    (hfit : ∀ w a r, c' = .working w a → t.hub.record? w.place = some r →
      w.phase.Fits t.hub r w.job) : Guarded ⟨h', t.calls.set i c'⟩ := by
  have hr (p : Nat) : h'.record? p = t.hub.record? p := by simp [Hub.record?, hrec]
  -- A call inside now was inside at the same place before.
  have hback {j : Nat} {w : Work} {a : Call.After}
      (hw : (t.calls.set i c')[j]? = some (.working w a)) (hi : w.phase.inside = true) :
      ∃ v, t.calls[j]? = some (.working v a) ∧ v.place = w.place ∧ v.phase.inside = true := by
    rcases of_set_call hc hw with ⟨rfl, he⟩ | ⟨-, hw⟩
    · obtain ⟨v, rfl, hv⟩ := hin w a he hi
      exact ⟨v, hc, hv⟩
    · exact ⟨w, hw, rfl, hi⟩
  refine ⟨fun j k w v a b hw hv hpl hiw hiv => ?_, fun j w a r hw hi hrw => ?_,
    fun j w a r hw hrw => ?_, fun p r b hrp hb => ?_⟩
  · obtain ⟨w₀, hw₀, hpw, hiw⟩ := hback hw hiw
    obtain ⟨v₀, hv₀, hpv, hiv⟩ := hback hv hiv
    exact hp.exclusive j k w₀ v₀ a b hw₀ hv₀ (hpw.trans (hpl.trans hpv.symm)) hiw hiv
  · obtain ⟨w₀, hw₀, hpw, hiw⟩ := hback hw hi
    exact hp.guarded j w₀ a r hw₀ hiw (by rw [hpw, ← hr]; exact hrw)
  · rw [hr] at hrw
    refine Work.fits_congr ?_ hrem rfl rfl
    rcases of_set_call hc hw with ⟨-, he⟩ | ⟨-, hw⟩
    · exact hfit w a r he hrw
    · exact hp.fits j w a r hw hrw
  · rw [hr] at hrp
    rw [Hub.hasSide_congr hrem]
    exact hp.sided p r b hrp hb

theorem guarded_register {i : Nat} {c : Call} {id : KernelId} {name : String}
    {o : StartOptions} (hpl : t.Placed) (hp : t.Guarded) (hc : t.calls[i]? = some c) :
    Guarded ⟨t.hub.enroll id name,
      t.calls.set i (.working { job := .start o, place := t.hub.records.length }
        (.started id))⟩ := by
  have hrem : (t.hub.enroll id name).hasRemote = t.hub.hasRemote := rfl
  -- Work of before has a record of before, which is as it was.
  have hold {j : Nat} {w : Work} {a : Call.After} (hw : t.calls[j]? = some (.working w a))
      {r : Record} (hr : (t.hub.enroll id name).record? w.place = some r) :
      t.hub.record? w.place = some r := by
    obtain ⟨r₀, hr₀, -⟩ := hpl.working j w a hw
    have hne := Nat.ne_of_lt (Hub.lt_length_of_record? hr₀)
    rwa [Hub.record?_enroll, if_neg hne] at hr
  refine ⟨fun j k w v a b hw hv hpe hiw hiv => ?_, fun j w a r hw hi hrw => ?_,
    fun j w a r hw hrw => ?_, fun p r b hrp hb => ?_⟩
  · rcases of_set_call hc hw with ⟨-, he⟩ | ⟨-, hw⟩
    · cases he
      cases hiw
    · rcases of_set_call hc hv with ⟨-, he⟩ | ⟨-, hv⟩
      · cases he
        cases hiv
      · exact hp.exclusive j k w v a b hw hv hpe hiw hiv
  · rcases of_set_call hc hw with ⟨-, he⟩ | ⟨-, hw⟩
    · cases he
      cases hi
    · exact hp.guarded j w a r hw hi (hold hw hrw)
  · rcases of_set_call hc hw with ⟨-, he⟩ | ⟨-, hw⟩
    · cases he
      simp only [Hub.record?_enroll, if_true, Option.some.injEq] at hrw
      subst hrw
      exact fun _ => rfl
    · exact Work.fits_congr (hp.fits j w a r hw (hold hw hrw)) hrem rfl rfl
  · rw [Hub.record?_enroll] at hrp
    split at hrp
    · cases hrp
      cases hb
    · rw [Hub.hasSide_congr hrem]
      exact hp.sided p r b hrp hb

/-- Of the calls inside, each has its record to itself, and has marked it. -/
structure Exclusive (t : Traffic) : Prop where
  exclusive : ∀ (i j : Nat) (w v : Work) (a b : Call.After), t.calls[i]? = some (.working w a) →
    t.calls[j]? = some (.working v b) → w.place = v.place → w.phase.inside = true →
    v.phase.inside = true → i = j
  guarded : ∀ (i : Nat) (w : Work) (a : Call.After) (r : Record),
    t.calls[i]? = some (.working w a) → w.phase.inside = true →
    t.hub.record? w.place = some r → r.guarded = true

/-- Work takes no turn while another call is inside at its place. -/
theorem Exclusive.alone {i j : Nat} {w w' v : Work} {a b : Call.After} {r : Record} {h' : Hub}
    (hx : t.Exclusive) (hc : t.calls[i]? = some (.working w a))
    (hr : t.hub.record? w.place = some r) (ht : w.Turn t.hub r h' w')
    (hv : t.calls[j]? = some (.working v b)) (hpv : v.place = w.place)
    (hi : v.phase.inside = true) : i = j := by
  obtain ⟨r', hr', -⟩ := (Work.frame_turn hr ht).record
  have hin (hw : w.phase.inside = true) : i = j := hx.exclusive i j w v a b hc hv hpv.symm hw hi
  rcases Work.guard_turn hr ht hr' with ⟨-, hn, -⟩ | ⟨hw, -⟩ | ⟨hw, -⟩
  · cases (hx.guarded j v b r hv hi (hpv ▸ hr)).symm.trans hn
  · exact hin hw
  · exact hin hw

theorem alone_of_turn {i j : Nat} {w w' v : Work} {a b : Call.After} {r : Record} {h' : Hub}
    (hp : t.Guarded) (hc : t.calls[i]? = some (.working w a))
    (hr : t.hub.record? w.place = some r) (ht : w.Turn t.hub r h' w')
    (hv : t.calls[j]? = some (.working v b)) (hpv : v.place = w.place)
    (hi : v.phase.inside = true) : i = j :=
  Exclusive.alone ⟨hp.exclusive, hp.guarded⟩ hc hr ht hv hpv hi

/-- What another call knows of the record that work takes a turn on. -/
theorem fits_other {i j : Nat} {w w' v : Work} {after a : Call.After} {r r' : Record} {h' : Hub}
    (hpl : t.Placed) (hcl : t.Claimed) (hp : t.Guarded)
    (hc : t.calls[i]? = some (.working w after)) (hr : t.hub.record? w.place = some r)
    (ht : w.Turn t.hub r h' w') (hr' : h'.record? w.place = some r') (hij : i ≠ j)
    (hv : t.calls[j]? = some (.working v a)) (hpv : v.place = w.place) :
    v.phase.Fits h' r' v.job := by
  have hi : v.phase.inside = false :=
    Bool.eq_false_iff.2 fun hi => hij (alone_of_turn hp hc hr ht hv hpv hi)
  refine Work.fits_outside (hp.fits j v a r hv (hpv ▸ hr)) hi fun hj => ?_
  rw [Work.binding_turn hr ht hr']
  refine Work.rebind_of_not_starts (hpl.suits hc hr).2 (fun hs => ?_) r.binding
  exact hij (start_unique hpl hcl hc hv hpv.symm hs hj)

/-- A turn binds its record to nothing but a kernel of a host that there is. -/
theorem sided_turn {i : Nat} {w w' : Work} {after : Call.After} {r r' : Record} {h' : Hub}
    {b : Binding} (hp : t.Guarded) (hc : t.calls[i]? = some (.working w after))
    (hr : t.hub.record? w.place = some r) (ht : w.Turn t.hub r h' w')
    (hr' : h'.record? w.place = some r') (hqb : r'.binding = some b) :
    t.hub.hasSide b.side = true := by
  have hb := Work.binding_turn hr ht hr'
  have hfit := hp.fits i w after r hc hr
  cases hph : w.phase <;> rw [hph] at hb hfit
  case binding c =>
    cases hb.symm.trans hqb
    exact hfit.2
  case unbinding => cases hb.symm.trans hqb
  all_goals exact hp.sided _ r b hr (hb.symm.trans hqb)

theorem guarded_work {i : Nat} {w w' : Work} {after : Call.After} {r : Record} {h' : Hub}
    (hpl : t.Placed) (hcl : t.Claimed) (hp : t.Guarded)
    (hc : t.calls[i]? = some (.working w after)) (hr : t.hub.record? w.place = some r)
    (ht : w.Turn t.hub r h' w') : Guarded ⟨h', t.calls.set i (.working w' after)⟩ := by
  have hf := Work.frame_turn hr ht
  obtain ⟨r', hr', -⟩ := hf.record
  refine ⟨fun j k u v a b hu hv hpe hiu hiv => ?_, fun j v a q hv hi hq => ?_,
    fun j v a q hv hq => ?_, fun p q b hq hqb => ?_⟩
  · rcases of_set_call hc hu with ⟨rfl, he⟩ | ⟨hj, hu⟩ <;>
      rcases of_set_call hc hv with ⟨rfl, he'⟩ | ⟨hk, hv⟩
    · rfl
    · cases he
      exact alone_of_turn hp hc hr ht hv (hpe.symm.trans hf.place) hiv
    · cases he'
      exact (alone_of_turn hp hc hr ht hu (hpe.trans hf.place) hiu).symm
    · exact hp.exclusive j k u v a b hu hv hpe hiu hiv
  · rcases of_set_call hc hv with ⟨rfl, he⟩ | ⟨hij, hv⟩
    · cases he
      rw [hf.place, hr'] at hq
      cases hq
      rcases Work.guard_turn hr ht hr' with ⟨-, -, hg⟩ | ⟨hw, -, hg⟩ | ⟨-, hw⟩
      · exact hg
      · rw [hg]
        exact hp.guarded i w after r hc hw hr
      · simp [hw] at hi
    · have hpv : v.place ≠ w.place := fun hpv => hij (alone_of_turn hp hc hr ht hv hpv hi)
      rw [hf.others _ hpv] at hq
      exact hp.guarded j v a q hv hi hq
  · rcases of_set_call hc hv with ⟨rfl, he⟩ | ⟨hij, hv⟩
    · cases he
      rw [hf.place, hr'] at hq
      cases hq
      exact Work.fits_turn hr ht hr' (hpl.suits hc hr).2 (hp.fits i w after r hc hr)
    · by_cases hpv : v.place = w.place
      · rw [hpv, hr'] at hq
        cases hq
        exact fits_other hpl hcl hp hc hr ht hr' hij hv hpv
      · rw [hf.others _ hpv] at hq
        exact Work.fits_congr (hp.fits j v a q hv hq) hf.hasRemote rfl rfl
  · rw [Hub.hasSide_congr hf.hasRemote]
    by_cases hpp : p = w.place
    · subst hpp
      cases hr'.symm.trans hq
      exact sided_turn hp hc hr ht hr' hqb
    · rw [hf.others p hpp] at hq
      exact hp.sided p q b hq hqb

theorem guarded_shift {e : Event} (hs : t.Shift e t') (hpl : t.Placed) (hcl : t.Claimed)
    (hp : t.Guarded) : t'.Guarded := by
  cases hs with
  | aside ha =>
    obtain ⟨q, hq⟩ := ha.hub
    have hold {j : Nat} {w : Work} {a : Call.After} (hw : t'.calls[j]? = some (.working w a)) :
        t.calls[j]? = some (.working w a) := (ha.calls j _ rfl).1 hw
    have hrec (p : Nat) : t'.hub.record? p = t.hub.record? p := by rw [hq]; rfl
    have hrem : t'.hub.hasRemote = t.hub.hasRemote := by rw [hq]
    refine ⟨fun j k w v a b hw hv => ?_, fun j w a r hw hi hr => ?_, fun j w a r hw hr => ?_,
      fun p r b hr hb => ?_⟩
    · exact hp.exclusive j k w v a b (hold hw) (hold hv)
    · exact hp.guarded j w a r (hold hw) hi (hrec _ ▸ hr)
    · exact Work.fits_congr (hp.fits j w a r (hold hw) (hrec _ ▸ hr)) hrem rfl rfl
    · rw [Hub.hasSide_congr hrem]
      exact hp.sided p r b (hrec p ▸ hr) hb
  | register hc => exact guarded_register hpl hp hc
  | @seek i id job place hc hr hj =>
    refine guarded_set hp hc rfl rfl (fun w a he hi => ?_) (fun w a r he hr => ?_)
    · cases he
      cases hi
    · cases he
      rintro ⟨o, rfl⟩
      cases hj
  | work hc hr ht => exact guarded_work hpl hcl hp hc hr ht
  | @heard i w after r p a hc hr hh =>
    refine guarded_set hp hc rfl rfl (fun v b he hi => ?_) (fun v b q he hq => ?_)
    · cases he
      exact ⟨w, rfl, rfl, (Work.inside_heard hh).1⟩
    · cases he
      cases hr.symm.trans hq
      obtain ⟨-, hty⟩ := hpl.suits hc hr
      exact Work.fits_heard hh hty (hp.fits i w after r hc hr)
  | @follow i w after res hc hph =>
    refine guarded_set hp hc rfl rfl (fun v b he => ?_) (fun v b q he => ?_) <;>
      cases after <;> cases res <;> cases he
  | drop hc | retire hc | leave hc =>
    exact guarded_set hp hc rfl rfl (fun v b he => by cases he) (fun v b q he => by cases he)

theorem guarded_of_reachable (ht : t.Reachable) : t.Guarded := by
  refine reachable_induct (fun h hu => ?_)
    (fun t t' e ht hp hs =>
      guarded_shift hs (placed_of_reachable ht) (claimed_of_reachable ht) hp) ht
  refine ⟨(fun i j w v a b hw => nomatch hw), (fun i w a r hw => nomatch hw),
    (fun i w a r hw => nomatch hw), fun p r b hr hb => ?_⟩
  simp [Hub.record?, hu.records] at hr

end Traffic

end KernelHub
