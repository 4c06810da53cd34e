import KernelHub.Proofs.Hosted.Accounts

/-
Hosts that lose kernels. A host may drop a kernel that nobody has shut down, as if it had
crashed, and the hub hears of it only when it asks the next time. A record then stands for a
kernel that its host does not have; but still no two records stand for the same one, because
an id that was taken once is never given to another record.
-/

namespace KernelHub.Hosted

/-- What can happen when hosts lose kernels. -/
inductive Incident
  | event (e : Event)
  /-- A host loses the kernel that it has under an id. -/
  | loss (side : Side) (d : String)

/-- The state after an incident, if it is possible. -/
def after? (s : Hosted) : Incident → Option Hosted
  | .event e => s.next? e
  | .loss side d => some (s.setHost side ((s.hosts side).kill d).1)

/-- The state after some incidents, if they are possible. -/
def afterAll? : Hosted → List Incident → Option Hosted
  | s, [] => some s
  | s, x :: xs => (s.after? x).bind fun s => afterAll? s xs

/-- Hosts that never had a kernel, one on each side. -/
def Blank (hosts : Side → Memory.Host) : Prop :=
  ∀ side, (hosts side).side = side ∧ (hosts side).kernels = [] ∧ (hosts side).live = [] ∧
    (hosts side).overlaps = 0

/-- What an unused hub over blank hosts can come to, when the hosts may lose kernels. -/
def Possible (s : Hosted) : Prop :=
  ∃ h hosts xs, h.Unused ∧ Blank hosts ∧ afterAll? ⟨⟨h, []⟩, hosts, [], []⟩ xs = some s

variable {s s' : Hosted} {m m' : Nat → Option Binding}

theorem afterAll?_append (s : Hosted) (xs ys : List Incident) :
    afterAll? s (xs ++ ys) = (afterAll? s xs).bind fun s => afterAll? s ys := by
  induction xs generalizing s with
  | nil => rfl
  | cons x xs ih =>
    simp only [List.cons_append, afterAll?]
    cases s.after? x with
    | none => rfl
    | some s => simp [ih]

theorem possible_after {x : Incident} (hs : s.Possible) (hx : s.after? x = some s') :
    s'.Possible := by
  obtain ⟨h, hosts, xs, hu, hb, hr⟩ := hs
  refine ⟨h, hosts, xs ++ [x], hu, hb, ?_⟩
  rw [afterAll?_append, hr]
  simp [afterAll?, hx]

theorem possible_afterAll {xs : List Incident} (hs : s.Possible) (hx : afterAll? s xs = some s') :
    s'.Possible := by
  induction xs generalizing s with
  | nil => cases hx; exact hs
  | cons x xs ih =>
    obtain ⟨u, hu, hx⟩ := Option.bind_eq_some_iff.1 hx
    exact ih (possible_after hs hu) hx

/-- What holds of an unused hub over blank hosts, and is kept by every incident, holds of all
that they can come to. -/
theorem possible_induct {P : Hosted → Prop}
    (base : ∀ h hosts, h.Unused → Blank hosts → P ⟨⟨h, []⟩, hosts, [], []⟩)
    (step : ∀ s s' x, s.Possible → P s → s.after? x = some s' → P s') (hs : s.Possible) : P s := by
  obtain ⟨h, hosts, xs, hu, hb, hr⟩ := hs
  have run {xs : List Incident} {s s' : Hosted} (hs : s.Possible ∧ P s)
      (hr : afterAll? s xs = some s') : P s' := by
    induction xs generalizing s with
    | nil => cases hr; exact hs.2
    | cons x xs ih =>
      obtain ⟨u, hx, hr⟩ := Option.bind_eq_some_iff.1 hr
      exact ih ⟨possible_after hs.1 hx, step _ _ _ hs.1 hs.2 hx⟩ hr
  exact run ⟨⟨h, hosts, [], hu, hb, rfl⟩, base h hosts hu hb⟩ hr

/-- A loss changes nothing but one host's table. -/
theorem carried_after {x : Incident} (hx : s.after? x = some s') (hc : s.Carried) :
    s'.Carried := by
  cases x with
  | event e => exact carried_shift (shift_of_next? hx) hc
  | loss => cases hx; exact hc

theorem sided_after {x : Incident} (hx : s.after? x = some s') (hsd : s.Sided) : s'.Sided := by
  cases x with
  | event e => exact sided_shift hsd (shift_of_next? hx)
  | loss side d => cases hx; exact sided_setHost hsd (hsd side)

/-- No two records stand for one kernel. -/
structure Distinct (s : Hosted) (m : Nat → Option Binding) : Prop where
  standing : s.Standing m
  form : s.Formed m
  unique : ∀ p q b, m p = some b → m q = some b → p = q

/-- A question or an answer comes to its place, which is no start that went well. -/
theorem distinct_transit {i : Nat} {x : Transit} {hosts : Side → Memory.Host} {drawn : List Uuid}
    (hd : s.Distinct m)
    (hx : ∀ w a b, s.traffic.calls[i]? = some (.working w a) →
      w.phase.stands (some x) b = w.phase.stands (Table.find? i s.transits) b)
    (hdr : ∀ u ∈ s.drawn, u ∈ drawn) :
    Distinct ⟨s.traffic, hosts, Table.set i x s.transits, drawn⟩ m :=
  ⟨standing_transit hd.standing hx, fun p b r hb hr =>
    (hd.form p b r hb hr).imp_right fun ⟨u, hu, hf⟩ => ⟨u, hdr u hu, hf⟩, hd.unique⟩

theorem distinct_finished {i : Nat} {side : Side} {f : Memory.Flight} {now : Instant}
    {fresh : Uuid} {h : Memory.Host} {a : Answer} (hr : s.traffic.Reachable) (hca : s.Carried)
    (hsd : s.Sided) (hd : s.Distinct m) (hi : Table.find? i s.transits = some (.accepted side f))
    (hn : fresh ∉ s.drawn) (hf : (s.hosts side).finish now fresh f = (h, a)) :
    ∃ m', Distinct { (s.setHost side h).setTransit i (.answered a) with
      drawn := fresh :: s.drawn } m' := by
  obtain ⟨side', q, hq, hcar⟩ := hca i _ hi
  obtain ⟨rfl, hof⟩ := hcar side f rfl
  have hx (b : Answer) : Table.find? i s.transits ≠ some (.answered b) :=
    fun hb => nomatch hi.symm.trans hb
  -- All ends but that of a start that went well.
  have quiet (hs : (∃ e, a = .refused e) ∨ ∀ name o, q ≠ .start name o) :
      Distinct { (s.setHost side h).setTransit i (.answered a) with
        drawn := fresh :: s.drawn } m := by
    refine distinct_transit (s := s) hd (fun w b c hc => ?_) fun u hu => List.mem_cons_of_mem _ hu
    rw [hi, (Work.accepted_told w.phase side f c).1]
    rcases hs with ⟨e, rfl⟩ | hs
    · exact (Work.refused_told w.phase e c).1
    · exact Work.stands_told (request?_of_asked? hq hc) hs _ _ c
  cases q with
  | start name o =>
    cases f with
    | start name' o' =>
      obtain ⟨rfl, rfl⟩ := hof
      rcases Memory.Host.finish_start hf with ⟨e, rfl, -⟩ | ⟨d, k, rfl, -, -, hd'⟩
      · exact ⟨m, quiet (.inl ⟨e, rfl⟩)⟩
      · rw [hsd side] at hd'
        obtain ⟨w, b, -, -, -, hst, hform, hu⟩ :=
          standing_started hr hd.standing hd.form hd.unique hq hx hn hd'
        exact ⟨_, hst, hform, hu⟩
    | _ => cases hof
  | _ => exact ⟨m, quiet (.inr nofun)⟩

theorem distinct_own {e : Traffic.Event} {t : Traffic} (hr : s.traffic.Reachable)
    (hca : s.Carried) (hd : s.Distinct m) (ht : s.traffic.next? e = some t)
    (he : ∀ i a, e ≠ .answer i a) : ∃ m', Distinct { s with traffic := t } m' := by
  obtain ⟨m', hst, hsame⟩ := standing_own hr hca hd.standing ht he
  refine ⟨m', hst, fun p b r' hb hr' => ?_, fun p q b hp hq =>
    hd.unique p q b (hsame.fewer p b hp) (hsame.fewer q b hq)⟩
  obtain ⟨r, hrec⟩ := hd.standing.known p b (hsame.fewer p b hb)
  obtain ⟨r₁, hr₁, hid, -⟩ := Traffic.record?_shift (Traffic.shift_of_reachable hr ht) hrec
  cases hr'.symm.trans hr₁
  rw [hid]
  exact hd.form p b r (hsame.fewer p b hb) hrec

theorem distinct_delivered {i : Nat} {a : Answer} {t : Traffic} (hr : s.traffic.Reachable)
    (hd : s.Distinct m) (hi : Table.find? i s.transits = some (.answered a))
    (ht : s.traffic.next? (.answer i a) = some t) :
    Distinct { s with traffic := t, transits := Table.erase i s.transits } m := by
  simp only [Traffic.next?] at ht
  split at ht
  · cases ht
  · next c hc =>
    split at ht
    · next hq =>
      obtain ⟨c', hs, rfl⟩ := Option.map_eq_some_iff.1 ht
      exact ⟨standing_heard hr hd.standing hi hc hq hs, hd.form, hd.unique⟩
    · cases ht

theorem distinct_shift (hr : s.traffic.Reachable) (hca : s.Carried) (hsd : s.Sided)
    (hd : s.Distinct m) (hs : s.Shift s') : ∃ m', s'.Distinct m' := by
  cases hs with
  | own ht he => exact distinct_own hr hca hd ht he
  | told hq hi _ hn =>
    refine ⟨m, distinct_transit (s := s) hd (fun w b c hc => ?_) fun u hu => hu⟩
    exact Work.stands_told (request?_of_asked? hq hc) hn _ _ c
  | @taken i side q h f hq hi =>
    refine ⟨m, distinct_transit (s := s) hd (fun w b c hc => ?_) fun u hu => hu⟩
    rw [hi]
    exact (Work.accepted_told w.phase side f c).1
  | finished hi hn hf => exact distinct_finished hr hca hsd hd hi hn hf
  | delivered hi ht => exact ⟨m, distinct_delivered hr hd hi ht⟩
  | control =>
    exact ⟨m, ⟨hd.standing.inside, hd.standing.outside, hd.standing.known⟩, hd.form, hd.unique⟩

theorem distinct_after {x : Incident} (hr : s.traffic.Reachable) (hca : s.Carried)
    (hsd : s.Sided) (hd : s.Distinct m) (hx : s.after? x = some s') :
    s'.traffic.Reachable ∧ ∃ m', s'.Distinct m' := by
  cases x with
  | event e =>
    have hsh := shift_of_next? hx
    exact ⟨reachable_shift hsh hr, distinct_shift hr hca hsd hd hsh⟩
  | loss =>
    cases hx
    exact ⟨hr, m, ⟨hd.standing.inside, hd.standing.outside, hd.standing.known⟩, hd.form,
      hd.unique⟩

/-- In all that an unused hub over blank hosts can come to, no two records stand for one
kernel. -/
theorem distinct_of_possible (hs : s.Possible) :
    s.traffic.Reachable ∧ s.Carried ∧ ∃ m, s.Distinct m := by
  have base (h : Hub) (hosts : Side → Memory.Host) (hu : h.Unused) :
      Distinct ⟨⟨h, []⟩, hosts, [], []⟩ fun _ => none := by
    refine ⟨⟨(fun i w a r hw => by cases hw), fun p r hr => ?_, (by simp)⟩,
      (fun _ _ _ hb => by cases hb), (by simp)⟩
    simp [hub, Hub.record?, hu.records] at hr
  obtain ⟨hr, hca, -, hd⟩ := possible_induct
    (P := fun s => s.traffic.Reachable ∧ s.Carried ∧ s.Sided ∧ ∃ m, s.Distinct m)
    (fun h hosts hu hb => ⟨Traffic.reachable_unused hu, (fun i x hx => by cases hx),
      fun side => (hb side).1, _, base h hosts hu⟩)
    (fun s s' x _ hp hx => by
      obtain ⟨hr, hca, hsd, m, hd⟩ := hp
      obtain ⟨hr', hd'⟩ := distinct_after hr hca hsd hd hx
      exact ⟨hr', carried_after hx hca, sided_after hx hsd, hd'⟩) hs
  exact ⟨hr, hca, hd⟩

end KernelHub.Hosted
