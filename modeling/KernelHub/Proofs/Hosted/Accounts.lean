import KernelHub.Proofs.Hosted.Standing

/-
What the hosts have, and what the records stand for. Each kernel of a host has one record
that stands for it, and but for those that are being shut down each record that stands for
a kernel finds it at its host.
-/

namespace KernelHub

namespace Work

variable {h : Hub} {w w' : Work} {r : Record} {side : Side} {q : Request}

/-- What has become of a question matters only when it is a start's or a shutdown's. -/
theorem stands_told (hq : w.request? = some (side, q)) (hs : ∀ name o, q ≠ .start name o)
    (x y : Option Transit) (b : Option Binding) : w.phase.stands x b = w.phase.stands y b := by
  cases hp : w.phase with
  | calling side' q' =>
    simp only [request?, hp, Option.some.injEq, Prod.mk.injEq] at hq
    obtain ⟨-, rfl⟩ := hq
    cases q' with
    | start name o => exact absurd rfl (hs name o)
    | _ => rfl
  | _ => rfl

theorem gone_told (hq : w.request? = some (side, q)) (hd : ∀ d now, q ≠ .shutdown d now)
    (x y : Option Transit) : w.phase.gone x = w.phase.gone y := by
  cases hp : w.phase with
  | calling side' q' =>
    simp only [request?, hp, Option.some.injEq, Prod.mk.injEq] at hq
    obtain ⟨-, rfl⟩ := hq
    cases q' with
    | shutdown d now => exact absurd rfl (hd d now)
    | _ => rfl
  | _ => rfl

theorem accepted_told (p : Phase) (side : Side) (f : Memory.Flight) (b : Option Binding) :
    p.stands (some (.accepted side f)) b = p.stands none b ∧
      p.gone (some (.accepted side f)) = p.gone none := by
  cases p with
  | calling side' q' => cases q' <;> exact ⟨rfl, rfl⟩
  | _ => exact ⟨rfl, rfl⟩

/-- A question that is not answered has changed nothing. -/
theorem unanswered_told {x : Option Transit} (hx : ∀ a, x ≠ some (.answered a)) (p : Phase)
    (b : Option Binding) : p.stands x b = p.stands none b ∧ p.gone x = p.gone none := by
  cases x with
  | none => exact ⟨rfl, rfl⟩
  | some x =>
    cases x with
    | accepted side f => exact accepted_told p side f b
    | answered a => exact absurd rfl (hx a)

theorem refused_told (p : Phase) (e : HostError) (b : Option Binding) :
    p.stands (some (.answered (.refused e))) b = p.stands none b ∧
      p.gone (some (.answered (.refused e))) = p.gone none := by
  cases p with
  | calling side' q' => cases q' <;> exact ⟨rfl, rfl⟩
  | _ => exact ⟨rfl, rfl⟩

/-- What a phase and an answer come to is what the answer on its way came to. -/
def Phase.Follows (p p' : Phase) (a : Answer) (b : Option Binding) : Prop :=
  p.inside = true ∧ p'.inside = true ∧ ∀ y,
    p'.stands y b = p.stands (some (.answered a)) b ∧ p'.gone y = p.gone (some (.answered a))

theorem follows_replied {job : Job} {p' : Phase} {a : Answer}
    (hf : (Phase.calling side q).Fits h r job) (hr : Replied r side job q a p')
    (hd : ∀ d now, q = .shutdown d now → a = .done ∨ ∃ e, a = .refused e ∧ e.isNotFound = false) :
    (Phase.calling side q).Follows p' a r.binding := by
  rcases hf with ⟨o, rfl, rfl, -, -⟩ | ⟨b, s, -, -, hq⟩
  · cases hr <;> exact ⟨rfl, rfl, fun _ => ⟨rfl, rfl⟩⟩
  · cases hr with
    | started | unknown | unstarted => cases hq
    | @crashed job =>
      cases job with
      | start => cases hq
      | shutdown =>
        cases hq
        rcases hd _ _ rfl with he | ⟨e, he, -⟩ <;> cases he
      | interrupt | restart | model => cases hq; exact ⟨rfl, rfl, fun _ => ⟨rfl, rfl⟩⟩
    | gone =>
      cases hq
      rcases hd _ _ rfl with he | ⟨e, he, hn⟩ <;> cases he
      cases hn
    | _ => cases hq; exact ⟨rfl, rfl, fun _ => ⟨rfl, rfl⟩⟩

theorem follows_probed {b : Binding} {e : HostError} {p' : Phase} {a : Answer}
    (hp : Probed r e a p') : (Phase.probing b e).Follows p' a r.binding := by
  cases hp <;> exact ⟨rfl, rfl, fun _ => ⟨rfl, rfl⟩⟩

theorem follows_answered {a : Answer} (hr : h.record? w.place = some r)
    (hf : w.phase.Fits h r w.job) (hs : w.answered? h a = some w')
    (hd : ∀ side d now, w.phase = .calling side (.shutdown d now) →
      a = .done ∨ ∃ e, a = .refused e ∧ e.isNotFound = false) :
    w'.place = w.place ∧ w.phase.Follows w'.phase a r.binding := by
  obtain ⟨r', p, hr', hx, rfl⟩ := reaction_of_answered? hs
  cases hr.symm.trans hr'
  obtain ⟨job, place, phase⟩ := w
  simp only at hf hd hx
  refine ⟨rfl, ?_⟩
  cases hx with
  | @replied side _ _ hx => exact follows_replied hf hx fun d now hq => hd side d now (hq ▸ rfl)
  | probed hx => exact follows_probed hx

/-- An answer that has arrived leaves the record standing for what it stood for on its way. -/
theorem stands_answered {a : Answer} (hr : h.record? w.place = some r)
    (hf : w.phase.Fits h r w.job) (hs : w.answered? h a = some w') :
    w'.place = w.place ∧ w.phase.inside = true ∧ w'.phase.inside = true ∧
      ∀ y, w'.phase.stands y r.binding = w.phase.stands (some (.answered a)) r.binding := by
  by_cases hd : ∃ side d now, w.phase = .calling side (.shutdown d now)
  · -- Whatever a shutdown is told, its record is still bound.
    obtain ⟨side, d, now, hph⟩ := hd
    obtain ⟨r', p, hr', hh, rfl⟩ := heard_of_answered? hs
    cases hr.symm.trans hr'
    obtain ⟨hi, hi'⟩ := inside_heard hh
    refine ⟨rfl, hi, hi', fun y => ?_⟩
    rw [hph] at hf hh ⊢
    generalize w.job = job at hf hh
    cases hh with
    | started =>
      rcases hf with ⟨o, -, hq, -⟩ | ⟨b, t, -, -, hq⟩
      · cases hq
      · cases hq
    | _ => rfl
  · obtain ⟨hp, hin, hin', hfol⟩ :=
      follows_answered hr hf hs fun side d now hph => absurd ⟨side, d, now, hph⟩ hd
    exact ⟨hp, hin, hin', fun y => (hfol y).1⟩

end Work

/-- Starts and shutdowns are asked by work on a record. -/
theorem Call.working_of_request? {c : Call} {side : Side} {q : Request}
    (hc : c.request? = some (side, q))
    (hq : (∃ name o, q = .start name o) ∨ ∃ d now, q = .shutdown d now) :
    ∃ w a, c = .working w a ∧ w.phase = .calling side q := by
  cases c with
  | working w a =>
    refine ⟨w, a, rfl, ?_⟩
    obtain ⟨job, place, phase⟩ := w
    cases phase with
    | calling => cases hc; rfl
    | probing =>
      cases hc
      rcases hq with ⟨_, _, hq⟩ | ⟨_, _, hq⟩ <;> cases hq
    | _ => cases hc
  | naming | mergingHome | mergingRemote | describing | defaulting | listing | activating
  | opening | connecting =>
    cases hc
    rcases hq with ⟨_, _, hq⟩ | ⟨_, _, hq⟩ <;> cases hq
  | _ => cases hc

namespace Hosted

variable {s s' : Hosted} {m m' : Nat → Option Binding}

/-- Each host is of the side it is the host of. -/
def Sided (s : Hosted) : Prop := ∀ side, (s.hosts side).side = side

/-- A kernel has the id of its record, or one that its host has made up for it. -/
def Formed (s : Hosted) (m : Nat → Option Binding) : Prop :=
  ∀ p b r, m p = some b → s.hub.record? p = some r → b.delegate = toString r.id ∨
    ∃ u ∈ s.drawn, b.delegate = Memory.Host.made b.side u

/-- What the records stand for, and what the hosts have. -/
structure Accounted (s : Hosted) (m : Nat → Option Binding) : Prop where
  standing : s.Standing m
  /-- A kernel has the id of its record, or one that its host has made up for it. -/
  form : ∀ p b r, m p = some b → s.hub.record? p = some r → b.delegate = toString r.id ∨
    ∃ u ∈ s.drawn, b.delegate = Memory.Host.made b.side u
  unique : ∀ p q b, m p = some b → m q = some b → p = q
  live : ∀ side d, Table.contains d (s.hosts side).live = true ↔
    ∃ p, m p = some ⟨side, d⟩ ∧ ¬ s.Gone p
  /-- No host is asked to shut down a kernel that it does not have. -/
  refused : ∀ i side d now a, s.asked? i = some (side, .shutdown d now) →
    Table.find? i s.transits = some (.answered a) →
      a = .done ∨ ∃ e, a = .refused e ∧ e.isNotFound = false

theorem working_of_asked? {i : Nat} {side : Side} {q : Request} (ha : s.asked? i = some (side, q))
    (hq : (∃ name o, q = .start name o) ∨ ∃ d now, q = .shutdown d now) :
    ∃ w a, s.traffic.calls[i]? = some (.working w a) ∧ w.phase = .calling side q := by
  obtain ⟨c, hc, hr⟩ := Option.bind_eq_some_iff.1 ha
  obtain ⟨w, a, rfl, hp⟩ := Call.working_of_request? hr hq
  exact ⟨w, a, hc, hp⟩

/-- Events that leave the hosts with the kernels they have. -/
theorem accounted_same (ha : s.Accounted m) (hst : s'.Standing m') (hsame : Same s m s' m')
    (hid : ∀ p r r', s.hub.record? p = some r → s'.hub.record? p = some r' → r'.id = r.id)
    (hdr : ∀ u ∈ s.drawn, u ∈ s'.drawn)
    (hlive : ∀ side, (s'.hosts side).live = (s.hosts side).live)
    (href : ∀ i side d now a, s'.asked? i = some (side, .shutdown d now) →
      Table.find? i s'.transits = some (.answered a) →
        a = .done ∨ ∃ e, a = .refused e ∧ e.isNotFound = false) : s'.Accounted m' := by
  refine ⟨hst, fun p b r' hm hr' => ?_, fun p q b hp hq => ?_, fun side d => ?_, href⟩
  · obtain ⟨r, hr⟩ := ha.standing.known p b (hsame.fewer p b hm)
    rw [hid p r r' hr hr']
    rcases ha.form p b r (hsame.fewer p b hm) hr with hf | ⟨u, hu, hf⟩
    · exact .inl hf
    · exact .inr ⟨u, hdr u hu, hf⟩
  · exact ha.unique p q b (hsame.fewer p b hp) (hsame.fewer q b hq)
  · rw [hlive, ha.live]
    exact exists_congr fun p => (hsame.kept p _).symm

/-- What stands for a kernel is open: it is bound, or its start is not over. -/
theorem open_of_stands {p : Nat} {b : Binding} (hr : s.traffic.Reachable) (hst : s.Standing m)
    (hm : m p = some b) : s.traffic.Open p := by
  have hpl := Traffic.placed_of_reachable hr
  have hg := Traffic.guarded_of_reachable hr
  obtain ⟨r, hrec⟩ := hst.known p b hm
  rcases hst.inside_or hrec with ⟨i, w, a, hc, rfl, -, hs⟩ | hs
  · obtain ⟨hsu, hty⟩ := hpl.suits hc hrec
    rcases Work.of_stands (hg.fits i w a r hc hrec) hty (hs.symm.trans hm) with hb | hj
    · exact .inl ⟨r, b, hrec, hb⟩
    · have ha := Traffic.started_of_starts hsu hj
      subst ha
      exact .inr ⟨i, w, r.id, hc, rfl⟩
  · exact .inl ⟨r, b, hrec, hs.symm.trans hm⟩

/-- The kernel of a record is not gone unless the call inside has lost it. -/
theorem not_gone {i : Nat} {w : Work} {a : Call.After} (hg : s.traffic.Guarded)
    (hc : s.traffic.calls[i]? = some (.working w a)) (hi : w.phase.inside = true)
    (hn : w.phase.gone (Table.find? i s.transits) = false) : ¬ s.Gone w.place := by
  rintro ⟨j, c, hd, hl⟩
  cases c with
  | working v b =>
    obtain ⟨hp, hgone⟩ := hl
    obtain rfl := hg.exclusive i j w v a b hc hd hp.symm hi (Work.inside_of_gone hgone)
    cases hc.symm.trans hd
    cases hn.symm.trans hgone
  | _ => exact hl

/-- A host has the kernel that it is asked to shut down, until it has answered. -/
theorem held_of_shutdown {i : Nat} {side : Side} {d : String} {now : Bool}
    (hr : s.traffic.Reachable) (ha : s.Accounted m)
    (hq : s.asked? i = some (side, .shutdown d now))
    (hx : ∀ a, Table.find? i s.transits ≠ some (.answered a)) :
    ∃ w a, s.traffic.calls[i]? = some (.working w a) ∧ w.phase = .calling side (.shutdown d now) ∧
      m w.place = some ⟨side, d⟩ ∧ ¬ s.Gone w.place := by
  have hg := Traffic.guarded_of_reachable hr
  obtain ⟨w, a, hc, hp⟩ := working_of_asked? hq (.inr ⟨d, now, rfl⟩)
  obtain ⟨r, hrec, -⟩ := (Traffic.placed_of_reachable hr).working i w a hc
  have hi : w.phase.inside = true := by rw [hp]; rfl
  have hf := hg.fits i w a r hc hrec
  have hm := ha.standing.inside i w a r hc hi hrec
  rw [hp] at hf hm
  refine ⟨w, a, hc, hp, ?_, not_gone hg hc hi ?_⟩
  · rcases hf with ⟨o, -, hask, -⟩ | ⟨b, t, hb, rfl, hask⟩
    · cases hask
    · have hd : d = b.delegate := by
        cases hj : w.job <;> rw [hj] at hask <;> cases hask
        rfl
      subst hd
      exact hm.trans hb
  · rw [(Work.unanswered_told hx w.phase none).2, hp]
    rfl

theorem find?_live_of_shutdown {i : Nat} {side : Side} {d : String} {now : Bool}
    (hr : s.traffic.Reachable) (ha : s.Accounted m)
    (hq : s.asked? i = some (side, .shutdown d now))
    (hx : ∀ a, Table.find? i s.transits ≠ some (.answered a)) :
    Table.find? d (s.hosts side).live ≠ none := by
  obtain ⟨w, a, -, -, hm, hn⟩ := held_of_shutdown hr ha hq hx
  have hk := (ha.live side d).2 ⟨w.place, hm, hn⟩
  intro hf
  rw [Table.contains_eq_false.2 hf] at hk
  cases hk

/-! ## Questions and answers on their way -/

/-- A transit that changes nothing about what its record stands for. -/
theorem standing_transit {i : Nat} {x : Transit} {hosts : Side → Memory.Host} {drawn : List Uuid}
    (hst : s.Standing m) (hx : ∀ w a b, s.traffic.calls[i]? = some (.working w a) →
      w.phase.stands (some x) b = w.phase.stands (Table.find? i s.transits) b) :
    Standing ⟨s.traffic, hosts, Table.set i x s.transits, drawn⟩ m := by
  refine ⟨fun j w a r hc hi hr => ?_, hst.outside, hst.known⟩
  have hm := hst.inside j w a r hc hi hr
  simp only [Table.find?_set]
  split
  · next hj =>
    subst hj
    exact hm.trans (hx w a _ hc).symm
  · exact hm

theorem gone_transit {i : Nat} {x : Transit} {hosts : Side → Memory.Host} {drawn : List Uuid}
    (hx : ∀ w a, s.traffic.calls[i]? = some (.working w a) →
      w.phase.gone (some x) = w.phase.gone (Table.find? i s.transits)) (p : Nat) :
    Gone ⟨s.traffic, hosts, Table.set i x s.transits, drawn⟩ p ↔ s.Gone p := by
  refine exists_congr fun j => exists_congr fun c => and_congr_right fun hc => ?_
  simp only [Table.find?_set]
  split
  · next hj =>
    subst hj
    cases c with
    | working w a => exact and_congr_right fun _ => by rw [hx w a hc]
    | _ => exact Iff.rfl
  · exact Iff.rfl

theorem live_setHost {side : Side} {h : Memory.Host} (hk : (s.hosts side).Keeps h) (x : Side) :
    ((s.setHost side h).hosts x).live = (s.hosts x).live := by
  simp only [setHost]
  split
  · next hx => rw [hx, hk.1]
  · rfl

/-- A refusal to shut down is none for a kernel that the host does not have. -/
theorem refused_set {i : Nat} {x : Transit} {hosts : Side → Memory.Host} {drawn : List Uuid}
    (ha : s.Accounted m) (hx : ∀ side d now a, s.asked? i = some (side, .shutdown d now) →
      x = .answered a → a = .done ∨ ∃ e, a = .refused e ∧ e.isNotFound = false) :
    ∀ j side d now a, asked? ⟨s.traffic, hosts, Table.set i x s.transits, drawn⟩ j =
      some (side, .shutdown d now) →
        Table.find? j (Table.set i x s.transits) = some (.answered a) →
          a = .done ∨ ∃ e, a = .refused e ∧ e.isNotFound = false := by
  intro j side d now a hq hf
  rcases (Table.find?_set i j x s.transits).symm.trans hf with hf
  split at hf
  · next hj =>
    cases hf
    exact hx side d now a (hj ▸ hq) rfl
  · exact ha.refused j side d now a hq hf

/-- A question or an answer comes to its place, and the hosts keep the kernels they have. -/
theorem accounted_transit {i : Nat} {x : Transit} {hosts : Side → Memory.Host} {drawn : List Uuid}
    (ha : s.Accounted m)
    (hx : ∀ w a b, s.traffic.calls[i]? = some (.working w a) →
      w.phase.stands (some x) b = w.phase.stands (Table.find? i s.transits) b ∧
        w.phase.gone (some x) = w.phase.gone (Table.find? i s.transits))
    (hdr : ∀ u ∈ s.drawn, u ∈ drawn) (hlive : ∀ side, (hosts side).live = (s.hosts side).live)
    (href : ∀ side d now a, s.asked? i = some (side, .shutdown d now) →
      x = .answered a → a = .done ∨ ∃ e, a = .refused e ∧ e.isNotFound = false) :
    Accounted ⟨s.traffic, hosts, Table.set i x s.transits, drawn⟩ m := by
  have hid (p : Nat) (r r' : Record) (hr : s.hub.record? p = some r)
      (hr' : s.hub.record? p = some r') : r'.id = r.id := by
    cases hr.symm.trans hr'
    rfl
  exact accounted_same ha (standing_transit ha.standing fun w a b hc => (hx w a b hc).1)
    (same_of_gone (gone_transit fun w a hc => (hx w a none hc).2)) hid hdr hlive
    (refused_set ha href)

/-- A call that waits, as work on a record or not. -/
theorem request?_of_asked? {i : Nat} {side : Side} {q : Request} {w : Work} {a : Call.After}
    (hq : s.asked? i = some (side, q)) (hc : s.traffic.calls[i]? = some (.working w a)) :
    w.request? = some (side, q) := by
  simpa only [asked?, hc, Option.bind_some, Call.request?] using hq

theorem accounted_told {i : Nat} {side : Side} {q : Request} {h : Memory.Host} {a : Answer}
    (hr : s.traffic.Reachable) (ha : s.Accounted m) (hq : s.asked? i = some (side, q))
    (hi : Table.find? i s.transits = none) (hk : (s.hosts side).Keeps h)
    (hs : ∀ name o, q ≠ .start name o)
    (hd : ∀ d now, q = .shutdown d now → ∃ e, a = .refused e ∧
      (e.isNotFound = true → Table.find? d (s.hosts side).live = none)) :
    ((s.setHost side h).setTransit i (.answered a)).Accounted m := by
  refine accounted_transit (s := s) ha (fun w b c hc => ?_) (fun u hu => hu) (live_setHost hk)
    fun side' d now b hq' hb => ?_
  · rw [hi]
    have hw := request?_of_asked? hq hc
    refine ⟨Work.stands_told hw hs _ _ c, ?_⟩
    by_cases hsd : ∃ d now, q = .shutdown d now
    · obtain ⟨d, now, rfl⟩ := hsd
      obtain ⟨e, rfl, -⟩ := hd d now rfl
      exact (Work.refused_told w.phase e c).2
    · exact Work.gone_told hw (fun d now he => hsd ⟨d, now, he⟩) _ _
  · cases hb
    cases hq.symm.trans hq'
    obtain ⟨e, rfl, hn⟩ := hd d now rfl
    refine .inr ⟨e, rfl, Bool.eq_false_iff.2 fun he => ?_⟩
    exact find?_live_of_shutdown hr ha hq (fun b hb => nomatch hi.symm.trans hb) (hn he)

theorem accounted_taken {i : Nat} {side : Side} {h : Memory.Host} {f : Memory.Flight}
    (ha : s.Accounted m) (hi : Table.find? i s.transits = none) (hk : (s.hosts side).Keeps h) :
    ((s.setHost side h).setTransit i (.accepted side f)).Accounted m := by
  refine accounted_transit (s := s) ha (fun w b c hc => ?_) (fun u hu => hu) (live_setHost hk)
    fun _ _ _ _ _ he => nomatch he
  rw [hi]
  exact Work.accepted_told w.phase side f c

/-! ## Kernels that come and go -/

/-- The id of a new kernel is none that a record stands for already. -/
theorem fresh_delegate {p : Nat} {r : Record} {side : Side} {d : String} {fresh : Uuid}
    (hr : s.traffic.Reachable) (hst : s.Standing m) (hform : s.Formed m)
    (hrec : s.hub.record? p = some r) (hop : s.traffic.Open p) (hfresh : fresh ∉ s.drawn)
    (hd : d = toString r.id ∨ d = Memory.Host.made side fresh) {q : Nat}
    (hq : m q = some ⟨side, d⟩) : q = p := by
  obtain ⟨t, ht⟩ := hst.known q _ hq
  rcases hform q _ t hq ht with hf | ⟨u, hu, hf⟩ <;> rcases hd with rfl | rfl
  · have hid : t.id = r.id := (KernelId.toString_injective hf).symm
    exact (Traffic.owned_of_reachable hr).single q p t r ht hrec hid
      (open_of_stands hr hst hq) hop
  · exact absurd hf.symm (Memory.Host.toString_ne_made _ _ _)
  · exact absurd hf (Memory.Host.toString_ne_made _ _ _)
  · exact absurd (Memory.Host.made_injective hf ▸ hu) hfresh

theorem standing_added {i : Nat} {w : Work} {a : Call.After} {r : Record} {x : Transit}
    {b : Option Binding} {hosts : Side → Memory.Host} {drawn : List Uuid}
    (hg : s.traffic.Guarded) (hst : s.Standing m)
    (hc : s.traffic.calls[i]? = some (.working w a)) (hi : w.phase.inside = true)
    (hrec : s.hub.record? w.place = some r) (hb : w.phase.stands (some x) r.binding = b) :
    Standing ⟨s.traffic, hosts, Table.set i x s.transits, drawn⟩ (restand m w.place b) := by
  refine ⟨fun j v c q hv hvi hq => ?_, fun p q hq hno => ?_, fun p c hm => ?_⟩
  · by_cases hij : j = i
    · subst hij
      cases hc.symm.trans hv
      cases hrec.symm.trans hq
      rw [restand_self, Table.find?_set_self]
      exact hb.symm
    · have hp : v.place ≠ w.place := fun hp => hij (hg.exclusive j i v w c a hv hc hp hvi hi)
      rw [restand_of_ne hp, Table.find?_set_of_ne hij]
      exact hst.inside j v c q hv hvi hq
  · by_cases hp : p = w.place
    · cases hi.symm.trans (hno i w a hc hp.symm)
    · rw [restand_of_ne hp]
      exact hst.outside p q hq hno
  · by_cases hp : p = w.place
    · exact ⟨r, hp ▸ hrec⟩
    · rw [restand_of_ne hp] at hm
      exact hst.known p c hm

/-- The table of a host that has a kernel more, and what stands for it. -/
theorem live_added {p : Nat} {side : Side} {d : String} {k : Nat} {h : Memory.Host}
    (ha : s.Accounted m) (hm : m p = none) (hn : ¬ s.Gone p)
    (hl : h.live = Table.set d k (s.hosts side).live) (side' : Side) (d' : String) :
    Table.contains d' ((s.setHost side h).hosts side').live = true ↔
      ∃ q, restand m p (some ⟨side, d⟩) q = some ⟨side', d'⟩ ∧ ¬ s.Gone q := by
  have hsplit : (∃ q, restand m p (some ⟨side, d⟩) q = some ⟨side', d'⟩ ∧ ¬ s.Gone q) ↔
      (side' = side ∧ d' = d) ∨ Table.contains d' (s.hosts side').live = true := by
    rw [ha.live]
    constructor
    · rintro ⟨q, hq, hg⟩
      by_cases hp : q = p
      · subst hp
        rw [restand_self] at hq
        cases hq
        exact .inl ⟨rfl, rfl⟩
      · exact .inr ⟨q, by rwa [restand_of_ne hp] at hq, hg⟩
    · rintro (⟨rfl, rfl⟩ | ⟨q, hq, hg⟩)
      · exact ⟨p, restand_self m p _, hn⟩
      · have hp : q ≠ p := by
          rintro rfl
          cases hm.symm.trans hq
        exact ⟨q, (restand_of_ne hp m _).trans hq, hg⟩
  rw [hsplit]
  simp only [setHost]
  split
  · next hs =>
    subst hs
    rw [hl, Table.contains_set]
    simp
  · next hs => simp [hs]

/-- A start that waits for its host is at work on an open record that is not bound. -/
theorem start_of_asked {i : Nat} {side : Side} {name : String} {o : StartOptions}
    (hr : s.traffic.Reachable) (hq : s.asked? i = some (side, .start name o)) :
    ∃ w a r, s.traffic.calls[i]? = some (.working w a) ∧ w.phase = .calling side (.start name o) ∧
      s.hub.record? w.place = some r ∧ r.binding = none ∧ s.traffic.Open w.place ∧
        ∀ id, o.id = some id → id = r.id := by
  obtain ⟨w, a, hc, hp⟩ := working_of_asked? hq (.inl ⟨name, o, rfl⟩)
  obtain ⟨r, hrec, hsu, -⟩ := (Traffic.placed_of_reachable hr).working i w a hc
  have hf := (Traffic.guarded_of_reachable hr).fits i w a r hc hrec
  rw [hp] at hf
  rcases hf with ⟨o', hj, hq', -, hb⟩ | ⟨b, t, -, -, hask⟩
  · cases hq'
    have ha := Traffic.started_of_starts hsu ⟨o, hj⟩
    subst ha
    refine ⟨w, _, r, hc, hp, hrec, hb, .inr ⟨i, w, r.id, hc, rfl⟩, fun id hid => ?_⟩
    rw [hj] at hsu
    cases hsu with
    | start ho =>
      rw [hid] at ho
      exact ho
  · cases hj : w.job <;> rw [hj] at hask <;> cases hask

/-- No two records stand for one kernel when one more stands for a kernel that none stood for. -/
theorem unique_restand {p : Nat} {b : Binding}
    (hu : ∀ p q b, m p = some b → m q = some b → p = q) (hb : ∀ q, m q ≠ some b)
    (q q' : Nat) (c : Binding) (hq : restand m p (some b) q = some c)
    (hq' : restand m p (some b) q' = some c) : q = q' := by
  by_cases hqp : q = p <;> by_cases hqp' : q' = p
  · exact hqp.trans hqp'.symm
  · subst hqp
    rw [restand_self] at hq
    rw [restand_of_ne hqp', ← hq] at hq'
    exact absurd hq' (hb q')
  · subst hqp'
    rw [restand_self] at hq'
    rw [restand_of_ne hqp, ← hq'] at hq
    exact absurd hq (hb q)
  · rw [restand_of_ne hqp] at hq
    rw [restand_of_ne hqp'] at hq'
    exact hu q q' c hq hq'

/-- The record of a start that went well comes to stand for the kernel that it was given. -/
theorem standing_started {i : Nat} {side : Side} {name : String} {o : StartOptions} {d : String}
    {fresh : Uuid} {hosts : Side → Memory.Host} (hr : s.traffic.Reachable) (hst : s.Standing m)
    (hform : s.Formed m) (hu : ∀ p q b, m p = some b → m q = some b → p = q)
    (hq : s.asked? i = some (side, .start name o))
    (hx : ∀ a, Table.find? i s.transits ≠ some (.answered a)) (hfresh : fresh ∉ s.drawn)
    (hd : o.id.map toString = some d ∨ d = Memory.Host.made side fresh) :
    ∃ w a, s.traffic.calls[i]? = some (.working w a) ∧ w.phase = .calling side (.start name o) ∧
      m w.place = none ∧
      let s' : Hosted := ⟨s.traffic, hosts, Table.set i (.answered (.started d)) s.transits,
        fresh :: s.drawn⟩
      let m' := restand m w.place (some ⟨side, d⟩)
      s'.Standing m' ∧ s'.Formed m' ∧ ∀ p q b, m' p = some b → m' q = some b → p = q := by
  have hg := Traffic.guarded_of_reachable hr
  obtain ⟨w, a, r, hc, hp, hrec, hb, hop, hid⟩ := start_of_asked hr hq
  have hi : w.phase.inside = true := by rw [hp]; rfl
  have hd' : d = toString r.id ∨ d = Memory.Host.made side fresh := by
    refine hd.imp_left fun hd => ?_
    obtain ⟨x, hx, rfl⟩ := Option.map_eq_some_iff.1 hd
    rw [hid x hx]
  have hm : m w.place = none := by
    rw [hst.inside i w a r hc hi hrec, (Work.unanswered_told hx w.phase _).1, hp, hb]
    rfl
  have hother (q : Nat) : m q ≠ some ⟨side, d⟩ := by
    intro hq
    obtain rfl := fresh_delegate hr hst hform hrec hop hfresh hd' hq
    cases hm.symm.trans hq
  refine ⟨w, a, hc, hp, hm, standing_added hg hst hc hi hrec (by rw [hp]; rfl),
    fun p b t hb ht => ?_, unique_restand hu hother⟩
  by_cases hpw : p = w.place
  · subst hpw
    rw [restand_self] at hb
    cases hb
    cases hrec.symm.trans ht
    exact hd'.imp_right fun hd => ⟨fresh, List.mem_cons_self, hd⟩
  · rw [restand_of_ne hpw] at hb
    exact (hform p b t hb ht).imp_right fun ⟨u, hu, hf⟩ => ⟨u, List.mem_cons_of_mem _ hu, hf⟩

theorem accounted_started {i : Nat} {side : Side} {name : String} {o : StartOptions}
    {h : Memory.Host} {d : String} {k : Nat} {fresh : Uuid} (hr : s.traffic.Reachable)
    (ha : s.Accounted m) (hq : s.asked? i = some (side, .start name o))
    (hx : ∀ a, Table.find? i s.transits ≠ some (.answered a)) (hfresh : fresh ∉ s.drawn)
    (hl : h.live = Table.set d k (s.hosts side).live)
    (hd : o.id.map toString = some d ∨ d = Memory.Host.made side fresh) :
    ∃ m', Accounted { (s.setHost side h).setTransit i (.answered (.started d)) with
      drawn := fresh :: s.drawn } m' := by
  have hg := Traffic.guarded_of_reachable hr
  obtain ⟨w, a, hc, hp, hm, hst, hform, hu⟩ :=
    standing_started hr ha.standing ha.form ha.unique hq hx hfresh hd
  have hi : w.phase.inside = true := by rw [hp]; rfl
  have hgx (x : Option Transit) : w.phase.gone x = false := by rw [hp]; rfl
  have hgone (p : Nat) : Gone { (s.setHost side h).setTransit i (.answered (.started d)) with
      drawn := fresh :: s.drawn } p ↔ s.Gone p := by
    refine gone_transit (s := s) (fun v b hv => ?_) p
    cases hc.symm.trans hv
    rw [hgx, hgx]
  refine ⟨restand m w.place (some ⟨side, d⟩), hst, hform, hu, fun side' d' => ?_,
    refused_set ha fun side' d' now b hq' _ => ?_⟩
  · refine (live_added ha hm (not_gone hg hc hi (hgx _)) hl side' d').trans ?_
    exact exists_congr fun q => and_congr_right fun _ => not_congr (hgone q).symm
  · cases hq.symm.trans hq'

/-- The table of a host that has a kernel less, and what still stands for one there. -/
theorem live_removed {p : Nat} {side : Side} {d : String} {h : Memory.Host}
    (ha : s.Accounted m) (hm : m p = some ⟨side, d⟩)
    (hl : h.live = Table.erase d (s.hosts side).live) (side' : Side) (d' : String) :
    Table.contains d' ((s.setHost side h).hosts side').live = true ↔
      ∃ q, m q = some ⟨side', d'⟩ ∧ ¬ (q = p ∨ s.Gone q) := by
  by_cases hsame : side' = side ∧ d' = d
  · obtain ⟨rfl, rfl⟩ := hsame
    refine iff_of_false ?_ fun ⟨q, hq, hn⟩ => hn (.inl (ha.unique q p _ hq hm))
    simp [setHost, hl, Table.contains_erase]
  · have hlive : Table.contains d' ((s.setHost side h).hosts side').live =
        Table.contains d' (s.hosts side').live := by
      simp only [setHost]
      split
      · next hs =>
        subst hs
        have hd : d' ≠ d := fun hd => hsame ⟨rfl, hd⟩
        simp [hl, Table.contains_erase, hd]
      · rfl
    rw [hlive, ha.live]
    refine exists_congr fun q => and_congr_right fun hq => not_congr ?_
    refine ⟨.inr, fun hor => hor.resolve_left ?_⟩
    rintro rfl
    cases hm.symm.trans hq
    exact hsame ⟨rfl, rfl⟩

theorem gone_added {i : Nat} {w : Work} {a : Call.After} {x : Transit} {hosts : Side → Memory.Host}
    {drawn : List Uuid} (hc : s.traffic.calls[i]? = some (.working w a))
    (hx : w.phase.gone (some x) = true) (p : Nat) :
    Gone ⟨s.traffic, hosts, Table.set i x s.transits, drawn⟩ p ↔ p = w.place ∨ s.Gone p := by
  have hw : Gone ⟨s.traffic, hosts, Table.set i x s.transits, drawn⟩ w.place :=
    ⟨i, _, hc, rfl, by rw [Table.find?_set_self]; exact hx⟩
  constructor
  · rintro ⟨j, c, hj, hl⟩
    by_cases hij : j = i
    · subst hij
      cases hc.symm.trans hj
      exact .inl hl.1.symm
    · rw [Table.find?_set_of_ne hij] at hl
      exact .inr ⟨j, c, hj, hl⟩
  · rintro (rfl | ⟨j, c, hj, hl⟩)
    · exact hw
    · by_cases hij : j = i
      · subst hij
        cases hc.symm.trans hj
        exact hl.1 ▸ hw
      · exact ⟨j, c, hj, by rwa [Table.find?_set_of_ne hij]⟩

theorem accounted_stopped {i : Nat} {side : Side} {d : String} {now : Bool} {h : Memory.Host}
    {fresh : Uuid} (hr : s.traffic.Reachable) (ha : s.Accounted m)
    (hq : s.asked? i = some (side, .shutdown d now))
    (hx : ∀ a, Table.find? i s.transits ≠ some (.answered a))
    (hl : h.live = Table.erase d (s.hosts side).live) :
    Accounted { (s.setHost side h).setTransit i (.answered .done) with
      drawn := fresh :: s.drawn } m := by
  obtain ⟨w, a, hc, hp, hm, -⟩ := held_of_shutdown hr ha hq hx
  refine ⟨standing_transit ha.standing fun v b c hv => ?_, fun p b t hb ht => ?_, ha.unique,
    fun side' d' => ?_, refused_set ha fun _ _ _ b _ hb => ?_⟩
  · cases hc.symm.trans hv
    rw [hp]
    rfl
  · exact (ha.form p b t hb ht).imp_right fun ⟨u, hu, hf⟩ => ⟨u, List.mem_cons_of_mem _ hu, hf⟩
  · refine (live_removed ha hm hl side' d').trans ?_
    exact exists_congr fun q => and_congr_right fun _ =>
      not_congr (gone_added hc (by rw [hp]; rfl) q).symm
  · cases hb
    exact .inl rfl

/-- A host ends the work on a question. -/
theorem accounted_finished {i : Nat} {side : Side} {f : Memory.Flight} {now : Instant}
    {fresh : Uuid} {h : Memory.Host} {a : Answer} (hr : s.traffic.Reachable) (hca : s.Carried)
    (hsd : s.Sided) (ha : s.Accounted m) (hi : Table.find? i s.transits = some (.accepted side f))
    (hd : fresh ∉ s.drawn) (hf : (s.hosts side).finish now fresh f = (h, a)) :
    ∃ m', Accounted { (s.setHost side h).setTransit i (.answered a) with
      drawn := fresh :: s.drawn } m' := by
  obtain ⟨side', q, hq, hcar⟩ := hca i _ hi
  obtain ⟨rfl, hof⟩ := hcar side f rfl
  have hx (b : Answer) : Table.find? i s.transits ≠ some (.answered b) :=
    fun hb => nomatch hi.symm.trans hb
  -- All ends but those of a start that went well and of a shutdown.
  have quiet (hk : (s.hosts side).Keeps h) (hs : (∀ d now, q ≠ .shutdown d now) ∧
      ((∃ e, a = .refused e) ∨ ∀ name o, q ≠ .start name o)) :
      Accounted { (s.setHost side h).setTransit i (.answered a) with
        drawn := fresh :: s.drawn } m := by
    refine accounted_transit (s := s) ha (fun w b c hc => ?_)
      (fun u hu => List.mem_cons_of_mem _ hu) (live_setHost hk) fun _ _ _ _ hq' _ => ?_
    · have hw := request?_of_asked? hq hc
      refine ⟨?_, Work.gone_told hw hs.1 _ _⟩
      rw [hi, (Work.accepted_told w.phase side f c).1]
      rcases hs.2 with ⟨e, rfl⟩ | hs
      · exact (Work.refused_told w.phase e c).1
      · exact Work.stands_told hw hs _ _ c
    · cases hq.symm.trans hq'
      exact absurd rfl (hs.1 _ _)
  cases q with
  | start name o =>
    cases f with
    | start name' o' =>
      obtain ⟨rfl, rfl⟩ := hof
      rcases Memory.Host.finish_start hf with ⟨e, rfl, hk⟩ | ⟨d, k, rfl, hl, -, hn⟩
      · exact ⟨m, quiet hk ⟨nofun, .inl ⟨e, rfl⟩⟩⟩
      · rw [hsd side] at hn
        exact accounted_started hr ha hq hx hd hl hn
    | _ => cases hof
  | shutdown d n =>
    cases f with
    | shutdown d' k =>
      cases hof
      rcases Memory.Host.finish_shutdown hf with hnone | ⟨rfl, hl, -⟩
      · exact absurd hnone (find?_live_of_shutdown hr ha hq hx)
      · exact ⟨m, accounted_stopped hr ha hq hx hl⟩
    | _ => cases hof
  | _ =>
    have hk : (s.hosts side).Keeps ((s.hosts side).finish now fresh f).1 :=
      Memory.Host.keeps_finish hof nofun nofun
    rw [hf] at hk
    exact ⟨m, quiet hk ⟨nofun, .inr nofun⟩⟩

/-- A call that gets its answer leaves its record standing for what it stood for. -/
theorem standing_heard {i : Nat} {c c' : Call} {a : Answer} (hr : s.traffic.Reachable)
    (hst : s.Standing m) (hi : Table.find? i s.transits = some (.answered a))
    (hc : s.traffic.calls[i]? = some c) (hq : c.request?.isSome = true)
    (hs : c.answered? s.hub a = some c') :
    Standing ⟨⟨s.hub, s.traffic.calls.set i c'⟩, s.hosts, Table.erase i s.transits, s.drawn⟩
      m := by
  have hother (j : Nat) (hj : j ≠ i) :
      Table.find? j (Table.erase i s.transits) = Table.find? j s.transits :=
    Table.find?_erase_of_ne hj _
  cases Call.reply_of_answered? hq hs with
  | aside hl hl' =>
    refine standing_change hst hc rfl rfl hother (fun v b t hv => ?_) fun v b hv => ?_
    · subst hv
      cases hl'
    · subst hv
      cases hl
  | @heard w af a' w' hw' =>
    obtain ⟨w'', hw, he⟩ := Option.map_eq_some_iff.1 hs
    cases he
    obtain ⟨r, hrec, -⟩ := (Traffic.placed_of_reachable hr).working i w af hc
    have hf := (Traffic.guarded_of_reachable hr).fits i w af r hc hrec
    obtain ⟨hp, hin, hin', hfol⟩ := Work.stands_answered hrec hf hw
    have hm := hst.inside i w af r hc hin hrec
    rw [hi] at hm
    refine standing_change hst hc rfl rfl hother (fun v b t hv _ ht => ?_) fun v b hv _ => ?_
    · cases hv
      rw [hp] at ht ⊢
      cases hrec.symm.trans ht
      exact hm.trans (hfol _).symm
    · cases hv
      exact ⟨_, af, rfl, hp, hin'⟩

/-- A call that gets its answer leaves no record with a kernel that is gone or was not. -/
theorem gone_heard {i : Nat} {c c' : Call} {a : Answer} (hr : s.traffic.Reachable)
    (ha : s.Accounted m) (hi : Table.find? i s.transits = some (.answered a))
    (hc : s.traffic.calls[i]? = some c) (hq : c.request?.isSome = true)
    (hs : c.answered? s.hub a = some c') (p : Nat) :
    Gone ⟨⟨s.hub, s.traffic.calls.set i c'⟩, s.hosts, Table.erase i s.transits, s.drawn⟩ p ↔
      s.Gone p := by
  have hother (j : Nat) (hj : j ≠ i) :
      Table.find? j (Table.erase i s.transits) = Table.find? j s.transits :=
    Table.find?_erase_of_ne hj _
  refine gone_change hc rfl hother ?_
  cases Call.reply_of_answered? hq hs with
  | aside hl hl' =>
    exact iff_of_false (Call.not_loses_of_light hl') (Call.not_loses_of_light hl)
  | @heard w af a' w' hw' =>
    obtain ⟨w'', hw, he⟩ := Option.map_eq_some_iff.1 hs
    cases he
    obtain ⟨r, hrec, -⟩ := (Traffic.placed_of_reachable hr).working i w af hc
    have hf := (Traffic.guarded_of_reachable hr).fits i w af r hc hrec
    obtain ⟨hp, -, -, hfol⟩ := Work.follows_answered hrec hf hw fun side d now hph =>
      ha.refused i side d now a (by simp [asked?, hc, Call.request?, Work.request?, hph]) hi
    simp only [Call.Loses, hp, hi, (hfol _).2]

/-- The answer to its question reaches a call. -/
theorem accounted_delivered {i : Nat} {a : Answer} {t : Traffic} (hr : s.traffic.Reachable)
    (ha : s.Accounted m) (hi : Table.find? i s.transits = some (.answered a))
    (ht : s.traffic.next? (.answer i a) = some t) :
    Accounted { s with traffic := t, transits := Table.erase i s.transits } m := by
  simp only [Traffic.next?] at ht
  split at ht
  · cases ht
  · next c hc =>
    split at ht
    · next hq =>
      obtain ⟨c', hs, rfl⟩ := Option.map_eq_some_iff.1 ht
      refine accounted_same ha (standing_heard hr ha.standing hi hc hq hs)
        (same_of_gone (gone_heard hr ha hi hc hq hs)) (fun p r r' hrec hrec' => ?_)
        (fun u hu => hu) (fun side => rfl) fun j side d now b hq' hf => ?_
      · cases hrec.symm.trans hrec'
        rfl
      · rcases (Table.find?_erase i j s.transits).symm.trans hf with hf
        split at hf
        · cases hf
        · next hj =>
          have hcall : (s.traffic.calls.set i c')[j]? = s.traffic.calls[j]? :=
            List.getElem?_set_ne (Ne.symm hj)
          exact ha.refused j side d now b (by simpa only [asked?, hcall] using hq') hf
    · cases ht

theorem accounted_own {e : Traffic.Event} {t : Traffic} (hr : s.traffic.Reachable)
    (hca : s.Carried) (ha : s.Accounted m) (ht : s.traffic.next? e = some t)
    (he : ∀ i a, e ≠ .answer i a) : ∃ m', Accounted { s with traffic := t } m' := by
  obtain ⟨m', hst, hsame⟩ := standing_own hr hca ha.standing ht he
  refine ⟨m', accounted_same ha hst hsame (fun p r r' hrec hrec' => ?_) (fun u hu => hu)
    (fun side => rfl) fun j side d now b hq hf => ?_⟩
  · obtain ⟨r₁, hr₁, hid, -⟩ := Traffic.record?_shift (Traffic.shift_of_reachable hr ht) hrec
    cases hrec'.symm.trans hr₁
    exact hid
  · obtain ⟨side', q, hq', -⟩ := hca j _ hf
    have hcall := asked?_waits ht (he j) hq'
    exact ha.refused j side d now b (by simpa only [asked?, hcall] using hq) hf

theorem accounted_shift (hr : s.traffic.Reachable) (hca : s.Carried) (hsd : s.Sided)
    (ha : s.Accounted m) (hs : s.Shift s') : ∃ m', s'.Accounted m' := by
  cases hs with
  | own ht he => exact accounted_own hr hca ha ht he
  | told hq hi hk hn hd => exact ⟨m, accounted_told hr ha hq hi hk hn hd⟩
  | taken hq hi hk => exact ⟨m, accounted_taken ha hi hk⟩
  | finished hi hd hf => exact accounted_finished hr hca hsd ha hi hd hf
  | delivered hi ht => exact ⟨m, accounted_delivered hr ha hi ht⟩
  | control hk =>
    refine ⟨m, accounted_same ha ⟨ha.standing.inside, ha.standing.outside, ha.standing.known⟩
      (same_of_gone fun p => Iff.rfl) (fun p r r' hrec hrec' => ?_) (fun u hu => hu)
      (live_setHost hk) ha.refused⟩
    cases hrec.symm.trans hrec'
    rfl

theorem sided_setHost {side : Side} {h : Memory.Host} (hsd : s.Sided) (hh : h.side = side) :
    (s.setHost side h).Sided := by
  intro x
  simp only [setHost]
  split
  · next hx => rw [hh, hx]
  · exact hsd x

theorem sided_shift (hsd : s.Sided) (hs : s.Shift s') : s'.Sided := by
  cases hs with
  | own | delivered => exact hsd
  | told _ _ hk | taken _ _ hk | control hk => exact sided_setHost hsd (hk.2.trans (hsd _))
  | @finished i side f now fresh h a hi hd hf =>
    have hh : ((s.hosts side).finish now fresh f).1.side = (s.hosts side).side :=
      Memory.Host.side_finish _ _ _ _
    rw [hf] at hh
    exact sided_setHost hsd (hh.trans (hsd side))

/-- The hosts and the hub agree in all that an unused hub over vacant hosts can come to. -/
theorem accounted_of_reachable (hs : s.Reachable) :
    s.traffic.Reachable ∧ ∃ m, s.Accounted m := by
  have base (h : Hub) (hosts : Side → Memory.Host) (hu : h.Unused) (hv : Vacant hosts) :
      Accounted ⟨⟨h, []⟩, hosts, [], []⟩ fun _ => none := by
    have hno (p : Nat) : h.record? p = none := by simp [Hub.record?, hu.records]
    refine ⟨⟨(fun i w a r hw => by cases hw), fun p r hr => ?_, (by simp)⟩, (by simp), (by simp),
      fun side d => ?_, fun i side d now a hq hf => by cases hf⟩
    · cases (hno p).symm.trans hr
    · simp [(hv side).2, Table.contains, Table.find?_nil]
  obtain ⟨hr, -, -, ha⟩ := reachable_induct (P := fun s => s.Carried ∧ s.Sided ∧ ∃ m, s.Accounted m)
    (fun h hosts hu hv =>
      ⟨(fun i x hx => by cases hx), fun side => (hv side).1, _, base h hosts hu hv⟩)
    (fun s s' hr hp hsh => by
      obtain ⟨hca, hsd, m, ha⟩ := hp
      exact ⟨carried_shift hsh hca, sided_shift hsd hsh, accounted_shift hr hca hsd ha hsh⟩) hs
  exact ⟨hr, ha⟩

end Hosted

end KernelHub
