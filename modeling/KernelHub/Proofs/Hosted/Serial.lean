import KernelHub.Proofs.Hosted.Overlaps

/-
Operations on one kernel take turns, on its host as on the hub. The guard of a record is held
through a failed restart, too, until the host has told what became of the kernel: nobody else
gets to the record between the two questions.
-/

namespace KernelHub.Hosted

variable {s s' u : Hosted}

/-! ## One call among all the others -/

/-- Does the incident carry the question or the answer of a call? -/
def Incident.Concerns (i : Nat) : Incident → Prop
  | .event (.pose j _) => j = i
  | .event (.connect j ..) => j = i
  | .event (.finish j ..) => j = i
  | .event (.deliver j) => j = i
  | _ => False

/-- What does not concern a call that waits leaves it waiting. -/
theorem waits_after {x : Incident} {i : Nat} {c : Call} (hc : s.traffic.calls[i]? = some c)
    (hq : c.request?.isSome = true) (hn : ¬ x.Concerns i) (hx : s.after? x = some s') :
    s'.traffic.calls[i]? = some c ∧ Table.find? i s'.transits = Table.find? i s.transits := by
  cases x with
  | loss => cases hx; exact ⟨hc, rfl⟩
  | event e =>
    cases e with
    | own e =>
      cases e with
      | answer => cases hx
      | ask | step | shared =>
        simp only [after?, next?, Option.map_eq_some_iff] at hx
        obtain ⟨t, ht, rfl⟩ := hx
        exact ⟨waits ht (by simp) hc hq, rfl⟩
    | pose j =>
      have hij : i ≠ j := fun h => hn h.symm
      simp only [after?, next?] at hx
      split at hx
      · cases hx
      · split at hx <;> cases hx <;> exact ⟨hc, Table.find?_set_of_ne hij _ _⟩
      · cases hx
    | connect j =>
      have hij : i ≠ j := fun h => hn h.symm
      simp only [after?, next?] at hx
      split at hx
      · split at hx <;> cases hx <;> exact ⟨hc, Table.find?_set_of_ne hij _ _⟩
      · cases hx
    | finish j =>
      have hij : i ≠ j := fun h => hn h.symm
      simp only [after?, next?] at hx
      split at hx
      · split at hx
        · cases hx
        · cases hx
          exact ⟨hc, Table.find?_set_of_ne hij _ _⟩
      · cases hx
    | deliver j =>
      have hij : i ≠ j := fun h => hn h.symm
      simp only [after?, next?] at hx
      split at hx
      · next a _ =>
        obtain ⟨t, ht, rfl⟩ := Option.map_eq_some_iff.1 hx
        refine ⟨waits ht (fun b he => ?_) hc hq, Table.find?_erase_of_ne hij _⟩
        cases he
        exact hij rfl
      · cases hx
    | control => cases hx; exact ⟨hc, rfl⟩

/-- What only some incidents can end holds to the end of a run, or until one of them. -/
theorem holds_until {P : Hosted → Prop} {X : Incident → Prop} {xs : List Incident}
    (step : ∀ s s' x, P s → s.after? x = some s' → X x ∨ P s') (hp : P s)
    (hr : afterAll? s xs = some u) :
    P u ∨ ∃ ys x zs v, xs = ys ++ x :: zs ∧ X x ∧ afterAll? s ys = some v ∧ P v ∧
      afterAll? v (x :: zs) = some u := by
  induction xs generalizing s with
  | nil => cases hr; exact .inl hp
  | cons x xs ih =>
    obtain ⟨t, ht, hr'⟩ := Option.bind_eq_some_iff.1 hr
    rcases step s t x hp ht with hx | hpt
    · exact .inr ⟨[], x, xs, s, rfl, hx, rfl, hp, hr⟩
    · refine (ih hpt hr').imp_right ?_
      rintro ⟨ys, y, zs, v, rfl, hy, hv, hpv, hrv⟩
      exact ⟨x :: ys, y, zs, v, rfl, hy, by simp [afterAll?, ht, hv], hpv, hrv⟩

/-- A call whose answer is on its way waits until it is delivered. -/
theorem until_delivered {xs : List Incident} {i : Nat} {c : Call} {a : Answer}
    (hc : s.traffic.calls[i]? = some c) (hq : c.request?.isSome = true)
    (ha : Table.find? i s.transits = some (.answered a)) (hr : afterAll? s xs = some u) :
    u.traffic.calls[i]? = some c ∨ ∃ ys zs v, xs = ys ++ .event (.deliver i) :: zs ∧
      afterAll? s ys = some v ∧ v.traffic.calls[i]? = some c ∧
        Table.find? i v.transits = some (.answered a) ∧
          afterAll? v (.event (.deliver i) :: zs) = some u := by
  have step (s s' : Hosted) (x : Incident)
      (hp : s.traffic.calls[i]? = some c ∧ Table.find? i s.transits = some (.answered a))
      (hx : s.after? x = some s') : x = .event (.deliver i) ∨
        s'.traffic.calls[i]? = some c ∧ Table.find? i s'.transits = some (.answered a) := by
    by_cases hn : x.Concerns i
    · cases x with
      | loss => cases hn
      | event e =>
        cases e with
        | pose j =>
          cases hn
          simp only [after?, next?] at hx
          split at hx
          · cases hx
          · next hi => cases hp.2.symm.trans hi
          · cases hx
        | connect j =>
          cases hn
          simp only [after?, next?] at hx
          split at hx
          · next hi => cases hp.2.symm.trans hi
          · cases hx
        | finish j =>
          cases hn
          simp only [after?, next?, hp.2] at hx
          cases hx
        | deliver j => cases hn; exact .inl rfl
        | own | control => cases hn
    · obtain ⟨h1, h2⟩ := waits_after hp.1 hq hn hx
      exact .inr ⟨h1, h2.trans hp.2⟩
  rcases holds_until step ⟨hc, ha⟩ hr with ⟨hu, -⟩ | ⟨ys, x, zs, v, rfl, rfl, hv, ⟨h1, h2⟩, hrv⟩
  · exact .inl hu
  · exact .inr ⟨ys, zs, v, rfl, hv, h1, h2, hrv⟩

/-- A call whose question has not reached its host waits until it does. -/
theorem until_posed {xs : List Incident} {i : Nat} {c : Call} {side : Side} {q : Request}
    (hc : s.traffic.calls[i]? = some c) (hq : c.request? = some (side, q))
    (hcn : ∀ k b, q ≠ .connect k b) (ha : Table.find? i s.transits = none)
    (hr : afterAll? s xs = some u) :
    u.traffic.calls[i]? = some c ∨ ∃ ys now zs v, xs = ys ++ .event (.pose i now) :: zs ∧
      afterAll? s ys = some v ∧ v.traffic.calls[i]? = some c ∧ Table.find? i v.transits = none ∧
        afterAll? v (.event (.pose i now) :: zs) = some u := by
  have hs : c.request?.isSome = true := by rw [hq]; rfl
  have step (s s' : Hosted) (x : Incident)
      (hp : s.traffic.calls[i]? = some c ∧ Table.find? i s.transits = none)
      (hx : s.after? x = some s') : (∃ now, x = .event (.pose i now)) ∨
        s'.traffic.calls[i]? = some c ∧ Table.find? i s'.transits = none := by
    by_cases hn : x.Concerns i
    · cases x with
      | loss => cases hn
      | event e =>
        cases e with
        | pose j now => cases hn; exact .inl ⟨now, rfl⟩
        | connect j =>
          cases hn
          simp only [after?, next?, asked?, hp.1, Option.bind_some, hq] at hx
          split at hx
          · next he _ => cases he; exact absurd rfl (hcn _ _)
          · cases hx
        | finish j | deliver j =>
          cases hn
          simp only [after?, next?, hp.2] at hx
          cases hx
        | own | control => cases hn
    · obtain ⟨h1, h2⟩ := waits_after hp.1 hs hn hx
      exact .inr ⟨h1, h2.trans hp.2⟩
  rcases holds_until step ⟨hc, ha⟩ hr with
    ⟨hu, -⟩ | ⟨ys, x, zs, v, rfl, ⟨now, rfl⟩, hv, ⟨h1, h2⟩, hrv⟩
  · exact .inl hu
  · exact .inr ⟨ys, now, zs, v, rfl, hv, h1, h2, hrv⟩

/-! ## The question after a failed restart -/

/-- The state after a call has heard that its restart was refused. -/
theorem deliver_refused {i : Nat} {w : Work} {a : Call.After} {side : Side} {d : String}
    {now : Bool} {e : HostError} (hr : s.traffic.Reachable)
    (hc : s.traffic.calls[i]? = some (.working w a))
    (hp : w.phase = .calling side (.restart d now))
    (hi : Table.find? i s.transits = some (.answered (.refused e))) :
    s.after? (.event (.deliver i)) = some ⟨⟨s.hub, s.traffic.calls.set i
      (.working { w with phase := .probing ⟨side, d⟩ e } a)⟩, s.hosts,
        Table.erase i s.transits, s.drawn⟩ := by
  obtain ⟨r, hrec, -⟩ := (Traffic.placed_of_reachable hr).working i w a hc
  have hf := (Traffic.guarded_of_reachable hr).fits i w a r hc hrec
  rw [hp] at hf
  have hj : w.job = .restart now := by
    rcases hf with ⟨o, -, hq, -⟩ | ⟨b, t, -, -, hask⟩
    · cases hq
    · cases hj : w.job <;> rw [hj] at hask <;> cases hask
      rfl
  simp [after?, next?, hi, Traffic.next?, hc, Call.request?, Work.request?, hp, Call.answered?,
    Work.answered?, hrec, hj, Work.afterCall, hub]

/-- A host tells at once what it knows of a kernel. -/
theorem pose_model {i : Nat} {side : Side} {d : String} {now : Instant}
    (hq : s.asked? i = some (side, .model d))
    (hx : s.after? (.event (.pose i now)) = some s') :
    s'.traffic = s.traffic ∧ ∃ a, Table.find? i s'.transits = some (.answered a) := by
  simp only [after?, next?, hq] at hx
  split at hx
  · cases hx
  · next he _ =>
    cases he
    simp only [Memory.Host.accept] at hx
    cases hx
    exact ⟨rfl, _, Table.find?_set_self _ _ _⟩
  · cases hx

/-- Is another call inside the guard of the record at a place? -/
def Taken (s : Hosted) (p i : Nat) : Prop :=
  ∃ (j : Nat) (v : Work) (b : Call.After), j ≠ i ∧ s.traffic.calls[j]? = some (.working v b) ∧
    v.place = p ∧ v.phase.inside = true

theorem not_taken {i : Nat} {w : Work} {a : Call.After} (hs : s.Possible)
    (hc : s.traffic.calls[i]? = some (.working w a)) (hi : w.phase.inside = true) :
    ¬ s.Taken w.place i := by
  rintro ⟨j, v, b, hj, hv, hp, hvi⟩
  obtain ⟨hr, -⟩ := distinct_of_possible hs
  exact hj ((Traffic.guarded_of_reachable hr).exclusive j i v w b a hv hc hp hvi hi)

/-- Between the refusal of a restart and the next operation on the record, its host is asked what
became of the kernel, and its answer arrives. -/
theorem probed_of_refused {i : Nat} {w : Work} {a : Call.After} {side : Side} {d : String}
    {now : Bool} {e : HostError} {xs : List Incident} (hs : s.Possible)
    (hc : s.traffic.calls[i]? = some (.working w a))
    (hp : w.phase = .calling side (.restart d now))
    (hi : Table.find? i s.transits = some (.answered (.refused e)))
    (hr : afterAll? s xs = some u) (hu : u.Taken w.place i) :
    ∃ x₁ x₂ x₃ x₄ t v,
      xs = x₁ ++ .event (.deliver i) :: (x₂ ++ .event (.pose i t) ::
        (x₃ ++ .event (.deliver i) :: x₄)) ∧
      afterAll? s (x₁ ++ .event (.deliver i) :: x₂) = some v ∧
        v.asked? i = some (side, .model d) := by
  have hup := possible_afterAll hs hr
  have hin : w.phase.inside = true := by rw [hp]; rfl
  have hq : (Call.working w a).request?.isSome = true := by
    simp [Call.request?, Work.request?, hp]
  -- The refusal arrives, and the guard is still held.
  rcases until_delivered hc hq hi hr with hcu | ⟨x₁, zs, s₁, rfl, hs₁, hc₁, hi₁, hr₁⟩
  · exact absurd hu (not_taken hup hcu hin)
  have hp₁ := possible_afterAll hs hs₁
  obtain ⟨s₂, hx₁, hr₂⟩ := Option.bind_eq_some_iff.1 hr₁
  have hx₁' := hx₁
  rw [deliver_refused (distinct_of_possible hp₁).1 hc₁ hp hi₁] at hx₁'
  have hprobe {t : Hosted}
      (ht : t.traffic.calls[i]? = some (.working { w with phase := .probing ⟨side, d⟩ e } a)) :
      t.asked? i = some (side, .model d) := by
    simp [asked?, ht, Call.request?, Work.request?]
  have hc₂ : s₂.traffic.calls[i]? =
      some (.working { w with phase := .probing ⟨side, d⟩ e } a) := by
    cases hx₁'
    exact Traffic.set_call_self hc₁ _
  have hi₂ : Table.find? i s₂.transits = none := by
    cases hx₁'
    exact Table.find?_erase_self _ _
  -- The question after it reaches the host.
  rcases until_posed hc₂ rfl (by simp) hi₂ hr₂ with
    hcu | ⟨x₂, t, zs, s₃, rfl, hs₃, hc₃, hi₃, hr₃⟩
  · exact absurd hu (not_taken (w := { w with phase := .probing ⟨side, d⟩ e }) hup hcu rfl)
  obtain ⟨s₄, hx₃, hr₄⟩ := Option.bind_eq_some_iff.1 hr₃
  obtain ⟨ht, b, hi₄⟩ := pose_model (hprobe hc₃) hx₃
  -- Its answer arrives.
  rcases until_delivered (by rw [ht]; exact hc₃) rfl hi₄ hr₄ with
    hcu | ⟨x₃, x₄, s₅, rfl, -⟩
  · exact absurd hu (not_taken (w := { w with phase := .probing ⟨side, d⟩ e }) hup hcu rfl)
  refine ⟨x₁, x₂, x₃, x₄, t, s₃, rfl, ?_, hprobe hc₃⟩
  rw [afterAll?_append, hs₁]
  simp only [Option.bind_some, afterAll?, hx₁]
  exact hs₃

/-! ## Turns -/

/-- Operations on one kernel take turns. -/
structure Serial (s : Hosted) : Prop where
  /-- Of the operations on one kernel of a host, at most one has begun and not ended. -/
  alone : ∀ i j side k, s.Holds i side k → s.Holds j side k → i = j
  /-- A host's mark tells that an operation has begun and not ended. -/
  marked : ∀ side k, (s.hosts side).busy k = true ↔ ∃ i, s.Holds i side k
  /-- No host has ever met two operations on one kernel. -/
  never : ∀ side, (s.hosts side).overlaps = 0
  /-- At most one call is inside the guard of a record. -/
  inside : ∀ (i : Nat) (w : Work) (a : Call.After), s.traffic.calls[i]? = some (.working w a) →
    w.phase.inside = true → ¬ s.Taken w.place i
  /-- When a restart was refused, its host is asked what became of the kernel, and its answer
  has arrived, before any other call gets inside. -/
  probed : ∀ (i : Nat) (w : Work) (a : Call.After) (side : Side) (d : String) (now : Bool)
    (e : HostError), s.traffic.calls[i]? = some (.working w a) →
      w.phase = .calling side (.restart d now) →
        Table.find? i s.transits = some (.answered (.refused e)) →
          (∃ s', s.after? (.event (.deliver i)) = some s' ∧
            s'.asked? i = some (side, .model d)) ∧
          ∀ xs u, afterAll? s xs = some u → u.Taken w.place i →
            ∃ x₁ x₂ x₃ x₄ t v,
              xs = x₁ ++ .event (.deliver i) :: (x₂ ++ .event (.pose i t) ::
                (x₃ ++ .event (.deliver i) :: x₄)) ∧
              afterAll? s (x₁ ++ .event (.deliver i) :: x₂) = some v ∧
                v.asked? i = some (side, .model d)

/-- Whatever callers ask of an unused hub over blank hosts, and in whatever order things happen,
operations on one kernel take turns. -/
theorem serial_of_possible (hs : s.Possible) : s.Serial := by
  have ho := orderly_of_possible hs
  refine ⟨ho.alone, ho.marked, ho.never, fun i w a hc hi => not_taken hs hc hi,
    fun i w a side d now e hc hp hi => ⟨?_, fun xs u hr hu => ?_⟩⟩
  · refine ⟨_, deliver_refused (distinct_of_possible hs).1 hc hp hi, ?_⟩
    simp [asked?, Traffic.set_call_self hc, Call.request?, Work.request?]
  · exact probed_of_refused hs hc hp hi hr hu

/-- A kernel is started; its restart is refused, while an interrupt waits for the guard. -/
def refusedRestart : List Incident :=
  [.own (.ask (.start (some "python3") { id := some .zero } .zero)), .own (.step 0),
    .own (.step 0), .own (.step 0), .own (.step 0), .own (.step 0), .pose 0 default,
    .finish 0 default .zero, .deliver 0, .own (.step 0), .own (.step 0), .own (.step 0),
    .own (.step 0), .own (.step 0), .own (.ask (.kernel .zero (.restart false))),
    .own (.step 1), .own (.step 1), .own (.step 1), .own (.step 1),
    .own (.ask (.kernel .zero .interrupt)), .own (.step 2), .own (.step 2),
    .control .home (.failing true), .pose 1 default].map .event

/-- The kernel is lost before its host is asked about it; then the interrupt gets its turn. -/
def lostRestart : List Incident :=
  [.event (.deliver 1), .loss .home (toString KernelId.zero), .event (.pose 1 default),
    .event (.deliver 1), .event (.own (.step 1)), .event (.own (.step 1)),
    .event (.own (.step 2))]

/-- The interrupt that waits gets inside only after the host has told that the kernel is lost. -/
theorem serial_refusedRestart : ∃ s u : Hosted, s.Possible ∧ s.Serial ∧
    Table.find? 1 s.transits =
      some (.answered (.refused (.failed "restart rejected by local host"))) ∧
    afterAll? s lostRestart = some u ∧ u.Taken 0 1 ∧ u.Serial ∧
    u.hub.kernelState? .zero = some .dead := by
  have key {s u : Hosted}
      (hs : afterAll? ⟨⟨pythonHub, []⟩, vacantHosts, [], []⟩ refusedRestart = some s)
      (hi : Table.find? 1 s.transits =
        some (.answered (.refused (.failed "restart rejected by local host"))))
      (hu : afterAll? s lostRestart = some u)
      (hc : u.traffic.calls[2]? =
        some (.working { job := .interrupt, place := 0, phase := .entered } .nothing))
      (hk : u.hub.kernelState? .zero = some .dead) :
      s.Possible ∧ s.Serial ∧ Table.find? 1 s.transits =
        some (.answered (.refused (.failed "restart rejected by local host"))) ∧
        afterAll? s lostRestart = some u ∧ u.Taken 0 1 ∧ u.Serial ∧
        u.hub.kernelState? .zero = some .dead := by
    have hp : s.Possible :=
      ⟨pythonHub, vacantHosts, refusedRestart, pythonHub_unused,
        fun side => ⟨rfl, rfl, rfl, rfl⟩, hs⟩
    exact ⟨hp, serial_of_possible hp, hi, hu, ⟨2, _, _, by decide, hc, rfl, rfl⟩,
      serial_of_possible (possible_afterAll hp hu), hk⟩
  exact ⟨_, _, key rfl rfl rfl rfl rfl⟩

end KernelHub.Hosted
