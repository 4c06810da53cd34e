import KernelHub.Hub.Work

/-
What a step of work on a record can be. The work's own steps are the eight turns of
`Turn`, its reactions to a host's answer are those of `Reaction`, or of `Heard` where it
does not matter what the answer was, and what it finds once it has the guard is told by
`Entry`. Everything that is kept by work is proved by cases on these.
-/

namespace KernelHub

namespace Hub

theorem record?_edit (h : Hub) (r : Nat) (f : Record → Record) (p : Nat) :
    (h.edit r f).record? p = if r = p then (h.record? p).map f else h.record? p := by
  by_cases hp : r = p <;> simp [record?, edit, hp]

@[simp] theorem registry_edit (h : Hub) (r f) : (h.edit r f).registry = h.registry := rfl
@[simp] theorem idMap_edit (h : Hub) (r f) : (h.edit r f).idMap = h.idMap := rfl
@[simp] theorem retired_edit (h : Hub) (r f) : (h.edit r f).retired = h.retired := rfl
@[simp] theorem hasRemote_edit (h : Hub) (r f) : (h.edit r f).hasRemote = h.hasRemote := rfl

theorem bound?_some {h : Hub} {r : Record} {b : Binding} :
    h.bound? r = some b ↔ r.binding = some b ∧ h.hasSide b.side = true := by
  simp [bound?, Option.filter_eq_some_iff]

end Hub

/-- Is it an answer to the question, and no crash? -/
def Request.Fits : Request → Answer → Bool
  | .specs, .specs _ => true
  | .spec _, .spec _ => true
  | .start .., .started _ => true
  | .shutdown .., .done => true
  | .interrupt _, .done => true
  | .restart .., .done => true
  | .model _, .model _ => true
  | .list, .models _ => true
  | .has _, .has _ => true
  | .has _, .refused _ => false
  | .openChannel .., .opened _ => true
  | .connect .., .done => true
  | _, .refused _ => true
  | _, _ => false

theorem Request.not_crashed_of_fits {q : Request} {a : Answer} (ha : q.Fits a = true) :
    a ≠ .crashed := by
  rintro rfl
  cases q <;> cases ha

/-- The results a job can have. -/
def Job.Gives (id : KernelId) (job : Job) : Result → Prop
  | .error _ => True
  | .ok o =>
    match job with
    | .start _ => o = .started id
    | .model => ∃ m, o = .model m
    | _ => o = .done

/-- What a job asks of the host of a bound record, and the state it writes before. -/
def Job.asks (b : Binding) : Job → Option (Request × Option KernelState)
  | .start _ => none
  | .shutdown now => some (.shutdown b.delegate now, none)
  | .interrupt => some (.interrupt b.delegate, some .interrupting)
  | .restart now => some (.restart b.delegate now, some .restarting)
  | .model => some (.model b.delegate, none)

namespace Work

variable {h h' : Hub} {w w' : Work} {r : Record}

/-- Is the guard held in this phase? -/
def Phase.inside : Phase → Bool
  | .waiting => false
  | .ended _ => false
  | _ => true

/-- Does the work wait for an answer in this phase? -/
def Phase.asking : Phase → Bool
  | .calling .. => true
  | .probing .. => true
  | _ => false

/-- What work can find once it has the guard: the state to write, and the next phase. -/
inductive Entry (h : Hub) (r : Record) : Job → Option KernelState → Phase → Prop
  | refused {job e} (he : (∃ op, e = .invalidState r.id op r.state) ∨ e = .kernelNotFound r.id) :
    Entry h r job none (.releasing (.error e))
  | began {o} (hs : r.state = .unborn) (hh : h.hasSide (h.provenance.route r.name) = true) :
    Entry h r (.start o) (some .starting)
      (.calling (h.provenance.route r.name) (.start r.name o))
  | homeless {o} (hs : r.state = .unborn) (hh : h.hasSide (h.provenance.route r.name) = false) :
    Entry h r (.start o) (some .dead) (.releasing (.error (.specNotFound r.name)))
  | gone {now} (hb : h.bound? r = none) (hs : r.state = .dead) :
    Entry h r (.shutdown now) none (.releasing (.ok .done))
  | asked {job b q s} (hb : r.binding = some b) (hh : h.hasSide b.side = true)
      (hq : job.asks b = some (q, s)) (hs : s ≠ none → r.state = .running) :
    Entry h r job s (.calling b.side q)

theorem entry_enter (h : Hub) (r : Record) (job : Job) :
    Entry h r job (enter h r job).1 (enter h r job).2 := by
  cases job with
  | start o =>
    simp only [enter]
    split
    · exact .refused (.inl ⟨_, rfl⟩)
    · next hs =>
      simp only [ne_eq, Decidable.not_not] at hs
      split
      · next hh => exact .began hs hh
      · next hh => exact .homeless hs (by simpa using hh)
  | shutdown now =>
    simp only [enter]
    split
    · next b hb =>
      obtain ⟨hb, hh⟩ := Hub.bound?_some.1 hb
      exact .asked hb hh rfl (by simp)
    · next hb =>
      split
      · next hs => exact .gone hb hs
      · exact .refused (.inl ⟨_, rfl⟩)
  | interrupt | restart =>
    simp only [enter]
    split
    · exact .refused (.inl ⟨_, rfl⟩)
    · next hs =>
      simp only [ne_eq, Decidable.not_not] at hs
      split
      · next b hb =>
        obtain ⟨hb, hh⟩ := Hub.bound?_some.1 hb
        exact .asked hb hh rfl fun _ => hs
      · exact .refused (.inr rfl)
  | model =>
    simp only [enter]
    split
    · next b hb =>
      obtain ⟨hb, hh⟩ := Hub.bound?_some.1 hb
      exact .asked hb hh rfl (by simp)
    · exact .refused (.inr rfl)

/-- A step that work takes of its own, on its record. -/
inductive Turn (h : Hub) (w : Work) (r : Record) : Hub → Work → Prop
  | take (hp : w.phase = .waiting) (hg : r.guarded = false) :
    Turn h w r (h.setGuard w.place true) { w with phase := .entered }
  | enter {s p} (hp : w.phase = .entered) (he : Entry h r w.job s p) :
    Turn h w r (writeState h w.place s) { w with phase := p }
  | map {b} (hp : w.phase = .mapping b) :
    Turn h w r (h.map r.id b) { w with phase := .binding b }
  | bind {b} (hp : w.phase = .binding b) :
    Turn h w r (h.setBinding w.place (some b))
      { w with phase := .settling .running (.ok (.started r.id)) }
  | unmap (hp : w.phase = .unmapping) : Turn h w r (h.unmap r.id) { w with phase := .unbinding }
  | unbind (hp : w.phase = .unbinding) :
    Turn h w r (h.setBinding w.place none) { w with phase := .settling .dead (.ok .done) }
  | settle {s res} (hp : w.phase = .settling s res) :
    Turn h w r (h.setState w.place s) { w with phase := .releasing res }
  | release {res} (hp : w.phase = .releasing res) :
    Turn h w r (h.setGuard w.place false) { w with phase := .ended res }

theorem turn_of_step? (hs : w.step? h = some (h', w')) :
    ∃ r, h.record? w.place = some r ∧ Turn h w r h' w' := by
  unfold step? at hs
  cases hr : h.record? w.place with
  | none => simp [hr] at hs
  | some r =>
    refine ⟨r, rfl, ?_⟩
    simp only [hr, Option.bind_eq_bind, Option.bind_some] at hs
    cases hp : w.phase <;> simp only [hp] at hs
    case waiting =>
      split at hs
      · cases hs
      · next hg => cases hs; exact .take hp (by simpa using hg)
    case entered => cases hs; exact .enter hp (entry_enter h r w.job)
    case calling => cases hs
    case probing => cases hs
    case mapping b => cases hs; exact .map hp
    case binding b => cases hs; exact .bind hp
    case unmapping => cases hs; exact .unmap hp
    case unbinding => cases hs; exact .unbind hp
    case settling s res => cases hs; exact .settle hp
    case releasing res => cases hs; exact .release hp
    case ended => cases hs

/-- What the answer to a job's own question leads to. -/
inductive Replied (r : Record) (side : Side) : Job → Request → Answer → Phase → Prop
  | crashed {job q} : Replied r side job q .crashed (.releasing (.error .crashed))
  | started {o q d} : Replied r side (.start o) q (.started d) (.mapping ⟨side, d⟩)
  | unknown {o q what} : Replied r side (.start o) q (.refused (.notFound what))
      (.settling .dead (.error (.specNotFound r.name)))
  | unstarted {o q e} (he : e.isNotFound = false) : Replied r side (.start o) q (.refused e)
      (.settling .dead (.error (.operationFailed r.id .start e)))
  | stopped {now q} : Replied r side (.shutdown now) q .done .unmapping
  | gone {now q what} : Replied r side (.shutdown now) q (.refused (.notFound what)) .unmapping
  | unstopped {now q e} (he : e.isNotFound = false) :
    Replied r side (.shutdown now) q (.refused e)
      (.releasing (.error (.operationFailed r.id .shutdown e)))
  | interrupted {q} : Replied r side .interrupt q .done (.settling .running (.ok .done))
  | uninterrupted {q e} : Replied r side .interrupt q (.refused e)
      (.settling .running (.error (.operationFailed r.id .interrupt e)))
  | restarted {now q} : Replied r side (.restart now) q .done (.settling .running (.ok .done))
  | unrestarted {now d n e} :
    Replied r side (.restart now) (.restart d n) (.refused e) (.probing ⟨side, d⟩ e)
  | described {q m} : Replied r side .model q (.model m)
      (.releasing (.ok (.model (Hub.clientModel r.id side m))))
  | missing {q what} : Replied r side .model q (.refused (.notFound what))
      (.releasing (.error (.kernelNotFound r.id)))
  | undescribed {q e} (he : e.isNotFound = false) : Replied r side .model q (.refused e)
      (.releasing (.error (.operationFailed r.id .model e)))

theorem replied_of_afterCall {side : Side} {q : Request} {job : Job} {a : Answer} {p : Phase}
    (ha : afterCall r side job q a = some p) : Replied r side job q a p := by
  cases a with
  | crashed => cases ha; exact .crashed
  | started => cases job <;> cases ha; exact .started
  | model => cases job <;> cases ha; exact .described
  | done =>
    cases job with
    | shutdown => cases ha; exact .stopped
    | interrupt => cases ha; exact .interrupted
    | restart => cases ha; exact .restarted
    | start | model => cases ha
  | refused e =>
    cases job with
    | start => cases e <;> cases ha <;> first | exact .unknown | exact .unstarted rfl
    | shutdown => cases e <;> cases ha <;> first | exact .gone | exact .unstopped rfl
    | interrupt => cases e <;> cases ha <;> exact .uninterrupted
    | restart =>
      cases q with
      | restart => cases e <;> cases ha <;> exact .unrestarted
      | _ => cases e <;> cases ha
    | model => cases e <;> cases ha <;> first | exact .missing | exact .undescribed rfl
  | specs | spec | models | has | opened => cases job <;> cases ha

/-- What the answer to the look after a failed restart leads to. -/
inductive Probed (r : Record) (e : HostError) : Answer → Phase → Prop
  | crashed : Probed r e .crashed (.releasing (.error .crashed))
  | lost {what} : Probed r e (.refused (.notFound what))
      (.settling .dead (.error (.operationFailed r.id .restart e)))
  | unseen {e'} (he : e'.isNotFound = false) : Probed r e (.refused e')
      (.settling .running (.error (.operationFailed r.id .restart e)))
  | seen {m} : Probed r e (.model m)
      (.settling .running (.error (.operationFailed r.id .restart e)))

theorem probed_of_afterProbe {e : HostError} {a : Answer} {p : Phase}
    (ha : afterProbe r e a = some p) : Probed r e a p := by
  cases a with
  | crashed => cases ha; exact .crashed
  | model => cases ha; exact .seen
  | refused e' => cases e' <;> cases ha <;> first | exact .lost | exact .unseen rfl
  | started | done | specs | spec | models | has | opened => cases ha

/-- A reaction of work to the answer it waited for: the phase before and after. -/
inductive Reaction (r : Record) (job : Job) (a : Answer) : Phase → Phase → Prop
  | replied {side q p} (hr : Replied r side job q a p) : Reaction r job a (.calling side q) p
  | probed {b e p} (hp : Probed r e a p) : Reaction r job a (.probing b e) p

theorem reaction_of_answered? {a : Answer} (hs : w.answered? h a = some w') :
    ∃ r p, h.record? w.place = some r ∧ Reaction r w.job a w.phase p ∧
      w' = { w with phase := p } := by
  unfold answered? at hs
  cases hr : h.record? w.place with
  | none => simp [hr] at hs
  | some r =>
    simp only [hr, Option.bind_eq_bind, Option.bind_some] at hs
    cases hp : w.phase <;> simp only [hp] at hs
    case calling side q =>
      obtain ⟨p, ha, hw⟩ := Option.bind_eq_some_iff.1 hs
      cases hw
      exact ⟨r, p, rfl, .replied (replied_of_afterCall ha), rfl⟩
    case probing b e =>
      obtain ⟨p, ha, hw⟩ := Option.bind_eq_some_iff.1 hs
      cases hw
      exact ⟨r, p, rfl, .probed (probed_of_afterProbe ha), rfl⟩
    all_goals cases hs

/-- A reaction of work, whatever the answer: the phase before and after. -/
inductive Heard (r : Record) : Job → Phase → Phase → Prop
  | crashed {job p} (hp : p.asking = true) : Heard r job p (.releasing (.error .crashed))
  | started {o side q d} : Heard r (.start o) (.calling side q) (.mapping ⟨side, d⟩)
  | unstarted {o side q e} : Heard r (.start o) (.calling side q) (.settling .dead (.error e))
  | stopped {now side q} : Heard r (.shutdown now) (.calling side q) .unmapping
  | unstopped {now side q e} : Heard r (.shutdown now) (.calling side q) (.releasing (.error e))
  | interrupted {side q res} (hr : Job.Gives r.id .interrupt res) :
    Heard r .interrupt (.calling side q) (.settling .running res)
  | restarted {now side q} :
    Heard r (.restart now) (.calling side q) (.settling .running (.ok .done))
  | unrestarted {now side d n e} :
    Heard r (.restart now) (.calling side (.restart d n)) (.probing ⟨side, d⟩ e)
  | told {side q res} (hr : Job.Gives r.id .model res) :
    Heard r .model (.calling side q) (.releasing res)
  | probed {job b e s e'} (hs : s = .dead ∨ s = .running) :
    Heard r job (.probing b e) (.settling s (.error e'))

theorem heard_of_reaction {job : Job} {a : Answer} {p p' : Phase}
    (hr : Reaction r job a p p') : Heard r job p p' := by
  cases hr with
  | replied hr =>
    cases hr with
    | crashed => exact .crashed rfl
    | started => exact .started
    | unknown | unstarted => exact .unstarted
    | stopped | gone => exact .stopped
    | unstopped => exact .unstopped
    | interrupted => exact .interrupted rfl
    | uninterrupted => exact .interrupted trivial
    | restarted => exact .restarted
    | unrestarted => exact .unrestarted
    | described => exact .told ⟨_, rfl⟩
    | missing | undescribed => exact .told trivial
  | probed hp =>
    cases hp with
    | crashed => exact .crashed rfl
    | lost => exact .probed (.inl rfl)
    | unseen | seen => exact .probed (.inr rfl)

theorem heard_of_answered? {a} (hs : w.answered? h a = some w') :
    ∃ r p, h.record? w.place = some r ∧ Heard r w.job w.phase p ∧ w' = { w with phase := p } := by
  obtain ⟨r, p, hr, hx, rfl⟩ := reaction_of_answered? hs
  exact ⟨r, p, hr, heard_of_reaction hx, rfl⟩

end Work

end KernelHub
