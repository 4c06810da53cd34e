import KernelHub.Proofs.Solo
import KernelHub.Proofs.Traffic.Places

/-
Every call comes to an end. Each step of a call, and each answer that it gets, brings it
nearer to its end, whatever else happens on the hub; and a call that runs alone is never
stuck, if the hosts answer what they are asked.
-/

namespace KernelHub

/-- Are all registered records there, and no call at work on them? -/
def Hub.Idle (h : Hub) : Prop :=
  ∀ id p, Table.find? id h.registry = some p → ∃ r, h.record? p = some r ∧ r.guarded = false

/-- Is it the question that a job asks? -/
def Job.Poses : Job → Request → Prop
  | .start _, q => ∃ name o, q = .start name o
  | .shutdown _, q => ∃ d now, q = .shutdown d now
  | .interrupt, q => ∃ d, q = .interrupt d
  | .restart _, q => ∃ d now, q = .restart d now
  | .model, q => ∃ d, q = .model d

namespace Work

variable {h h' : Hub} {w w' : Work} {r : Record}

/-- How far a phase is from the end of the work. -/
def Phase.rank : Phase → Nat
  | .waiting => 8
  | .entered => 7
  | .calling .. => 6
  | .probing .. => 5
  | .mapping _ => 5
  | .binding _ => 4
  | .unmapping => 5
  | .unbinding => 4
  | .settling .. => 3
  | .releasing _ => 2
  | .ended _ => 1

theorem rank_enter {job s p} (he : Entry h r job s p) : p.rank < Phase.entered.rank := by
  cases he <;> simp [Phase.rank]

theorem rank_turn (ht : w.Turn h r h' w') : w'.phase.rank < w.phase.rank := by
  cases ht with
  | enter hp he => rw [hp]; exact rank_enter he
  | take hp | map hp | bind hp | unmap hp | unbind hp | settle hp | release hp =>
    simp [hp, Phase.rank]

theorem rank_heard {job p p'} (hh : Heard r job p p') : p'.rank < p.rank := by
  cases hh with
  | @crashed job p hp =>
    cases p with
    | calling | probing => simp [Phase.rank]
    | _ => cases hp
  | _ => simp [Phase.rank]

theorem poses_enter {job s p} (he : Entry h r job s p) :
    p ≠ .waiting ∧ ∀ side q, p = .calling side q → job.Poses q := by
  cases he with
  | began =>
    refine ⟨nofun, fun side q hq => ?_⟩
    cases hq
    exact ⟨_, _, rfl⟩
  | asked _ _ hq =>
    refine ⟨nofun, fun side q hs => ?_⟩
    cases hs
    cases job <;> cases hq <;> first | exact ⟨_, _, rfl⟩ | exact ⟨_, rfl⟩
  | _ => exact ⟨nofun, nofun⟩

/-- Work that took a turn does not wait for the guard, and asks what suits its job. -/
theorem poses_turn (ht : w.Turn h r h' w') :
    w'.phase ≠ .waiting ∧ ∀ side q, w'.phase = .calling side q → w'.job.Poses q := by
  cases ht with
  | enter _ he => exact poses_enter he
  | _ => exact ⟨nofun, nofun⟩

theorem heard_asks_no_more {job p p'} (hh : Heard r job p p') :
    p' ≠ .waiting ∧ ∀ side q, p' ≠ .calling side q := by
  cases hh <;> exact ⟨nofun, nofun⟩

/-- Whoever asks a job's question and gets a fitting answer goes on. -/
theorem afterCall_of_fits {side : Side} {job : Job} {q : Request} {a : Answer}
    (hj : job.Poses q) (ha : q.Fits a = true) : (afterCall r side job q a).isSome = true := by
  cases job with
  | start =>
    obtain ⟨name, o, rfl⟩ := hj
    cases a with
    | refused e => cases e <;> rfl
    | started | crashed => rfl
    | _ => cases ha
  | shutdown =>
    obtain ⟨d, now, rfl⟩ := hj
    cases a with
    | refused e => cases e <;> rfl
    | done | crashed => rfl
    | _ => cases ha
  | interrupt =>
    obtain ⟨d, rfl⟩ := hj
    cases a with
    | refused e => cases e <;> rfl
    | done | crashed => rfl
    | _ => cases ha
  | restart =>
    obtain ⟨d, now, rfl⟩ := hj
    cases a with
    | refused e => cases e <;> rfl
    | done | crashed => rfl
    | _ => cases ha
  | model =>
    obtain ⟨d, rfl⟩ := hj
    cases a with
    | refused e => cases e <;> rfl
    | model | crashed => rfl
    | _ => cases ha

theorem afterProbe_of_fits {e : HostError} {d : String} {a : Answer}
    (ha : (Request.model d).Fits a = true) : (afterProbe r e a).isSome = true := by
  cases a with
  | refused e' => cases e' <;> rfl
  | model | crashed => rfl
  | _ => cases ha

end Work

namespace Call

variable {h h' : Hub} {c c' : Call}

/-- How far a call is from its end. -/
def rank : Call → Nat
  | asked _ => 20
  | naming .. => 19
  | checking .. => 18
  | mergingHome _ => 17
  | mergedHome .. => 16
  | mergingRemote .. => 15
  | merged .. => 14
  | registering .. => 13
  | seeking .. => 13
  | working w _ => 4 + w.phase.rank
  | listing .remote _ => 4
  | listed .remote .. => 3
  | listing .home _ => 2
  | opening .. => 2
  | retiring _ => 2
  | ended _ => 0
  | _ => 1

theorem rank_begun {k : Command} (hb : Begun h k c) : c.rank < 20 := by
  cases hb with
  | @list side => cases side <;> simp [rank]
  | record => simp [rank, Work.Phase.rank]
  | _ => simp [rank]

theorem rank_follow (res : Result) (after : After) : (follow res after).rank < 5 := by
  cases after <;> cases res <;> simp [follow, rank]

/-- A step of its own brings a call nearer to its end. -/
theorem rank_step (hs : c.step? h = some (h', c')) : c'.rank < c.rank := by
  cases advance_of_step? hs with
  | begun hb => exact rank_begun hb
  | registered | found => simp [rank, Work.Phase.rank]
  | worked hw =>
    obtain ⟨r, -, ht⟩ := Work.turn_of_step? hw
    exact Nat.add_lt_add_left (Work.rank_turn ht) 4
  | @followed w after res hp =>
    simp only [rank, hp]
    exact rank_follow res after
  | _ => simp [rank]

theorem rank_pos (hc : ∀ res, c ≠ ended res) : 0 < c.rank := by
  cases c with
  | ended res => exact absurd rfl (hc res)
  | working w after => exact Nat.add_pos_left (by decide) _
  | listing side | listed side => cases side <;> simp [rank]
  | _ => simp [rank]

/-- So does an answer. -/
theorem rank_answered {a : Answer} (hs : c.answered? h a = some c') : c'.rank < c.rank := by
  cases reaction_of_answered? hs with
  | crashed _ _ he => exact rank_pos he
  | heard hw =>
    obtain ⟨r, p, -, hh, rfl⟩ := Work.heard_of_answered? hw
    exact Nat.add_lt_add_left (Work.rank_heard hh) 4
  | @listed side => cases side <;> simp [rank]
  | _ => simp [rank]

/-! ## A call that runs alone -/

/-- Nothing that the call needs is missing or taken: offered commands find the hub idle, and
work has its record, the guard free or its own, and a question that suits its job. -/
def Ready (h : Hub) : Call → Prop
  | working w _ => ∃ r, h.record? w.place = some r ∧ (w.phase = .waiting → r.guarded = false) ∧
    ∀ side q, w.phase = .calling side q → w.job.Poses q
  | dropping .. => True
  | retiring _ => True
  | leaving _ => True
  | ended _ => True
  | c => c.offered = true ∧ h.Idle

theorem ready_of_light (hc : c.light = true) (ho : c.offered = true) (hi : h.Idle) :
    Ready h c := by
  cases c with
  | working | dropping | retiring | leaving => cases hc
  | ended => trivial
  | _ => exact ⟨ho, hi⟩

/-- A light call that is not over was asked on an idle hub. -/
theorem idle_of_ready (hr : Ready h c) (hc : c.light = true) (he : ∀ res, c ≠ ended res) :
    c.offered = true ∧ h.Idle := by
  cases c with
  | working | dropping | retiring | leaving => cases hc
  | ended res => exact absurd rfl (he res)
  | _ => exact hr

theorem ready_step (hr : Ready h c) (he : ∀ res, c ≠ ended res)
    (hs : c.step? h = some (h', c')) : Ready h' c' := by
  have ho : c.offered = true := by
    by_cases hc : c.light = true
    · exact (idle_of_ready hr hc he).1
    · cases c <;> first | rfl | exact absurd rfl hc
  cases move_of_step? ho hs with
  | aside hc hc' ho' => exact ready_of_light hc' ho' (idle_of_ready hr hc he).2
  | @register name options _ _ place hreg =>
    obtain ⟨-, -, rfl, rfl⟩ := Hub.register?_eq_some hreg
    exact ⟨_, (Hub.record?_enroll ..).trans (if_pos rfl), fun _ => rfl, nofun⟩
  | seek hf =>
    obtain ⟨r, hrec, hg⟩ := hr.2 _ _ hf
    exact ⟨r, hrec, fun _ => hg, nofun⟩
  | work hw =>
    obtain ⟨r, hrec, ht⟩ := Work.turn_of_step? hw
    have hf := Work.frame_turn hrec ht
    obtain ⟨r', hrec', -⟩ := hf.record
    obtain ⟨hw', hp⟩ := Work.poses_turn ht
    exact ⟨r', hf.place ▸ hrec', fun hw => absurd hw hw', hp⟩
  | @follow w after res => cases after <;> cases res <;> trivial
  | drop | retire | leave => trivial

theorem ready_answered {a : Answer} (hr : Ready h c) (hq : c.request?.isSome = true)
    (hs : c.answered? h a = some c') : Ready h c' := by
  have he : ∀ res, c ≠ ended res := by
    rintro res rfl
    cases hq
  cases reply_of_answered? hq hs with
  | aside hc hc' ho' => exact ready_of_light hc' ho' (idle_of_ready hr hc he).2
  | heard hw =>
    obtain ⟨r, p, hrec, hh, rfl⟩ := Work.heard_of_answered? hw
    obtain ⟨hw, hp⟩ := Work.heard_asks_no_more hh
    exact ⟨r, hrec, fun he => absurd he hw, fun side q hq => absurd hq (hp side q)⟩

/-- A call that does not work on a record takes every fitting answer. -/
theorem answered_of_fits {side : Side} {q : Request} {a : Answer}
    (hq : c.request? = some (side, q)) (hw : ∀ w after, c ≠ working w after)
    (ha : q.Fits a = true) : (c.answered? h a).isSome = true := by
  cases c with
  | working w after => exact absurd rfl (hw w after)
  | naming =>
    cases hq
    cases a with
    | specs =>
      simp only [answered?]
      split <;> rfl
    | refused => rfl
    | _ => cases ha
  | mergingHome | mergingRemote | defaulting =>
    cases hq
    cases a with
    | specs | refused => rfl
    | _ => cases ha
  | describing =>
    cases hq
    cases a with
    | refused e => cases e <;> rfl
    | spec => rfl
    | _ => cases ha
  | listing side =>
    cases hq
    cases a with
    | refused => cases side <;> rfl
    | models => rfl
    | _ => cases ha
  | activating =>
    cases hq
    cases a with
    | has => rfl
    | _ => cases ha
  | opening =>
    cases hq
    cases a with
    | refused e => cases e <;> rfl
    | opened => rfl
    | _ => cases ha
  | connecting =>
    cases hq
    cases a with
    | refused | done => rfl
    | _ => cases ha
  | _ => cases hq

/-- The call takes a step, or waits for an answer and takes every fitting one. -/
def GoesOn (h : Hub) (c : Call) : Prop :=
  (c.step? h).isSome = true ∨ ∃ side q, c.request? = some (side, q) ∧
    ∀ a, q.Fits a = true → (c.answered? h a).isSome = true

/-- Only work can be stuck. -/
theorem goes_on_light (hw : ∀ w after, c ≠ working w after) (he : ∀ res, c ≠ ended res) :
    c.GoesOn h := by
  cases c with
  | working w after => exact absurd rfl (hw w after)
  | ended res => exact absurd rfl (he res)
  | asked | checking | mergedHome | merged | seeking | dropping | retiring | leaving | listed =>
    exact .inl rfl
  | registering name options fresh =>
    refine .inl ?_
    simp only [step?]
    split <;> rfl
  | naming | mergingHome | mergingRemote | describing | defaulting | listing | activating
  | opening | connecting =>
    exact .inr ⟨_, _, rfl, fun a ha => answered_of_fits rfl hw ha⟩

/-- A call that is ready and not over takes a step, or waits for an answer and takes every
fitting one. -/
theorem goes_on (hr : Ready h c) (he : ∀ res, c ≠ ended res) : c.GoesOn h := by
  by_cases hw : ∃ w after, c = working w after
  · obtain ⟨⟨job, place, phase⟩, after, rfl⟩ := hw
    obtain ⟨r, hrec, hg, hp⟩ := hr
    simp only at hrec hg hp
    cases phase with
    | waiting => exact .inl (by simp [step?, Work.step?, hrec, hg rfl])
    | calling side q =>
      refine .inr ⟨side, q, rfl, fun a ha => ?_⟩
      obtain ⟨p, hp⟩ : ∃ p, Work.afterCall r side job q a = some p :=
        Option.isSome_iff_exists.1 (Work.afterCall_of_fits (hp side q rfl) ha)
      simp [answered?, Work.answered?, hrec, hp]
    | probing b e =>
      refine .inr ⟨b.side, .model b.delegate, rfl, fun a ha => ?_⟩
      obtain ⟨p, hp⟩ : ∃ p, Work.afterProbe r e a = some p :=
        Option.isSome_iff_exists.1 (Work.afterProbe_of_fits ha)
      simp [answered?, Work.answered?, hrec, hp]
    | ended => exact .inl rfl
    | _ => exact .inl (by simp [step?, Work.step?, hrec])
  · exact goes_on_light (fun w after hc => hw ⟨w, after, hc⟩) he

/-! ## Ends -/

end Call

/-- Hosts as a whole: what they answer to the next question, after what they were asked so
far. -/
abbrev Hosts := List Exchange → Side → Request → Answer

/-- Do the hosts answer what they are asked, without a crash? -/
def Hosts.Fitting (hosts : Hosts) : Prop :=
  ∀ past side (q : Request), q.Fits (hosts past side q) = true

/-- Are these exchanges what the hosts say, after some others? -/
def Hosts.Say (hosts : Hosts) : List Exchange → List Exchange → Prop
  | _, [] => True
  | past, (side, q, a) :: es =>
    a = hosts past side q ∧ Hosts.Say hosts (past ++ [(side, q, a)]) es

theorem Hosts.say_append {hosts : Hosts} {past es fs : List Exchange} (h1 : hosts.Say past es)
    (h2 : hosts.Say (past ++ es) fs) : hosts.Say past (es ++ fs) := by
  induction es generalizing past with
  | nil => simpa using h2
  | cons e es ih =>
    obtain ⟨side, q, a⟩ := e
    obtain ⟨ha, h1⟩ := h1
    exact ⟨ha, ih h1 (by simpa using h2)⟩

theorem Hosts.of_say_append {hosts : Hosts} {past es fs : List Exchange}
    (hs : hosts.Say past (es ++ fs)) : hosts.Say past es ∧ hosts.Say (past ++ es) fs := by
  induction es generalizing past with
  | nil => exact ⟨trivial, by simpa using hs⟩
  | cons e es ih =>
    obtain ⟨side, q, a⟩ := e
    obtain ⟨h1, h2⟩ := ih hs.2
    exact ⟨⟨hs.1, h1⟩, by simpa using h2⟩

/-- What is said was answered after something. -/
theorem Hosts.of_say {hosts : Hosts} {past es : List Exchange} {side : Side} {q : Request}
    {a : Answer} (hs : hosts.Say past es) (hm : (side, q, a) ∈ es) :
    ∃ past', a = hosts past' side q := by
  induction es generalizing past with
  | nil => cases hm
  | cons e es ih =>
    obtain ⟨side', q', b⟩ := e
    rcases List.mem_cons.1 hm with he | hm
    · cases he
      exact ⟨past, hs.1⟩
    · exact ih hs.2 hm

namespace Call

variable {h : Hub} {c : Call}

/-- What is kept by a call's steps and answers, and lets it go on, brings it to its end,
whatever fitting answers the hosts give. -/
theorem comes_to_end_of {P : Hub → Call → Prop} {hosts : Hosts} (hf : hosts.Fitting)
    (hgo : ∀ h c, P h c → (∀ res, c ≠ ended res) → c.GoesOn h)
    (hstep : ∀ h c h' c', P h c → (∀ res, c ≠ ended res) → c.step? h = some (h', c') → P h' c')
    (hanswer : ∀ h c a c', P h c → c.request?.isSome = true → c.answered? h a = some c' → P h c')
    (hp : P h c) (past : List Exchange) :
    ∃ es h' res, Leads h c es h' (ended res) ∧ hosts.Say past es := by
  induction hn : c.rank using Nat.strongRecOn generalizing h c past with
  | ind n ih =>
    by_cases he : ∃ res, c = ended res
    · obtain ⟨res, rfl⟩ := he
      exact ⟨[], h, res, .refl, trivial⟩
    · have he : ∀ res, c ≠ ended res := fun res hc => he ⟨res, hc⟩
      rcases hgo h c hp he with hs | ⟨side, q, hq, hs⟩
      · obtain ⟨⟨h₁, c₁⟩, hs⟩ := Option.isSome_iff_exists.1 hs
        obtain ⟨es, h', res, hl, hsay⟩ :=
          ih c₁.rank (hn ▸ rank_step hs) (hstep h c h₁ c₁ hp he hs) past rfl
        exact ⟨es, h', res, .step hs hl, hsay⟩
      · have hfit := hf past side q
        obtain ⟨c₁, hs⟩ := Option.isSome_iff_exists.1 (hs _ hfit)
        have hq' : c.request?.isSome = true := by rw [hq]; rfl
        obtain ⟨es, h', res, hl, hsay⟩ := ih c₁.rank (hn ▸ rank_answered hs)
          (hanswer h c _ c₁ hp hq' hs) (past ++ [(side, q, hosts past side q)]) rfl
        exact ⟨_ :: es, h', res, .answer hq (Request.not_crashed_of_fits hfit) hs hl, rfl, hsay⟩

/-- A call that is ready runs to its end. -/
theorem comes_to_end {hosts : Hosts} (hf : hosts.Fitting) (hr : Ready h c)
    (past : List Exchange) :
    ∃ es h' res, Leads h c es h' (ended res) ∧ hosts.Say past es :=
  comes_to_end_of hf (fun _ _ => goes_on) (fun _ _ _ _ => ready_step)
    (fun _ _ _ _ => ready_answered) hr past

end Call

end KernelHub
