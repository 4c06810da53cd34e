import KernelHub.Proofs.Hosted.Exact
import KernelHub.Proofs.Hosted.Losses
import KernelHub.Proofs.Memory.Busy

/-
No two operations meet on a host's kernel. A call that has asked an operation is inside the
guard of a record that stands for that kernel, and no other record does; so whoever holds the
kernel at its host is the one call that could.
-/

namespace KernelHub

/-- Operations on a host's kernel are asked by work on a record. -/
theorem Call.working_of_target? {c : Call} {side : Side} {q : Request} {d : String}
    (hc : c.request? = some (side, q)) (hq : q.target? = some d) :
    ∃ w a, c = .working w a ∧ w.phase = .calling side q := by
  cases c with
  | working w a =>
    refine ⟨w, a, rfl, ?_⟩
    obtain ⟨job, place, phase⟩ := w
    cases phase with
    | calling => cases hc; rfl
    | probing => cases hc; cases hq
    | _ => cases hc
  | naming | mergingHome | mergingRemote | describing | defaulting | listing | activating
  | opening | connecting => cases hc; cases hq
  | _ => cases hc

namespace Hosted

variable {s s' : Hosted} {m : Nat → Option Binding}

/-- Has the host begun the operation that a call has asked, on this kernel, and not ended it? -/
def Holds (s : Hosted) (i : Nat) (side : Side) (k : Nat) : Prop :=
  ∃ f, Table.find? i s.transits = some (.accepted side f) ∧ f.kernel? = some k

/-! ## One call for each kernel -/

/-- A call that asks an operation is inside the guard of a record that stands for the kernel. -/
theorem holder_of_target? {i : Nat} {side : Side} {q : Request} {d : String}
    (hr : s.traffic.Reachable) (hst : s.Standing m) (hq : s.asked? i = some (side, q))
    (ht : q.target? = some d) :
    ∃ w a, s.traffic.calls[i]? = some (.working w a) ∧ w.phase.inside = true ∧
      m w.place = some ⟨side, d⟩ := by
  obtain ⟨c, hc, hreq⟩ := Option.bind_eq_some_iff.1 hq
  obtain ⟨w, a, rfl, hp⟩ := Call.working_of_target? hreq ht
  obtain ⟨r, hrec, -⟩ := (Traffic.placed_of_reachable hr).working i w a hc
  have hf := (Traffic.guarded_of_reachable hr).fits i w a r hc hrec
  rw [hp] at hf
  rcases hf with ⟨o, -, rfl, -⟩ | ⟨b, t, hb, rfl, hask⟩
  · cases ht
  · have hd : d = b.delegate := by
      cases hj : w.job <;> rw [hj] at hask <;> cases hask <;> cases ht <;> rfl
    subst hd
    exact ⟨w, a, hc, by rw [hp]; rfl, stands_of_bound hr hst hrec hb⟩

/-- Two calls that ask operations on one kernel are one. -/
theorem target?_unique {i j : Nat} {side : Side} {q q' : Request} {d : String}
    (hr : s.traffic.Reachable) (hd : s.Distinct m) (hi : s.asked? i = some (side, q))
    (hj : s.asked? j = some (side, q')) (ht : q.target? = some d) (ht' : q'.target? = some d) :
    i = j := by
  obtain ⟨w, a, hw, hin, hm⟩ := holder_of_target? hr hd.standing hi ht
  obtain ⟨v, b, hv, hin', hm'⟩ := holder_of_target? hr hd.standing hj ht'
  exact (Traffic.guarded_of_reachable hr).exclusive i j w v a b hw hv
    (hd.unique _ _ _ hm hm') hin hin'

/-- What an operation is at work on it was asked on. -/
theorem target?_of_holds {i k : Nat} {side : Side} (hca : s.Carried) (hh : s.Holds i side k) :
    ∃ q d, s.asked? i = some (side, q) ∧ q.target? = some d := by
  obtain ⟨f, hf, hk⟩ := hh
  obtain ⟨side', q, hq, hcar⟩ := hca i _ hf
  obtain ⟨rfl, hof⟩ := hcar side f rfl
  refine ⟨q, ?_⟩
  cases f with
  | specs | start => cases hk
  | shutdown | interrupt | restart => cases q <;> first | exact ⟨_, hq, rfl⟩ | cases hof

/-! ## What an incident does -/

/-- What an incident can do with the operations on the kernels of hosts. -/
inductive Moved (s s' : Hosted) : Prop
  | calm (hc : ∀ side, (s.hosts side).Calm (s'.hosts side))
    (hx : ∀ i side k, s'.Holds i side k ↔ s.Holds i side k)
  | begun {i side q d k} (hq : s.asked? i = some (side, q)) (ht : q.target? = some d)
    (hi : Table.find? i s.transits = none) (hd : Table.find? d (s.hosts side).live = some k)
    (hb : (s.hosts side).Begins k (s'.hosts side))
    (ho : ∀ x, x ≠ side → s'.hosts x = s.hosts x) (hq' : s'.asked? i = s.asked? i)
    (hx : ∀ j x l, s'.Holds j x l ↔ s.Holds j x l ∨ j = i ∧ x = side ∧ l = k)
  | ended {i side k} (hi : s.Holds i side k) (he : (s.hosts side).Ends k (s'.hosts side))
    (ho : ∀ x, x ≠ side → s'.hosts x = s.hosts x)
    (hx : ∀ j x l, s'.Holds j x l ↔ s.Holds j x l ∧ j ≠ i)

theorem calm_setHost {side : Side} {h : Memory.Host} (hc : (s.hosts side).Calm h) (x : Side) :
    (s.hosts x).Calm ((s.setHost side h).hosts x) := by
  simp only [setHost]
  split
  · next hx => exact hx ▸ hc
  · exact Memory.Host.calm_refl _

theorem setHost_self (s : Hosted) (side : Side) (h : Memory.Host) :
    (s.setHost side h).hosts side = h := if_pos rfl

theorem setHost_of_ne {x side : Side} (hx : x ≠ side) (s : Hosted) (h : Memory.Host) :
    (s.setHost side h).hosts x = s.hosts x := if_neg hx

theorem holds_set {i : Nat} {x : Transit} {hosts : Side → Memory.Host} {drawn : List Uuid}
    (j : Nat) (side : Side) (k : Nat) :
    Holds ⟨s.traffic, hosts, Table.set i x s.transits, drawn⟩ j side k ↔
      if j = i then ∃ f, x = .accepted side f ∧ f.kernel? = some k else s.Holds j side k := by
  simp only [Holds, Table.find?_set]
  split
  · simp only [Option.some.injEq]
  · rfl

/-- A question or an answer that comes to its place, where no operation is begun or ended. -/
theorem holds_calm {i : Nat} {x : Transit} {hosts : Side → Memory.Host} {drawn : List Uuid}
    (hx : ∀ side f, x = .accepted side f → f.kernel? = none)
    (hi : ∀ side k, ¬ s.Holds i side k) (j : Nat) (side : Side) (k : Nat) :
    Holds ⟨s.traffic, hosts, Table.set i x s.transits, drawn⟩ j side k ↔ s.Holds j side k := by
  rw [holds_set]
  split
  · next hj =>
    subst hj
    refine iff_of_false ?_ (hi side k)
    rintro ⟨f, rfl, hk⟩
    cases (hx side f rfl).symm.trans hk
  · rfl

theorem not_holds_of_none {i : Nat} (hi : Table.find? i s.transits = none) (side : Side)
    (k : Nat) : ¬ s.Holds i side k := by
  rintro ⟨f, hf, -⟩
  cases hi.symm.trans hf

theorem moved_of_pose {i : Nat} {now : Instant} (hn : s.next? (.pose i now) = some s') :
    s.Moved s' := by
  simp only [next?] at hn
  split at hn
  · cases hn
  · next side q hc hq hi =>
    have hnone := not_holds_of_none hi
    rcases Memory.Host.begins_accept (s.hosts side) now q with
      ⟨hcalm, hf⟩ | ⟨d, k, f, ht, hd, hf, hk, hb⟩
    · split at hn
      · next h a ha =>
        cases hn
        rw [ha] at hcalm
        exact .calm (calm_setHost hcalm) (holds_calm (s := s) (fun _ _ hx => by cases hx) hnone)
      · next h f ha =>
        cases hn
        rw [ha] at hcalm hf
        refine .calm (calm_setHost hcalm) (holds_calm (s := s) (fun _ _ hx => ?_) hnone)
        cases hx
        exact hf _ rfl
    · split at hn
      · next h a ha =>
        rw [ha] at hf
        cases hf
      · next h f' ha =>
        cases hn
        rw [ha] at hf hb
        cases hf
        refine .begun hq ht hi hd ((setHost_self s side h).symm ▸ hb)
          (fun x hx => setHost_of_ne hx s h) rfl fun j x l => ?_
        refine (holds_set (s := s) j x l).trans ?_
        split
        · next hj =>
          subst hj
          simp only [Transit.accepted.injEq, and_assoc, exists_and_left]
          constructor
          · rintro ⟨rfl, f'', rfl, hl⟩
            exact .inr ⟨trivial, rfl, (Option.some.inj (hk.symm.trans hl)).symm⟩
          · rintro (hh | ⟨-, rfl, rfl⟩)
            · exact absurd hh (hnone x l)
            · exact ⟨rfl, _, rfl, hk⟩
        · next hj => simp [hj]
  · cases hn

theorem moved_of_finish {i : Nat} {now : Instant} {fresh : Uuid}
    (hti : ∀ side, (s.hosts side).Tidy) (hn : s.next? (.finish i now fresh) = some s') :
    s.Moved s' := by
  simp only [next?] at hn
  split at hn
  · next side f hi =>
    split at hn
    · cases hn
    · cases hn
      cases hk : f.kernel? with
      | none =>
        refine .calm (calm_setHost (Memory.Host.calm_finish (hti side) hk))
          (holds_calm (s := s) (fun _ _ hx => by cases hx) fun side' k hh => ?_)
        obtain ⟨f', hf', hk'⟩ := hh
        cases hi.symm.trans hf'
        cases hk.symm.trans hk'
      | some k =>
        refine .ended ⟨f, hi, hk⟩ ?_ (fun x hx => setHost_of_ne hx s _) fun j x l => ?_
        · exact (setHost_self s side _).symm ▸ Memory.Host.ends_finish hk
        · refine (holds_set (s := s) j x l).trans ?_
          split
          · next hj => exact iff_of_false (by rintro ⟨_, hx, _⟩; cases hx) fun hx => hx.2 hj
          · next hj => exact (and_iff_left hj).symm
  · cases hn

theorem moved_of_after? {x : Incident} (hti : ∀ side, (s.hosts side).Tidy)
    (hx : s.after? x = some s') : s.Moved s' := by
  cases x with
  | loss side d =>
    cases hx
    exact .calm (calm_setHost (Memory.Host.calm_kill _ d)) fun _ _ _ => Iff.rfl
  | event e =>
    cases e with
    | own e =>
      cases e with
      | answer => cases hx
      | ask | step | shared =>
        simp only [after?, next?, Option.map_eq_some_iff] at hx
        obtain ⟨t, -, rfl⟩ := hx
        exact .calm (fun side => Memory.Host.calm_refl _) fun _ _ _ => Iff.rfl
    | pose => exact moved_of_pose hx
    | connect i st lane listening =>
      simp only [after?, next?] at hx
      split at hx
      · next side c about hq hi =>
        have hc := Memory.Control.calm_apply (s.hosts side) (.connect st c lane listening)
        split at hx
        all_goals
          next hh =>
          cases hx
          simp only [Memory.Control.apply, hh] at hc
          exact .calm (calm_setHost hc)
            (holds_calm (s := s) (fun _ _ hx => by cases hx) (not_holds_of_none hi))
      · cases hx
    | finish => exact moved_of_finish hti hx
    | deliver i =>
      simp only [after?, next?] at hx
      split at hx
      · next a hi =>
        obtain ⟨t, -, rfl⟩ := Option.map_eq_some_iff.1 hx
        refine .calm (fun side => Memory.Host.calm_refl _) fun j side k => ?_
        simp only [Holds, Table.find?_erase]
        split
        · next hj =>
          subst hj
          exact iff_of_false (by rintro ⟨_, hf, _⟩; cases hf)
            (by rintro ⟨_, hf, _⟩; cases hi.symm.trans hf)
        · rfl
      · cases hx
    | control side c =>
      cases hx
      exact .calm (calm_setHost (Memory.Control.calm_apply _ c)) fun _ _ _ => Iff.rfl

/-- A call that waits for an operation to end goes on waiting. -/
theorem asked?_after {x : Incident} {i k : Nat} {side : Side} {y : Side × Request}
    (hx : s.after? x = some s') (hh : s.Holds i side k) (hq : s.asked? i = some y) :
    s'.asked? i = some y := by
  obtain ⟨f, hf, -⟩ := hh
  cases x with
  | loss => cases hx; exact hq
  | event e =>
    cases shift_of_next? hx with
    | own ht he => rwa [asked?, asked?_waits ht (he i) hq]
    | @delivered j a t hj ht =>
      have he : ∀ b, Traffic.Event.answer j a ≠ .answer i b := by
        rintro b ⟨⟩
        cases hj.symm.trans hf
      rwa [asked?, asked?_waits ht he hq]
    | _ => exact hq

/-! ## Hosts that meet no two operations -/

/-- The hosts' marks and counts, and who is at work. -/
structure Orderly (s : Hosted) : Prop where
  tidy : ∀ side, (s.hosts side).Tidy
  /-- A kernel that an operation is at work on is found under no id but the one asked for. -/
  named : ∀ i side q d k, s.Holds i side k → s.asked? i = some (side, q) → q.target? = some d →
    k < (s.hosts side).kernels.length ∧ ∀ d', Table.find? d' (s.hosts side).live = some k → d' = d
  alone : ∀ i j side k, s.Holds i side k → s.Holds j side k → i = j
  marked : ∀ side k, (s.hosts side).busy k = true ↔ ∃ i, s.Holds i side k
  never : ∀ side, (s.hosts side).overlaps = 0

/-- The call that holds a kernel asks it under an id; any other that asks it under the id that
the host has it under is the same call. -/
theorem Orderly.unique {i j k : Nat} {side : Side} {q : Request} {d : String}
    (hr : s.traffic.Reachable) (hca : s.Carried) (hdi : s.Distinct m) (ho : s.Orderly)
    (hh : s.Holds j side k) (hq : s.asked? i = some (side, q)) (ht : q.target? = some d)
    (hd : Table.find? d (s.hosts side).live = some k) : j = i := by
  obtain ⟨q', d', hq', ht'⟩ := target?_of_holds hca hh
  obtain rfl := (ho.named j side q' d' k hh hq' ht').2 d hd
  exact target?_unique hr hdi hq' hq ht' ht

/-- What is known of a kernel that was held before is still so. -/
theorem named_after {x : Incident} {j k : Nat} {side : Side} {q : Request} {d : String}
    (hx : s.after? x = some s') (hca : s.Carried) (ho : s.Orderly)
    (hre : (s.hosts side).Renews (s'.hosts side)) (hh : s.Holds j side k)
    (hq : s'.asked? j = some (side, q)) (ht : q.target? = some d) :
    k < (s'.hosts side).kernels.length ∧
      ∀ d', Table.find? d' (s'.hosts side).live = some k → d' = d := by
  obtain ⟨q', d', hq', ht'⟩ := target?_of_holds hca hh
  cases hq.symm.trans (asked?_after hx hh hq')
  obtain ⟨hlt, hall⟩ := ho.named j side q d k hh hq' ht
  exact ⟨Nat.lt_of_lt_of_le hlt hre.length, fun e he => hall e (hre.old hlt he)⟩

/-- The hosts' tables after one host's has changed. -/
theorem renews_of_one {side : Side} (hre : (s.hosts side).Renews (s'.hosts side))
    (ho : ∀ x, x ≠ side → s'.hosts x = s.hosts x) (x : Side) :
    (s.hosts x).Renews (s'.hosts x) := by
  by_cases hx : x = side
  · exact hx ▸ hre
  · rw [ho x hx]
    exact (Memory.Host.calm_refl _).renews

theorem orderly_calm {x : Incident} (hx : s.after? x = some s') (hca : s.Carried)
    (ho : s.Orderly) (hc : ∀ side, (s.hosts side).Calm (s'.hosts side))
    (hh : ∀ i side k, s'.Holds i side k ↔ s.Holds i side k) : s'.Orderly where
  tidy side := (hc side).renews.tidy (ho.tidy side)
  named j side q d k hj hq ht :=
    named_after hx hca ho (hc side).renews ((hh j side k).1 hj) hq ht
  alone i j side k hi hj := ho.alone i j side k ((hh i side k).1 hi) ((hh j side k).1 hj)
  marked side k := by
    rw [(hc side).busy, ho.marked]
    exact exists_congr fun i => (hh i side k).symm
  never side := (hc side).overlaps.trans (ho.never side)

/-- Nobody holds a kernel that a call is about to ask something of: it would be the same call,
which holds none yet. -/
theorem unheld_of_unposed {i k : Nat} {side : Side} {q : Request} {d : String}
    (hr : s.traffic.Reachable) (hca : s.Carried) (hdi : s.Distinct m) (ho : s.Orderly)
    (hq : s.asked? i = some (side, q)) (ht : q.target? = some d)
    (hi : Table.find? i s.transits = none) (hd : Table.find? d (s.hosts side).live = some k)
    (j : Nat) : ¬ s.Holds j side k := by
  intro hj
  obtain rfl := ho.unique hr hca hdi hj hq ht hd
  exact not_holds_of_none hi side k hj

/-- The mark of a kernel is set with the operation on it. -/
theorem marked_begun {i k : Nat} {side : Side} (ho : s.Orderly)
    (hlt : k < (s.hosts side).kernels.length) (hb : (s.hosts side).Begins k (s'.hosts side))
    (hs : ∀ x, x ≠ side → s'.hosts x = s.hosts x)
    (hh : ∀ j x l, s'.Holds j x l ↔ s.Holds j x l ∨ j = i ∧ x = side ∧ l = k)
    (x : Side) (l : Nat) : (s'.hosts x).busy l = true ↔ ∃ j, s'.Holds j x l := by
  by_cases hxs : x = side
  · subst hxs
    rw [hb.busy, ho.marked]
    constructor
    · rintro (⟨j, hj⟩ | ⟨rfl, -⟩)
      · exact ⟨j, (hh j x l).2 (.inl hj)⟩
      · exact ⟨i, (hh i x l).2 (.inr ⟨rfl, rfl, rfl⟩)⟩
    · rintro ⟨j, hj⟩
      rcases (hh j x l).1 hj with hj | ⟨-, -, rfl⟩
      · exact .inl ⟨j, hj⟩
      · exact .inr ⟨rfl, hlt⟩
  · rw [hs x hxs, ho.marked]
    refine exists_congr fun j => ?_
    rw [hh]
    simp [hxs]

/-- The mark of a kernel is cleared with the end of the operation on it. -/
theorem marked_ended {i k : Nat} {side : Side} (ho : s.Orderly) (hi : s.Holds i side k)
    (he : (s.hosts side).Ends k (s'.hosts side)) (hs : ∀ x, x ≠ side → s'.hosts x = s.hosts x)
    (hh : ∀ j x l, s'.Holds j x l ↔ s.Holds j x l ∧ j ≠ i)
    (x : Side) (l : Nat) : (s'.hosts x).busy l = true ↔ ∃ j, s'.Holds j x l := by
  -- A call holds one kernel, and a kernel is held by one call.
  have hone (j : Nat) (hj : s.Holds j x l) : j = i ↔ x = side ∧ l = k := by
    constructor
    · rintro rfl
      obtain ⟨f, hf, hk⟩ := hi
      obtain ⟨f', hf', hk'⟩ := hj
      cases hf.symm.trans hf'
      exact ⟨rfl, Option.some.inj (hk'.symm.trans hk)⟩
    · rintro ⟨rfl, rfl⟩
      exact ho.alone j i x l hj hi
  have hkeep : (∃ j, s'.Holds j x l) ↔ (∃ j, s.Holds j x l) ∧ ¬ (x = side ∧ l = k) := by
    constructor
    · rintro ⟨j, hj⟩
      obtain ⟨hj, hne⟩ := (hh j x l).1 hj
      exact ⟨⟨j, hj⟩, fun hxl => hne ((hone j hj).2 hxl)⟩
    · rintro ⟨⟨j, hj⟩, hne⟩
      exact ⟨j, (hh j x l).2 ⟨hj, fun hji => hne ((hone j hj).1 hji)⟩⟩
  rw [hkeep]
  by_cases hxs : x = side
  · subst hxs
    rw [he.busy, ho.marked]
    simp
  · rw [hs x hxs, ho.marked]
    simp [hxs]

theorem orderly_begun {x : Incident} {i k : Nat} {side : Side} {q : Request} {d : String}
    (hx : s.after? x = some s') (hr : s.traffic.Reachable) (hca : s.Carried)
    (hdi : s.Distinct m) (ho : s.Orderly) (hq : s.asked? i = some (side, q))
    (ht : q.target? = some d) (hi : Table.find? i s.transits = none)
    (hd : Table.find? d (s.hosts side).live = some k)
    (hb : (s.hosts side).Begins k (s'.hosts side))
    (hs : ∀ x, x ≠ side → s'.hosts x = s.hosts x) (hq' : s'.asked? i = s.asked? i)
    (hh : ∀ j x l, s'.Holds j x l ↔ s.Holds j x l ∨ j = i ∧ x = side ∧ l = k) : s'.Orderly := by
  have hre := renews_of_one hb.renews hs
  have hlt := (ho.tidy side).kept d k hd
  have hfree := unheld_of_unposed hr hca hdi ho hq ht hi hd
  have hcalm : (s.hosts side).busy k = false :=
    Bool.eq_false_iff.2 fun hb => by
      obtain ⟨j, hj⟩ := (ho.marked side k).1 hb
      exact hfree j hj
  refine ⟨fun x => (hre x).tidy (ho.tidy x), fun j x q₁ d₁ l hj hq₁ ht₁ => ?_,
    fun j₁ j₂ x l h₁ h₂ => ?_, marked_begun ho hlt hb hs hh, fun x => ?_⟩
  · rcases (hh j x l).1 hj with hj | ⟨rfl, rfl, rfl⟩
    · exact named_after hx hca ho (hre x) hj hq₁ ht₁
    · cases (hq'.trans hq).symm.trans hq₁
      cases ht.symm.trans ht₁
      exact ⟨Nat.lt_of_lt_of_le hlt (hre x).length,
        fun d' hd' => (ho.tidy x).single d d' l hd ((hre x).old hlt hd')⟩
  · rcases (hh j₁ x l).1 h₁ with h₁ | ⟨rfl, rfl, rfl⟩ <;>
      rcases (hh j₂ x l).1 h₂ with h₂ | ⟨rfl, hx₂, hl₂⟩
    · exact ho.alone j₁ j₂ x l h₁ h₂
    · subst hx₂ hl₂
      exact absurd h₁ (hfree j₁)
    · exact absurd h₂ (hfree j₂)
    · rfl
  · by_cases hxs : x = side
    · subst hxs
      rw [hb.overlaps, ho.never, hcalm]
      rfl
    · rw [hs x hxs, ho.never]

theorem orderly_ended {x : Incident} {i k : Nat} {side : Side} (hx : s.after? x = some s')
    (hca : s.Carried) (ho : s.Orderly) (hi : s.Holds i side k)
    (he : (s.hosts side).Ends k (s'.hosts side)) (hs : ∀ x, x ≠ side → s'.hosts x = s.hosts x)
    (hh : ∀ j x l, s'.Holds j x l ↔ s.Holds j x l ∧ j ≠ i) : s'.Orderly := by
  have hre := renews_of_one he.renews hs
  refine ⟨fun x => (hre x).tidy (ho.tidy x), fun j x q d l hj hq ht => ?_,
    fun j₁ j₂ x l h₁ h₂ => ?_, marked_ended ho hi he hs hh, fun x => ?_⟩
  · exact named_after hx hca ho (hre x) ((hh j x l).1 hj).1 hq ht
  · exact ho.alone j₁ j₂ x l ((hh j₁ x l).1 h₁).1 ((hh j₂ x l).1 h₂).1
  · by_cases hxs : x = side
    · subst hxs
      exact he.overlaps.trans (ho.never x)
    · rw [hs x hxs, ho.never]

/-- In all that an unused hub over blank hosts can come to, no two operations have met on a
kernel. -/
theorem orderly_of_possible (hs : s.Possible) : s.Orderly := by
  refine possible_induct (fun h hosts _ hb => ?_) (fun s s' x hs ho hx => ?_) hs
  · have hlive (side : Side) (d : String) : Table.find? d (hosts side).live = none := by
      rw [(hb side).2.2.1]
      rfl
    refine ⟨fun side => ⟨fun d k hd => ?_, fun d d' k hd => ?_⟩,
      (fun i side q d k ⟨f, hf, _⟩ => nomatch hf), (fun i j side k ⟨f, hf, _⟩ => nomatch hf),
      fun side k => ?_, fun side => (hb side).2.2.2⟩
    · cases (hlive side d).symm.trans hd
    · cases (hlive side d).symm.trans hd
    · refine iff_of_false ?_ fun ⟨i, f, hf, _⟩ => nomatch hf
      simp [Memory.Host.busy, (hb side).2.1]
  · obtain ⟨hr, hca, m, hd⟩ := distinct_of_possible hs
    cases moved_of_after? ho.tidy hx with
    | calm hc hh => exact orderly_calm hx hca ho hc hh
    | begun hq ht hi hk hb hos hq' hh =>
      exact orderly_begun hx hr hca hd ho hq ht hi hk hb hos hq' hh
    | ended hi he hos hh => exact orderly_ended hx hca ho hi he hos hh

end Hosted

end KernelHub
