import KernelHub.Proofs.Hosted
import KernelHub.Proofs.Progress
import KernelHub.Proofs.Traffic.Guards

/-
Hosts in memory leave no call waiting. What a host answers is an answer to what it was
asked, and every call takes such an answer; so a call that waits can always be brought its
answer, whatever has become of its question.
-/

namespace KernelHub

theorem Job.poses_of_asks {job : Job} {b : Binding} {q : Request} {s : Option KernelState}
    (hq : job.asks b = some (q, s)) : job.Poses q := by
  cases job with
  | start => cases hq
  | shutdown | restart => cases hq; exact ⟨_, _, rfl⟩
  | interrupt | model => cases hq; exact ⟨_, rfl⟩

namespace Traffic

variable {t : Traffic}

/-- Work that waits for an answer lacks nothing else. -/
theorem ready_of_request? {i : Nat} {w : Work} {a : Call.After} (hr : t.Reachable)
    (hc : t.calls[i]? = some (.working w a)) (hq : w.request?.isSome = true) :
    (Call.working w a).Ready t.hub := by
  obtain ⟨r, hrec, -⟩ := (placed_of_reachable hr).working i w a hc
  have hfit := (guarded_of_reachable hr).fits i w a r hc hrec
  refine ⟨r, hrec, fun hw => ?_, fun side q hp => ?_⟩
  · simp [Work.request?, hw] at hq
  · rw [hp] at hfit
    rcases hfit with ⟨o, hj, rfl, -⟩ | ⟨b, s, -, -, hask⟩
    · rw [hj]
      exact ⟨r.name, o, rfl⟩
    · exact Job.poses_of_asks hask

/-- A call that waits takes every answer to its question. -/
theorem answer_of_fits {i : Nat} {c : Call} {side : Side} {q : Request} {a : Answer}
    (hr : t.Reachable) (hc : t.calls[i]? = some c) (hq : c.request? = some (side, q))
    (ha : q.Fits a = true) : (t.next? (.answer i a)).isSome = true := by
  have hs : c.request?.isSome = true := by rw [hq]; rfl
  have hans : (c.answered? t.hub a).isSome = true := by
    by_cases hw : ∃ w after, c = .working w after
    · obtain ⟨w, after, rfl⟩ := hw
      have he : ∀ res, Call.working w after ≠ .ended res := by rintro res ⟨⟩
      rcases Call.goes_on (ready_of_request? hr hc hs) he with hstep | ⟨side', q', hq', hall⟩
      · rw [Call.step?_of_request? hs] at hstep
        cases hstep
      · cases hq.symm.trans hq'
        exact hall a ha
    · exact Call.answered_of_fits hq (fun w after he => hw ⟨w, after, he⟩) ha
  simpa only [next?, hc, hs, if_true, Option.isSome_map] using hans

end Traffic

namespace Hosted

variable {s s' : Hosted}

/-- Each answer on its way is an answer to the question of its call. -/
def Fitted (s : Hosted) : Prop :=
  ∀ i a, Table.find? i s.transits = some (.answered a) →
    ∀ side q, s.asked? i = some (side, q) → q.Fits a = true

theorem fitted_set {i : Nat} {x : Transit} {hosts : Side → Memory.Host} {drawn : List Uuid}
    (hf : s.Fitted) (hx : ∀ a, x = .answered a →
      ∀ side q, s.asked? i = some (side, q) → q.Fits a = true) :
    Fitted ⟨s.traffic, hosts, Table.set i x s.transits, drawn⟩ := by
  intro j a hj
  rcases (Table.find?_set i j x s.transits).symm.trans hj with hj
  split at hj
  · next hij =>
    cases hj
    exact hij ▸ hx a rfl
  · exact hf j a hj

theorem fitted_shift (hca : s.Carried) (hs : s.Shift s') (hf : s.Fitted) : s'.Fitted := by
  cases hs with
  | own ht he =>
    intro i a hi side q hq
    obtain ⟨side', q', hq', -⟩ := hca i _ hi
    have hcall := asked?_waits ht (he i) hq'
    exact hf i a hi side q (by simpa only [asked?, hcall] using hq)
  | told hq _ _ _ _ hfit =>
    refine fitted_set hf fun a ha side' q' hq' => ?_
    cases ha
    cases hq.symm.trans hq'
    exact hfit
  | taken => exact fitted_set hf fun a ha => by cases ha
  | @finished i side f now fresh h a hi _ hfin =>
    obtain ⟨side', q, hq, hcar⟩ := hca i _ hi
    obtain ⟨rfl, hof⟩ := hcar side f rfl
    have hfit := Memory.Host.fits_finish hof (s.hosts side) now fresh
    rw [hfin] at hfit
    refine fitted_set hf fun b hb side'' q' hq' => ?_
    cases hb
    cases hq.symm.trans hq'
    exact hfit
  | @delivered i a t hi ht =>
    intro j b hj side q hq
    rcases (Table.find?_erase i j s.transits).symm.trans hj with hj
    split at hj
    · cases hj
    · next hij =>
      have he : ∀ c, Traffic.Event.answer i a ≠ .answer j c := by
        rintro c ⟨⟩
        exact hij rfl
      obtain ⟨side', q', hq', -⟩ := hca j _ hj
      have hcall := asked?_waits ht he hq'
      exact hf j b hj side q (by simpa only [asked?, hcall] using hq)
  | control => exact hf

theorem fitted_of_reachable (hs : s.Reachable) :
    s.traffic.Reachable ∧ s.Carried ∧ s.Fitted := by
  refine reachable_induct (P := fun s => s.Carried ∧ s.Fitted) (fun h hosts _ _ => ?_)
    (fun s s' _ ⟨hca, hf⟩ hsh => ⟨carried_shift hsh hca, fitted_shift hca hsh hf⟩) hs
  exact ⟨(fun i x hx => nomatch hx), fun i a ha => nomatch ha⟩

/-- Does the event take the question of a call to its host, end the work on it, with this
fresh id, or bring back the answer? -/
def Event.Carries (i : Nat) (fresh : Uuid) : Event → Prop
  | .pose j _ => j = i
  | .connect j .. => j = i
  | .finish j _ u => j = i ∧ u = fresh
  | .deliver j => j = i
  | _ => False

/-- The call can be brought an answer that fits its question, by events that are about this
question, and nothing else happens on the hub meanwhile. -/
def Arrives (s : Hosted) (i : Nat) (fresh : Uuid) (q : Request) : Prop :=
  ∃ es s' a, run? s es = some s' ∧ (∀ e ∈ es, e.Carries i fresh) ∧ q.Fits a = true ∧
    s.traffic.next? (.answer i a) = some s'.traffic

variable {i : Nat} {side : Side} {q : Request} {fresh : Uuid}

theorem arrives_cons {e : Event} (he : e.Carries i fresh) (hn : s.next? e = some s')
    (ht : s'.traffic = s.traffic) (ha : s'.Arrives i fresh q) : s.Arrives i fresh q := by
  obtain ⟨es, s'', a, hr, hes, hfit, hans⟩ := ha
  refine ⟨e :: es, s'', a, ?_, List.forall_mem_cons.2 ⟨he, hes⟩, hfit, ht ▸ hans⟩
  rw [run?, hn]
  exact hr

theorem arrives_of_answered {a : Answer} (hr : s.traffic.Reachable) (hf : s.Fitted)
    (hq : s.asked? i = some (side, q)) (hx : Table.find? i s.transits = some (.answered a)) :
    s.Arrives i fresh q := by
  obtain ⟨c, hc, hreq⟩ := Option.bind_eq_some_iff.1 hq
  have hfit := hf i a hx side q hq
  obtain ⟨t, ht⟩ := Option.isSome_iff_exists.1 (Traffic.answer_of_fits hr hc hreq hfit)
  refine ⟨[.deliver i], { s with traffic := t, transits := Table.erase i s.transits }, a, ?_,
    List.forall_mem_singleton.2 rfl, hfit, ht⟩
  simp only [run?, next?, hx, ht, Option.map_some, Option.bind_some]

theorem arrives_of_transit {x : Transit} (hr : s.traffic.Reachable) (hca : s.Carried)
    (hf : s.Fitted) (hq : s.asked? i = some (side, q)) (hx : Table.find? i s.transits = some x)
    (hfresh : fresh ∉ s.drawn) : s.Arrives i fresh q := by
  cases x with
  | answered a => exact arrives_of_answered hr hf hq hx
  | accepted side' f =>
    have hn : s.next? (.finish i default fresh) =
        some { (s.setHost side' ((s.hosts side').finish default fresh f).1).setTransit i
          (.answered ((s.hosts side').finish default fresh f).2) with
            drawn := fresh :: s.drawn } := by
      simp only [next?, hx, if_neg hfresh]
    have he : Event.Carries i fresh (.finish i default fresh) := ⟨rfl, rfl⟩
    exact arrives_cons he hn rfl (arrives_of_answered hr
      (fitted_shift hca (shift_of_next? hn) hf) hq (Table.find?_set_self ..))

/-- A question that is still with its call can be taken to its host. -/
theorem reaches_host (hq : s.asked? i = some (side, q)) (hx : Table.find? i s.transits = none)
    (fresh : Uuid) : ∃ e s' x, Event.Carries i fresh e ∧ s.next? e = some s' ∧
      s'.traffic = s.traffic ∧ s'.drawn = s.drawn ∧ Table.find? i s'.transits = some x := by
  have there (x : Transit) : Table.find? i (Table.set i x s.transits) = some x :=
    Table.find?_set_self ..
  by_cases hc : ∃ c b, q = .connect c b
  · obtain ⟨c, b, rfl⟩ := hc
    refine ⟨.connect i default 0 true, ?_⟩
    simp only [next?, hq, hx]
    split
    all_goals exact ⟨_, _, rfl, rfl, rfl, rfl, there _⟩
  · refine ⟨.pose i default, ?_⟩
    simp only [next?, hq, hx]
    split
    · next he => cases he; exact absurd ⟨_, _, rfl⟩ hc
    · next he =>
      cases he
      split
      all_goals exact ⟨_, _, rfl, rfl, rfl, rfl, there _⟩
    · next hn => exact absurd rfl (hn side q rfl)

/-- No call waits in vain, whatever has become of its question. -/
theorem answer_arrives (hs : s.Reachable) (hq : s.asked? i = some (side, q))
    (hfresh : fresh ∉ s.drawn) : s.Arrives i fresh q := by
  obtain ⟨hr, hca, hf⟩ := fitted_of_reachable hs
  cases hx : Table.find? i s.transits with
  | some x => exact arrives_of_transit hr hca hf hq hx hfresh
  | none =>
    obtain ⟨e, s', x, he, hn, ht, hd, hx'⟩ := reaches_host hq hx fresh
    have hsh := shift_of_next? hn
    have hq' : s'.asked? i = some (side, q) := by rwa [asked?, ht]
    exact arrives_cons he hn ht (arrives_of_transit (ht ▸ hr) (carried_shift hsh hca)
      (fitted_shift hca hsh hf) hq' hx' (hd ▸ hfresh))

end Hosted

end KernelHub
