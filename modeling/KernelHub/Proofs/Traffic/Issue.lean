import KernelHub.Proofs.Traffic.Places

/-
Ids are issued once. A call lays claim to an id when it registers it, and gives the claim
up only when the start fails, together with the id. So two calls never claim the same id,
and what is claimed is registered or retired.
-/

namespace KernelHub

/-- Has the call registered the id, and has its start not failed for good? -/
def Call.Claims (id : KernelId) : Call → Prop
  | .working _ (.started x) => x = id
  | .dropping x _ => x = id
  | .ended (.ok (.started x)) => x = id
  | _ => False

/-- Can the id not be registered? -/
def Hub.Held (h : Hub) (id : KernelId) : Prop :=
  Table.contains id h.registry = true ∨ id ∈ h.retired

theorem Call.light_of_claims {id : KernelId} {c : Call} (hc : c.Claims id) : c.light = false := by
  cases c with
  | ended res =>
    cases res with
    | error => cases hc
    | ok o => cases o <;> first | rfl | cases hc
  | working w after => rfl
  | dropping => rfl
  | _ => cases hc

/-- What follows work claims what the work claimed: a start that went well gives the id that
it was made for. -/
theorem Call.claims_follow {id : KernelId} {w : Work} {after : After} {r : Record} {res : Result}
    (hs : Suits r.id w.job after) (ht : w.job.Gives r.id res) :
    (follow res after).Claims id ↔ (working w after).Claims id := by
  generalize w.job = job at hs ht
  cases hs with
  | @start o ho =>
    cases res with
    | error e => rfl
    | ok x =>
      have hx : x = .started r.id := ht
      subst hx
      rfl
  | shutdown => cases res <;> rfl
  | other ha ho =>
    cases res with
    | error e => rfl
    | ok x =>
      cases job with
      | start o => exact absurd rfl (ho o)
      | model =>
        obtain ⟨m, rfl⟩ := ht
        rfl
      | shutdown | interrupt | restart =>
        have hx : x = .done := ht
        subst hx
        rfl

namespace Traffic

/-- Who claims an id, and what is held. -/
structure Claimed (t : Traffic) : Prop where
  unique : ∀ (i j : Nat) (c d : Call) (id : KernelId), t.calls[i]? = some c →
    t.calls[j]? = some d → c.Claims id → d.Claims id → i = j
  held : ∀ (i : Nat) (c : Call) (id : KernelId), t.calls[i]? = some c → c.Claims id →
    t.hub.Held id
  leaving : ∀ (i : Nat) (id : KernelId), t.calls[i]? = some (.leaving id) → id ∈ t.hub.retired
  registered : ∀ id, Table.contains id t.hub.registry = true →
    ∃ (i : Nat) (c : Call), t.calls[i]? = some c ∧ c.Claims id

variable {t t' : Traffic}

/-- A call that goes on without touching the registry, and keeps its claim. -/
theorem claimed_set {i : Nat} {c c' : Call} {h' : Hub} (hp : t.Claimed) (hc : t.calls[i]? = some c)
    (hcl : ∀ id, c'.Claims id ↔ c.Claims id) (hl : ∀ id, c' ≠ .leaving id)
    (hreg : h'.registry = t.hub.registry) (hret : h'.retired = t.hub.retired) :
    Claimed ⟨h', t.calls.set i c'⟩ := by
  -- A claim made after was made before, by the same call.
  have hback {j : Nat} {d : Call} {id : KernelId} (hd : (t.calls.set i c')[j]? = some d)
      (hm : d.Claims id) : ∃ d₀, t.calls[j]? = some d₀ ∧ d₀.Claims id := by
    rcases of_set_call hc hd with ⟨rfl, rfl⟩ | ⟨-, hd⟩
    · exact ⟨c, hc, (hcl id).1 hm⟩
    · exact ⟨d, hd, hm⟩
  refine ⟨fun j k d e id hd he hmd hme => ?_, fun j d id hd hm => ?_, fun j id hd => ?_,
    fun id hk => ?_⟩
  · obtain ⟨d₀, hd₀, hmd⟩ := hback hd hmd
    obtain ⟨e₀, he₀, hme⟩ := hback he hme
    exact hp.unique j k d₀ e₀ id hd₀ he₀ hmd hme
  · obtain ⟨d₀, hd₀, hm⟩ := hback hd hm
    have hh := hp.held j d₀ id hd₀ hm
    simpa only [Hub.Held, hreg, hret] using hh
  · rcases of_set_call hc hd with ⟨-, he⟩ | ⟨-, hd⟩
    · exact absurd he (hl id)
    · simpa only [hret] using hp.leaving j id hd
  · obtain ⟨j, d, hd, hm⟩ := hp.registered id (by rw [← hreg]; exact hk)
    by_cases hj : i = j
    · subst hj
      cases hc.symm.trans hd
      exact ⟨i, c', set_call_self hc c', (hcl id).2 hm⟩
    · exact ⟨j, d, (List.getElem?_set_ne hj).trans hd, hm⟩

/-- A call that gives up its claim to an id, or has none, and takes the id out of the
registry. What the others claim is still held. -/
theorem claimed_unregister {i : Nat} {c c' : Call} {id : KernelId} (hp : t.Claimed)
    (hc : t.calls[i]? = some c) (hcl : ∀ x, ¬ c'.Claims x) (hx : ∀ x, c.Claims x → x = id)
    (hl : ∀ x, c' ≠ .leaving x) (ho : c.Claims id ∨ id ∈ t.hub.retired) :
    Claimed ⟨t.hub.unregister id, t.calls.set i c'⟩ := by
  have hback {j : Nat} {d : Call} {x : KernelId} (hd : (t.calls.set i c')[j]? = some d)
      (hm : d.Claims x) : i ≠ j ∧ t.calls[j]? = some d := by
    rcases of_set_call hc hd with ⟨-, rfl⟩ | hd
    · exact absurd hm (hcl x)
    · exact hd
  refine ⟨fun j k d e x hd he hmd hme => ?_, fun j d x hd hm => ?_, fun j x hd => ?_,
    fun x hk => ?_⟩
  · exact hp.unique j k d e x (hback hd hmd).2 (hback he hme).2 hmd hme
  · obtain ⟨hij, hd'⟩ := hback hd hm
    rcases hp.held j d x hd' hm with hk | hk
    · by_cases hid : x = id
      · subst hid
        rcases ho with ho | ho
        · exact absurd (hp.unique i j c d x hc hd' ho hm) hij
        · exact .inr ho
      · exact .inl (by simp [Hub.unregister, Table.contains_erase, hid, hk])
    · exact .inr hk
  · rcases of_set_call hc hd with ⟨-, he⟩ | ⟨-, hd⟩
    · exact absurd he (hl x)
    · exact hp.leaving j x hd
  · simp only [Hub.unregister, Table.contains_erase, Bool.and_eq_true, decide_eq_true_eq] at hk
    obtain ⟨j, d, hd, hm⟩ := hp.registered x hk.2
    have hij : i ≠ j := by
      rintro rfl
      cases hc.symm.trans hd
      exact hk.1 (hx x hm)
    exact ⟨j, d, (List.getElem?_set_ne hij).trans hd, hm⟩

/-- A call that makes its first claim, to an id that nobody holds, and registers it. -/
theorem claimed_register {i : Nat} {c : Call} {w : Work} {id : KernelId} {name : String}
    (hp : t.Claimed) (hc : t.calls[i]? = some c) (hw : c.light = true)
    (hk : Table.contains id t.hub.registry = false) (hn : id ∉ t.hub.retired) :
    Claimed ⟨t.hub.enroll id name, t.calls.set i (.working w (.started id))⟩ := by
  have hfree {j : Nat} {d : Call} (hd : t.calls[j]? = some d) : ¬ d.Claims id := by
    intro hm
    rcases hp.held j d _ hd hm with hh | hh
    · simp [hk] at hh
    · exact hn hh
  refine ⟨fun j k c d x hc' hd' hmc hmd => ?_, fun j d x hd hm => ?_, fun j x hd => ?_,
    fun x hkk => ?_⟩
  · rcases of_set_call hc hc' with ⟨rfl, rfl⟩ | ⟨-, hc'⟩ <;>
      rcases of_set_call hc hd' with ⟨rfl, rfl⟩ | ⟨-, hd'⟩
    · rfl
    · exact absurd (show d.Claims id from hmc ▸ hmd) (hfree hd')
    · exact absurd (show c.Claims id from hmd ▸ hmc) (hfree hc')
    · exact hp.unique j k c d x hc' hd' hmc hmd
  · simp only [Hub.Held, Hub.enroll, Table.contains_set, Bool.or_eq_true, decide_eq_true_eq]
    rcases of_set_call hc hd with ⟨-, rfl⟩ | ⟨-, hd⟩
    · exact .inl (.inl hm.symm)
    · rcases hp.held j d x hd hm with hh | hh
      · exact .inl (.inr hh)
      · exact .inr hh
  · rcases of_set_call hc hd with ⟨-, he⟩ | ⟨-, hd⟩
    · cases he
    · exact hp.leaving j x hd
  · simp only [Hub.enroll, Table.contains_set, Bool.or_eq_true, decide_eq_true_eq] at hkk
    rcases hkk with rfl | hkk
    · exact ⟨i, _, set_call_self hc _, rfl⟩
    · obtain ⟨j, d, hd, hm⟩ := hp.registered x hkk
      have hij : i ≠ j := by
        rintro rfl
        cases hc.symm.trans hd
        cases hw.symm.trans (Call.light_of_claims hm)
      exact ⟨j, d, (List.getElem?_set_ne hij).trans hd, hm⟩

theorem claimed_shift {e : Event} (hs : t.Shift e t') (hpl : t.Placed) (hp : t.Claimed) :
    t'.Claimed := by
  cases hs with
  | aside ha =>
    obtain ⟨q, hq⟩ := ha.hub
    refine ⟨fun j k c d id hc hd hmc hmd => ?_, fun j c id hc hm => ?_, fun j id hc => ?_,
      fun id hk => ?_⟩
    · exact hp.unique j k c d id ((ha.calls j c (Call.light_of_claims hmc)).1 hc)
        ((ha.calls k d (Call.light_of_claims hmd)).1 hd) hmc hmd
    · have hh := hp.held j c id ((ha.calls j c (Call.light_of_claims hm)).1 hc) hm
      rw [hq]
      exact hh
    · rw [hq]
      exact hp.leaving j id ((ha.calls j _ rfl).1 hc)
    · rw [hq] at hk
      obtain ⟨j, c, hc, hm⟩ := hp.registered id hk
      exact ⟨j, c, (ha.calls j c (Call.light_of_claims hm)).2 hc, hm⟩
  | register hc hk hn => exact claimed_register hp hc rfl hk hn
  | @seek i id job place hc hr hj =>
    refine claimed_set hp hc (fun x => ?_) (fun x hx => by cases hx) rfl rfl
    cases job with
    | start => cases hj
    | _ => rfl
  | @work i w after r h' w' hc hr ht =>
    have hf := Work.frame_turn hr ht
    refine claimed_set hp hc (fun x => ?_) (fun x hx => by cases hx) hf.registry hf.retired
    cases after <;> rfl
  | @heard i w after r p a hc hr hh =>
    refine claimed_set hp hc (fun x => ?_) (fun x hx => by cases hx) rfl rfl
    cases after <;> rfl
  | @follow i w after res hc hph =>
    obtain ⟨r, hr, hsu, hty⟩ := hpl.working i w after hc
    rw [hph] at hty
    refine claimed_set hp hc (fun x => Call.claims_follow hsu hty) (fun x hx => ?_) rfl rfl
    cases after <;> cases res <;> cases hx
  | @drop i id e hc =>
    exact claimed_unregister hp hc (fun x hx => hx) (fun x hx => hx.symm)
      (fun x hx => by cases hx) (.inl rfl)
  | @retire i id hc =>
    have hsub {j : Nat} {d : Call} {x : KernelId}
        (hd : (t.calls.set i (.leaving id))[j]? = some d) (hm : d.Claims x) :
        t.calls[j]? = some d := by
      rcases of_set_call hc hd with ⟨-, rfl⟩ | ⟨-, hd⟩
      · cases hm
      · exact hd
    refine ⟨fun j k c d x hc' hd' hmc hmd => ?_, fun j d x hd hm => ?_, fun j x hd => ?_,
      fun x hk => ?_⟩
    · exact hp.unique j k c d x (hsub hc' hmc) (hsub hd' hmd) hmc hmd
    · exact (hp.held j d x (hsub hd hm) hm).imp_right Hub.mem_retire
    · rcases of_set_call hc hd with ⟨-, he⟩ | ⟨-, hd⟩
      · cases he
        exact Hub.mem_retire_self t.hub id
      · exact Hub.mem_retire (hp.leaving j x hd)
    · obtain ⟨j, d, hd, hm⟩ := hp.registered x hk
      have hij : i ≠ j := by
        rintro rfl
        cases hc.symm.trans hd
        cases hm
      exact ⟨j, d, (List.getElem?_set_ne hij).trans hd, hm⟩
  | @leave i id hc =>
    exact claimed_unregister hp hc (fun x hx => hx) (fun x hx => by cases hx)
      (fun x hx => by cases hx) (.inr (hp.leaving i id hc))

theorem claimed_of_reachable (ht : t.Reachable) : t.Claimed := by
  refine reachable_induct (fun h hu => ?_)
    (fun t t' e ht hp hs => claimed_shift hs (placed_of_reachable ht) hp) ht
  refine ⟨(fun i j c d id hc => nomatch hc), (fun i c id hc => nomatch hc),
    (fun i id hc => nomatch hc), fun id hk => ?_⟩
  rw [hu.registry] at hk
  cases hk

/-- What a call has given stays given. -/
theorem started_shift {e : Event} (hs : t.Shift e t') {i : Nat} {id : KernelId}
    (hc : t.calls[i]? = some (.ended (.ok (.started id)))) :
    t'.calls[i]? = some (.ended (.ok (.started id))) := by
  have keep {j : Nat} {c c' : Call} (hd : t.calls[j]? = some c)
      (hne : c ≠ .ended (.ok (.started id))) :
      (t.calls.set j c')[i]? = some (.ended (.ok (.started id))) := by
    have hij : j ≠ i := by
      rintro rfl
      exact hne (Option.some.inj (hd.symm.trans hc))
    exact (List.getElem?_set_ne hij).trans hc
  cases hs with
  | aside ha => exact (ha.calls i _ rfl).2 hc
  | register hd | seek hd | work hd | heard hd | follow hd | drop hd | retire hd | leave hd =>
    exact keep hd (by intro he; cases he)

/-- No id is given by two starts, and one that was given is registered or retired from then
on, whatever happens. -/
theorem issued_once {h : Hub} {es fs : List Event} {t u : Traffic} (hu : h.Unused)
    (hr : run? ⟨h, []⟩ es = some t) (hs : run? t fs = some u) :
    (∀ (i j : Nat) (id : KernelId), t.calls[i]? = some (.ended (.ok (.started id))) →
      t.calls[j]? = some (.ended (.ok (.started id))) → i = j) ∧
    (∀ (i : Nat) (id : KernelId), t.calls[i]? = some (.ended (.ok (.started id))) →
      u.calls[i]? = some (.ended (.ok (.started id))) ∧
        (u.hub.hasKernel id = true ∨ id ∈ u.hub.retired)) := by
  have ht : t.Reachable := ⟨h, es, hu, hr⟩
  refine ⟨fun i j id hi hj => ?_, fun i id hi => ?_⟩
  · exact (claimed_of_reachable ht).unique i j _ _ id hi hj rfl rfl
  · have hc : u.calls[i]? = some (.ended (.ok (.started id))) :=
      run_induct (fun _ _ _ _ hc hs => started_shift hs hc) ht hi hs
    exact ⟨hc, (claimed_of_reachable (reachable_run ht hs)).held i _ id hc rfl⟩

/-- Two starts that ask for one id, of which the first is given it. -/
def twoStarts : List Event :=
  [.ask (.start (some "python3") { id := some .zero } .zero),
    .ask (.start (some "python3") { id := some .zero } .zero), .step 0, .step 0, .step 0, .step 0,
    .step 0, .answer 0 (.started "k"), .step 1, .step 1, .step 1, .step 0, .step 0, .step 0,
    .step 0, .step 0]

/-- A shutdown of that id. -/
def thirdShutdown : List Event :=
  [.ask (.kernel .zero (.shutdown false)), .step 2, .step 2, .step 2, .step 2, .answer 2 .done,
    .step 2, .step 2, .step 2, .step 2, .step 2, .step 2, .step 2]

/-- The id that the first of two starts was given is retired by a shutdown. -/
theorem issued_once_retired :
    ∃ t u, run? ⟨pythonHub, []⟩ twoStarts = some t ∧ run? t thirdShutdown = some u ∧
      t.calls[0]? = some (.ended (.ok (.started .zero))) ∧
      t.calls[1]? = some (.ended (.error (.alreadyExists .zero))) ∧
      u.hub.hasKernel .zero = false ∧ KernelId.zero ∈ u.hub.retired := by
  have key {t u : Traffic} (hr : run? ⟨pythonHub, []⟩ twoStarts = some t)
      (hs : run? t thirdShutdown = some u) (hc : t.calls[0]? = some (.ended (.ok (.started .zero))))
      (hk : u.hub.hasKernel .zero = false) : KernelId.zero ∈ u.hub.retired := by
    rcases ((issued_once ⟨rfl, rfl, rfl, rfl⟩ hr hs).2 0 .zero hc).2 with h | h
    · simp [hk] at h
    · exact h
  exact ⟨_, _, rfl, rfl, rfl, rfl, rfl, key rfl rfl rfl rfl⟩

end Traffic

end KernelHub
