import KernelHub.Proofs.Course.Phases

/-
A hub whose records are at everybody's hand. Callers may give any command, also those that
take a record by its place, may start a record more than once, and may make records that the
registry never hears of. All that is assumed of the hosts is that their calls return. What
the call inside a guard knows of its record, and that a record nobody is at work on is at
rest, is kept by everything that can happen then.
-/

namespace KernelHub

namespace Hub

theorem record?_of_append {h h' : Hub} {new : List Record}
    (hn : h'.records = h.records ++ new) {p : Nat} {r : Record} (hr : h.record? p = some r) :
    h'.record? p = some r := by
  obtain ⟨hp, -⟩ := List.getElem?_eq_some_iff.1 hr
  rw [record?, hn, List.getElem?_append_left hp]
  exact hr

/-- The hub has the records it had, and perhaps one more that is new. -/
structure Grows (h h' : Hub) : Prop where
  kept : ∀ p r, h.record? p = some r → h'.record? p = some r
  new : ∀ p r, h.record? p = none → h'.record? p = some r →
    r.state = .unborn ∧ r.binding = none ∧ r.guarded = false

theorem grows_of_records {h h' : Hub} (hr : h'.records = h.records) : h.Grows h' := by
  have he (p : Nat) : h'.record? p = h.record? p := by simp [record?, hr]
  refine ⟨fun p r hp => (he p).trans hp, fun p r hn hp => ?_⟩
  rw [he p, hn] at hp
  cases hp

theorem grows_of_added {h h' : Hub} {id : KernelId} {name : String}
    (hr : h'.records = h.records ++ [{ id := id, name := name }]) : h.Grows h' := by
  refine ⟨fun p r hp => record?_of_append hr hp, fun p r hn hp => ?_⟩
  have hle := List.getElem?_eq_none_iff.1 hn
  rw [record?, hr, List.getElem?_append_right hle] at hp
  have hm := List.mem_of_getElem? hp
  simp only [List.mem_singleton] at hm
  subst hm
  exact ⟨rfl, rfl, rfl⟩

end Hub

namespace Call

/-- Is the call inside a record's guard? -/
def inside : Call → Bool
  | working w _ => w.phase.inside
  | _ => false

theorem inside_begun {h : Hub} {k : Command} {c : Call} (hb : Begun h k c) :
    c.inside = false := by
  cases hb <;> rfl

/-- What a step of a call's own is: a turn of its work, or one that touches no record. -/
theorem grows_or_work {h h' : Hub} {c c' : Call} (hs : c.step? h = some (h', c')) :
    (h.Grows h' ∧ c.inside = false ∧ c'.inside = false) ∨
      ∃ w after w', c = working w after ∧ c' = working w' after ∧ w.step? h = some (h', w') := by
  have same : h.Grows h := Hub.grows_of_records rfl
  cases advance_of_step? hs with
  | begun hb => exact .inl ⟨same, rfl, inside_begun hb⟩
  | registered hr =>
    obtain ⟨-, -, -, rfl⟩ := Hub.register?_eq_some hr
    exact .inl ⟨Hub.grows_of_added rfl, rfl, rfl⟩
  | worked hw => exact .inr ⟨_, _, _, rfl, rfl, hw⟩
  | @followed w after res hp =>
    exact .inl ⟨same, by rw [inside, hp]; rfl, by cases after <;> cases res <;> rfl⟩
  | published | learnt | dropped | retired | left =>
    exact .inl ⟨Hub.grows_of_records rfl, rfl, rfl⟩
  | _ => exact .inl ⟨same, rfl, rfl⟩

/-- What an answer makes of a call: it is heard by the call's work, or touches no record. -/
theorem aside_or_heard {h : Hub} {c c' : Call} {a : Answer} (hs : c.answered? h a = some c') :
    (c.inside = false ∧ c'.inside = false) ∨
      ∃ w after w', c = working w after ∧ c' = working w' after ∧ w.answered? h a = some w' := by
  cases reaction_of_answered? hs with
  | heard hw => exact .inr ⟨_, _, _, rfl, rfl, hw⟩
  | crashed hw =>
    refine .inl ⟨?_, rfl⟩
    cases c with
    | working w after => exact absurd rfl (hw w after)
    | _ => rfl
  | _ => exact .inl ⟨rfl, rfl⟩

end Call

namespace Traffic

/-- What can happen to a hub whose records are at everybody's hand. -/
inductive Deed
  | event (e : Event)
  /-- Someone gives a command, be it one that is for the owner of a record. -/
  | command (c : Command)
  /-- Someone makes a record that is not registered. -/
  | adopt (id : KernelId) (name : String)

/-- The traffic after a deed, if it is possible. Calls on hosts return. -/
def deed? (t : Traffic) : Deed → Option Traffic
  | .event (.answer _ .crashed) => none
  | .event e => t.next? e
  | .command c => some { t with calls := t.calls ++ [.asked c] }
  | .adopt id name => some { t with hub := (t.hub.adopt id name).1 }

variable {t t' : Traffic}

/-- What a deed can do. -/
inductive Stir (t : Traffic) : Traffic → Prop
  | aside {u : Traffic} (hg : t.hub.Grows u.hub)
    (hc : ∀ (i : Nat) (c : Call), c.inside = true → (u.calls[i]? = some c ↔ t.calls[i]? = some c)) :
    Stir t u
  | turn {i w a r h' w'} (hc : t.calls[i]? = some (Call.working w a))
    (hr : t.hub.record? w.place = some r) (ht : w.Turn t.hub r h' w') :
    Stir t ⟨h', t.calls.set i (.working w' a)⟩
  | heard {i w a r w' x} (hc : t.calls[i]? = some (Call.working w a))
    (hr : t.hub.record? w.place = some r) (hw : w.answered? t.hub x = some w')
    (hx : x ≠ .crashed) : Stir t ⟨t.hub, t.calls.set i (.working w' a)⟩

theorem calls_aside {i : Nat} {c c' : Call} (hc : t.calls[i]? = some c) (hn : c.inside = false)
    (hn' : c'.inside = false) (j : Nat) (d : Call) (hd : d.inside = true) :
    (t.calls.set i c')[j]? = some d ↔ t.calls[j]? = some d := by
  rw [getElem?_set_call hc]
  split
  · next hij =>
    subst hij
    refine iff_of_false (fun he => ?_) fun he => ?_
    · cases he
      cases hn'.symm.trans hd
    · cases hc.symm.trans he
      cases hn.symm.trans hd
  · rfl

theorem calls_asked (c : Command) (i : Nat) (d : Call) (hd : d.inside = true) :
    (t.calls ++ [.asked c])[i]? = some d ↔ t.calls[i]? = some d := by
  simp only [List.getElem?_append]
  split
  · rfl
  · next hi =>
    rw [List.getElem?_eq_none (by omega : t.calls.length ≤ i)]
    refine ⟨fun he => ?_, nofun⟩
    have hm := List.mem_of_getElem? he
    simp only [List.mem_singleton] at hm
    subst hm
    cases hd

theorem stir_of_step {i : Nat} (hn : t.next? (.step i) = some t') : t.Stir t' := by
  simp only [next?] at hn
  split at hn
  · cases hn
  · next c hc =>
    obtain ⟨⟨h', c'⟩, hs, rfl⟩ := Option.map_eq_some_iff.1 hn
    rcases Call.grows_or_work hs with ⟨hg, h1, h2⟩ | ⟨w, after, w', rfl, rfl, hw⟩
    · exact .aside hg (calls_aside hc h1 h2)
    · obtain ⟨r, hr, ht⟩ := Work.turn_of_step? hw
      exact .turn hc hr ht

theorem stir_of_answer {i : Nat} {x : Answer} (hx : x ≠ .crashed)
    (hn : t.next? (.answer i x) = some t') : t.Stir t' := by
  simp only [next?] at hn
  split at hn
  · cases hn
  · next c hc =>
    split at hn
    · obtain ⟨c', hs, rfl⟩ := Option.map_eq_some_iff.1 hn
      rcases Call.aside_or_heard hs with ⟨h1, h2⟩ | ⟨w, after, w', rfl, rfl, hw⟩
      · exact .aside (Hub.grows_of_records rfl) (calls_aside hc h1 h2)
      · obtain ⟨r, p, hr, -⟩ := Work.heard_of_answered? hw
        exact .heard hc hr hw hx
    · cases hn

theorem stir_of_deed? {x : Deed} (hd : t.deed? x = some t') : t.Stir t' := by
  cases x with
  | command c =>
    cases hd
    exact .aside (Hub.grows_of_records rfl) (calls_asked c)
  | adopt id name =>
    cases hd
    exact .aside (Hub.grows_of_added rfl) fun _ _ _ => Iff.rfl
  | event e =>
    cases e with
    | ask c =>
      simp only [deed?, next?] at hd
      split at hd
      · cases hd
        exact .aside (Hub.grows_of_records rfl) (calls_asked c)
      · cases hd
    | step i => exact stir_of_step hd
    | answer i x =>
      by_cases hx : x = .crashed
      · subst hx
        cases hd
      · refine stir_of_answer hx (?_ : t.next? (.answer i x) = some t')
        cases x <;> first | exact hd | exact absurd rfl hx
    | shared p =>
      cases hd
      exact .aside (Hub.grows_of_records rfl) fun _ _ _ => Iff.rfl

/-! ## What the calls inside know -/

/-- Is a call at work inside the guard of the record at a place? -/
def Attended (t : Traffic) (p : Nat) : Prop :=
  ∃ (i : Nat) (w : Work) (a : Call.After),
    t.calls[i]? = some (.working w a) ∧ w.place = p ∧ w.phase.inside = true

/-- Every record is as the call inside its guard has left it, or at rest. -/
structure Steady (t : Traffic) : Prop extends t.Exclusive where
  meets : ∀ (i : Nat) (w : Work) (a : Call.After), t.calls[i]? = some (.working w a) →
    w.phase.inside = true → ∃ r, t.hub.record? w.place = some r ∧ w.phase.Meets r w.job
  rests : ∀ p r, t.hub.record? p = some r → ¬ t.Attended p → r.Rests

theorem steady_unused {h : Hub} (hu : h.Unused) : Steady ⟨h, []⟩ := by
  refine ⟨⟨(fun i j w v a b hw => nomatch hw), fun i w a r hw => nomatch hw⟩,
    (fun i w a hw => nomatch hw), fun p r hr => ?_⟩
  simp [Hub.record?, hu.records] at hr

theorem steady_aside (hs : t.Steady) (hg : t.hub.Grows t'.hub)
    (hc : ∀ (i : Nat) (c : Call), c.inside = true →
      (t'.calls[i]? = some c ↔ t.calls[i]? = some c)) : t'.Steady := by
  have hin {i : Nat} {w : Work} {a : Call.After} (hi : w.phase.inside = true) :
      t'.calls[i]? = some (.working w a) ↔ t.calls[i]? = some (.working w a) := hc i _ hi
  refine ⟨⟨fun i j w v a b hw hv hp hi hj => ?_, fun i w a r hw hi hr => ?_⟩,
    fun i w a hw hi => ?_, fun p r hr hn => ?_⟩
  · exact hs.exclusive i j w v a b ((hin hi).1 hw) ((hin hj).1 hv) hp hi hj
  · obtain ⟨r₀, hr₀, -⟩ := hs.meets i w a ((hin hi).1 hw) hi
    cases hr.symm.trans (hg.kept _ _ hr₀)
    exact hs.guarded i w a r ((hin hi).1 hw) hi hr₀
  · obtain ⟨r, hr, hm⟩ := hs.meets i w a ((hin hi).1 hw) hi
    exact ⟨r, hg.kept _ _ hr, hm⟩
  · cases ho : t.hub.record? p with
    | none =>
      obtain ⟨h1, h2, -⟩ := hg.new p r ho hr
      unfold Record.Rests
      rw [h1]
      exact h2
    | some r₀ =>
      cases hr.symm.trans (hg.kept _ _ ho)
      exact hs.rests p r ho fun ⟨i, w, a, hw, hp, hi⟩ => hn ⟨i, w, a, (hin hi).2 hw, hp, hi⟩

/-- Work goes on while nobody else is inside at its place. -/
theorem steady_work {i : Nat} {w w' : Work} {a : Call.After} {h' : Hub} {r' : Record}
    (hs : t.Steady) (hc : t.calls[i]? = some (.working w a)) (hp : w'.place = w.place)
    (ho : ∀ p, p ≠ w.place → h'.record? p = t.hub.record? p)
    (hr' : h'.record? w.place = some r')
    (hone : ∀ (j : Nat) (v : Work) (b : Call.After), t.calls[j]? = some (.working v b) →
      v.place = w.place → v.phase.inside = true → i = j)
    (hin : w'.phase.inside = true → r'.guarded = true ∧ w'.phase.Meets r' w'.job)
    (hout : w'.phase.inside = false → r'.Rests) :
    Steady ⟨h', t.calls.set i (.working w' a)⟩ := by
  -- Another call that is inside is so at another place.
  have other {j : Nat} {v : Work} {b : Call.After} (hij : i ≠ j)
      (hv : t.calls[j]? = some (.working v b)) (hi : v.phase.inside = true) :
      v.place ≠ w.place := fun hpv => hij (hone j v b hv hpv hi)
  refine ⟨⟨fun j k u v b c hu hv hpe hi hk => ?_, fun j v b r hv hi hr => ?_⟩,
    fun j v b hv hi => ?_, fun p r hr hn => ?_⟩
  · rcases of_set_call hc hu with ⟨rfl, he⟩ | ⟨hj, hu⟩ <;>
      rcases of_set_call hc hv with ⟨rfl, he'⟩ | ⟨hk', hv⟩
    · rfl
    · cases he
      exact absurd (hpe.symm.trans hp) (other hk' hv hk)
    · cases he'
      exact absurd (hpe.trans hp) (other hj hu hi)
    · exact hs.exclusive j k u v b c hu hv hpe hi hk
  · rcases of_set_call hc hv with ⟨-, he⟩ | ⟨hij, hv⟩
    · cases he
      cases hr'.symm.trans (hp ▸ hr)
      exact (hin hi).1
    · exact hs.guarded j v b r hv hi ((ho _ (other hij hv hi)).symm.trans hr)
  · rcases of_set_call hc hv with ⟨-, he⟩ | ⟨hij, hv⟩
    · cases he
      exact ⟨r', hp ▸ hr', (hin hi).2⟩
    · obtain ⟨r, hr, hm⟩ := hs.meets j v b hv hi
      exact ⟨r, (ho _ (other hij hv hi)).trans hr, hm⟩
  · by_cases hpw : p = w.place
    · subst hpw
      cases hr'.symm.trans hr
      refine hout (Bool.eq_false_iff.2 fun hi => hn ⟨i, w', a, set_call_self hc _, hp, hi⟩)
    · refine hs.rests p r ((ho p hpw).symm.trans hr) fun ⟨j, v, b, hv, hvp, hi⟩ => ?_
      have hij : i ≠ j := by
        rintro rfl
        cases hc.symm.trans hv
        exact hpw hvp.symm
      exact hn ⟨j, v, b, (List.getElem?_set_ne hij).trans hv, hvp, hi⟩

/-- What work knows before it takes a turn. -/
theorem meets_before {i : Nat} {w w' : Work} {a : Call.After} {r : Record} {h' : Hub}
    (hs : t.Steady) (hc : t.calls[i]? = some (.working w a))
    (hr : t.hub.record? w.place = some r) (ht : w.Turn t.hub r h' w') :
    w.phase.Meets r w.job ∧ (w.phase = .waiting → r.Rests) := by
  constructor
  · cases hi : w.phase.inside with
    | true =>
      obtain ⟨r₀, hr₀, hm⟩ := hs.meets i w a hc hi
      cases hr.symm.trans hr₀
      exact hm
    | false => cases hp : w.phase <;> first | trivial | (rw [hp] at hi; cases hi)
  · intro hw
    refine hs.rests _ r hr fun ⟨j, v, b, hv, hvp, hi⟩ => ?_
    obtain rfl := hs.alone hc hr ht hv hvp hi
    cases hc.symm.trans hv
    rw [hw] at hi
    cases hi

theorem steady_turn {i : Nat} {w w' : Work} {a : Call.After} {r : Record} {h' : Hub}
    (hs : t.Steady) (hc : t.calls[i]? = some (.working w a))
    (hr : t.hub.record? w.place = some r) (ht : w.Turn t.hub r h' w') :
    Steady ⟨h', t.calls.set i (.working w' a)⟩ := by
  have hf := Work.frame_turn hr ht
  obtain ⟨r', hr', hst⟩ := Work.stride_turn hr ht
  obtain ⟨hm, hw⟩ := meets_before hs hc hr ht
  refine steady_work hs hc hf.place hf.others hr'
    (fun j v b hv hp hi => hs.alone hc hr ht hv hp hi) (fun hi => ⟨?_, ?_⟩)
    (Work.rests_stride hst hm)
  · rcases Work.guard_turn hr ht hr' with ⟨-, -, hg⟩ | ⟨hwi, -, hg⟩ | ⟨-, hn⟩
    · exact hg
    · exact hg.trans (hs.guarded i w a r hc hwi hr)
    · cases hn.symm.trans hi
  · rw [hf.job]
    exact (Work.meets_stride hst hm hw).1

theorem steady_stir (hs : t.Steady) (hst : t.Stir t') : t'.Steady := by
  cases hst with
  | aside hg hc => exact steady_aside hs hg hc
  | turn hc hr ht => exact steady_turn hs hc hr ht
  | @heard i w a r w' x hc hr hw hx =>
    have hm : w.phase.Meets r w.job ∧ w.phase.inside = true := by
      obtain ⟨r₁, p, hr₁, hh, -⟩ := Work.heard_of_answered? hw
      have hi := (Work.inside_heard hh).1
      obtain ⟨r₀, hr₀, hm⟩ := hs.meets i w a hc hi
      cases hr.symm.trans hr₀
      exact ⟨hm, hi⟩
    obtain ⟨hp, hi, hi', hm'⟩ := Work.meets_answered hr hw hx hm.1
    exact steady_work hs hc hp (fun _ _ => rfl) hr
      (fun j v b hv hvp hvi => hs.exclusive i j w v a b hc hv hvp.symm hi hvi)
      (fun _ => ⟨hs.guarded i w a r hc hi hr, hm'⟩) fun hn => nomatch hi'.symm.trans hn

end Traffic

end KernelHub
