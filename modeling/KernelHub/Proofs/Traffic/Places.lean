import KernelHub.Proofs.Traffic.Shift

/-
Where calls are at work. A call that works on a record has a place that holds one, with
the id that what follows the work is about, and the results of its phase are results of
its job. Records are never removed, and keep their id and name.
-/

namespace KernelHub

/-- What may follow a job on a record with this id. -/
inductive Call.Suits (id : KernelId) : Job → Call.After → Prop
  | start {o : StartOptions} (ho : o.id.getD id = id) : Suits id (.start o) (.started id)
  | shutdown {now} : Suits id (.shutdown now) (.shutDown id)
  | other {job} (ha : Call.afterJob id job = .nothing) (hs : ∀ o, job ≠ .start o) :
    Suits id job .nothing

theorem Call.suits_afterJob {id : KernelId} {job : Job}
    (hj : (Call.seeking id job).offered = true) : Call.Suits id job (Call.afterJob id job) := by
  cases job with
  | start o => cases hj
  | shutdown now => exact .shutdown
  | interrupt | restart | model => exact .other rfl (by intro o ho; cases ho)

namespace Work

variable {h h' : Hub} {w w' : Work} {r : Record}

/-- What a phase says of the job it is a phase of, on a record with this id. -/
def Phase.Typed (id : KernelId) (job : Job) : Phase → Prop
  | .probing .. => ∃ now, job = .restart now
  | .mapping _ | .binding _ => ∃ o, job = .start o
  | .unmapping | .unbinding => ∃ now, job = .shutdown now
  | .settling _ res | .releasing res | .ended res => job.Gives id res
  | _ => True

theorem typed_enter {job s p} (he : Entry h r job s p) : p.Typed r.id job := by
  cases he with
  | gone => rfl
  | _ => trivial

theorem typed_turn (ht : w.Turn h r h' w') (hp : w.phase.Typed r.id w.job) :
    w'.phase.Typed r.id w'.job := by
  cases ht with
  | take => trivial
  | enter _ he => exact typed_enter he
  | map hb | unmap hb => rwa [hb] at hp
  | bind hb =>
    rw [hb] at hp
    obtain ⟨o, ho⟩ := hp
    simp [Phase.Typed, Job.Gives, ho]
  | unbind hb =>
    rw [hb] at hp
    obtain ⟨now, ho⟩ := hp
    simp [Phase.Typed, Job.Gives, ho]
  | settle hb | release hb => rwa [hb] at hp

theorem typed_heard {job p p'} (hh : Heard r job p p') (hp : p.Typed r.id job) :
    p'.Typed r.id job := by
  cases hh with
  | started => exact ⟨_, rfl⟩
  | stopped => exact ⟨_, rfl⟩
  | unrestarted => exact ⟨_, rfl⟩
  | restarted => rfl
  | interrupted hr | told hr => exact hr
  | _ => trivial

/-- What every turn leaves as it is. -/
structure Frame (h : Hub) (w : Work) (r : Record) (h' : Hub) (w' : Work) : Prop where
  job : w'.job = w.job
  place : w'.place = w.place
  registry : h'.registry = h.registry
  retired : h'.retired = h.retired
  hasRemote : h'.hasRemote = h.hasRemote
  others : ∀ p, p ≠ w.place → h'.record? p = h.record? p
  record : ∃ r', h'.record? w.place = some r' ∧ r'.id = r.id ∧ r'.name = r.name

theorem length_turn (ht : w.Turn h r h' w') : h'.records.length = h.records.length := by
  cases ht with
  | @enter s p hp he => cases s <;> simp [writeState, Hub.setState, Hub.edit]
  | map | unmap => rfl
  | take | bind | unbind | settle | release =>
    simp [Hub.setGuard, Hub.setBinding, Hub.setState, Hub.edit]

theorem frame_edit (hr : h.record? w.place = some r) (f : Record → Record) (p : Phase)
    (hf : (f r).id = r.id ∧ (f r).name = r.name) :
    Frame h w r (h.edit w.place f) { w with phase := p } := by
  refine ⟨rfl, rfl, rfl, rfl, rfl, fun q hq => ?_, f r, ?_, hf⟩
  · simp [Hub.record?_edit, Ne.symm hq]
  · simp [Hub.record?_edit, hr]

theorem frame_turn (hr : h.record? w.place = some r) (ht : w.Turn h r h' w') :
    Frame h w r h' w' := by
  have hsame (p : Phase) (m : Table KernelId Binding) :
      Frame h w r { h with idMap := m } { w with phase := p } :=
    ⟨rfl, rfl, rfl, rfl, rfl, fun _ _ => rfl, r, hr, rfl, rfl⟩
  cases ht with
  | @enter s p hp he =>
    cases s with
    | none => exact hsame p h.idMap
    | some s => exact frame_edit hr _ _ ⟨rfl, rfl⟩
  | map | unmap => exact hsame _ _
  | take | bind | unbind | settle | release => exact frame_edit hr _ _ ⟨rfl, rfl⟩

end Work

namespace Traffic

/-- Records stay, with their id and name. -/
theorem record?_shift {t t' : Traffic} {e : Event} (hs : t.Shift e t') {p : Nat} {r : Record}
    (hr : t.hub.record? p = some r) :
    ∃ r', t'.hub.record? p = some r' ∧ r'.id = r.id ∧ r'.name = r.name := by
  cases hs with
  | aside ha =>
    obtain ⟨q, hq⟩ := ha.hub
    exact ⟨r, by rw [hq]; exact hr, rfl, rfl⟩
  | register =>
    have hlt := Hub.lt_length_of_record? hr
    exact ⟨r, by simp [Hub.record?_enroll, hr, Nat.ne_of_lt hlt], rfl, rfl⟩
  | @work i w after r₀ _ _ _ hr₀ ht =>
    have hf := Work.frame_turn hr₀ ht
    by_cases hp : p = w.place
    · subst hp
      cases hr₀.symm.trans hr
      exact hf.record
    · exact ⟨r, by rw [hf.others p hp]; exact hr, rfl, rfl⟩
  | _ => exact ⟨r, hr, rfl, rfl⟩

/-- Every call at work has a record that suits it, and so has every registered id. -/
structure Placed (t : Traffic) : Prop where
  working : ∀ (i : Nat) (w : Work) (after : Call.After), t.calls[i]? = some (.working w after) →
    ∃ r, t.hub.record? w.place = some r ∧ Call.Suits r.id w.job after ∧ w.phase.Typed r.id w.job
  registered : ∀ id p, Table.find? id t.hub.registry = some p →
    ∃ r, t.hub.record? p = some r ∧ r.id = id

/-- A call at work suits the record that it finds at its place. -/
theorem Placed.suits {t : Traffic} {i : Nat} {w : Work} {after : Call.After} {r : Record}
    (hp : t.Placed) (hc : t.calls[i]? = some (.working w after))
    (hr : t.hub.record? w.place = some r) :
    Call.Suits r.id w.job after ∧ w.phase.Typed r.id w.job := by
  obtain ⟨r₀, hr₀, hsu⟩ := hp.working i w after hc
  cases hr.symm.trans hr₀
  exact hsu

theorem placed_shift {t t' : Traffic} {e : Event} (hs : t.Shift e t') (hp : t.Placed) :
    t'.Placed := by
  -- What holds of a record before holds after, for neither looks at what can change.
  have hrec {p : Nat} {id : KernelId} (hr : ∃ r, t.hub.record? p = some r ∧ r.id = id) :
      ∃ r, t'.hub.record? p = some r ∧ r.id = id := by
    obtain ⟨r, hr, hid⟩ := hr
    obtain ⟨r', hr', hid', -⟩ := record?_shift hs hr
    exact ⟨r', hr', hid'.trans hid⟩
  have hwork {j : Nat} {w : Work} {after : Call.After}
      (hw : t.calls[j]? = some (.working w after)) :
      ∃ r, t'.hub.record? w.place = some r ∧ Call.Suits r.id w.job after ∧
        w.phase.Typed r.id w.job := by
    obtain ⟨r, hr, hsu, hty⟩ := hp.working j w after hw
    obtain ⟨r', hr', hid, -⟩ := record?_shift hs hr
    exact ⟨r', hr', hid ▸ hsu, hid ▸ hty⟩
  cases hs with
  | aside ha =>
    obtain ⟨q, hq⟩ := ha.hub
    refine ⟨fun j w after hw => hwork ((ha.calls j _ rfl).1 hw), fun id p hf => ?_⟩
    exact hrec (hp.registered id p (by rw [hq] at hf; exact hf))
  | @register i name options fresh hc hk hn =>
    refine ⟨fun j w after hw => ?_, fun id p hf => ?_⟩
    · rcases of_set_call hc hw with ⟨-, he⟩ | ⟨-, hw⟩
      · cases he
        refine ⟨⟨options.id.getD fresh, name, .unborn, none, false⟩, ?_, ?_, trivial⟩
        · simp [Hub.record?_enroll]
        · exact .start (by cases options.id <;> rfl)
      · exact hwork hw
    · simp only [Hub.enroll, Table.find?_set] at hf
      split at hf
      · next hid =>
        cases hf
        exact ⟨⟨options.id.getD fresh, name, .unborn, none, false⟩, by simp [Hub.record?_enroll],
          hid.symm⟩
      · exact hrec (hp.registered id p hf)
  | @seek i id job place hc hf hj =>
    refine ⟨fun j w after hw => ?_, fun id p hf => hrec (hp.registered id p hf)⟩
    rcases of_set_call hc hw with ⟨-, he⟩ | ⟨-, hw⟩
    · cases he
      obtain ⟨r, hr, rfl⟩ := hp.registered id place hf
      exact ⟨r, hr, Call.suits_afterJob hj, trivial⟩
    · exact hwork hw
  | @work i w after r h' w' hc hr ht =>
    have hf := Work.frame_turn hr ht
    refine ⟨fun j v after' hv => ?_, fun id p hg => ?_⟩
    · rcases of_set_call hc hv with ⟨-, he⟩ | ⟨-, hv⟩
      · cases he
        obtain ⟨hsu, hty⟩ := hp.suits hc hr
        obtain ⟨r', hr', hid, -⟩ := hf.record
        exact ⟨r', hf.place ▸ hr', hid ▸ hf.job ▸ hsu, hid ▸ Work.typed_turn ht hty⟩
      · exact hwork hv
    · exact hrec (hp.registered id p (by rw [hf.registry] at hg; exact hg))
  | @heard i w after r p a hc hr hh =>
    refine ⟨fun j v after' hv => ?_, fun id q hg => hrec (hp.registered id q hg)⟩
    rcases of_set_call hc hv with ⟨-, he⟩ | ⟨-, hv⟩
    · cases he
      obtain ⟨hsu, hty⟩ := hp.suits hc hr
      exact ⟨r, hr, hsu, Work.typed_heard hh hty⟩
    · exact hwork hv
  | @follow i w after res hc hph =>
    refine ⟨fun j v after' hv => ?_, fun id q hg => hrec (hp.registered id q hg)⟩
    rcases of_set_call hc hv with ⟨-, he⟩ | ⟨-, hv⟩
    · cases after <;> cases res <;> cases he
    · exact hwork hv
  | @drop i id _ hc | @leave i id hc =>
    refine ⟨fun j v after' hv => ?_, fun id' q hg => ?_⟩
    · rcases of_set_call hc hv with ⟨-, he⟩ | ⟨-, hv⟩
      · cases he
      · exact hwork hv
    · simp only [Hub.unregister, Table.find?_erase] at hg
      split at hg
      · cases hg
      · exact hrec (hp.registered id' q hg)
  | @retire i id hc =>
    refine ⟨fun j v after' hv => ?_, fun id' q hg => hrec (hp.registered id' q hg)⟩
    rcases of_set_call hc hv with ⟨-, he⟩ | ⟨-, hv⟩
    · cases he
    · exact hwork hv

theorem placed_of_reachable {t : Traffic} (ht : t.Reachable) : t.Placed := by
  refine reachable_induct (fun h hu => ?_) (fun t t' e _ hp hs => placed_shift hs hp) ht
  refine ⟨(fun i w after hw => nomatch hw), fun id p hf => ?_⟩
  rw [hu.registry] at hf
  cases hf

end Traffic

end KernelHub
