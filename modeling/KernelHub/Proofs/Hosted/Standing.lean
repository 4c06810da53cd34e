import KernelHub.Proofs.Hosted
import KernelHub.Proofs.Traffic.Bindings

/-
Which kernel of a host a record stands for. A record stands for the kernel that its start
has been given, from the moment the host has made it, which is before the hub hears of it,
until its binding is cleared, which is after the host has taken the kernel away.
-/

namespace KernelHub

namespace Work

variable {h h' : Hub} {w w' : Work} {r : Record}

/-- The kernel that a record with this binding stands for, while work on it is in this
phase. -/
def Phase.stands (x : Option Transit) : Phase → Option Binding → Option Binding
  | .calling side (.start ..), b =>
    match x with
    | some (.answered (.started d)) => some ⟨side, d⟩
    | _ => b
  | .mapping c, _ => some c
  | .binding c, _ => some c
  | _, b => b

/-- Has the host taken the kernel away that work in this phase shuts down? -/
def Phase.gone (x : Option Transit) : Phase → Bool
  | .calling _ (.shutdown ..) =>
    match x with
    | some (.answered .done) => true
    | _ => false
  | .unmapping => true
  | .unbinding => true
  | _ => false

theorem inside_of_gone {x : Option Transit} {p : Phase} (hp : p.gone x = true) :
    p.inside = true := by
  cases p <;> first | rfl | cases hp

/-- Work that takes a turn waits for no answer. -/
theorem request?_of_turn (ht : w.Turn h r h' w') : w.request? = none := by
  cases ht with
  | take hp | enter hp | map hp | bind hp | unmap hp | unbind hp | settle hp | release hp =>
    simp [request?, hp]

theorem stands_enter {job s p} (he : Entry h r job s p) (b : Option Binding) :
    p.stands none b = b ∧ p.gone none = false := by
  cases he with
  | asked _ _ hq => cases job <;> cases hq <;> exact ⟨rfl, rfl⟩
  | _ => exact ⟨rfl, rfl⟩

/-- A turn that does not clear the binding leaves its record standing for what it stood for. -/
theorem stands_turn (ht : w.Turn h r h' w') (hn : w.phase ≠ .unbinding) (b : Option Binding) :
    w'.phase.stands none (w.phase.rebind b) = w.phase.stands none b ∧
      w'.phase.gone none = w.phase.gone none := by
  cases ht with
  | enter hp he =>
    rw [hp]
    exact stands_enter he b
  | unbind hp => exact absurd hp hn
  | take hp | map hp | bind hp | unmap hp | settle hp | release hp =>
    rw [hp]
    exact ⟨rfl, rfl⟩

theorem stands_outside {x : Option Transit} {p : Phase} (hp : p.inside = false)
    (b : Option Binding) : p.stands x b = b := by
  cases p <;> first | rfl | cases hp

/-- What a record is bound to it stands for. -/
theorem stands_bound {x : Option Transit} {job : Job} {p : Phase} {b : Binding}
    (hf : p.Fits h r job) (hb : r.binding = some b) : p.stands x r.binding = some b := by
  cases p with
  | calling side q =>
    rcases hf with ⟨o, -, -, -, hn⟩ | ⟨c, s, -, -, hq⟩
    · cases hn.symm.trans hb
    · cases job <;> cases hq <;> exact hb
  | mapping | binding => cases hf.1.symm.trans hb
  | _ => exact hb

/-- What a record stands for it is bound to, or a start is about to bind it to. -/
theorem of_stands {x : Option Transit} {id : KernelId} {job : Job} {p : Phase} {b : Binding}
    (hf : p.Fits h r job) (ht : p.Typed id job) (hs : p.stands x r.binding = some b) :
    r.binding = some b ∨ job.Starts := by
  cases p with
  | calling side q =>
    rcases hf with ⟨o, ho, -⟩ | ⟨c, s, -, -, hq⟩
    · exact .inr ⟨o, ho⟩
    · cases job <;> cases hq <;> exact .inl hs
  | mapping | binding => exact .inr ht
  | _ => exact .inl hs

end Work

namespace Hosted

variable {s s' : Hosted} {m m' : Nat → Option Binding}

def hub (s : Hosted) : Hub := s.traffic.hub

/-- The kernel of each record, as its calls know it. -/
structure Standing (s : Hosted) (m : Nat → Option Binding) : Prop where
  inside : ∀ (i : Nat) (w : Work) (a : Call.After) (r : Record),
    s.traffic.calls[i]? = some (.working w a) → w.phase.inside = true →
      s.hub.record? w.place = some r →
        m w.place = w.phase.stands (Table.find? i s.transits) r.binding
  outside : ∀ (p : Nat) (r : Record), s.hub.record? p = some r →
    (∀ (i : Nat) (w : Work) (a : Call.After), s.traffic.calls[i]? = some (.working w a) →
      w.place = p → w.phase.inside = false) → m p = r.binding
  known : ∀ p b, m p = some b → ∃ r, s.hub.record? p = some r

/-- A record stands for what the call inside its guard says, or else for what it is bound to. -/
theorem Standing.inside_or {p : Nat} {r : Record} (hst : s.Standing m)
    (hr : s.hub.record? p = some r) :
    (∃ (i : Nat) (w : Work) (a : Call.After), s.traffic.calls[i]? = some (.working w a) ∧
      w.place = p ∧ w.phase.inside = true ∧
        m p = w.phase.stands (Table.find? i s.transits) r.binding) ∨ m p = r.binding := by
  by_cases hin : ∃ (i : Nat) (w : Work) (a : Call.After),
      s.traffic.calls[i]? = some (.working w a) ∧ w.place = p ∧ w.phase.inside = true
  · obtain ⟨i, w, a, hc, rfl, hi⟩ := hin
    exact .inl ⟨i, w, a, hc, rfl, hi, hst.inside i w a r hc hi hr⟩
  · refine .inr (hst.outside p r hr fun i w a hc hp => ?_)
    exact Bool.eq_false_iff.2 fun hi => hin ⟨i, w, a, hc, hp, hi⟩

end Hosted

/-- Is the call at work on the record at a place, whose kernel is gone? -/
def Call.Loses (x : Option Transit) (p : Nat) : Call → Prop
  | .working w _ => w.place = p ∧ w.phase.gone x = true
  | _ => False

theorem Call.not_loses_of_light {x : Option Transit} {p : Nat} {c : Call} (hc : c.light = true) :
    ¬ c.Loses x p := by
  cases c with
  | working => cases hc
  | _ => exact not_false

namespace Hosted

variable {s s' : Hosted} {m m' : Nat → Option Binding}

/-- Has the host taken the kernel of the record at this place away? -/
def Gone (s : Hosted) (p : Nat) : Prop :=
  ∃ (i : Nat) (c : Call), s.traffic.calls[i]? = some c ∧ c.Loses (Table.find? i s.transits) p

/-! ## One call at a time -/

theorem gone_change {i : Nat} {c c' : Call} {p : Nat} (hc : s.traffic.calls[i]? = some c)
    (hs : s'.traffic.calls = s.traffic.calls.set i c')
    (hx : ∀ j, j ≠ i → Table.find? j s'.transits = Table.find? j s.transits)
    (hl : c'.Loses (Table.find? i s'.transits) p ↔ c.Loses (Table.find? i s.transits) p) :
    s'.Gone p ↔ s.Gone p := by
  constructor
  · rintro ⟨j, d, hd, hg⟩
    rw [hs] at hd
    rcases Traffic.of_set_call hc hd with ⟨rfl, rfl⟩ | ⟨hij, hd⟩
    · exact ⟨i, c, hc, hl.1 hg⟩
    · exact ⟨j, d, hd, by rwa [hx j (Ne.symm hij)] at hg⟩
  · rintro ⟨j, d, hd, hg⟩
    by_cases hij : i = j
    · subst hij
      cases hc.symm.trans hd
      exact ⟨i, c', by rw [hs]; exact Traffic.set_call_self hc c', hl.2 hg⟩
    · refine ⟨j, d, ?_, by rwa [hx j (Ne.symm hij)]⟩
      rw [hs]
      exact (List.getElem?_set_ne hij).trans hd

theorem standing_change {i : Nat} {c c' : Call} (hst : s.Standing m)
    (hc : s.traffic.calls[i]? = some c) (hs : s'.traffic.calls = s.traffic.calls.set i c')
    (hr : s'.hub.records = s.hub.records)
    (hx : ∀ j, j ≠ i → Table.find? j s'.transits = Table.find? j s.transits)
    (hin : ∀ w a r, c' = .working w a → w.phase.inside = true → s.hub.record? w.place = some r →
      m w.place = w.phase.stands (Table.find? i s'.transits) r.binding)
    (hout : ∀ w a, c = .working w a → w.phase.inside = true →
      ∃ w' a', c' = .working w' a' ∧ w'.place = w.place ∧ w'.phase.inside = true) :
    s'.Standing m := by
  have hrec (p : Nat) : s'.hub.record? p = s.hub.record? p := by simp [Hub.record?, hr]
  refine ⟨fun j w a r hw hi hrw => ?_, fun p r hrp hno => ?_, fun p b hb => ?_⟩
  · rw [hs] at hw
    rw [hrec] at hrw
    rcases Traffic.of_set_call hc hw with ⟨rfl, he⟩ | ⟨hij, hw⟩
    · exact hin w a r he hi hrw
    · rw [hx j (Ne.symm hij)]
      exact hst.inside j w a r hw hi hrw
  · rw [hrec] at hrp
    refine hst.outside p r hrp fun j w a hw hp => Bool.eq_false_iff.2 fun hi => ?_
    by_cases hij : i = j
    · subst hij
      cases hc.symm.trans hw
      obtain ⟨w', a', hw', hp', hi'⟩ := hout w a rfl hi
      have hn := hno i w' a' (by rw [hs, ← hw']; exact Traffic.set_call_self hc c') (hp'.trans hp)
      cases hi'.symm.trans hn
    · have hn := hno j w a (by rw [hs]; exact (List.getElem?_set_ne hij).trans hw) hp
      cases hi.symm.trans hn
  · rw [hrec]
    exact hst.known p b hb

/-! ## What happens on the hub -/

/-- The records stand for no kernels that they did not stand for, and for the same ones of those
that the hosts have. -/
structure Same (s : Hosted) (m : Nat → Option Binding) (s' : Hosted) (m' : Nat → Option Binding) :
    Prop where
  fewer : ∀ p b, m' p = some b → m p = some b
  kept : ∀ p b, m' p = some b ∧ ¬ s'.Gone p ↔ m p = some b ∧ ¬ s.Gone p

theorem same_of_gone (hg : ∀ p, s'.Gone p ↔ s.Gone p) : Same s m s' m :=
  ⟨fun _ _ hb => hb, fun p b => by rw [hg p]⟩

theorem standing_aside {t : Traffic} (hst : s.Standing m) (ha : s.traffic.Alike t) :
    Standing { s with traffic := t } m ∧ Same s m { s with traffic := t } m := by
  obtain ⟨q, hq⟩ := ha.hub
  have hrec (p : Nat) : t.hub.record? p = s.hub.record? p := by rw [hq]; rfl
  have hw {i : Nat} {w : Work} {a : Call.After} :
      t.calls[i]? = some (.working w a) ↔ s.traffic.calls[i]? = some (.working w a) :=
    ha.calls i _ rfl
  refine ⟨⟨fun i w a r hc hi hr => hst.inside i w a r (hw.1 hc) hi ((hrec _).symm.trans hr),
    fun p r hr hno => hst.outside p r ((hrec p).symm.trans hr) fun i w a hc => hno i w a (hw.2 hc),
    fun p b hb => ?_⟩, same_of_gone fun p => ?_⟩
  · obtain ⟨r, hr⟩ := hst.known p b hb
    exact ⟨r, (hrec p).trans hr⟩
  · constructor <;> rintro ⟨i, c, hc, hl⟩ <;> cases c with
    | working w a => first | exact ⟨i, _, hw.1 hc, hl⟩ | exact ⟨i, _, hw.2 hc, hl⟩
    | _ => exact absurd hl not_false

/-- A call comes to be at work outside the guard, or ceases to be. -/
theorem standing_set {i : Nat} {c c' : Call} {h : Hub} (hst : s.Standing m)
    (hc : s.traffic.calls[i]? = some c) (hr : h.records = s.hub.records)
    (hw : ∀ w a, c = .working w a → w.phase.inside = false)
    (hw' : ∀ w a, c' = .working w a → w.phase.inside = false) :
    Standing { s with traffic := ⟨h, s.traffic.calls.set i c'⟩ } m ∧
      Same s m { s with traffic := ⟨h, s.traffic.calls.set i c'⟩ } m := by
  have hnone {d : Call} {x : Option Transit} {p : Nat}
      (hd : ∀ w a, d = .working w a → w.phase.inside = false) : ¬ d.Loses x p := by
    cases d with
    | working w a =>
      rintro ⟨-, hg⟩
      cases (hd w a rfl).symm.trans (Work.inside_of_gone hg)
    | _ => exact not_false
  refine ⟨standing_change hst hc rfl hr (fun _ _ => rfl) (fun w a r he hi => ?_)
    fun w a he hi => ?_, same_of_gone fun p => ?_⟩
  · cases (hw' w a he).symm.trans hi
  · cases (hw w a he).symm.trans hi
  · exact gone_change hc rfl (fun _ _ => rfl) (iff_of_false (hnone hw') (hnone hw))

theorem standing_register {i : Nat} {c : Call} {id : KernelId} {name : String} {o : StartOptions}
    {a : Call.After} (hpl : s.traffic.Placed) (hst : s.Standing m)
    (hc : s.traffic.calls[i]? = some c) (hw : c.light = true) :
    let t : Traffic := ⟨s.hub.enroll id name, s.traffic.calls.set i
      (.working { job := .start o, place := s.hub.records.length } a)⟩
    Standing { s with traffic := t } m ∧ Same s m { s with traffic := t } m := by
  intro t
  have hold {p : Nat} {r : Record} (hr : s.hub.record? p = some r) :
      t.hub.record? p = some r := by
    have hne := Nat.ne_of_lt (Hub.lt_length_of_record? hr)
    exact (Hub.record?_enroll s.hub id name p).trans ((if_neg hne).trans hr)
  have hcall {j : Nat} {v : Work} {b : Call.After} (hv : t.calls[j]? = some (.working v b))
      (hi : v.phase.inside = true) : s.traffic.calls[j]? = some (.working v b) := by
    rcases Traffic.of_set_call hc hv with ⟨-, he⟩ | ⟨-, hv⟩
    · cases he
      cases hi
    · exact hv
  refine ⟨⟨fun j v b r hv hi hr => ?_, fun p r hr hno => ?_, fun p b hb => ?_⟩,
    same_of_gone fun p => ?_⟩
  · have hv := hcall hv hi
    obtain ⟨r₀, hr₀, -⟩ := hpl.working j v b hv
    cases (hold hr₀).symm.trans hr
    exact hst.inside j v b _ hv hi hr₀
  · rcases (Hub.record?_enroll s.hub id name p).symm.trans hr with hr
    split at hr
    · next hp =>
      cases hr
      -- Nothing stands where there was no record.
      cases hm : m p with
      | none => rfl
      | some b =>
        obtain ⟨r, hr⟩ := hst.known p b hm
        exact absurd hp (Nat.ne_of_lt (Hub.lt_length_of_record? hr))
    · refine hst.outside p r hr fun j v b hv hp => ?_
      refine hno j v b ?_ hp
      have hij : i ≠ j := by
        rintro rfl
        cases hc.symm.trans hv
        cases hw
      exact (List.getElem?_set_ne hij).trans hv
  · obtain ⟨r, hr⟩ := hst.known p b hb
    exact ⟨r, hold hr⟩
  · refine gone_change hc rfl (fun _ _ => rfl) (iff_of_false ?_ (Call.not_loses_of_light hw))
    rintro ⟨-, hg⟩
    cases hg

/-- The same with the kernel of one record changed. -/
def restand (m : Nat → Option Binding) (p : Nat) (b : Option Binding) : Nat → Option Binding :=
  fun q => if q = p then b else m q

theorem restand_self (m : Nat → Option Binding) (p : Nat) (b : Option Binding) :
    restand m p b p = b := if_pos rfl

theorem restand_of_ne {p q : Nat} (hq : q ≠ p) (m : Nat → Option Binding) (b : Option Binding) :
    restand m p b q = m q := if_neg hq

theorem restand_eq {p : Nat} {b : Option Binding} (hb : b = m p) : restand m p b = m := by
  funext q
  unfold restand
  split
  · next hq => rw [hq, hb]
  · rfl

/-- What a record stands for when work on it takes a turn. -/
theorem stands_of_turn {i : Nat} {w w' : Work} {a : Call.After} {r : Record} {h' : Hub}
    (hg : s.traffic.Guarded) (hst : s.Standing m) (hx : Table.find? i s.transits = none)
    (hc : s.traffic.calls[i]? = some (.working w a)) (hr : s.hub.record? w.place = some r)
    (ht : w.Turn s.hub r h' w') : m w.place = w.phase.stands none r.binding := by
  cases hi : w.phase.inside with
  | true =>
    have hm := hst.inside i w a r hc hi hr
    rwa [hx] at hm
  | false =>
    rw [Work.stands_outside hi]
    refine hst.outside w.place r hr fun j v b hv hp => Bool.eq_false_iff.2 fun hvi => ?_
    obtain rfl := Traffic.alone_of_turn hg hc hr ht hv hp hvi
    cases hc.symm.trans hv
    cases hi.symm.trans hvi

theorem standing_turn {i : Nat} {w w' : Work} {a : Call.After} {r r' : Record} {h' : Hub}
    (hg : s.traffic.Guarded) (hst : s.Standing m) (hx : Table.find? i s.transits = none)
    (hc : s.traffic.calls[i]? = some (.working w a)) (hr : s.hub.record? w.place = some r)
    (ht : w.Turn s.hub r h' w') (hr' : h'.record? w.place = some r') :
    Standing { s with traffic := ⟨h', s.traffic.calls.set i (.working w' a)⟩ }
      (restand m w.place (w'.phase.stands none r'.binding)) := by
  have hf := Work.frame_turn hr ht
  refine ⟨fun j v b q hv hi hq => ?_, fun p q hq hno => ?_, fun p b hb => ?_⟩
  · rcases Traffic.of_set_call hc hv with ⟨rfl, he⟩ | ⟨hij, hv⟩
    · cases he
      rw [hf.place] at hq
      cases hr'.symm.trans hq
      rw [hf.place, restand_self, show Table.find? i s.transits = none from hx]
    · have hp : v.place ≠ w.place := fun hp => hij (Traffic.alone_of_turn hg hc hr ht hv hp hi)
      rw [restand_of_ne hp]
      exact hst.inside j v b q hv hi ((hf.others _ hp).symm.trans hq)
  · by_cases hp : p = w.place
    · subst hp
      cases hr'.symm.trans hq
      rw [restand_self]
      exact Work.stands_outside
        (hno i w' a (Traffic.set_call_self hc _) hf.place) _
    · rw [restand_of_ne hp]
      refine hst.outside p q ((hf.others p hp).symm.trans hq) fun j v b hv hvp => ?_
      have hij : i ≠ j := by
        rintro rfl
        cases hc.symm.trans hv
        exact hp hvp.symm
      exact hno j v b ((List.getElem?_set_ne hij).trans hv) hvp
  · by_cases hp : p = w.place
    · exact ⟨r', hp ▸ hr'⟩
    · rw [restand_of_ne hp] at hb
      obtain ⟨q, hq⟩ := hst.known p b hb
      exact ⟨q, (hf.others p hp).trans hq⟩

theorem standing_work {i : Nat} {w w' : Work} {a : Call.After} {r : Record} {h' : Hub}
    (hg : s.traffic.Guarded) (hst : s.Standing m) (hx : Table.find? i s.transits = none)
    (hc : s.traffic.calls[i]? = some (.working w a)) (hr : s.hub.record? w.place = some r)
    (ht : w.Turn s.hub r h' w') :
    ∃ m', Standing { s with traffic := ⟨h', s.traffic.calls.set i (.working w' a)⟩ } m' ∧
      Same s m { s with traffic := ⟨h', s.traffic.calls.set i (.working w' a)⟩ } m' := by
  have hf := Work.frame_turn hr ht
  obtain ⟨r', hr', -⟩ := hf.record
  have hb := Work.binding_turn hr ht hr'
  refine ⟨_, standing_turn hg hst hx hc hr ht hr', ?_⟩
  have hgone {p : Nat} (hl : w.place = p → (w'.phase.gone none = w.phase.gone none)) :
      Gone { s with traffic := ⟨h', s.traffic.calls.set i (.working w' a)⟩ } p ↔ s.Gone p := by
    refine gone_change hc rfl (fun _ _ => rfl) ?_
    simp only [Call.Loses, hx, hf.place]
    exact and_congr_right fun hp => by rw [hl hp]
  by_cases hn : w.phase = .unbinding
  · -- The binding is cleared; the kernel was gone before.
    have hnone : w'.phase.stands none r'.binding = none := by
      rw [hb, hn]
      cases ht with
      | unbind => rfl
      | take hp | enter hp | map hp | bind hp | unmap hp | settle hp | release hp =>
        cases hp.symm.trans hn
    rw [hnone]
    refine ⟨fun p b hm => ?_, fun p b => ?_⟩
    · unfold restand at hm
      split at hm
      · cases hm
      · exact hm
    · by_cases hp : p = w.place
      · subst hp
        refine iff_of_false (fun hx => ?_) fun hx => hx.2 ⟨i, _, hc, rfl, by rw [hn]; rfl⟩
        have hm := hx.1
        rw [restand_self] at hm
        cases hm
      · rw [restand_of_ne hp, hgone fun hw => absurd hw.symm hp]
  · obtain ⟨h1, h2⟩ := Work.stands_turn ht hn r.binding
    rw [hb, h1, restand_eq (stands_of_turn hg hst hx hc hr ht).symm]
    exact same_of_gone fun p => hgone fun _ => h2

/-- What happens on the hub leaves the records standing for what they stood for, but for a
kernel that is gone. -/
theorem standing_own {e : Traffic.Event} {t : Traffic} (hr : s.traffic.Reachable)
    (hca : s.Carried) (hst : s.Standing m) (ht : s.traffic.next? e = some t)
    (he : ∀ i a, e ≠ .answer i a) :
    ∃ m', Standing { s with traffic := t } m' ∧ Same s m { s with traffic := t } m' := by
  have hpl := Traffic.placed_of_reachable hr
  cases Traffic.shift_of_reachable hr ht with
  | aside ha => exact ⟨m, standing_aside hst ha⟩
  | register hc => exact ⟨m, standing_register hpl hst hc rfl⟩
  | seek hc =>
    exact ⟨m, standing_set hst hc rfl (fun w a he => by cases he) fun w a he => by cases he; rfl⟩
  | @work i w a r h' w' hc hrec htu =>
    have hx : Table.find? i s.transits = none := by
      cases hx : Table.find? i s.transits with
      | none => rfl
      | some x =>
        obtain ⟨side, q, hq, -⟩ := hca i x hx
        simp only [asked?, hc, Option.bind_some, Call.request?, Work.request?_of_turn htu] at hq
        cases hq
    exact standing_work (Traffic.guarded_of_reachable hr) hst hx hc hrec htu
  | @heard i w a r p b => exact absurd rfl (he i b)
  | @follow i w a res hc hph =>
    refine ⟨m, standing_set hst hc rfl (fun v b hv => ?_) fun v b hv => ?_⟩
    · cases hv
      rw [hph]
      rfl
    · cases a <;> cases res <;> cases hv
  | drop hc | retire hc | leave hc =>
    exact ⟨m, standing_set hst hc rfl (fun w a he => by cases he) fun w a he => by cases he⟩

end Hosted

end KernelHub
