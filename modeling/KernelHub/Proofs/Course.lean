import KernelHub.Proofs.Course.Steady

/-
The course of a record's life. Whatever callers do, and whatever hosts answer as long as they
answer, the states of a record are a path of the diagram, and what it is bound to is one
kernel of one host, from its start to its shutdown.
-/

namespace KernelHub.Traffic

variable {t t' : Traffic} {ts : List Traffic} {p : Nat}

/-- The traffic before the first deed, and after each. -/
def history? : Traffic → List Deed → Option (List Traffic)
  | t, [] => some [t]
  | t, x :: xs => (t.deed? x).bind fun t' => (history? t' xs).map (t :: ·)

/-- The record at a place, one moment after the other, since there is one. -/
def records (p : Nat) (ts : List Traffic) : List Record := ts.filterMap (·.hub.record? p)

/-! ## One deed -/

/-- A call ends a job well: the start that binds the record at a place, or the shutdown that
clears its binding. -/
inductive Rebinds (t t' : Traffic) (p : Nat) (r r' : Record) : Prop
  | started {i : Nat} {w : Work} {a : Call.After}
    (hc : t.calls[i]? = some (Call.working w a)) (hp : w.place = p) (hj : w.job.Starts)
    (hb : r.binding = none) (hb' : r'.Bound)
    (hc' : t'.calls[i]? =
      some (Call.working { w with phase := .settling .running (.ok (.started r.id)) } a))
  | stopped {i : Nat} {w : Work} {a : Call.After} {now : Bool}
    (hc : t.calls[i]? = some (Call.working w a)) (hp : w.place = p) (hj : w.job = .shutdown now)
    (hb : r.Bound) (hb' : r'.binding = none)
    (hc' : t'.calls[i]? = some (Call.working { w with phase := .settling .dead (.ok .done) } a))

/-- What becomes of the record at a place in one deed. -/
structure Follows (p : Nat) (t t' : Traffic) : Prop where
  kept : ∀ r, t.hub.record? p = some r → ∃ r', t'.hub.record? p = some r' ∧ r.Passes t.hub r' ∧
    (r'.binding ≠ r.binding → Rebinds t t' p r r')
  new : ∀ r, t.hub.record? p = none → t'.hub.record? p = some r →
    r.state = .unborn ∧ r.binding = none ∧ r.guarded = false

theorem follows_same (h : t'.hub.record? p = t.hub.record? p) : Follows p t t' := by
  refine ⟨fun r hr => ⟨r, h.trans hr, Record.passes_refl _ r, fun hne => absurd rfl hne⟩,
    fun r hn hr => ?_⟩
  cases hn.symm.trans (h.symm.trans hr)

theorem follows_turn {i : Nat} {w w' : Work} {a : Call.After} {r : Record} {h' : Hub}
    (hs : t.Steady) (hc : t.calls[i]? = some (.working w a))
    (hr : t.hub.record? w.place = some r) (ht : w.Turn t.hub r h' w') :
    Follows p t ⟨h', t.calls.set i (.working w' a)⟩ := by
  have hf := Work.frame_turn hr ht
  obtain ⟨r', hr', hst⟩ := Work.stride_turn hr ht
  obtain ⟨hm, hw⟩ := meets_before hs hc hr ht
  have hcall {q : Work.Phase} (hq : w'.phase = q) :
      (t.calls.set i (.working w' a))[i]? = some (.working { w with phase := q } a) := by
    rw [set_call_self hc, ← hq, ← hf.job, ← hf.place]
  by_cases hp : p = w.place
  · subst hp
    refine ⟨fun r₀ hr₀ => ?_, fun r₀ hn => nomatch hn.symm.trans hr⟩
    cases hr.symm.trans hr₀
    refine ⟨r', hr', (Work.meets_stride hst hm hw).2, fun hne => ?_⟩
    rcases Work.rebound_stride hst hm hne with ⟨hj, hb, hb', hq⟩ | ⟨⟨now, hj⟩, hb, hb', hq⟩
    · exact .started hc rfl hj hb hb' (hcall hq)
    · exact .stopped hc rfl hj hb hb' (hcall hq)
  · exact follows_same (hf.others p hp)

theorem follows_stir (hs : t.Steady) (hst : t.Stir t') : Follows p t t' := by
  cases hst with
  | aside hg =>
    exact ⟨fun r hr => ⟨r, hg.kept p r hr, Record.passes_refl _ r, fun hne => absurd rfl hne⟩,
      hg.new p⟩
  | turn hc hr ht => exact follows_turn hs hc hr ht
  | heard => exact follows_same rfl

/-! ## A whole life -/

/-- From a steady traffic on, every moment is steady, and each deed has its effect. -/
theorem follows_history {xs : List Deed} (hs : t.Steady) (hh : history? t xs = some ts) :
    (∃ us, ts = t :: us) ∧ (∀ u ∈ ts, u.Steady) ∧ ts.IsChain (Follows p) := by
  induction xs generalizing t ts with
  | nil =>
    cases hh
    refine ⟨⟨[], rfl⟩, fun u hu => ?_, List.isChain_singleton t⟩
    rw [List.mem_singleton.1 hu]
    exact hs
  | cons x xs ih =>
    obtain ⟨t', hd, hm⟩ := Option.bind_eq_some_iff.1 hh
    obtain ⟨us, hu, rfl⟩ := Option.map_eq_some_iff.1 hm
    have hst := stir_of_deed? hd
    obtain ⟨⟨vs, rfl⟩, hall, hc⟩ := ih (steady_stir hs hst) hu
    refine ⟨⟨_, rfl⟩, fun u hu => ?_, List.isChain_cons_cons.2 ⟨follows_stir hs hst, hc⟩⟩
    rcases List.mem_cons.1 hu with rfl | hu
    · exact hs
    · exact hall u hu

/-- The record at a place begins fresh, or as it was, and goes on from moment to moment. -/
theorem succeeds_records {us : List Traffic} (hc : (t :: us).IsChain (Follows p)) :
    (records p (t :: us)).IsChain Record.Succeeds ∧
      ∀ r, (records p (t :: us)).head? = some r → t.hub.record? p = some r ∨
        r.state = .unborn ∧ r.binding = none := by
  induction us generalizing t with
  | nil =>
    cases hr : t.hub.record? p with
    | none => simp [records, hr]
    | some r => simp [records, hr]
  | cons u us ih =>
    obtain ⟨hf, hc⟩ := List.isChain_cons_cons.1 hc
    obtain ⟨hch, hhd⟩ := ih hc
    cases hr : t.hub.record? p with
    | none =>
      have he : records p (t :: u :: us) = records p (u :: us) := by
        exact List.filterMap_cons_none (f := fun u : Traffic => u.hub.record? p) hr
      rw [he]
      refine ⟨hch, fun r hhr => .inr ?_⟩
      rcases hhd r hhr with hu | hfresh
      · obtain ⟨h1, h2, -⟩ := hf.new r hr hu
        exact ⟨h1, h2⟩
      · exact hfresh
    | some r =>
      obtain ⟨r', hr', hp, -⟩ := hf.kept r hr
      have he : records p (u :: us) = r' :: records p us :=
        List.filterMap_cons_some (f := fun u : Traffic => u.hub.record? p) hr'
      have he' : records p (t :: u :: us) = r :: records p (u :: us) :=
        List.filterMap_cons_some (f := fun u : Traffic => u.hub.record? p) hr
      rw [he', he]
      rw [he] at hch
      exact ⟨List.isChain_cons_cons.2 ⟨⟨_, hp⟩, hch⟩, fun r₀ hhr => .inl hhr⟩

/-- The course of the life of the record at a place. -/
structure Course (p : Nat) (ts : List Traffic) : Prop where
  /-- Each deed leaves the record as it is, or does one of a few things to it. -/
  follows : ts.IsChain (Follows p)
  /-- The states are a path of the diagram. -/
  path : ((records p ts).map (·.state)).IsChain fun s s' => s = s' ∨ s.Leads s'
  born : ∀ r, (records p ts).head? = some r → r.state = .unborn
  /-- What is dead stays dead. -/
  dead : ((records p ts).map (·.state)).Pairwise fun s s' => s = .dead → s' = .dead
  /-- Passing states are seen only while an operation holds the guard. -/
  attended : ∀ t ∈ ts, ∀ r, t.hub.record? p = some r → r.state.passing = true →
    r.guarded = true ∧ t.Attended p
  /-- The binding is written once at most and cleared once at most, and does not change while
  it is there. -/
  bound : ∃ b k l m, (records p ts).map (·.binding) =
    List.replicate k none ++ List.replicate l (some b) ++ List.replicate m none

theorem dead_pairwise {ss : List KernelState}
    (hc : ss.IsChain fun s s' => s = s' ∨ s.Leads s') :
    ss.Pairwise fun s s' => s = .dead → s' = .dead := by
  let stays (s s' : KernelState) : Prop := s = .dead → s' = .dead
  have : Trans stays stays stays := ⟨fun h1 h2 hs => h2 (h1 hs)⟩
  refine List.IsChain.pairwise (R := stays) (hc.imp fun s s' hs hd => ?_)
  rcases hs with rfl | hl
  · exact hd
  · subst hd
    cases hl

theorem attended_of_passing {r : Record} (hs : t.Steady) (hr : t.hub.record? p = some r)
    (hp : r.state.passing = true) : r.guarded = true ∧ t.Attended p := by
  by_cases hat : t.Attended p
  · obtain ⟨i, w, a, hc, rfl, hi⟩ := hat
    exact ⟨hs.guarded i w a r hc hi hr, i, w, a, hc, rfl, hi⟩
  · cases ((hs.rests p r hr hat).not_passing).symm.trans hp

/-- Whatever is done to an unused hub, each record goes through a life of the diagram. -/
theorem course_of_history {h : Hub} {xs : List Deed} (hu : h.Unused)
    (hh : history? ⟨h, []⟩ xs = some ts) (p : Nat) : Course p ts := by
  have hs := steady_unused hu
  obtain ⟨⟨us, rfl⟩, hall, hc⟩ := follows_history (p := p) hs hh
  obtain ⟨hch, hhd⟩ := succeeds_records hc
  have hfresh (r : Record) (hr : (records p (⟨h, []⟩ :: us)).head? = some r) :
      r.state = .unborn ∧ r.binding = none := by
    rcases hhd r hr with hr | hr
    · simp [Hub.record?, hu.records] at hr
    · exact hr
  have hpath : ((records p (⟨h, []⟩ :: us)).map (·.state)).IsChain
      fun s s' => s = s' ∨ s.Leads s' := by
    refine (List.isChain_map _).2 (hch.imp ?_)
    rintro r r' ⟨h, hp⟩
    exact hp.leads
  refine ⟨hc, hpath, fun r hr => (hfresh r hr).1, dead_pairwise hpath,
    fun t ht r hr hp => attended_of_passing (hall t ht) hr hp, ?_⟩
  cases hrs : records p (⟨h, []⟩ :: us) with
  | nil => exact ⟨default, 0, 0, 0, rfl⟩
  | cons r rs =>
    rw [hrs] at hch
    exact Record.bindings_once hch (hfresh r (by rw [hrs]; rfl)).2

/-- A kernel that is interrupted, does not survive its restart, and is shut down then. -/
def wholeLife : List Deed :=
  [.adopt .zero "python3", .command (.record 0 (.start {})), .event (.step 0), .event (.step 0),
    .event (.step 0), .event (.answer 0 (.started "k")), .event (.step 0), .event (.step 0),
    .event (.step 0), .event (.step 0), .command (.record 0 .interrupt), .event (.step 1),
    .event (.step 1), .event (.step 1), .event (.answer 1 (.refused (.failed "busy"))),
    .event (.step 1), .event (.step 1), .event (.shared { remote := ["python3"] }),
    .command (.record 0 (.restart true)), .event (.step 2), .event (.step 2), .event (.step 2),
    .event (.answer 2 (.refused (.failed "crashed"))),
    .event (.answer 2 (.refused (.notFound "kernel k"))), .event (.step 2), .event (.step 2),
    .command (.record 0 (.shutdown false)), .event (.step 3), .event (.step 3), .event (.step 3),
    .event (.answer 3 (.refused (.notFound "kernel k"))), .event (.step 3), .event (.step 3),
    .event (.step 3), .event (.step 3)]

/-- A life that sees every state there is; a merge that routes the type elsewhere does not move
the kernel. -/
theorem course_wholeLife : ∃ ts, history? ⟨pythonHub, []⟩ wholeLife = some ts ∧ Course 0 ts ∧
    (∀ s ∈ KernelState.all, ∃ r ∈ records 0 ts, r.state = s) ∧
    (records 0 ts).map (·.binding) =
      List.replicate 7 none ++ List.replicate 25 (some ⟨.home, "k"⟩) ++ List.replicate 3 none := by
  have key {ts : List Traffic} (hh : history? ⟨pythonHub, []⟩ wholeLife = some ts)
      (hs : (KernelState.all.all fun s => (records 0 ts).any (·.state = s)) = true)
      (hb : (records 0 ts).map (·.binding) =
        List.replicate 7 none ++ List.replicate 25 (some ⟨.home, "k"⟩) ++
          List.replicate 3 none) :
      history? ⟨pythonHub, []⟩ wholeLife = some ts ∧ Course 0 ts ∧
        (∀ s ∈ KernelState.all, ∃ r ∈ records 0 ts, r.state = s) ∧
        (records 0 ts).map (·.binding) =
          List.replicate 7 none ++ List.replicate 25 (some ⟨.home, "k"⟩) ++
            List.replicate 3 none := by
    refine ⟨hh, course_of_history pythonHub_unused hh 0, fun s hm => ?_, hb⟩
    simpa using List.all_eq_true.1 hs s hm
  exact ⟨_, key rfl rfl rfl⟩

end KernelHub.Traffic
