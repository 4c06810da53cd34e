import KernelHub.Proofs.Site.Agreement
import KernelHub.Proofs.Site.Progress
import Mathlib.Data.List.Forall2

/-
The remote host has no influence at home. A site can be run with any remote host, and all its
runs agree in what concerns the types offered at home and the kernels started from them.
-/

namespace KernelHub

namespace Site

open Memory (Host)

variable {gr : Ground} {merged : Bool} {ids used₁ used₂ used : List KernelId} {l₁ l₂ l : Ledger}
  {m₁ m₂ : Moment} {s s' : Site} {as : List Action}

/-! ## One action in both runs -/

theorem Kin.agree (hk : Kin gr ids used₁ used₂ merged m₁.after m₂.after l₁ l₂)
    (hr : ∀ c, m₁.action = .ask c → ∃ c' es₁ es₂ r₁ r₂, m₁.served = [⟨c, es₁, r₁⟩] ∧
      m₂.served = [⟨c', es₂, r₂⟩] ∧ Alike gr ids m₁.after.hub m₂.after.hub c r₁ r₂) :
    Agree gr ids m₁ m₂ := by
  have ha₁ := Ledger.agrees_of_mirrors hk.left.mirrors
  have ha₂ := Ledger.agrees_of_mirrors hk.right.mirrors
  refine ⟨hk.home, fun id hi => ?_, fun id hi => ?_, hr⟩
  · rw [ha₁.state, ha₂.state, (hk.same id hi).1]
  · rw [ha₁.side, ha₂.side, (hk.same id hi).1]

/-- The kernels at home that are registered are the same, in whatever order. -/
theorem Kin.perm (hk : Kin gr ids used₁ used₂ merged s s' l₁ l₂) {xs ys : List KernelId}
    (hx : xs.Perm s.hub.kernelIds) (hy : ys.Perm s'.hub.kernelIds) :
    (xs.filter (· ∈ ids)).Perm (ys.filter (· ∈ ids)) := by
  have ha₁ := Ledger.agrees_of_mirrors hk.left.mirrors
  have ha₂ := Ledger.agrees_of_mirrors hk.right.mirrors
  refine (List.perm_ext_iff_of_nodup ((hx.nodup_iff.2 ha₁.nodup).filter _)
    ((hy.nodup_iff.2 ha₂.nodup).filter _)).2 fun id => ?_
  simp only [List.mem_filter, decide_eq_true_eq]
  refine and_congr_left fun hi => ?_
  rw [hx.mem_iff, hy.mem_iff, ha₁.ids, ha₂.ids, Table.contains, Table.contains, (hk.same id hi).1]

theorem Kin.shutDownAll {now : Bool} {g₁ g₂ g₁' g₂' : Host} {h₁ h₂ h₁' h₂' : Hub}
    {xs ys : List KernelId} {ss ts : List Served}
    (hk : Kin gr ids used₁ used₂ merged ⟨h₁, g₁⟩ ⟨h₂, g₂⟩ l₁ l₂)
    (hx : xs.Perm h₁.kernelIds) (hy : ys.Perm h₂.kernelIds)
    (h1 : h₁.Serves ss h₁') (h2 : h₂.Serves ts h₂')
    (hc₁ : ss.map (·.command) = xs.map fun id => .kernel id (.shutdown now))
    (hc₂ : ts.map (·.command) = ys.map fun id => .kernel id (.shutdown now))
    (ht₁ : Told g₁ (ss.flatMap (·.exchanges)) g₁') (ht₂ : Told g₂ (ts.flatMap (·.exchanges)) g₂')
    (hc : h₁'.config = h₂'.config) :
    ∃ l₁' l₂', Kin gr ids used₁ used₂ merged ⟨h₁', g₁'⟩ ⟨h₂', g₂'⟩ l₁' l₂' := by
  have all {h : Hub} {l : Ledger} {xs : List KernelId} (hm : Ledger.Mirrors h l)
      (hx : xs.Perm h.kernelIds) : xs.Nodup ∧ ∀ id ∈ xs, Table.contains id l.live = true := by
    have ha := Ledger.agrees_of_mirrors hm
    exact ⟨hx.nodup_iff.2 ha.nodup, fun id hi => (ha.ids id).1 (hx.mem_iff.1 hi)⟩
  obtain ⟨hn₁, hlive₁⟩ := all hk.left.mirrors hx
  obtain ⟨hn₂, hlive₂⟩ := all hk.right.mirrors hy
  obtain ⟨l₁', hs₁, hlike₁, hshut₁⟩ := hk.left.shutDowns h1 hc₁ ht₁ hn₁ hlive₁
  obtain ⟨l₂', hs₂, hlike₂, hshut₂⟩ := hk.right.shutDowns h2 hc₂ ht₂ hn₂ hlive₂
  have hp := hk.perm hx hy
  have hlike : g₁.Like g₂ := hk.home
  have hw : g₁.willing = g₂.willing := by
    simp only [Host.willing, hlike.available, hlike.failing]
  refine ⟨l₁', l₂', hs₁, hs₂, ?_, hc, fun id hi => ?_⟩
  · exact hlike₁.trans ((hlike.stops _).trans
      ((Host.stops_perm (hp.map toString) g₂).trans hlike₂.symm))
  · have hmem : id ∈ xs ↔ id ∈ ys := by
      have := hp.mem_iff (a := id)
      simpa [hi] using this
    obtain ⟨hf₁, hr₁⟩ := hshut₁ id hi
    obtain ⟨hf₂, hr₂⟩ := hshut₂ id hi
    refine ⟨?_, ?_⟩
    · rw [hf₁, hf₂, hw, (hk.same id hi).1]
      simp only [hmem]
    · rw [hr₁, hr₂, hw, (hk.same id hi).2, hmem]

/-! ## What an action comes to -/

theorem Moment.Possible.of_ask {m : Moment} {c : Command} (hp : m.Possible)
    (ha : m.action = .ask c) : ∃ es r, m.served = [⟨c, es, r⟩] ∧ c.offered = true ∧
      (Call.asked c).Leads m.before.hub es m.after.hub (.ended r) ∧
      Told m.before.home es m.after.home := by
  obtain ⟨hg, hv, ht⟩ := hp
  rw [ha] at hg ht
  generalize hcs : m.served.map (·.command) = cs at hg
  cases hg
  obtain ⟨⟨c', es, r⟩, hs, hc⟩ := List.map_eq_singleton_iff.1 hcs
  cases hc
  rw [hs] at hv ht
  cases hv with
  | cons ho hl hn =>
    generalize m.after.hub = h at hn
    cases hn
    simp only [List.flatMap_cons, List.flatMap_nil, List.append_nil] at ht
    exact ⟨es, r, hs, ho, hl, ht⟩

/-- Nobody is asked when something happens to the host at home. -/
theorem Moment.Possible.of_outside {m : Moment} (hp : m.Possible)
    (ha : (∃ c, m.action = .control c) ∨ ∃ d, m.action = .kill d) :
    m.after = ⟨m.before.hub, m.action.meddle m.before.home⟩ := by
  obtain ⟨hg, hv, ht⟩ := hp
  have hn : m.served = [] := by
    generalize hcs : m.served.map (·.command) = cs at hg
    rcases ha with ⟨c, ha⟩ | ⟨d, ha⟩ <;> rw [ha] at hg <;> cases hg <;>
      exact List.map_eq_nil_iff.1 hcs
  obtain ⟨⟨h, g⟩, a, ss, ⟨h', g'⟩⟩ := m
  subst hn
  generalize he : Action.meddle a g = g₀ at ht
  cases hv
  cases ht
  rfl

theorem config_serves {h h' : Hub} {ss : List Served} (hs : h.Serves ss h') :
    h'.config = h.config := by
  induction hs with
  | nil => rfl
  | cons _ hl _ ih => exact ih.trans (Call.config_leads hl)

theorem Action.Same.eq_of_not_ask {a b : Action} (hs : Action.Same a b)
    (ha : ∀ c, a ≠ .ask c) : b = a := by
  cases hs with
  | same => rfl
  | start => exact absurd rfl (ha _)

theorem Kin.outside (hk : Kin gr ids used₁ used₂ merged m₁.before m₂.before l₁ l₂)
    (hs : m₂.action = m₁.action) (hf : m₁.action.allowed = true)
    (ha : (∃ c, m₁.action = .control c) ∨ ∃ d, m₁.action = .kill d)
    (hp₁ : m₁.Possible) (hp₂ : m₂.Possible) :
    Kin gr ids used₁ used₂ merged m₁.after m₂.after l₁ l₂ := by
  rw [hp₁.of_outside ha, hp₂.of_outside (hs ▸ ha), hs]
  refine ⟨hk.left.meddle hf, hk.right.meddle hf, ?_, hk.config, hk.same⟩
  rcases ha with ⟨c, ha⟩ | ⟨d, ha⟩ <;> rw [ha]
  · exact hk.home.apply c
  · exact hk.home.kill d

theorem Kin.moment (hk : Kin gr ids used₁ used₂ merged m₁.before m₂.before l₁ l₂)
    (hs : Action.Same m₁.action m₂.action) (hf₁ : m₁.action.Fair gr ids used₁)
    (hf₂ : m₂.action.Fair gr ids used₂) (hp₁ : m₁.Possible) (hp₂ : m₂.Possible) :
    ∃ merged l₁' l₂', Kin gr ids (m₁.action.id?.toList ++ used₁) (m₂.action.id?.toList ++ used₂)
      merged m₁.after m₂.after l₁' l₂' ∧ Agree gr ids m₁ m₂ := by
  have outside (ha : (∃ c, m₁.action = .control c) ∨ ∃ d, m₁.action = .kill d) :
      ∃ merged l₁' l₂', Kin gr ids (m₁.action.id?.toList ++ used₁)
        (m₂.action.id?.toList ++ used₂) merged m₁.after m₂.after l₁' l₂' ∧ Agree gr ids m₁ m₂ := by
    have hno : ∀ c, m₁.action ≠ .ask c := by
      intro c hc
      rcases ha with ⟨_, ha⟩ | ⟨_, ha⟩ <;> cases hc.symm.trans ha
    have hid : m₁.action.id? = none := by
      rcases ha with ⟨_, ha⟩ | ⟨_, ha⟩ <;> rw [ha] <;> rfl
    have heq := hs.eq_of_not_ask hno
    have hk' := hk.outside heq hf₁.allowed ha hp₁ hp₂
    rw [heq, hid]
    exact ⟨merged, l₁, l₂, hk', hk'.agree fun c hc => absurd hc (hno c)⟩
  cases ha₁ : m₁.action with
  | control c => exact ha₁ ▸ outside (.inl ⟨c, ha₁⟩)
  | kill d => exact ha₁ ▸ outside (.inr ⟨d, ha₁⟩)
  | ask c =>
    obtain ⟨c', ha₂⟩ : ∃ c', m₂.action = .ask c' := by
      rw [ha₁] at hs
      generalize m₂.action = a at hs
      cases hs with
      | same => exact ⟨_, rfl⟩
      | start => exact ⟨_, rfl⟩
    obtain ⟨es₁, r₁, hs₁, ho, hl₁, ht₁⟩ := hp₁.of_ask ha₁
    obtain ⟨es₂, r₂, hs₂, -, hl₂, ht₂⟩ := hp₂.of_ask ha₂
    rw [ha₁, ha₂] at hs
    rw [ha₁] at hf₁
    rw [ha₂] at hf₂ ⊢
    obtain ⟨l₁', l₂', hk', hr⟩ := hk.ask hs hf₁ hf₂ hl₁ hl₂ ht₁ ht₂
    refine ⟨_, l₁', l₂', hk', hk'.agree fun d hd => ?_⟩
    cases ha₁.symm.trans hd
    exact ⟨c', es₁, es₂, r₁, r₂, hs₁, hs₂, hr⟩
  | shutDownAll now =>
    have hno : ∀ c, m₁.action ≠ .ask c := fun c hc => nomatch ha₁.symm.trans hc
    have ha₂ := (hs.eq_of_not_ask hno).trans ha₁
    obtain ⟨hg₁, hv₁, ht₁⟩ := hp₁
    obtain ⟨hg₂, hv₂, ht₂⟩ := hp₂
    rw [ha₁] at hg₁ ht₁
    rw [ha₂] at hg₂ ht₂ ⊢
    generalize hcs₁ : m₁.served.map (·.command) = cs₁ at hg₁
    generalize hcs₂ : m₂.served.map (·.command) = cs₂ at hg₂
    cases hg₁ with
    | shutDownAll hx =>
      cases hg₂ with
      | shutDownAll hy =>
        have hc : m₁.after.hub.config = m₂.after.hub.config :=
          (config_serves hv₁).trans (hk.config.trans (config_serves hv₂).symm)
        obtain ⟨l₁', l₂', hk'⟩ := hk.shutDownAll hx hy hv₁ hv₂ hcs₁ hcs₂ ht₁ ht₂ hc
        exact ⟨merged, l₁', l₂', hk', hk'.agree fun c hc => absurd hc (hno c)⟩

/-! ## Whole runs -/

/-- Actions that callers may take one after the other. -/
def Fairs (gr : Ground) (ids : List KernelId) : List KernelId → List Action → Prop
  | _, [] => True
  | used, a :: as => a.Fair gr ids used ∧ Fairs gr ids (a.id?.toList ++ used) as

theorem Action.mem_locals {a : Action} {id : KernelId} (ha : a ∈ as) (hl : a.isLocal gr = true)
    (hi : a.id? = some id) : id ∈ Action.locals gr as :=
  List.mem_filterMap.2 ⟨a, List.mem_filter.2 ⟨ha, hl⟩, hi⟩

theorem Action.isLocal_same {a b : Action} (hs : Action.Same a b) :
    b.isLocal gr = a.isLocal gr := by
  cases hs <;> rfl

theorem Action.id?_same {a b : Action} (hs : Action.Same a b) (ha : a.supplied?.isSome = true) :
    b.id? = a.id? := by
  cases hs with
  | same => rfl
  | @start asked o fresh fresh' =>
    obtain ⟨id, hi⟩ := Option.isSome_iff_exists.1 ha
    have ho : o.id = some id := hi
    simp [Action.id?, ho]

/-- What is proper as a whole is fair at each step. -/
theorem Action.Proper.fairs {pre : List Action} (hp : Action.Proper gr (pre ++ as))
    (hu : ∀ id ∈ used, ∃ a ∈ pre, a.id? = some id) :
    Fairs gr (Action.locals gr (pre ++ as)) used as := by
  induction as generalizing pre used with
  | nil => trivial
  | cons a as ih =>
    have hmem : a ∈ pre ++ a :: as := by simp
    obtain ⟨hpre, hsuf, hcross⟩ := List.pairwise_append.1 hp.apart
    refine ⟨⟨hp.allowed a hmem, fun hl => ⟨hp.supplied a hmem hl, fun id hi => ?_⟩,
      fun hl id hi => ?_⟩, ?_⟩
    · refine ⟨Action.mem_locals hmem hl hi, fun hin => ?_⟩
      obtain ⟨b, hb, hbi⟩ := hu id hin
      exact hcross b hb a List.mem_cons_self (by simp [hl]) (by simp [hbi]) (hbi.trans hi.symm)
    · intro hin
      obtain ⟨b, hb, hbi⟩ := List.mem_filterMap.1 hin
      obtain ⟨hb, hbl⟩ := List.mem_filter.1 hb
      rcases List.mem_append.1 hb with hb | hb
      · exact hcross b hb a List.mem_cons_self (by simp [hbl]) (by simp [hbi]) (hbi.trans hi.symm)
      · rcases List.mem_cons.1 hb with rfl | hb
        · cases hl.symm.trans hbl
        · exact (List.pairwise_cons.1 hsuf).1 b hb (by simp [hbl]) (by simp [hi])
            (hi.trans hbi.symm)
    · have hsplit : pre ++ a :: as = (pre ++ [a]) ++ as := by simp
      rw [hsplit] at hp ⊢
      refine ih hp fun id hi => ?_
      rcases List.mem_append.1 hi with hi | hi
      · exact ⟨a, by simp, by simpa using hi⟩
      · obtain ⟨b, hb, hbi⟩ := hu id hi
        exact ⟨b, by simp [hb], hbi⟩

theorem Action.locals_same {bs : List Action} (hs : List.Forall₂ Action.Same as bs)
    (hp : ∀ a ∈ as, a.isLocal gr = true → a.supplied?.isSome = true) :
    Action.locals gr bs = Action.locals gr as := by
  induction hs with
  | nil => rfl
  | @cons a b as bs hab _ ih =>
    have ih := ih fun x hx => hp x (List.mem_cons_of_mem _ hx)
    simp only [Action.locals, List.filter_cons, Action.isLocal_same hab] at ih ⊢
    cases hl : a.isLocal gr with
    | false => exact ih
    | true =>
      simp only [if_true, List.filterMap_cons, Action.id?_same hab (hp a List.mem_cons_self hl), ih]

theorem Kin.runs {ms₁ ms₂ : List Moment} {s₁ s₂ s₁' s₂' : Site}
    (hk : Kin gr ids used₁ used₂ merged s₁ s₂ l₁ l₂) (hr₁ : Runs s₁ ms₁ s₁')
    (hr₂ : Runs s₂ ms₂ s₂')
    (hs : List.Forall₂ Action.Same (ms₁.map (·.action)) (ms₂.map (·.action)))
    (hf₁ : Fairs gr ids used₁ (ms₁.map (·.action)))
    (hf₂ : Fairs gr ids used₂ (ms₂.map (·.action))) : List.Forall₂ (Agree gr ids) ms₁ ms₂ := by
  induction hr₁ generalizing s₂ ms₂ used₁ used₂ merged l₁ l₂ with
  | nil =>
    cases hr₂ with
    | nil => exact .nil
    | cons => cases hs
  | @cons m₁ ms₁ s₁' hp₁ _ ih =>
    cases hr₂ with
    | nil => cases hs
    | @cons m₂ ms₂ _ hp₂ hr₂ =>
      obtain ⟨hsame, hs⟩ := List.forall₂_cons.1 hs
      obtain ⟨merged', l₁', l₂', hk', ha⟩ := hk.moment hsame hf₁.1 hf₂.1 hp₁ hp₂
      exact .cons ha (ih hk' hr₂ hs hf₁.2 hf₂.2)

theorem settled_new (c : Config) (env : Environment) (r : Bool) {g : Host} (hg : g.live = [])
    (ids : List KernelId) :
    Settled (Ground.of c env g) ids [] false (new c env r g) {} where
  knows := ⟨rfl, fun _ => rfl, nofun, fun _ _ => rfl⟩
  mirrors := Ledger.mirrors_unused ⟨rfl, rfl, rfl, rfl⟩
  specs := rfl
  bound _ _ he := nomatch he
  issued id hi := by rcases hi with hi | hi <;> cases hi
  live d hd := by
    rw [show (new c env r g).home.live = [] from hg] at hd
    cases hd

/-- The remote host has no influence on what concerns the types offered at home and the kernels
started from them: whatever it answers, and also when there is none, all runs agree in it. -/
theorem indifferent_of_proper {c : Config} {env : Environment} {g : Host}
    {as₁ as₂ : List Action} (hg : g.live = []) (hs : List.Forall₂ Action.Same as₁ as₂)
    (hp₁ : Action.Proper (Ground.of c env g) as₁) (hp₂ : Action.Proper (Ground.of c env g) as₂) :
    (∀ (b : Bool) (remote : Remote), remote.Fitting → ∀ as ∈ [as₁, as₂], ∃ ms s',
      Runs (new c env b g) ms s' ∧ ms.map (·.action) = as ∧ remote.Heard [] (exchanges ms)) ∧
    ∀ b₁ b₂ ms₁ ms₂ s₁ s₂, Runs (new c env b₁ g) ms₁ s₁ → Runs (new c env b₂ g) ms₂ s₂ →
      ms₁.map (·.action) = as₁ → ms₂.map (·.action) = as₂ →
      List.Forall₂ (Agree (Ground.of c env g) (Action.locals (Ground.of c env g) as₁)) ms₁ ms₂ := by
  refine ⟨fun b remote hr as has => ?_, ?_⟩
  · have hal : ∀ a ∈ as, a.allowed = true := by
      rcases List.mem_cons.1 has with rfl | has
      · exact hp₁.allowed
      · rw [List.mem_singleton.1 has]
        exact hp₂.allowed
    exact exists_runs hr (settled_new c env b hg []).mirrors hal []
  · rintro b₁ b₂ ms₁ ms₂ s₁ s₂ hr₁ hr₂ rfl rfl
    have hf₁ := @Action.Proper.fairs _ [] _ [] hp₁ (by simp)
    have hf₂ := @Action.Proper.fairs _ [] _ [] hp₂ (by simp)
    rw [List.nil_append, Action.locals_same hs hp₁.supplied] at hf₂
    have hk : Kin (Ground.of c env g) (Action.locals (Ground.of c env g) (ms₁.map (·.action)))
        [] [] false (new c env b₁ g) (new c env b₂ g) {} {} :=
      ⟨settled_new c env b₁ hg _, settled_new c env b₂ hg _, Host.like_refl g, rfl,
        sameOn_refl _ _⟩
    exact hk.runs hr₁ hr₂ hs hf₁ hf₂

/-- All types are listed, a kernel is started at home and one elsewhere, the first is looked up,
both are listed and shut down. -/
def twoKernels : List Action :=
  [.ask .types, .ask (.start (some "python3") { id := some .zero } .zero),
    .ask (.start (some "julia") {} (.ofRandom 1)), .ask (.kernel .zero .model), .ask .list,
    .shutDownAll true]

/-- A remote host that offers Julia and does what it is asked. -/
def obliging : Remote := fun _ q =>
  match q with
  | .specs => .specs [⟨"julia", "Julia", "julia", []⟩]
  | .spec name => .spec ⟨name, "Julia", "julia", []⟩
  | .start .. => .started "k"
  | .model d => .model { id := d, name := "julia" }
  | .list => .models [{ id := "k", name := "julia" }]
  | .has _ => .has true
  | .openChannel .. => .opened 0
  | _ => .done

/-- Two kernels of which one is started only if there is a remote host. -/
theorem indifferent_twoKernels : ∃ ms₁ s₁ ms₂ s₂,
    Runs (new {} [] true (Hosted.vacantHosts .home)) ms₁ s₁ ∧
    Runs (new {} [] false (Hosted.vacantHosts .home)) ms₂ s₂ ∧
    obliging.Heard [] (exchanges ms₁) ∧ ms₁.map (·.action) = twoKernels ∧
    ms₂.map (·.action) = twoKernels ∧
    List.Forall₂ (Agree ⟨none, [⟨"python3", "Python 3", "python", []⟩]⟩ [.zero]) ms₁ ms₂ := by
  have hp : Action.Proper (Ground.of {} [] (Hosted.vacantHosts .home)) twoKernels := by
    refine ⟨?_, ?_, ?_⟩ <;> decide
  have hfit : obliging.Fitting := by
    intro past q
    cases q <;> rfl
  obtain ⟨hex, hagree⟩ := @indifferent_of_proper {} [] (Hosted.vacantHosts .home) twoKernels
    twoKernels rfl (List.forall₂_same.2 fun _ _ => .same) hp hp
  obtain ⟨ms₁, s₁, hr₁, ha₁, hh⟩ := hex true obliging hfit twoKernels List.mem_cons_self
  obtain ⟨ms₂, s₂, hr₂, ha₂, -⟩ := hex false obliging hfit twoKernels List.mem_cons_self
  exact ⟨ms₁, s₁, ms₂, s₂, hr₁, hr₂, hh, ha₁, ha₂, hagree true false ms₁ ms₂ s₁ s₂ hr₁ hr₂ ha₁ ha₂⟩

end Site

end KernelHub
