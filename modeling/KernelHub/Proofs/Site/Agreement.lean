import KernelHub.Proofs.Site.Kernels

/-
Two runs of a site with different remote hosts, side by side: what one action does in both. The
hosts at home stay alike, the ledgers stay the same on the ids of starts at home, and results that
concern types or kernels at home are the same.
-/

namespace KernelHub

/-! ## Answers that differ in times only -/

namespace Answer

variable {a b : Answer} {job : Job}

theorem isGone_bare (a : Answer) : a.bare.isGone = a.isGone := by cases a <;> rfl

theorem retires_bare (job : Job) (a : Answer) :
    Ledger.retires job a.bare = Ledger.retires job a := by
  cases job <;> cases a <;> rfl

theorem probes_bare (job : Job) (a : Answer) : Ledger.probes job a.bare = Ledger.probes job a := by
  cases job <;> cases a <;> rfl

theorem bare_given (id : KernelId) (job : Job) (a : Answer) :
    Result.bare (Ledger.given id .home job a) =
      Result.bare (Ledger.given id .home job a.bare) := by
  cases job <;> cases a <;> rfl

end Answer

namespace Site

open Memory (Host)

variable {g₁ g₂ g₁' g₂' : Host} {es₁ es₂ : List Exchange} {gr : Ground} {merged : Bool}
  {h₁ h₂ h₁' h₂' : Hub} {ids used₁ used₂ : List KernelId} {l₁ l₂ l₁' l₂' l : Ledger}
  {id : KernelId} {r₁ r₂ : Result}

/-! ## Ledgers that say the same of some ids -/

theorem SameOn.symm (h : SameOn ids l₁ l₂) : SameOn ids l₂ l₁ :=
  fun id hi => ⟨(h id hi).1.symm, (h id hi).2.symm⟩

theorem SameOn.trans (h : SameOn ids l₁ l₂) (h' : SameOn ids l₂ l) : SameOn ids l₁ l :=
  fun id hi => ⟨(h' id hi).1.trans (h id hi).1, (h' id hi).2.trans (h id hi).2⟩

theorem SameOn.add (h : SameOn ids l₁ l₂) (id : KernelId) (e : Ledger.Entry) :
    SameOn ids (l₁.add id e) (l₂.add id e) := by
  intro x hx
  refine ⟨?_, (h x hx).2⟩
  simp only [Ledger.add, Table.find?_set, (h x hx).1]

theorem SameOn.retire (h : SameOn ids l₁ l₂) (id : KernelId) :
    SameOn ids (l₁.retire id) (l₂.retire id) := by
  intro x hx
  refine ⟨?_, ?_⟩
  · simp only [Ledger.retire, Table.find?_erase, (h x hx).1]
  · simp only [Ledger.retire, List.mem_cons, (h x hx).2]

/-- Two sites that have come to the same in what concerns the kernels with these ids. -/
structure Kin (gr : Ground) (ids used₁ used₂ : List KernelId) (merged : Bool) (s₁ s₂ : Site)
    (l₁ l₂ : Ledger) : Prop where
  left : Settled gr ids used₁ merged s₁ l₁
  right : Settled gr ids used₂ merged s₂ l₂
  home : s₁.home.Like s₂.home
  config : s₁.hub.config = s₂.hub.config
  same : SameOn ids l₁ l₂

theorem like_listing (hl : g₁.Like g₂) : g₁.listing = g₂.listing := by
  simp only [Host.listing, hl.checkAvailable, hl.specs]

/-! ## Starts -/

theorem Begins.alike {asked : Option String} {o : StartOptions} (hl : g₁.Like g₂)
    (hn : o.id = some id) (hfree : Table.contains (toString id) g₂.live = false)
    (hs : SameOn ids l₁ l₂) (h₁ : Begins gr merged g₁ l₁ asked o id r₁ g₁' l₁')
    (h₂ : Begins gr merged g₂ l₂ asked o id r₂ g₂' l₂') :
    g₁'.Like g₂' ∧ r₁ = r₂ ∧ SameOn ids l₁' l₂' := by
  have hp : prepare gr g₁ merged asked = prepare gr g₂ merged asked := by
    simp only [prepare, resolve, like_listing hl]
  cases h₁ with
  | unprepared h1 =>
    cases h₂ with
    | unprepared h2 =>
      cases h1.symm.trans (hp.trans h2)
      exact ⟨hl, rfl, hs⟩
    | prepared h2 => cases h1.symm.trans (hp.trans h2)
  | @prepared name u a _ h1 hr =>
    cases h₂ with
    | unprepared h2 => cases h1.symm.trans (hp.trans h2)
    | @prepared _ v b _ h2 hr' =>
      cases h1.symm.trans (hp.trans h2)
      have hpin : ∀ n o', Request.start name o = .start n o' → g₂.Pinned n o' := by
        rintro n o' ⟨⟩
        exact .inl ⟨id, hn, Table.contains_eq_false.1 hfree⟩
      obtain ⟨hlike, hab⟩ := hl.replies (by simp) hpin hr hr'
      have hab : a = b := by
        have hfit := hr.fits
        have hfit' := hr'.fits
        cases a <;> cases hfit <;> cases b <;> cases hfit' <;> cases hab <;> rfl
      subst hab
      refine ⟨hlike, rfl, ?_⟩
      cases a with
      | started d => exact hs.add id _
      | _ => exact hs

/-! ## Jobs -/

theorem ends_alike {d : String} {e : Ledger.Entry} {job : Job} {a b : Answer}
    (hb : e.binding = ⟨.home, d⟩) (hl : g₁.Like g₂) (hab : a.bare = b.bare)
    (hs : SameOn ids l₁ l₂) (h₁ : Ledger.Ends l₁ id e job a es₁ l₁')
    (h₂ : Ledger.Ends l₂ id e job b es₂ l₂') (ht₁ : Told g₁ es₁ g₁') (ht₂ : Told g₂ es₂ g₂') :
    g₁'.Like g₂' ∧ SameOn ids l₁' l₂' := by
  have hp : Ledger.probes job a = Ledger.probes job b := by
    rw [← Answer.probes_bare, hab, Answer.probes_bare]
  have hr : Ledger.retires job a = Ledger.retires job b := by
    rw [← Answer.retires_bare, hab, Answer.retires_bare]
  have probe {x y : Answer} (ht₁ : Told g₁ [(e.binding.side, .model e.binding.delegate, x)] g₁')
      (ht₂ : Told g₂ [(e.binding.side, .model e.binding.delegate, y)] g₂') :
      g₁'.Like g₂' ∧ x.isGone = y.isGone := by
    rw [hb] at ht₁ ht₂
    obtain ⟨u, h1⟩ := told_home ht₁
    obtain ⟨v, h2⟩ := told_home ht₂
    obtain ⟨hlike, hxy⟩ := hl.replies (by nofun) (by nofun) h1 h2
    exact ⟨hlike, by rw [← Answer.isGone_bare, hxy, Answer.isGone_bare]⟩
  cases h₁ with
  | retired hp₁ hr₁ =>
    cases h₂ with
    | retired =>
      cases ht₁
      cases ht₂
      exact ⟨hl, hs.retire id⟩
    | kept _ hr₂ => cases hr₁.symm.trans (hr.trans hr₂)
    | lost hp₂ | live hp₂ => cases hp₁.symm.trans (hp.trans hp₂)
  | kept hp₁ hr₁ =>
    cases h₂ with
    | retired _ hr₂ => cases hr₁.symm.trans (hr.trans hr₂)
    | kept =>
      cases ht₁
      cases ht₂
      exact ⟨hl, hs⟩
    | lost hp₂ | live hp₂ => cases hp₁.symm.trans (hp.trans hp₂)
  | lost hp₁ hx =>
    cases h₂ with
    | retired hp₂ | kept hp₂ => cases hp₁.symm.trans (hp.trans hp₂)
    | lost => exact ⟨(probe ht₁ ht₂).1, hs.add id _⟩
    | live _ hy => cases hx.symm.trans ((probe ht₁ ht₂).2.trans hy)
  | live hp₁ hx =>
    cases h₂ with
    | retired hp₂ | kept hp₂ => cases hp₁.symm.trans (hp.trans hp₂)
    | lost _ hy => cases hx.symm.trans ((probe ht₁ ht₂).2.trans hy)
    | live => exact ⟨(probe ht₁ ht₂).1, hs⟩

/-- A job on a kernel at home. -/
theorem Kin.job {s s' : Ledger.Setting} {job : Job}
    (hk : Kin gr ids used₁ used₂ merged ⟨h₁, g₁⟩ ⟨h₂, g₂⟩ l₁ l₂) (hi : id ∈ ids)
    (h1 : Ledger.Step s l₁ (.kernel id job) es₁ r₁ l₁')
    (h2 : Ledger.Step s' l₂ (.kernel id job) es₂ r₂ l₂') (ht₁ : Told g₁ es₁ g₁')
    (ht₂ : Told g₂ es₂ g₂') :
    g₁'.Like g₂' ∧ SameOn ids l₁' l₂' ∧ Result.bare r₁ = Result.bare r₂ := by
  obtain ⟨hlive, hret⟩ := hk.same id hi
  cases hf : Table.find? id l₁.live with
  | none =>
    obtain ⟨rfl, rfl, hr₁⟩ := Ledger.Step.of_no_job hf h1
    obtain ⟨rfl, rfl, hr₂⟩ := Ledger.Step.of_no_job (hlive.trans hf) h2
    cases ht₁
    cases ht₂
    refine ⟨hk.home, hk.same, congrArg Result.bare ?_⟩
    rcases hr₁ with ⟨⟨now, rfl⟩, hr, rfl⟩ | ⟨hn, rfl⟩ <;>
      rcases hr₂ with ⟨⟨now', hj⟩, hr', rfl⟩ | ⟨hn', rfl⟩
    · rfl
    · exact absurd (hret.2 hr) (hn' now rfl)
    · exact absurd (hret.1 hr') (hn now' hj)
    · rfl
  | some e =>
    have hb := hk.left.binding hi hf
    have hf' := hlive.trans hf
    have hr₁ : id ∉ l₁.retired := fun hr => nomatch (hk.left.mirrors.apart id hr).symm.trans hf
    have hr₂ : id ∉ l₂.retired := fun hr => hr₁ (hret.1 hr)
    rcases Ledger.Step.of_job hf hr₁ h1 with
        ⟨hq, rfl, rfl, rfl⟩ | ⟨q, a, fs, hq, rfl, rfl, hends⟩ <;>
      rcases Ledger.Step.of_job hf' hr₂ h2 with
        ⟨hq', rfl, rfl, rfl⟩ | ⟨q', b, fs', hq', rfl, rfl, hends'⟩
    · cases ht₁
      cases ht₂
      exact ⟨hk.home, hk.same, rfl⟩
    · cases hq.symm.trans hq'
    · cases hq.symm.trans hq'
    · cases hq.symm.trans hq'
      rw [show e.binding.side = .home by rw [hb]] at ht₁ ht₂ ⊢
      cases ht₁ with
      | home hrep ht₁ =>
        cases ht₂ with
        | home hrep' ht₂ =>
          obtain ⟨hconnect, hstart⟩ := Ledger.Entry.question?_known hq
          obtain ⟨hlike, hab⟩ := hk.home.replies hconnect
            (fun name o he => absurd he (hstart name o)) hrep hrep'
          obtain ⟨hlike', hsame⟩ := ends_alike hb hlike hab hk.same hends hends' ht₁ ht₂
          refine ⟨hlike', hsame, ?_⟩
          rw [Answer.bare_given, hab, ← Answer.bare_given]

/-! ## Looks -/

theorem Kin.types {p₁ p₂ : Provenance}
    (hk : Kin gr ids used₁ used₂ merged ⟨h₁, g₁⟩ ⟨h₂, g₂⟩ l₁ l₂)
    (h1 : h₁.Look .types es₁ r₁ p₁) (h2 : h₂.Look .types es₂ r₂ p₂) (ht₁ : Told g₁ es₁ g₁')
    (ht₂ : Told g₂ es₂ g₂') : Alike gr ids h₁' h₂' .types r₁ r₂ := by
  have hl := like_listing hk.home
  rcases hk.left.types h1 ht₁ with ⟨e, he, rfl⟩ | ⟨ts, he, rfl, hts⟩ <;>
    rcases hk.right.types h2 ht₂ with ⟨e', he', rfl⟩ | ⟨ts', he', rfl, hts'⟩
  · cases he.symm.trans (hl.trans he')
    exact .inl ⟨_, rfl, rfl⟩
  · cases he.symm.trans (hl.trans he')
  · cases he.symm.trans (hl.trans he')
  · refine .inr ⟨_, _, rfl, rfl, fun name hn => ?_⟩
    rw [hts name hn, hts' name hn, show h₁.config = h₂.config from hk.config]

theorem Kin.type {name : String} {p₁ p₂ : Provenance}
    (hk : Kin gr ids used₁ used₂ merged ⟨h₁, g₁⟩ ⟨h₂, g₂⟩ l₁ l₂)
    (h1 : h₁.Look (.type name) es₁ r₁ p₁) (h2 : h₂.Look (.type name) es₂ r₂ p₂)
    (ht₁ : Told g₁ es₁ g₁') (ht₂ : Told g₂ es₂ g₂') (hn : gr.offers name = true) : r₁ = r₂ := by
  rw [hk.left.type h1 ht₁ hn, hk.right.type h2 ht₂ hn, hk.home.spec,
    show h₁.config = h₂.config from hk.config]

theorem Kin.defaultName {p₁ p₂ : Provenance}
    (hk : Kin gr ids used₁ used₂ merged ⟨h₁, g₁⟩ ⟨h₂, g₂⟩ l₁ l₂)
    (h1 : h₁.Look .defaultName es₁ r₁ p₁) (h2 : h₂.Look .defaultName es₂ r₂ p₂)
    (ht₁ : Told g₁ es₁ g₁') (ht₂ : Told g₂ es₂ g₂') : r₁ = r₂ := by
  rw [hk.left.defaultName h1 ht₁, hk.right.defaultName h2 ht₂, like_listing hk.home]

/-- Both hubs read the id map backwards alike for the host at home. -/
theorem Kin.externalId? (hk : Kin gr ids used₁ used₂ merged ⟨h₁, g₁⟩ ⟨h₂, g₂⟩ l₁ l₂)
    (d : String) : h₁.externalId? .home d = h₂.externalId? .home d := by
  refine Option.ext fun id => ?_
  rw [hk.left.externalId?, hk.right.externalId?]
  refine and_congr_right fun hi => ?_
  rw [(hk.same id hi).1]

theorem Kin.clientModels (hk : Kin gr ids used₁ used₂ merged ⟨h₁, g₁⟩ ⟨h₂, g₂⟩ l₁ l₂) :
    (h₁.clientModels .home g₁.models).map Model.bare =
      (h₂.clientModels .home g₂.models).map Model.bare := by
  have bare (h : Hub) (ms : List Model) : (h.clientModels .home ms).map Model.bare =
      h.clientModels .home (ms.map Model.bare) := by
    simp only [Hub.clientModels, List.map_filterMap, List.filterMap_map, Option.map_map]
    rfl
  have hm : g₁.models.map Model.bare = g₂.models.map Model.bare := hk.home.models
  rw [bare, bare, hm]
  simp only [Hub.clientModels, hk.externalId?]

theorem Kin.list {p₁ p₂ : Provenance}
    (hk : Kin gr ids used₁ used₂ merged ⟨h₁, g₁⟩ ⟨h₂, g₂⟩ l₁ l₂)
    (h1 : h₁.Look .list es₁ r₁ p₁) (h2 : h₂.Look .list es₂ r₂ p₂) (ht₁ : Told g₁ es₁ g₁')
    (ht₂ : Told g₂ es₂ g₂') :
    Alike gr ids { h₁ with provenance := p₁ } { h₂ with provenance := p₂ } .list r₁ r₂ := by
  have hl : g₁.checkAvailable = g₂.checkAvailable := hk.home.checkAvailable
  rcases hk.left.list h1 ht₁ with ⟨e, he, rfl⟩ | ⟨ms, he, rfl, hms⟩ <;>
    rcases hk.right.list h2 ht₂ with ⟨e', he', rfl⟩ | ⟨ms', he', rfl, hms'⟩ <;>
    cases he.symm.trans (hl.trans he')
  · exact .inl ⟨_, rfl, rfl⟩
  · refine .inr ⟨_, _, rfl, rfl, ?_⟩
    show (ms.filter h₁.isHome).map _ = (ms'.filter h₂.isHome).map _
    rw [hms, hms', hk.clientModels]

/-- Sessions leave the hosts at home alike, whoever listens to them. -/
theorem Kin.openSession {s : SessionId} {p₁ p₂ : Provenance}
    (hk : Kin gr ids used₁ used₂ merged ⟨h₁, g₁⟩ ⟨h₂, g₂⟩ l₁ l₂)
    (h1 : h₁.Look (.openSession id s) es₁ r₁ p₁) (h2 : h₂.Look (.openSession id s) es₂ r₂ p₂)
    (ht₁ : Told g₁ es₁ g₁') (ht₂ : Told g₂ es₂ g₂') (hi : id ∈ ids) : g₁'.Like g₂' := by
  rcases hk.left.openSession h1 ht₁ hi with ⟨hf, rfl⟩ | ⟨hf, u, a, g, hr, hor⟩ <;>
    rcases hk.right.openSession h2 ht₂ hi with ⟨hf', rfl⟩ | ⟨hf', u', a', g', hr', hor'⟩
  · exact hk.home
  · rw [(hk.same id hi).1, hf] at hf'
    cases hf'
  · rw [← (hk.same id hi).1, hf'] at hf
    cases hf
  · obtain ⟨hlike, ha⟩ := hk.home.replies (by nofun) (by nofun) hr hr'
    rcases hor with ⟨⟨e, rfl⟩, rfl⟩ | ⟨c, x, v, b, rfl, hc⟩ <;>
      rcases hor' with ⟨⟨e', rfl⟩, rfl⟩ | ⟨c', x', v', b', rfl, hc'⟩ <;> cases ha
    · exact hlike
    · exact hlike.replies_connect hc hc'

/-! ## Commands -/

/-- The action is one that callers may take next, when certain ids are in use. -/
structure Action.Fair (gr : Ground) (ids used : List KernelId) (a : Action) : Prop where
  allowed : a.allowed = true
  near : a.isLocal gr = true →
    a.supplied?.isSome = true ∧ ∀ id, a.id? = some id → id ∈ ids ∧ id ∉ used
  far : a.isLocal gr = false → ∀ id, a.id? = some id → id ∉ ids

theorem Kin.start {asked : Option String} {o : StartOptions} {fresh fresh' : KernelId}
    (hk : Kin gr ids used₁ used₂ merged ⟨h₁, g₁⟩ ⟨h₂, g₂⟩ l₁ l₂)
    (hf₁ : Action.Fair gr ids used₁ (.ask (.start asked o fresh)))
    (hf₂ : Action.Fair gr ids used₂ (.ask (.start asked o fresh')))
    (h1 : (Call.asked (.start asked o fresh)).Leads h₁ es₁ h₁' (.ended r₁))
    (h2 : (Call.asked (.start asked o fresh')).Leads h₂ es₂ h₂' (.ended r₂))
    (ht₁ : Told g₁ es₁ g₁') (ht₂ : Told g₂ es₂ g₂') :
    ∃ l₁' l₂', Kin gr ids (o.id.getD fresh :: used₁) (o.id.getD fresh' :: used₂)
        (merged || g₁.available) ⟨h₁', g₁'⟩ ⟨h₂', g₂'⟩ l₁' l₂' ∧
      (gr.starts asked = true → r₁ = r₂) := by
  have near {used : List KernelId} {fresh : KernelId}
      (hf : Action.Fair gr ids used (.ask (.start asked o fresh))) (hs : gr.starts asked = true) :
      o.id.isSome = true ∧ o.id.getD fresh ∈ ids ∧ o.id.getD fresh ∉ used :=
    ⟨(hf.near hs).1, (hf.near hs).2 _ rfl⟩
  obtain ⟨l₁', hs₁, hin₁, hout₁⟩ := hk.left.start h1 ht₁ (near hf₁) fun hs => hf₁.far hs _ rfl
  obtain ⟨l₂', hs₂, hin₂, hout₂⟩ := hk.right.start h2 ht₂ (near hf₂) fun hs => hf₂.far hs _ rfl
  have hav : g₁.available = g₂.available := hk.home.available
  rw [← hav] at hs₂
  have hc : h₁'.config = h₂'.config :=
    (Call.config_leads h1).trans (hk.config.trans (Call.config_leads h2).symm)
  cases hst : gr.starts asked with
  | true =>
    obtain ⟨hsome, -, hnew⟩ := near hf₂ hst
    obtain ⟨id, hid⟩ := Option.isSome_iff_exists.1 hsome
    have hb₁ := hin₁ hst
    have hb₂ := hin₂ hst
    rw [hid] at hb₁ hb₂ hnew
    have hfree : Table.contains (toString id) g₂.live = false := by
      refine Bool.eq_false_iff.2 fun hc => ?_
      obtain ⟨x, hx, he⟩ := hk.right.live _ hc
      exact hnew (KernelId.toString_injective he ▸ hx)
    obtain ⟨hlike, hr, hsame⟩ := Begins.alike hk.home hid hfree hk.same hb₁ hb₂
    exact ⟨l₁', l₂', ⟨hs₁, hs₂, hlike, hc, hsame⟩, fun _ => hr⟩
  | false =>
    obtain ⟨rfl, hsame₁⟩ := hout₁ hst
    obtain ⟨rfl, hsame₂⟩ := hout₂ hst
    exact ⟨l₁', l₂', ⟨hs₁, hs₂, hk.home, hc, hsame₁.symm.trans (hk.same.trans hsame₂)⟩, nofun⟩

theorem Kin.kernel {job : Job} (hk : Kin gr ids used₁ used₂ merged ⟨h₁, g₁⟩ ⟨h₂, g₂⟩ l₁ l₂)
    (hj : (Command.kernel id job).offered = true)
    (h1 : (Call.asked (.kernel id job)).Leads h₁ es₁ h₁' (.ended r₁))
    (h2 : (Call.asked (.kernel id job)).Leads h₂ es₂ h₂' (.ended r₂)) (ht₁ : Told g₁ es₁ g₁')
    (ht₂ : Told g₂ es₂ g₂') :
    ∃ l₁' l₂', Kin gr ids used₁ used₂ merged ⟨h₁', g₁'⟩ ⟨h₂', g₂'⟩ l₁' l₂' ∧
      (id ∈ ids → Result.bare r₁ = Result.bare r₂) := by
  obtain ⟨l₁', hs₁, hstep₁, hout₁⟩ := hk.left.job hj h1 ht₁
  obtain ⟨l₂', hs₂, hstep₂, hout₂⟩ := hk.right.job hj h2 ht₂
  have hc : h₁'.config = h₂'.config :=
    (Call.config_leads h1).trans (hk.config.trans (Call.config_leads h2).symm)
  by_cases hi : id ∈ ids
  · obtain ⟨hlike, hsame, hr⟩ := hk.job hi hstep₁ hstep₂ ht₁ ht₂
    exact ⟨l₁', l₂', ⟨hs₁, hs₂, hlike, hc, hsame⟩, fun _ => hr⟩
  · obtain rfl := hout₁ hi
    obtain rfl := hout₂ hi
    have frame {l l' : Ledger} {s : Ledger.Setting} {es : List Exchange} {r : Result}
        (hstep : Ledger.Step s l (.kernel id job) es r l') : SameOn ids l l' :=
      fun x hx => hstep.job_frame fun he => hi (he ▸ hx)
    exact ⟨l₁', l₂', ⟨hs₁, hs₂, hk.home, hc,
      (frame hstep₁).symm.trans (hk.same.trans (frame hstep₂))⟩, fun h => absurd h hi⟩

theorem Kin.look {c : Command} {p₁ p₂ : Provenance}
    (hk : Kin gr ids used₁ used₂ merged ⟨h₁, g₁⟩ ⟨h₂, g₂⟩ l₁ l₂)
    (h1 : h₁.Look c es₁ r₁ p₁) (h2 : h₂.Look c es₂ r₂ p₂) (ht₁ : Told g₁ es₁ g₁')
    (ht₂ : Told g₂ es₂ g₂')
    (hr : Alike gr ids { h₁ with provenance := p₁ } { h₂ with provenance := p₂ } c r₁ r₂) :
    Kin gr ids used₁ used₂ (merged || (c.merges && g₁.available))
        ⟨{ h₁ with provenance := p₁ }, g₁'⟩ ⟨{ h₂ with provenance := p₂ }, g₂'⟩ l₁ l₂ ∧
      Alike gr ids { h₁ with provenance := p₁ } { h₂ with provenance := p₂ } c r₁ r₂ := by
  have hs₁ := hk.left.look h1 ht₁
  have hs₂ := hk.right.look h2 ht₂
  have hav : g₁.available = g₂.available := hk.home.available
  rw [← hav] at hs₂
  refine ⟨⟨hs₁, hs₂, ?_, hk.config, hk.same⟩, hr⟩
  by_cases hi : ∃ id s, c = .openSession id s ∧ id ∈ ids
  · obtain ⟨id, s, rfl, hi⟩ := hi
    exact hk.openSession h1 h2 ht₁ ht₂ hi
  · have hno : ∀ id s, c = .openSession id s → id ∉ ids := fun id s hc hin => hi ⟨id, s, hc, hin⟩
    rw [hk.left.unmoved h1 ht₁ hno, hk.right.unmoved h2 ht₂ hno]
    exact hk.home

theorem Kin.ask {c c' : Command} (hk : Kin gr ids used₁ used₂ merged ⟨h₁, g₁⟩ ⟨h₂, g₂⟩ l₁ l₂)
    (hs : Action.Same (.ask c) (.ask c')) (hf₁ : Action.Fair gr ids used₁ (.ask c))
    (hf₂ : Action.Fair gr ids used₂ (.ask c'))
    (h1 : (Call.asked c).Leads h₁ es₁ h₁' (.ended r₁))
    (h2 : (Call.asked c').Leads h₂ es₂ h₂' (.ended r₂)) (ht₁ : Told g₁ es₁ g₁')
    (ht₂ : Told g₂ es₂ g₂') :
    ∃ l₁' l₂', Kin gr ids ((Action.ask c).id?.toList ++ used₁)
        ((Action.ask c').id?.toList ++ used₂) (merged || (c.merges && g₁.available))
        ⟨h₁', g₁'⟩ ⟨h₂', g₂'⟩ l₁' l₂' ∧ Alike gr ids h₁' h₂' c r₁ r₂ := by
  cases c with
  | record | active | openRecord => exact nomatch hf₁.allowed
  | start asked o fresh =>
    cases hs with
    | same | start => exact hk.start hf₁ hf₂ h1 h2 ht₁ ht₂
  | kernel id job =>
    cases hs
    rw [show (Command.kernel id job).merges = false from rfl, Bool.false_and, Bool.or_false]
    exact hk.kernel hf₁.allowed h1 h2 ht₁ ht₂
  | types =>
    cases hs
    obtain ⟨p₁, rfl, hl₁⟩ := Call.types_look h1
    obtain ⟨p₂, rfl, hl₂⟩ := Call.types_look h2
    exact ⟨l₁, l₂, hk.look hl₁ hl₂ ht₁ ht₂ (hk.types hl₁ hl₂ ht₁ ht₂)⟩
  | type name =>
    cases hs
    obtain ⟨p₁, rfl, hl₁⟩ := Call.type_look h1
    obtain ⟨p₂, rfl, hl₂⟩ := Call.type_look h2
    exact ⟨l₁, l₂, hk.look hl₁ hl₂ ht₁ ht₂ (hk.type hl₁ hl₂ ht₁ ht₂)⟩
  | defaultName =>
    cases hs
    obtain ⟨p₁, rfl, hl₁⟩ := Call.defaultName_look h1
    obtain ⟨p₂, rfl, hl₂⟩ := Call.defaultName_look h2
    exact ⟨l₁, l₂, hk.look hl₁ hl₂ ht₁ ht₂ (hk.defaultName hl₁ hl₂ ht₁ ht₂)⟩
  | list =>
    cases hs
    obtain ⟨p₁, rfl, hl₁⟩ := Call.list_look h1
    obtain ⟨p₂, rfl, hl₂⟩ := Call.list_look h2
    exact ⟨l₁, l₂, hk.look hl₁ hl₂ ht₁ ht₂ (hk.list hl₁ hl₂ ht₁ ht₂)⟩
  | openSession id s =>
    cases hs
    obtain ⟨p₁, rfl, hl₁⟩ := Call.openSession_look h1
    obtain ⟨p₂, rfl, hl₂⟩ := Call.openSession_look h2
    exact ⟨l₁, l₂, hk.look hl₁ hl₂ ht₁ ht₂ trivial⟩

end Site

end KernelHub
