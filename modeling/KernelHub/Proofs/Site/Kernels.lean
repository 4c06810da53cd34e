import KernelHub.Proofs.Hosted.Exact
import KernelHub.Proofs.Site.Effects

/-
What jobs on kernels, looks, and shutting down all kernels do to a site, in one run. Jobs and
sessions on kernels elsewhere do not concern the host at home, and looks leave it as it is.
-/

namespace KernelHub

/-- Does the command merge the catalog, if nobody has yet? -/
def Command.merges : Command → Bool
  | .types => true
  | .start .. => true
  | _ => false

namespace Hub

variable {h : Hub} {c : Command} {es : List Exchange} {res : Result} {p : Provenance}

theorem Look.asks (hl : h.Look c es res p) : ∀ x ∈ es, ∀ name o, x.2.1 ≠ .start name o := by
  cases hl with
  | merged hg => cases hg <;> simp
  | listed hf | unlisted hf => cases hf <;> simp
  | _ => simp

end Hub

namespace Ledger

variable {h : Hub} {l : Ledger} {id : KernelId} {side : Side} {d : String}

/-- What a session with a kernel is connected to. -/
theorem target?_eq (hm : Mirrors h l) (id : KernelId) :
    h.target? id = (Table.find? id l.live).map (·.binding) := by
  rw [Hub.target?, kernel?_eq hm]
  cases hf : Table.find? id l.live with
  | none => rfl
  | some e =>
    obtain ⟨p, hp⟩ := hm.registered id e hf
    obtain ⟨e', he', -, hs⟩ := hm.known id p hp
    cases hf.symm.trans he'
    simp [Hub.bound?, Entry.record, Option.filter, hs]

/-- Which models of a listing are those of kernels at home. -/
theorem isHome_clientModel (hm : Mirrors h l) (hf : Table.find? id h.idMap = some ⟨side, d⟩)
    (m : Model) : h.isHome (Hub.clientModel id side m) = decide (side = .home) := by
  have ha := agrees_of_mirrors hm
  obtain ⟨e, he, hb⟩ := Option.map_eq_some_iff.1 ((hm.mapped id).symm.trans hf)
  have hs : h.kernelSide? id = some side := by
    rw [ha.side, he]
    exact congrArg (some ·.side) hb
  rw [Bool.eq_iff_iff, decide_eq_true_iff, Hub.isHome, List.any_eq_true]
  simp only [Hub.id_clientModel, decide_eq_true_eq]
  constructor
  · rintro ⟨x, -, hx, hxs⟩
    rw [KernelId.toString_injective hx, hs] at hxs
    cases hxs
    rfl
  · rintro rfl
    exact ⟨id, (ha.ids id).2 (Table.contains_of_find? he), rfl, hs⟩

theorem isHome_of_mem (hm : Mirrors h l) {ms : List Model} {m : Model}
    (hc : m ∈ h.clientModels side ms) : h.isHome m = decide (side = .home) := by
  obtain ⟨m₀, -, id, hid, rfl⟩ := Hub.mem_clientModels.1 hc
  exact isHome_clientModel hm (Hub.find?_of_externalId? hm.idMap hid) m₀

/-- The models of kernels at home in a listing are what the host at home contributes. -/
theorem filter_isHome (hm : Mirrors h l) {es : List Exchange} {found ms : List Model}
    (hf : h.Found es found) :
    (found ++ h.clientModels .home ms).filter h.isHome = h.clientModels .home ms := by
  have away : found.filter h.isHome = [] := by
    refine List.filter_eq_nil_iff.2 fun m hc => ?_
    cases hf with
    | listed => simp [isHome_of_mem hm hc]
    | alone | unlisted => cases hc
  rw [List.filter_append, away, List.nil_append]
  exact List.filter_eq_self.2 fun m hc => isHome_of_mem hm hc

end Ledger

namespace Site

variable {g g' : Memory.Host} {es : List Exchange} {gr : Ground} {merged : Bool} {h h' : Hub}
  {ids used : List KernelId} {l l' : Ledger} {id : KernelId} {res : Result}

theorem told_live (hes : ∀ x ∈ es, ∀ name o, x.2.1 ≠ .start name o) (ht : Told g es g')
    {d : String} (hd : Table.contains d g'.live = true) : Table.contains d g.live = true := by
  induction ht with
  | nil => exact hd
  | home hr _ ih =>
    rcases hr.live (ih (fun x hx => hes x (List.mem_cons_of_mem _ hx)) hd) with hd | ⟨n, o, hq, -⟩
    · exact hd
    · exact absurd hq (hes _ List.mem_cons_self n o)
  | remote _ ih => exact ih (fun x hx => hes x (List.mem_cons_of_mem _ hx)) hd

theorem told_offer (ht : Told g es g') : g'.specs = g.specs := by
  induction ht with
  | nil => rfl
  | home hr _ ih => exact ih.trans hr.offer
  | remote _ ih => exact ih

/-- What starts nothing uses up no id. -/
theorem Settled.go {m : Bool} (hs : Settled gr ids used merged ⟨h, g⟩ l) (hk : Knows gr m h')
    (hm : Ledger.Mirrors h' l')
    (hb : ∀ id e', Table.find? id l'.live = some e' →
      ∃ e, Table.find? id l.live = some e ∧ e.binding = e'.binding)
    (hh : ∀ id, l'.Holds id → l.Holds id) (hes : ∀ x ∈ es, ∀ name o, x.2.1 ≠ .start name o)
    (ht : Told g es g') : Settled gr ids used m ⟨h', g'⟩ l' := by
  refine ⟨hk, hm, (told_offer ht).trans hs.specs, fun id e' he => ?_, fun id hi => ?_,
    fun d hd => ?_⟩
  · obtain ⟨e, he, hbe⟩ := hb id e' he
    exact hbe ▸ hs.bound id e he
  · exact hs.issued id (hh id hi)
  · exact hs.live d (told_live hes ht hd)

/-! ## Jobs -/

/-- A job asks the host at home only if its kernel is there, and concerns no other kernel. -/
theorem Settled.job {job : Job} (hs : Settled gr ids used merged ⟨h, g⟩ l)
    (hj : (Command.kernel id job).offered = true)
    (hl : (Call.asked (.kernel id job)).Leads h es h' (.ended res)) (ht : Told g es g') :
    ∃ l', Settled gr ids used merged ⟨h', g'⟩ l' ∧
      Ledger.Step h.setting l (.kernel id job) es res l' ∧ (id ∉ ids → g' = g) := by
  obtain ⟨l', hstep, hm⟩ := Ledger.command_simulates hj hs.mirrors hl
  have hp : h'.provenance = h.provenance := by
    refine Call.provenance_leads (Call.of_step hl rfl rfl) ?_
    cases job with
    | shutdown =>
      simp only [Call.begin]
      split <;> simp [Call.rank]
    | _ => simp [Call.begin, Call.rank]
  have hb : ∀ id e', Table.find? id l'.live = some e' →
      ∃ e, Table.find? id l.live = some e ∧ e.binding = e'.binding :=
    hstep.bindings.resolve_right (by rintro ⟨_, _, _, _, _, _, _, hc, _⟩; cases hc)
  refine ⟨l', hs.go (hs.knows.keep (Call.setting_leads hl) hp) hm hb
    (fun x hx => hstep.job_holds hx) hstep.job_asks ht, hstep,
    fun hi => told_remote (fun x hx => ?_) ht⟩
  obtain ⟨e, he, hside⟩ := hstep.job_sides x hx
  rcases hs.bound id e he with ⟨-, hin⟩ | ⟨hr, -⟩
  · exact absurd hin hi
  · exact hside.trans hr

/-- The kernel that an id of a start at home has. -/
theorem Settled.binding (hs : Settled gr ids used merged ⟨h, g⟩ l) (hi : id ∈ ids)
    {e : Ledger.Entry} (he : Table.find? id l.live = some e) :
    e.binding = ⟨.home, toString id⟩ := by
  rcases hs.bound id e he with ⟨hb, -⟩ | ⟨-, hn⟩
  · exact hb
  · exact absurd hi hn

/-! ## Looks -/

theorem told_found {fs : List Exchange} {found : List Model} (hf : h.Found fs found)
    (ht : Told g fs g') : g' = g :=
  told_remote (fun x hx => by cases hf <;> cases hx <;> first | rfl | contradiction) ht

theorem told_described {side : Side} {name : String} {a : Answer}
    (ht : Told g [(side, .spec name, a)] g') : g' = g := by
  cases side with
  | home =>
    obtain ⟨u, hr⟩ := told_home ht
    exact hr.spec.1
  | remote => exact told_remote (by simp) ht

theorem told_listed {fs : List Exchange} {found : List Model} {a : Answer} (hf : h.Found fs found)
    (ht : Told g (fs ++ [(.home, .list, a)]) g') : g' = g := by
  obtain ⟨g₁, h1, h2⟩ := told_append.1 ht
  obtain ⟨u, hr⟩ := told_home h2
  exact hr.list.1.trans (told_found hf h1)

/-- A look leaves the host at home as it is, except that a session with a kernel there opens a
channel. -/
theorem Settled.unmoved {c : Command} {p : Provenance}
    (hs : Settled gr ids used merged ⟨h, g⟩ l) (hl : h.Look c es res p) (ht : Told g es g')
    (hi : ∀ id s, c = .openSession id s → id ∉ ids) : g' = g := by
  have away {id : KernelId} {s : SessionId} {b : Binding} (htg : h.target? id = some b)
      (hes : ∀ x ∈ es, x.1 = b.side) (hc : c = .openSession id s) : g' = g := by
    rw [Ledger.target?_eq hs.mirrors] at htg
    obtain ⟨e, he, rfl⟩ := Option.map_eq_some_iff.1 htg
    rcases hs.bound id e he with ⟨-, hin⟩ | ⟨hr, -⟩
    · exact absurd hin (hi id s hc)
    · exact told_remote (fun x hx => (hes x hx).trans hr) ht
  cases hl with
  | merged hg =>
    obtain ⟨rfl, -⟩ := told_gathering hg ht
    rfl
  | unmerged | first | unnamed => exact (told_specs ht).1
  | described | undescribed => exact told_described ht
  | homeless | given | unbound =>
    cases ht
    rfl
  | listed hf | unlisted hf => exact told_listed hf ht
  | unopened htg | unconnected htg | opened htg => exact away htg (by simp) rfl

/-- A look changes at most what is known about types, and only a merge does that. -/
theorem Settled.look {c : Command} {p : Provenance} (hs : Settled gr ids used merged ⟨h, g⟩ l)
    (hl : h.Look c es res p) (ht : Told g es g') :
    Settled gr ids used (merged || (c.merges && g.available))
      ⟨{ h with provenance := p }, g'⟩ l := by
  have go {m : Bool} (hk : Knows gr m { h with provenance := p }) :
      Settled gr ids used m ⟨{ h with provenance := p }, g'⟩ l :=
    hs.go hk (Ledger.mirrors_provenance hs.mirrors p) (fun _ e he => ⟨e, he, rfl⟩)
      (fun _ hx => hx) hl.asks ht
  cases hl with
  | @merged _ home remote hg =>
    obtain ⟨rfl, hv, -, rfl⟩ := told_gathering hg ht
    have hk := hs.knows.publish remote
    rw [← hs.specs] at hk
    simpa [Command.merges, hv] using go hk
  | unmerged =>
    obtain ⟨rfl, ⟨-, -, ha⟩ | ⟨hv, -⟩⟩ := told_specs ht
    · cases ha
    · simpa [hv] using go (hs.knows.keep rfl rfl)
  | _ => simpa [Command.merges] using go (hs.knows.keep rfl rfl)

/-! ## What looks give -/

/-- All types are listed if the host at home can list its own, and then those are among them. -/
theorem Settled.types {p : Provenance} (hs : Settled gr ids used merged ⟨h, g⟩ l)
    (hl : h.Look .types es res p) (ht : Told g es g') :
    (∃ e, g.listing = .error e ∧ res = .error (.catalog e)) ∨
    ∃ ts, g.listing = .ok g.specs ∧ res = .ok (.types ts) ∧ ∀ name, gr.offers name = true →
      Entries.find? name ts =
        (Catalog.last? gr.specs name).map (Catalog.shown · h.config.homeSuffix) := by
  cases hl with
  | merged hg =>
    obtain ⟨-, -, hl, rfl⟩ := told_gathering hg ht
    refine .inr ⟨_, hl, rfl, fun name hn => ?_⟩
    rw [show g.specs = gr.specs from hs.specs, Catalog.find?_merge, if_pos (of_decide_eq_true hn)]
  | unmerged =>
    obtain ⟨-, ⟨-, -, ha⟩ | ⟨-, e, hl, ha⟩⟩ := told_specs ht <;> cases ha
    exact .inl ⟨_, hl, rfl⟩

/-- A type offered at home is described as the host at home does. -/
theorem Settled.type {name : String} {p : Provenance} (hs : Settled gr ids used merged ⟨h, g⟩ l)
    (hl : h.Look (.type name) es res p) (ht : Told g es g') (hn : gr.offers name = true) :
    res = match g.spec name with
      | .ok s => .ok (.type (s.withSuffix (h.config.suffix .home)))
      | .error e => .error (if e.isNotFound = true then .specNotFound name else .catalog e) := by
  have hr : h.provenance.route name = .home := hs.knows.route hn
  have told {a : Answer} (ht : Told g [(h.provenance.route name, .spec name, a)] g') :
      Memory.Host.looked .spec (g.spec name) = a := by
    rw [hr] at ht
    obtain ⟨u, hrep⟩ := told_home ht
    exact hrep.spec.2.symm
  cases hl with
  | described =>
    have ha := told ht
    cases hx : g.spec name <;> rw [hx] at ha <;> cases ha
    rw [hr]
  | undescribed =>
    have ha := told ht
    cases hx : g.spec name <;> rw [hx] at ha <;> cases ha
    rfl
  | homeless hside =>
    rw [hr] at hside
    cases hside

theorem Settled.defaultName {p : Provenance} (hs : Settled gr ids used merged ⟨h, g⟩ l)
    (hl : h.Look .defaultName es res p) (ht : Told g es g') :
    res = match gr.default? with
      | some name => .ok (.defaultName (some name))
      | none => match g.listing with
        | .ok specs => .ok (.defaultName (Catalog.firstName? specs))
        | .error e => .error (.catalog e) := by
  have hd : h.config.resolvedDefault h.environment = gr.default? := hs.knows.default
  cases hl with
  | given h1 => rw [← hd, h1]
  | first h1 =>
    obtain ⟨-, ⟨-, hl, ha⟩ | ⟨-, e, -, ha⟩⟩ := told_specs ht <;> cases ha
    rw [← hd, h1, hl]
  | unnamed h1 =>
    obtain ⟨-, ⟨-, -, ha⟩ | ⟨-, e, hl, ha⟩⟩ := told_specs ht <;> cases ha
    rw [← hd, h1, hl]

/-- The kernels that the hub knows at home are those of starts at home. -/
theorem Settled.externalId? {d : String} (hs : Settled gr ids used merged ⟨h, g⟩ l) :
    h.externalId? .home d = some id ↔
      id ∈ ids ∧ (Table.find? id l.live).map (·.binding) = some ⟨.home, d⟩ := by
  have hm := hs.mirrors
  have bound {id : KernelId} (hf : Table.find? id h.idMap = some ⟨.home, d⟩) :
      id ∈ ids ∧ toString id = d := by
    obtain ⟨e, he, hb⟩ := Option.map_eq_some_iff.1 ((hm.mapped id).symm.trans hf)
    rcases hs.bound id e he with ⟨hb', hin⟩ | ⟨hr, -⟩
    · cases hb.symm.trans hb'
      exact ⟨hin, rfl⟩
    · rw [hb] at hr
      cases hr
  rw [← hm.mapped]
  constructor
  · intro he
    have hf := Hub.find?_of_externalId? hm.idMap he
    exact ⟨(bound hf).1, hf⟩
  · rintro ⟨-, hf⟩
    refine Hub.externalId?_of_find? hm.idMap (fun id' hf' => ?_) hf
    exact KernelId.toString_injective ((bound hf').2.trans (bound hf).2.symm)

/-- A listing succeeds if the host at home can be reached, and has its kernels then. -/
theorem Settled.list {p : Provenance} (hs : Settled gr ids used merged ⟨h, g⟩ l)
    (hl : h.Look .list es res p) (ht : Told g es g') :
    (∃ e, g.checkAvailable = .error e ∧ res = .error (.catalog e)) ∨
    ∃ ms, g.checkAvailable = .ok () ∧ res = .ok (.models ms) ∧
      ms.filter h.isHome = h.clientModels .home g.models := by
  have told {fs : List Exchange} {found : List Model} {a : Answer} (hf : h.Found fs found)
      (ht : Told g (fs ++ [(.home, .list, a)]) g') :
      Memory.Host.looked (fun _ => .models g.models) g.checkAvailable = a := by
    obtain ⟨g₁, h1, h2⟩ := told_append.1 ht
    obtain rfl := told_found hf h1
    obtain ⟨u, hr⟩ := told_home h2
    cases hr with
    | told _ ha => cases ha; rfl
    | finished ha => cases ha
  cases hl with
  | listed hf =>
    have ha := told hf ht
    cases hx : g.checkAvailable <;> rw [hx] at ha <;> cases ha
    exact .inr ⟨_, rfl, rfl, Ledger.filter_isHome hs.mirrors hf⟩
  | unlisted hf =>
    have ha := told hf ht
    cases hx : g.checkAvailable <;> rw [hx] at ha <;> cases ha
    exact .inl ⟨_, rfl, rfl⟩

/-- A session with a kernel at home asks its host for a channel, and for a connection if it gets
one. -/
theorem Settled.openSession {s : SessionId} {p : Provenance}
    (hs : Settled gr ids used merged ⟨h, g⟩ l) (hl : h.Look (.openSession id s) es res p)
    (ht : Told g es g') (hi : id ∈ ids) :
    (Table.find? id l.live = none ∧ g' = g) ∨
    (Table.find? id l.live).isSome = true ∧ ∃ u a g₁,
      g.Replies (.openChannel (toString id) s) u a g₁ ∧
      ((∃ e, a = .refused e) ∧ g' = g₁ ∨
        ∃ c x v b, a = .opened c ∧ g₁.Replies (.connect c x) v b g') := by
  have bound {b : Binding} (htg : h.target? id = some b) :
      (Table.find? id l.live).isSome = true ∧ b = ⟨.home, toString id⟩ := by
    rw [Ledger.target?_eq hs.mirrors] at htg
    obtain ⟨e, he, rfl⟩ := Option.map_eq_some_iff.1 htg
    exact ⟨by rw [he]; rfl, hs.binding hi he⟩
  cases hl with
  | unbound htg =>
    rw [Ledger.target?_eq hs.mirrors, Option.map_eq_none_iff] at htg
    cases ht
    exact .inl ⟨htg, rfl⟩
  | unopened htg =>
    obtain ⟨hsome, rfl⟩ := bound htg
    obtain ⟨u, hr⟩ := told_home ht
    exact .inr ⟨hsome, u, _, _, hr, .inl ⟨⟨_, rfl⟩, rfl⟩⟩
  | unconnected htg | opened htg =>
    obtain ⟨hsome, rfl⟩ := bound htg
    cases ht with
    | home hr ht =>
      obtain ⟨v, hr'⟩ := told_home ht
      exact .inr ⟨hsome, _, _, _, hr, .inr ⟨_, _, v, _, rfl, hr'⟩⟩

/-! ## What happens to the host at home besides -/

theorem Settled.meddle {a : Action} (hs : Settled gr ids used merged ⟨h, g⟩ l)
    (ha : a.allowed = true) : Settled gr ids used merged ⟨h, a.meddle g⟩ l := by
  have fewer {g' : Memory.Host} (hg : g'.specs = g.specs)
      (hd : ∀ d, Table.contains d g'.live = true → Table.contains d g.live = true) :
      Settled gr ids used merged ⟨h, g'⟩ l :=
    ⟨hs.knows, hs.mirrors, hg.trans hs.specs, hs.bound, hs.issued, fun d hc => hs.live d (hd d hc)⟩
  cases a with
  | ask | shutDownAll => exact hs
  | control c =>
    refine fewer (Memory.Control.offer_apply g fun offered => ?_) fun d hd => ?_
    · rintro rfl
      cases ha
    · exact (c.keeps_apply g).1 ▸ hd
  | kill d =>
    refine fewer rfl fun d' hd => ?_
    have hc := (Table.contains_erase d d' g.live).symm.trans hd
    exact (Bool.and_eq_true_iff.1 hc).2

/-! ## Shutting down all kernels -/

/-- What becomes of a kernel at home, when its host is told to shut down those with certain ids. -/
structure Shut (willing : Bool) (ids : List KernelId) (l l' : Ledger) (id : KernelId) : Prop where
  live : Table.find? id l'.live =
    if willing = true ∧ id ∈ ids then none else Table.find? id l.live
  retired : id ∈ l'.retired ↔ id ∈ l.retired ∨ willing = true ∧ id ∈ ids

/-- A willing host has shut the kernel down, whether it still had it or not. -/
theorem retires_stop {now : Bool} {a : Answer} {d : String} (ha : a.bare = (g.stop d).2.bare) :
    Ledger.retires (.shutdown now) a = g.willing := by
  have hb (a : Answer) :
      Ledger.retires (.shutdown now) a.bare = Ledger.retires (.shutdown now) a := by
    cases a <;> rfl
  rw [← hb, ha, hb]
  cases hw : g.willing with
  | false =>
    obtain ⟨e, he, hn⟩ := Memory.Host.stop_unwilling hw d
    rw [he]
    exact hn
  | true =>
    cases hd : Table.find? d g.live with
    | none =>
      obtain ⟨s, he⟩ := Memory.Host.stop_none hw hd
      rw [he]
      rfl
    | some k =>
      rw [(Memory.Host.stop_some hw hd).2]
      rfl

/-- A shutdown of a kernel at home. -/
theorem Settled.shutdown {now : Bool} (hs : Settled gr ids used merged ⟨h, g⟩ l) (hi : id ∈ ids)
    (hc : Table.contains id l.live = true)
    (hstep : Ledger.Step h.setting l (.kernel id (.shutdown now)) es res l') (ht : Told g es g') :
    g'.Like (g.stop (toString id)).1 ∧ l' = if g.willing = true then l.retire id else l := by
  obtain ⟨e, he⟩ := Table.contains_iff.1 hc
  have hr : id ∉ l.retired := fun hr => nomatch (hs.mirrors.apart id hr).symm.trans he
  have hb := hs.binding hi he
  rcases Ledger.Step.of_job he hr hstep with ⟨hq, -⟩ | ⟨q, a, fs, hq, rfl, -, hends⟩
  · cases hq
  · cases hq
    rw [hb] at ht
    have hfs : fs = [] := by
      cases hends with
      | retired | kept => rfl
      | lost hp | live hp => cases hp
    subst hfs
    obtain ⟨u, hrep⟩ := told_home ht
    obtain ⟨hlike, ha⟩ := hrep.stop
    have hret : Ledger.retires (.shutdown now) a = g.willing := retires_stop ha
    refine ⟨hlike, ?_⟩
    cases hends with
    | retired _ hr => rw [if_pos (hret.symm.trans hr)]
    | kept _ hr => rw [if_neg (by rw [← hret, hr]; nofun)]

/-- Shutdowns of several kernels come down to those at home, for the host at home. -/
theorem Settled.shutDowns {now : Bool} {xs : List KernelId} {ss : List Served}
    (hs : Settled gr ids used merged ⟨h, g⟩ l) (hss : h.Serves ss h')
    (hc : ss.map (·.command) = xs.map fun id => .kernel id (.shutdown now))
    (ht : Told g (ss.flatMap (·.exchanges)) g') (hn : xs.Nodup)
    (hx : ∀ id ∈ xs, Table.contains id l.live = true) :
    ∃ l', Settled gr ids used merged ⟨h', g'⟩ l' ∧
      g'.Like (g.stops ((xs.filter (· ∈ ids)).map toString)) ∧
      ∀ id ∈ ids, Shut g.willing xs l l' id := by
  induction xs generalizing h g l ss with
  | nil =>
    cases List.map_eq_nil_iff.1 hc
    cases hss
    cases ht
    exact ⟨l, hs, Memory.Host.like_refl _, fun id _ => ⟨by simp, by simp⟩⟩
  | cons x xs ih =>
    cases hss with
    | nil => cases hc
    | @cons _ c es res h₁ ss _ ho hl hss =>
      obtain ⟨hcx, hc'⟩ := List.cons.inj hc
      subst hcx
      obtain ⟨g₁, h1, h2⟩ := told_append.1 ht
      obtain ⟨l₁, hs₁, hstep, haway⟩ := hs.job rfl hl h1
      obtain ⟨hnx, hn⟩ := List.nodup_cons.1 hn
      have hx₁ : ∀ id ∈ xs, Table.contains id l₁.live = true := by
        intro id hi
        have hne : id ≠ x := fun he => hnx (he ▸ hi)
        rw [Table.contains, (hstep.job_frame hne).1]
        exact hx id (List.mem_cons_of_mem _ hi)
      obtain ⟨l', hs', hlike, hshut⟩ := ih hs₁ hss hc' h2 hn hx₁
      refine ⟨l', hs', ?_⟩
      by_cases hin : x ∈ ids
      · obtain ⟨hlike₁, hl₁⟩ := hs.shutdown hin (hx x List.mem_cons_self) hstep h1
        have hw : g₁.willing = g.willing := by
          rw [← Memory.Host.willing_stop g (toString x), Memory.Host.willing, hlike₁.available,
            hlike₁.failing]
          rfl
        refine ⟨?_, fun id hi => ?_⟩
        · simp only [List.filter_cons, hin, decide_true, if_true, List.map_cons]
          exact hlike.trans (hlike₁.stops _)
        · obtain ⟨h3, h4⟩ := hshut id hi
          rw [hw] at h3 h4
          by_cases hid : id = x
          · subst hid
            subst hl₁
            refine ⟨h3.trans ?_, h4.trans ?_⟩ <;>
              cases g.willing <;> simp [hnx, Ledger.retire, Table.find?_erase_self]
          · obtain ⟨h5, h6⟩ := hstep.job_frame hid
            refine ⟨by simp [h3, h5, hid], by simp [h4, h6, hid]⟩
      · obtain rfl := haway hin
        refine ⟨?_, fun id hi => ?_⟩
        · simpa [List.filter_cons, hin] using hlike
        · have hne : id ≠ x := fun he => hin (he ▸ hi)
          obtain ⟨h5, h6⟩ := hstep.job_frame hne
          obtain ⟨h3, h4⟩ := hshut id hi
          exact ⟨by simp [h3, h5, hne], by simp [h4, h6, hne]⟩

end Site

end KernelHub
