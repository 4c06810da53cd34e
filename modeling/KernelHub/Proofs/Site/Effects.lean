import KernelHub.Proofs.Catalog
import KernelHub.Proofs.Site

/-
What each command does to a site, in one run. Whatever has to do with the types offered at home,
or with the kernels started from them, depends on the host at home and on whether the catalog has
been merged; all other commands leave the host at home as it is.
-/

namespace KernelHub

namespace Memory.Host

variable {g g' : Host} {a : Answer} {u : Option Uuid}

theorem listing_cases (g : Host) : g.available = true ∧ g.listing = .ok g.specs ∨
    g.available = false ∧ ∃ e, g.listing = .error e := by
  cases hv : g.available with
  | true => exact .inl ⟨rfl, by simp [listing, checkAvailable, hv, Except.map]⟩
  | false => exact .inr ⟨rfl, _, by simp [listing, checkAvailable, hv, Except.map]; rfl⟩

end Memory.Host

namespace Call

variable {h h' : Hub} {c c' : Call} {es : List Exchange} {res : Result}

/-- A call that has published what it merged leaves what is known about types as it is. -/
theorem provenance_leads (hl : Leads h c es h' c') (hc : c.rank < 14) :
    h'.provenance = h.provenance := by
  induction hl with
  | refl => rfl
  | @step h c h₁ c₁ _ _ _ hs _ ih =>
    have hp := (maker_step hs).2.2.2.resolve_right (by
      rintro ⟨goal, home, remote, rfl, -⟩
      simp [rank] at hc)
    exact (ih (Nat.lt_trans (rank_step hs) hc)).trans hp
  | answer _ _ hs _ ih => exact ih (Nat.lt_trans (rank_answered hs) hc)

theorem config_leads (hl : Leads h c es h' c') : h'.config = h.config := by
  induction hl with
  | refl => rfl
  | step hs _ ih => exact ih.trans (maker_step hs).1
  | answer _ _ _ _ ih => exact ih

/-- How a start that has found out the name of its type comes to register its id. -/
theorem checking_spec {name : String} {o : StartOptions} {fresh : KernelId}
    (hl : Leads h (checking name o fresh) es h' (ended res)) :
    (h.provenance.knows name = true ∧ Leads h (registering name o fresh) es h' (ended res)) ∨
    h.provenance.knows name = false ∧
      ((∃ e, es = [(.home, .specs, .refused e)] ∧ res = .error (.catalog e) ∧ h' = h) ∨
      ∃ home remote fs gs, es = fs ++ gs ∧ Gathering h.hasRemote fs home remote ∧
        Leads { h with provenance := Catalog.provenance h.config home remote }
          (registering name o fresh) gs h' (ended res)) := by
  have h1 := of_step hl rfl rfl
  split at h1
  · next hk => exact .inl ⟨hk, h1⟩
  · next hk => exact .inr ⟨Bool.eq_false_iff.2 hk, merge_spec h1⟩

end Call

namespace Site

/-! ## What the host at home is told -/

variable {g g' : Memory.Host} {es fs : List Exchange} {q : Request} {a : Answer}

theorem told_append : Told g (es ++ fs) g' ↔ ∃ g₁, Told g es g₁ ∧ Told g₁ fs g' := by
  constructor
  · intro ht
    induction es generalizing g with
    | nil => exact ⟨g, .nil, ht⟩
    | cons e es ih =>
      cases ht with
      | home hr ht =>
        obtain ⟨g₁, h1, h2⟩ := ih ht
        exact ⟨g₁, .home hr h1, h2⟩
      | remote ht =>
        obtain ⟨g₁, h1, h2⟩ := ih ht
        exact ⟨g₁, .remote h1, h2⟩
  · rintro ⟨g₁, h1, h2⟩
    induction h1 with
    | nil => exact h2
    | home hr _ ih => exact .home hr (ih h2)
    | remote _ ih => exact .remote (ih h2)

theorem told_home (ht : Told g [(.home, q, a)] g') : ∃ u, g.Replies q u a g' := by
  cases ht with
  | home hr ht =>
    cases ht
    exact ⟨_, hr⟩

/-- What the remote host is asked does not concern the one at home. -/
theorem told_remote (hes : ∀ x ∈ es, x.1 = .remote) (ht : Told g es g') : g' = g := by
  induction ht with
  | nil => rfl
  | home => exact nomatch hes _ List.mem_cons_self
  | remote _ ih => exact ih fun x hx => hes x (List.mem_cons_of_mem _ hx)

theorem told_specs (ht : Told g [(.home, .specs, a)] g') : g' = g ∧
    (g.available = true ∧ g.listing = .ok g.specs ∧ a = .specs g.specs ∨
      g.available = false ∧ ∃ e, g.listing = .error e ∧ a = .refused e) := by
  obtain ⟨u, hr⟩ := told_home ht
  obtain ⟨rfl, rfl⟩ := hr.specs
  rcases g'.listing_cases with ⟨hv, hl⟩ | ⟨hv, e, hl⟩
  · exact ⟨rfl, .inl ⟨hv, hl, by rw [hl]; rfl⟩⟩
  · exact ⟨rfl, .inr ⟨hv, e, hl, by rw [hl]; rfl⟩⟩

theorem told_gathering {r : Bool} {home remote : List Spec} (hg : Gathering r es home remote)
    (ht : Told g es g') : g' = g ∧ g.available = true ∧ g.listing = .ok g.specs ∧
      home = g.specs := by
  have first {fs : List Exchange} (hf : ∀ x ∈ fs, x.1 = .remote)
      (ht : Told g ((.home, .specs, .specs home) :: fs) g') : g' = g ∧ g.available = true ∧
        g.listing = .ok g.specs ∧ home = g.specs := by
    obtain ⟨g₁, h1, h2⟩ := told_append.1 (show Told g ([_] ++ fs) g' from ht)
    obtain ⟨rfl, ⟨hv, hl, ha⟩ | ⟨-, e, -, ha⟩⟩ := told_specs h1
    · cases ha
      exact ⟨told_remote hf h2, hv, hl, rfl⟩
    · cases ha
  cases hg with
  | alone => exact first (by simp) ht
  | both | degraded => exact first (by simp) ht

/-! ## What is known about types -/

/-- What a hub knows about types agrees with what is offered at home. `merged` tells whether the
catalog has been merged yet. -/
structure Knows (gr : Ground) (merged : Bool) (h : Hub) : Prop where
  default : h.setting.default? = gr.default?
  unseen : merged = false → h.provenance = {}
  seen : merged = true → ∀ name, gr.offers name = true → h.provenance.isHome name = true
  visible : ∀ name, gr.offers name = true → h.provenance.isRemote name = false

variable {gr : Ground} {merged : Bool} {h h' : Hub} {name : String} {asked : Option String}

theorem Knows.keep (hk : Knows gr merged h) (hs : h'.setting = h.setting)
    (hp : h'.provenance = h.provenance) : Knows gr merged h' := by
  refine ⟨hs ▸ hk.default, ?_, ?_, ?_⟩ <;> rw [hp]
  · exact hk.unseen
  · exact hk.seen
  · exact hk.visible

/-- A merge finds all that is offered at home. -/
theorem Knows.publish (hk : Knows gr merged h) (remote : List Spec) :
    Knows gr true { h with provenance := Catalog.provenance h.config gr.specs remote } := by
  have hl := Catalog.lawful_merge h.config gr.specs remote
  refine ⟨hk.default, nofun, fun _ name hn => ?_, fun name hn => ?_⟩
  · exact decide_eq_true ((hl.fromHome name).2 (of_decide_eq_true hn))
  · exact decide_eq_false fun hr => ((hl.fromGateway name).1 hr).2 (of_decide_eq_true hn)

/-- Where nothing is offered at home, a merge makes no difference. -/
theorem Knows.idle (hk : Knows gr merged h) {b : Bool}
    (hb : b = true → merged = true ∨ ∀ name, gr.offers name = false) :
    Knows gr (merged || b) h := by
  refine ⟨hk.default, fun hm => hk.unseen (Bool.or_eq_false_iff.1 hm).1, fun hm name hn => ?_,
    hk.visible⟩
  rcases Bool.or_eq_true_iff.1 hm with hm | hm
  · exact hk.seen hm name hn
  · rcases hb hm with hm | hno
    · exact hk.seen hm name hn
    · cases (hno name).symm.trans hn

/-- A type that is offered at home is known once the catalog has been merged. -/
theorem Knows.knows (hk : Knows gr merged h) (hn : gr.offers name = true) :
    h.provenance.knows name = merged := by
  cases merged with
  | true => simp [Provenance.knows, hk.seen rfl name hn]
  | false =>
    rw [hk.unseen rfl]
    rfl

theorem Knows.merged_of_knows (hk : Knows gr merged h) (hn : h.provenance.knows name = true) :
    merged = true := by
  cases merged with
  | true => rfl
  | false =>
    rw [hk.unseen rfl] at hn
    cases hn

theorem Knows.route (hk : Knows gr merged h) (hn : gr.offers name = true) :
    h.provenance.route name = .home := by
  simp [Provenance.route, hk.visible name hn]

/-- The type that a start is for. -/
def resolve (gr : Ground) (g : Memory.Host) (asked : Option String) : Except KernelError String :=
  match asked.or gr.default? with
  | some name => .ok name
  | none =>
    match g.listing with
    | .error e => .error (.catalog e)
    | .ok specs =>
      match Catalog.firstName? specs with
      | some name => .ok name
      | none => .error (.specNotFound "<default>")

/-- The name of its type is all that the start of a type at home brings to its registration. It
merges the catalog if nobody has yet. -/
def prepare (gr : Ground) (g : Memory.Host) (merged : Bool) (asked : Option String) :
    Except KernelError String := do
  let name ← resolve gr g asked
  if merged then return name
  else
    match g.listing with
    | .error e => .error (.catalog e)
    | .ok _ => return name

theorem prepare_ok (hr : resolve gr g asked = .ok name)
    (hl : merged = true ∨ g.listing = .ok g.specs) : prepare gr g merged asked = .ok name := by
  cases merged with
  | true =>
    simp only [prepare, hr]
    rfl
  | false =>
    have hl := hl.resolve_left nofun
    simp only [prepare, hr, hl]
    rfl

/-- The type that is started by default when home answers so to the question for its types. -/
def namedBy : Answer → Except KernelError String
  | .specs listed =>
    match Catalog.firstName? listed with
    | some name => .ok name
    | none => .error (.specNotFound "<default>")
  | .refused e => .error (.catalog e)
  | _ => .error .crashed

/-- A start finds out its type from the host at home alone. -/
theorem told_names {out : Except KernelError String} (hk : Knows gr merged h)
    (hg : g.specs = gr.specs) (hn : Ledger.Names h.setting asked es out) (ht : Told g es g') :
    g' = g ∧ resolve gr g asked = out := by
  have listed {a : Answer} (hd : h.setting.default? = none)
      (ht : Told g [(.home, .specs, a)] g') : g' = g ∧ resolve gr g none = namedBy a := by
    have hd : gr.default? = none := hk.default.symm.trans hd
    obtain ⟨rfl, ⟨-, hl, rfl⟩ | ⟨-, e, hl, rfl⟩⟩ := told_specs ht <;>
      exact ⟨rfl, by simp [resolve, namedBy, hd, hl]⟩
  cases hn with
  | given =>
    cases ht
    exact ⟨rfl, rfl⟩
  | default hd =>
    cases ht
    exact ⟨rfl, by simp [resolve, hk.default.symm.trans hd]⟩
  | first hd hf | nothing hd hf =>
    obtain ⟨rfl, hr⟩ := listed hd ht
    exact ⟨rfl, by simpa [namedBy, hf] using hr⟩
  | unlisted hd => exact listed hd ht

/-- Whether that is a type offered at home can be told before. -/
theorem offers_of_resolve (hg : g.specs = gr.specs) (hr : resolve gr g asked = .ok name) :
    gr.offers name = gr.starts asked := by
  simp only [resolve] at hr
  split at hr
  · next n hn =>
    cases hr
    simp [Ground.starts, hn]
  · next hn =>
    split at hr
    · cases hr
    · next specs hl =>
      split at hr
      · next n hf =>
        cases hr
        rcases g.listing_cases with ⟨-, hl'⟩ | ⟨-, e, hl'⟩
        · cases hl.symm.trans hl'
          rw [hg] at hf
          simp [Ground.starts, hn, Ground.offers, Catalog.mem_of_firstName? hf]
        · cases hl.symm.trans hl'
      · cases hr

theorem starts_of_resolve {e : KernelError} (hr : resolve gr g asked = .error e) :
    gr.starts asked = true := by
  simp only [resolve] at hr
  split at hr
  · cases hr
  · next hn => simp [Ground.starts, hn]

/-- A host that can be reached has no type to name only when it offers none. -/
theorem nothing_of_resolve {e : KernelError} (hg : g.specs = gr.specs) (hv : g.available = true)
    (hr : resolve gr g asked = .error e) (name : String) : gr.offers name = false := by
  simp only [resolve] at hr
  split at hr
  · cases hr
  · rcases g.listing_cases with ⟨-, hl⟩ | ⟨hv', -⟩
    · simp only [hl] at hr
      split at hr
      · cases hr
      · next hf =>
        rw [hg] at hf
        exact decide_eq_false (Catalog.of_firstName?_eq_none hf)
    · cases hv.symm.trans hv'

/-! ## What a site has come to -/

/-- The hub mirrors a ledger in which the kernels at home are those with certain ids, each bound
to a kernel of its own name, and no id is in use but those that starts have had. -/
structure Settled (gr : Ground) (ids used : List KernelId) (merged : Bool) (s : Site)
    (l : Ledger) : Prop where
  knows : Knows gr merged s.hub
  mirrors : Ledger.Mirrors s.hub l
  specs : s.home.specs = gr.specs
  bound : ∀ id e, Table.find? id l.live = some e →
    e.binding = ⟨.home, toString id⟩ ∧ id ∈ ids ∨ e.binding.side = .remote ∧ id ∉ ids
  issued : ∀ id, l.Holds id → id ∈ used
  live : ∀ d, Table.contains d s.home.live = true → ∃ id ∈ used, d = toString id

/-- The ledgers say the same of these ids. -/
def SameOn (ids : List KernelId) (l l' : Ledger) : Prop :=
  ∀ id ∈ ids, Table.find? id l'.live = Table.find? id l.live ∧ (id ∈ l'.retired ↔ id ∈ l.retired)

variable {ids used : List KernelId} {l l' : Ledger} {id : KernelId} {o : StartOptions}
  {fresh : KernelId} {res : Result}

theorem sameOn_refl (ids : List KernelId) (l : Ledger) : SameOn ids l l :=
  fun _ _ => ⟨rfl, Iff.rfl⟩

theorem sameOn_add (hi : id ∉ ids) (e : Ledger.Entry) : SameOn ids l (l.add id e) := by
  intro x hx
  have hne : x ≠ id := fun he => hi (he ▸ hx)
  exact ⟨Table.find?_set_of_ne hne e l.live, Iff.rfl⟩

/-! ## Starts -/

/-- What a start gives once its host has answered. -/
def begun (id : KernelId) (name : String) : Answer → Result
  | .refused e => .error (if e.isNotFound = true then .specNotFound name
    else .operationFailed id .start e)
  | _ => .ok (.started id)

/-- What a start at home leaves behind once its host has answered. -/
def enrolled (l : Ledger) (id : KernelId) (name : String) : Answer → Ledger
  | .started d => l.add id ⟨name, ⟨.home, d⟩, .running⟩
  | _ => l

theorem Settled.keep {m : Bool} (hs : Settled gr ids used merged ⟨h, g⟩ l) (hk : Knows gr m h')
    (hm : Ledger.Mirrors h' l) (id : KernelId) :
    Settled gr ids (id :: used) m ⟨h', g⟩ l :=
  ⟨hk, hm, hs.specs, hs.bound, fun x hx => List.mem_cons_of_mem _ (hs.issued x hx), fun d hd => by
    obtain ⟨x, hx, he⟩ := hs.live d hd
    exact ⟨x, List.mem_cons_of_mem _ hx, he⟩⟩

/-- A kernel more. -/
theorem Settled.add {e : Ledger.Entry} (hs : Settled gr ids used merged ⟨h, g⟩ l)
    (hk : Knows gr merged h') (hm : Ledger.Mirrors h' (l.add id e)) (hg : g'.specs = g.specs)
    (hb : e.binding = ⟨.home, toString id⟩ ∧ id ∈ ids ∨ e.binding.side = .remote ∧ id ∉ ids)
    (hd : ∀ d, Table.contains d g'.live = true →
      Table.contains d g.live = true ∨ d = toString id) :
    Settled gr ids (id :: used) merged ⟨h', g'⟩ (l.add id e) := by
  refine ⟨hk, hm, hg.trans hs.specs, fun x y hy => ?_, fun x hx => ?_, fun d hc => ?_⟩
  · simp only [Ledger.add, Table.find?_set] at hy
    split at hy
    · next hx =>
      cases hy
      exact hx ▸ hb
    · exact hs.bound x y hy
  · by_cases he : x = id
    · exact he ▸ List.mem_cons_self
    · refine List.mem_cons_of_mem _ (hs.issued x (hx.imp_left fun hc => ?_))
      simpa [Ledger.add, Table.contains_set, he] using hc
  · rcases hd d hc with hc | rfl
    · obtain ⟨x, hx, he⟩ := hs.live d hc
      exact ⟨x, List.mem_cons_of_mem _ hx, he⟩
    · exact ⟨id, List.mem_cons_self, rfl⟩

/-- A start at home whose id is new at home does what the host at home says. -/
theorem Settled.register_home (hs : Settled gr ids used merged ⟨h, g⟩ l) {id : KernelId}
    (hl : (Call.registering name o fresh).Leads h es h' (.ended res)) (ht : Told g es g')
    (ho : gr.offers name = true) (hi : o.id = some id) (hin : id ∈ ids) (hfresh : id ∉ used) :
    ∃ l', Settled gr ids (id :: used) merged ⟨h', g'⟩ l' ∧
      ∃ u a, g.Replies (.start name o) u a g' ∧ res = begun id name a ∧
        l' = enrolled l id name a := by
  have hk : Knows gr merged h' := hs.knows.keep (Call.setting_leads hl)
    (Call.provenance_leads hl (by simp [Call.rank]))
  have hspec := Ledger.registering_spec hs.mirrors hl
  rw [show o.id.getD fresh = id by rw [hi]; rfl, hs.knows.route ho] at hspec
  have hnew : Table.contains (toString id) g.live = false := by
    refine Bool.eq_false_iff.2 fun hc => ?_
    obtain ⟨x, hx, he⟩ := hs.live _ hc
    exact hfresh (KernelId.toString_injective he ▸ hx)
  rcases hspec with ⟨hh, -⟩ | ⟨-, ⟨hside, -⟩ | ⟨-, ⟨d, rfl, hm, rfl⟩ | ⟨e, rfl, hm, rfl⟩⟩⟩
  · exact absurd (hs.issued id hh) hfresh
  · cases hside
  · obtain ⟨u, hr⟩ := told_home ht
    obtain rfl := hr.pinned hi hnew
    refine ⟨_, hs.add hk hm hr.offer (.inl ⟨rfl, hin⟩) fun d hd => ?_, u, _, hr, rfl, rfl⟩
    refine (hr.live hd).imp_right ?_
    rintro ⟨_, _, -, he⟩
    cases he
    rfl
  · obtain ⟨u, hr⟩ := told_home ht
    refine ⟨l, ?_, u, _, hr, rfl, rfl⟩
    have hkeep := hs.keep hk hm id
    refine ⟨hk, hm, hr.offer.trans hs.specs, hs.bound, hkeep.issued, fun d hd => ?_⟩
    rcases hr.live hd with hd | ⟨_, _, -, he⟩
    · exact hkeep.live d hd
    · cases he

/-- The start of a type that is not offered at home leaves home alone. -/
theorem Settled.register_away (hs : Settled gr ids used merged ⟨h, g⟩ l) {id : KernelId}
    (hl : (Call.registering name o fresh).Leads h es h' (.ended res)) (ht : Told g es g')
    (ho : gr.offers name = false) (hid : o.id.getD fresh = id) (hout : id ∉ ids) :
    ∃ l', Settled gr ids (id :: used) merged ⟨h', g'⟩ l' ∧ g' = g ∧ SameOn ids l l' := by
  have hk : Knows gr merged h' := hs.knows.keep (Call.setting_leads hl)
    (Call.provenance_leads hl (by simp [Call.rank]))
  have hspec := Ledger.registering_spec hs.mirrors hl
  rw [hid] at hspec
  have aside (hm : Ledger.Mirrors h' l) (hg : g' = g) : ∃ l',
      Settled gr ids (id :: used) merged ⟨h', g'⟩ l' ∧ g' = g ∧ SameOn ids l l' := by
    subst hg
    exact ⟨l, hs.keep hk hm id, rfl, sameOn_refl ids l⟩
  have home {a : Answer} (ht : Told g [(.home, .start name o, a)] g') :
      g' = g ∧ ∃ e, a = .refused e := by
    obtain ⟨u, hr⟩ := told_home ht
    have hnone : g.specs.find? (·.name = name) = none := by
      rw [hs.specs]
      simpa [Ground.offers] using ho
    exact hr.unoffered hnone
  rcases hspec with ⟨-, rfl, rfl, rfl⟩ | ⟨-, ⟨-, rfl, hm, rfl⟩ |
    ⟨-, ⟨d, rfl, hm, rfl⟩ | ⟨e, rfl, hm, rfl⟩⟩⟩
  · cases ht
    exact aside hs.mirrors rfl
  · cases ht
    exact aside hm rfl
  · generalize h.provenance.route name = side at ht hm
    cases side with
    | home =>
      obtain ⟨-, e, he⟩ := home ht
      cases he
    | remote =>
      obtain rfl := told_remote (by simp) ht
      exact ⟨_, hs.add hk hm rfl (.inr ⟨rfl, hout⟩) fun d hd => .inl hd, rfl, sameOn_add hout _⟩
  · generalize h.provenance.route name = side at ht
    cases side with
    | home => exact aside hm (home ht).1
    | remote => exact aside hm (told_remote (by simp) ht)

/-- A start that registers its id asks the host at home if its type is offered there, and else
does not concern it. -/
theorem Settled.register (hs : Settled gr ids used merged ⟨h, g⟩ l)
    (hl : (Call.registering name o fresh).Leads h es h' (.ended res)) (ht : Told g es g')
    (hn : gr.offers name = true → o.id.isSome = true ∧ o.id.getD fresh ∈ ids ∧
      o.id.getD fresh ∉ used)
    (hf : gr.offers name = false → o.id.getD fresh ∉ ids) :
    ∃ l', Settled gr ids (o.id.getD fresh :: used) merged ⟨h', g'⟩ l' ∧
      (gr.offers name = true → ∃ u a, g.Replies (.start name o) u a g' ∧
        res = begun (o.id.getD fresh) name a ∧ l' = enrolled l (o.id.getD fresh) name a) ∧
      (gr.offers name = false → g' = g ∧ SameOn ids l l') := by
  cases ho : gr.offers name with
  | true =>
    obtain ⟨hsome, hin, hfresh⟩ := hn ho
    obtain ⟨id, hi⟩ := Option.isSome_iff_exists.1 hsome
    rw [hi, Option.getD_some] at hin hfresh ⊢
    obtain ⟨l', hs', hr⟩ := hs.register_home hl ht ho hi hin hfresh
    exact ⟨l', hs', fun _ => hr, nofun⟩
  | false =>
    obtain ⟨l', hs', hr⟩ := hs.register_away hl ht ho rfl (hf ho)
    exact ⟨l', hs', nofun, fun _ => hr⟩

/-- What the start of a type at home comes to. -/
inductive Begins (gr : Ground) (merged : Bool) (g : Memory.Host) (l : Ledger)
    (asked : Option String) (o : StartOptions) (id : KernelId) :
    Result → Memory.Host → Ledger → Prop
  | unprepared {e} (hp : prepare gr g merged asked = .error e) :
    Begins gr merged g l asked o id (.error e) g l
  | prepared {name u a g'} (hp : prepare gr g merged asked = .ok name)
    (hr : g.Replies (.start name o) u a g') :
    Begins gr merged g l asked o id (begun id name a) g' (enrolled l id name a)

/-- Starts of types at home depend on the host at home alone, and other starts do not concern
it. -/
theorem Settled.start (hs : Settled gr ids used merged ⟨h, g⟩ l)
    (hl : (Call.asked (.start asked o fresh)).Leads h es h' (.ended res)) (ht : Told g es g')
    (hn : gr.starts asked = true → o.id.isSome = true ∧ o.id.getD fresh ∈ ids ∧
      o.id.getD fresh ∉ used)
    (hf : gr.starts asked = false → o.id.getD fresh ∉ ids) :
    ∃ l', Settled gr ids (o.id.getD fresh :: used) (merged || g.available) ⟨h', g'⟩ l' ∧
      (gr.starts asked = true →
        Begins gr merged g l asked o (o.id.getD fresh) res g' l') ∧
      (gr.starts asked = false → g' = g ∧ SameOn ids l l') := by
  -- What is left when the start has found out its type, on a hub that knows the types well enough.
  have register {h₁ : Hub} {m : Bool} {name : String} {es : List Exchange}
      (hk : Knows gr m h₁) (hm : Ledger.Mirrors h₁ l) (ho : gr.offers name = gr.starts asked)
      (hp : gr.starts asked = true → prepare gr g merged asked = .ok name)
      (hl : (Call.registering name o fresh).Leads h₁ es h' (.ended res)) (ht : Told g es g') :
      ∃ l', Settled gr ids (o.id.getD fresh :: used) m ⟨h', g'⟩ l' ∧
        (gr.starts asked = true → Begins gr merged g l asked o (o.id.getD fresh) res g' l') ∧
        (gr.starts asked = false → g' = g ∧ SameOn ids l l') := by
    have hs₁ : Settled gr ids used m ⟨h₁, g⟩ l :=
      ⟨hk, hm, hs.specs, hs.bound, hs.issued, hs.live⟩
    obtain ⟨l', hs', h1, h2⟩ := hs₁.register hl ht (ho ▸ hn) (ho ▸ hf)
    refine ⟨l', hs', fun hst => ?_, fun hst => h2 (ho.trans hst)⟩
    obtain ⟨u, a, hr, rfl, rfl⟩ := h1 (ho.trans hst)
    exact .prepared (hp hst) hr
  rcases Call.name_spec hl with ⟨e, hname, rfl, rfl⟩ | ⟨name, fs, gs, rfl, hname, h1⟩
  · obtain ⟨rfl, hr⟩ := told_names hs.knows hs.specs hname ht
    have hst := starts_of_resolve hr
    have hp : prepare gr g' merged asked = .error e := by
      simp only [prepare, hr]
      rfl
    have hk : Knows gr (merged || g'.available) h' :=
      hs.knows.idle fun hv => .inr (nothing_of_resolve hs.specs hv hr)
    exact ⟨l, hs.keep hk hs.mirrors _, fun _ => .unprepared hp,
      fun hno => nomatch hst.symm.trans hno⟩
  · obtain ⟨g₁, ht₁, ht₂⟩ := told_append.1 ht
    obtain ⟨rfl, hr⟩ := told_names hs.knows hs.specs hname ht₁
    have ho := offers_of_resolve hs.specs hr
    rcases Call.checking_spec h1 with ⟨hk, h2⟩ |
      ⟨hk, ⟨e, rfl, rfl, rfl⟩ | ⟨home, remote, ks, gs, rfl, hg, h2⟩⟩
    · obtain rfl := hs.knows.merged_of_knows hk
      exact register hs.knows hs.mirrors ho (fun _ => prepare_ok hr (.inl rfl)) h2 ht₂
    · obtain ⟨rfl, ⟨-, -, ha⟩ | ⟨hv, e', hl, ha⟩⟩ := told_specs ht₂ <;> cases ha
      rw [hv, Bool.or_false]
      refine ⟨l, hs.keep hs.knows hs.mirrors _, fun hst => .unprepared ?_,
        fun _ => ⟨rfl, sameOn_refl ids l⟩⟩
      obtain rfl := (hs.knows.knows (ho.trans hst)).symm.trans hk
      simp only [prepare, hr, hl]
      rfl
    · obtain ⟨g₂, ht₃, ht₄⟩ := told_append.1 ht₂
      obtain ⟨rfl, hv, hl, rfl⟩ := told_gathering hg ht₃
      rw [hv, Bool.or_true]
      have hpub := hs.knows.publish remote
      rw [hs.specs] at h2
      exact register hpub (Ledger.mirrors_provenance hs.mirrors _) ho
        (fun _ => prepare_ok hr (.inr hl)) h2 ht₄

end Site

end KernelHub
