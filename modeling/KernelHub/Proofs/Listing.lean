import KernelHub.Proofs.Hosted.Exact
import KernelHub.Proofs.Ledger.Jobs
import KernelHub.Proofs.Ledger.Sequence
import KernelHub.Proofs.Looks
import KernelHub.Proofs.Memory.Pair

/-
Listing all kernels and looking up one, on a hub that serves one caller at a time over two
hosts in memory, which may be controlled and may lose kernels between the calls. A listing
starts from what the hosts have and goes backwards through the id map; a lookup starts from
the record and goes through its binding. They agree because no two kernels of a hub are ever
bound to the same kernel of a host, whatever the hosts have lost.
-/

namespace KernelHub

namespace Memory

/-- What an unused hub over vacant hosts can come to, when its commands come one after the
other, each to its end, and anything may happen to the hosts in between. Shutting down all
kernels is so many commands. -/
inductive Reachable : Hub → Pair → Prop
  | new {h hosts} (hu : h.Unused) (hv : Hosted.Vacant hosts) : Reachable h ⟨hosts, []⟩
  | served {h w c es res h' w'} (hr : Reachable h w) (hc : c.offered = true)
    (hl : (Call.asked c).Leads h es h' (.ended res)) (hs : w.Says es w') : Reachable h' w'
  | controlled {h w} (side : Side) (c : Control) (hr : Reachable h w) :
    Reachable h (w.setHost side (c.apply (w.hosts side)))
  | killed {h w} (side : Side) (d : String) (hr : Reachable h w) :
    Reachable h (w.setHost side ((w.hosts side).kill d).1)

/-- What a command gives in a state of a hub and its hosts, with nothing happening meanwhile. -/
def Gives (h : Hub) (w : Pair) (c : Command) (res : Result) : Prop :=
  ∃ es h' w', (Call.asked c).Leads h es h' (.ended res) ∧ w.Says es w'

/-- Each kernel is bound to one of its own: under its own id, or under one that was drawn. -/
structure Owned (l : Ledger) (w : Pair) : Prop where
  named : ∀ id e, Table.find? id l.live = some e → e.binding.delegate = toString id ∨
    ∃ u ∈ w.drawn, e.binding.delegate = Host.made (w.hosts e.binding.side).side u
  apart : ∀ id id' e e', Table.find? id l.live = some e → Table.find? id' l.live = some e' →
    e.binding = e'.binding → id = id'

variable {h h' : Hub} {l l' : Ledger} {w w' : Pair} {es : List Exchange} {res : Result}

theorem owned_fewer (ho : Owned l w) (hsub : ∀ id e', Table.find? id l'.live = some e' →
      ∃ e, Table.find? id l.live = some e ∧ e.binding = e'.binding)
    (hd : w.drawn ⊆ w'.drawn) (hx : ∀ x, (w'.hosts x).side = (w.hosts x).side) : Owned l' w' := by
  refine ⟨fun id e' he => ?_, fun id id' e' f' he hf hb => ?_⟩
  · obtain ⟨e, hl, hb⟩ := hsub id e' he
    rcases ho.named id e hl with hn | ⟨u, hu, hn⟩
    · exact .inl (hb ▸ hn)
    · refine .inr ⟨u, hd hu, ?_⟩
      rw [hx, ← hb]
      exact hn
  · obtain ⟨e, hl, hbe⟩ := hsub id e' he
    obtain ⟨f, hl', hbf⟩ := hsub id' f' hf
    exact ho.apart id id' e f hl hl' (by rw [hbe, hbf, hb])

/-- The id of a kernel that a host has just started is no other kernel's. -/
theorem owned_started {o : StartOptions} {fresh : KernelId} {name d : String} {side : Side}
    (ho : Owned l w) (hh : ¬ l.Holds (o.id.getD fresh))
    (hr : w.Replies side (.start name o) (.started d) w') :
    Owned (l.add (o.id.getD fresh) ⟨name, ⟨side, d⟩, .running⟩) w' := by
  have hw := owned_fewer ho (fun id e he => ⟨e, he, rfl⟩) hr.drawn hr.sides
  have hside := hr.sides side
  obtain ⟨u, h', hu, hr, rfl⟩ := hr
  generalize hid : o.id.getD fresh = id at hh
  have hd : d = toString id ∨ ∃ v, u = some v ∧ d = Host.made (w.hosts side).side v := by
    refine hr.started.imp_left fun hd => ?_
    obtain ⟨x, hx, rfl⟩ := Option.map_eq_some_iff.1 hd
    rw [← hid, hx]
    rfl
  -- No kernel from before has the new one's binding.
  have hnew (id' : KernelId) (e' : Ledger.Entry) (he : Table.find? id' l.live = some e')
      (hb : e'.binding = ⟨side, d⟩) : id' = id := by
    rcases ho.named id' e' he with hn | ⟨x, hx, hn⟩ <;> rw [hb] at hn <;>
      rcases hd with rfl | ⟨v, rfl, rfl⟩
    · exact KernelId.toString_injective hn.symm
    · exact absurd hn.symm (Host.toString_ne_made id' _ v)
    · exact absurd hn (Host.toString_ne_made id _ x)
    · exact absurd (Host.made_injective hn ▸ hx) (hu v rfl)
  have hfree (id' : KernelId) (e' : Ledger.Entry) (he : Table.find? id' l.live = some e') :
      id' ≠ id := by
    rintro rfl
    exact hh (.inl (Table.contains_of_find? he))
  refine ⟨fun id' e' he => ?_, fun id₁ id₂ e₁ e₂ h1 h2 hb => ?_⟩
  · simp only [Ledger.add, Table.find?_set] at he
    split at he
    · next hi =>
      cases he
      subst hi
      refine hd.imp_right ?_
      rintro ⟨v, rfl, rfl⟩
      exact ⟨v, List.mem_append_left _ (by simp), by rw [hside]⟩
    · exact hw.named id' e' he
  · simp only [Ledger.add, Table.find?_set] at h1 h2
    split at h1 <;> split at h2
    · next hi₁ hi₂ => rw [hi₁, hi₂]
    · cases h1
      exact absurd (hnew id₂ e₂ h2 hb.symm) (hfree id₂ e₂ h2)
    · cases h2
      exact absurd (hnew id₁ e₁ h1 hb) (hfree id₁ e₁ h1)
    · exact ho.apart id₁ id₂ e₁ e₂ h1 h2 hb

/-- A hub, the ledger that it mirrors, and its hosts. -/
structure Kept (h : Hub) (l : Ledger) (w : Pair) : Prop where
  mirrors : Ledger.Mirrors h l
  owned : Owned l w
  sound : w.Sound

theorem kept_served {c : Command} (hk : Kept h l w) (hc : c.offered = true)
    (hl : (Call.asked c).Leads h es h' (.ended res)) (hs : w.Says es w') :
    ∃ l', Kept h' l' w' := by
  obtain ⟨l', hstep, hm⟩ := Ledger.command_simulates hc hk.mirrors hl
  refine ⟨l', hm, ?_, hs.sound hk.sound⟩
  rcases hstep.bindings with hsub | ⟨asked, o, fresh, fs, name, side, d, -, rfl, hh, rfl⟩
  · exact owned_fewer hk.owned hsub hs.drawn hs.sides
  · obtain ⟨w₁, h1, h2⟩ := Pair.says_append.1 hs
    have ho := owned_fewer hk.owned (fun id e he => ⟨e, he, rfl⟩) h1.drawn h1.sides
    exact owned_started ho hh (Pair.says_one.1 h2)

theorem kept_setHost {side : Side} {host : Host} (hk : Kept h l w) (hh : host.Sound)
    (hside : host.side = (w.hosts side).side) : Kept h l (w.setHost side host) := by
  refine ⟨hk.mirrors, owned_fewer hk.owned (fun id e he => ⟨e, he, rfl⟩)
    (List.Subset.refl _) fun x => ?_, Pair.sound_setHost hk.sound hh⟩
  simp only [Pair.setHost]
  split
  · next hx => rw [hside, hx]
  · rfl

theorem kept_of_reachable (hr : Reachable h w) : ∃ l, Kept h l w := by
  induction hr with
  | new hu hv =>
    exact ⟨{}, Ledger.mirrors_unused hu, ⟨fun _ _ he => (nomatch he),
      fun _ _ _ _ he => (nomatch he)⟩, fun side => Host.sound_vacant (hv side).2⟩
  | served _ hc hl hs ih =>
    obtain ⟨l, hk⟩ := ih
    exact kept_served hk hc hl hs
  | @controlled h w side c _ ih =>
    obtain ⟨l, hk⟩ := ih
    exact ⟨l, kept_setHost hk (Host.sound_apply (hk.sound side) c) (c.keeps_apply _).2⟩
  | @killed h w side d _ ih =>
    obtain ⟨l, hk⟩ := ih
    exact ⟨l, kept_setHost hk (Host.sound_kill (hk.sound side) d) rfl⟩

end Memory

/-! ## Models as clients see them -/

namespace Hub

variable {h : Hub} {side : Side} {ms : List Model}

/-- Distinct ids of a host's kernels become distinct ids of the hub's. -/
theorem nodup_clientModels (hn : (Table.keys h.idMap).Nodup) (ha : h.Apart)
    (hm : (ms.map Model.id).Nodup) : ((h.clientModels side ms).map Model.id).Nodup := by
  have he : (h.clientModels side ms).map Model.id = (ms.map Model.id).filterMap fun d =>
      (h.externalId? side d).map toString := by
    simp only [clientModels, List.map_filterMap, List.filterMap_map, Option.map_map]
    congr 1
    funext m
    show _ = Option.map toString (h.externalId? side m.id)
    cases h.externalId? side m.id with
    | none => rfl
    | some id => simp [id_clientModel]
  rw [he]
  refine List.Pairwise.filterMap _ (fun d d' hne x hd y hd' => ?_) hm
  obtain ⟨id, hi, rfl⟩ := Option.map_eq_some_iff.1 hd
  obtain ⟨id', hi', rfl⟩ := Option.map_eq_some_iff.1 hd'
  intro hx
  cases KernelId.toString_injective hx
  have h1 := (externalId?_eq_some hn ha).1 hi
  have h2 := (externalId?_eq_some hn ha).1 hi'
  cases h1.symm.trans h2
  exact hne rfl

end Hub

namespace Memory

variable {h h' : Hub} {l : Ledger} {w w' : Pair} {es : List Exchange} {res : Result} {side : Side}

theorem Kept.apart (hk : Kept h l w) : h.Apart := by
  intro id id' b hb hb'
  rw [hk.mirrors.mapped] at hb hb'
  obtain ⟨e, he, rfl⟩ := Option.map_eq_some_iff.1 hb
  obtain ⟨e', he', hbb⟩ := Option.map_eq_some_iff.1 hb'
  exact hk.owned.apart id id' e e' he he' hbb.symm

/-- A side lists a model exactly if an id is bound to that kernel of the host. -/
theorem Kept.mem_listed (hk : Kept h l w) (hv : (w.hosts side).available = true) {m : Model} :
    m ∈ h.clientModels side (w.hosts side).models ↔ ∃ id e d m₀,
      Table.find? id l.live = some e ∧ e.binding = ⟨side, d⟩ ∧
      (w.hosts side).shows? d = some m₀ ∧ m = Hub.clientModel id side m₀ := by
  have hx (d : String) (id : KernelId) : h.externalId? side d = some id ↔
      ∃ e, Table.find? id l.live = some e ∧ e.binding = ⟨side, d⟩ := by
    rw [Hub.externalId?_eq_some hk.mirrors.idMap hk.apart, hk.mirrors.mapped,
      Option.map_eq_some_iff]
  rw [Hub.mem_clientModels]
  constructor
  · rintro ⟨m₀, hm, id, hid, rfl⟩
    obtain ⟨d, hd, hs⟩ := (Host.mem_models (hk.sound side) hv).1 hm
    obtain ⟨e, he, hb⟩ := (hx m₀.id id).1 hid
    exact ⟨id, e, d, m₀, he, hd ▸ hb, hs, rfl⟩
  · rintro ⟨id, e, d, m₀, he, hb, hs, rfl⟩
    have hd : m₀.id = d := Host.id_shows hs
    exact ⟨m₀, (Host.mem_models (hk.sound side) hv).2 ⟨d, hd, hs⟩, id,
      (hx m₀.id id).2 ⟨e, he, hd ▸ hb⟩, rfl⟩

/-- What a side lists stands under ids that are bound to that side. -/
theorem Kept.side_of_mem (hk : Kept h l w) {ms : List Model} {m : Model}
    (hm : m ∈ h.clientModels side ms) :
    ∃ id, m.id = toString id ∧ h.kernelSide? id = some side := by
  obtain ⟨m₀, -, id, hid, rfl⟩ := Hub.mem_clientModels.1 hm
  refine ⟨id, Hub.id_clientModel .., ?_⟩
  have hb := (Hub.externalId?_eq_some hk.mirrors.idMap hk.apart).1 hid
  rw [hk.mirrors.mapped] at hb
  obtain ⟨e, he, hb⟩ := Option.map_eq_some_iff.1 hb
  rw [(Ledger.agrees_of_mirrors hk.mirrors).side, he]
  exact congrArg (some ·.side) hb

/-! ## What the two commands give -/

/-- The models that come from the remote host, if there is one and it can be reached. -/
def remoteModels (h : Hub) (w : Pair) : List Model :=
  if h.hasRemote = true ∧ (w.hosts .remote).available = true then
    h.clientModels .remote (w.hosts .remote).models
  else []

theorem of_found {found : List Model} (hf : h.Found es found) (hs : w.Says es w') :
    w' = w ∧ found = remoteModels h w := by
  cases hf with
  | alone hr =>
    cases hs
    exact ⟨rfl, by simp [remoteModels, hr]⟩
  | listed hr =>
    obtain ⟨rfl, ⟨hv, ha⟩ | ⟨-, e, ha⟩⟩ := (Pair.says_one.1 hs).list
    · cases ha
      exact ⟨rfl, by simp [remoteModels, hr, hv]⟩
    · cases ha
  | unlisted hr =>
    obtain ⟨rfl, ⟨-, ha⟩ | ⟨hv, -⟩⟩ := (Pair.says_one.1 hs).list
    · cases ha
    · exact ⟨rfl, by simp [remoteModels, hv]⟩

/-- A listing fails when the host at home cannot be reached, and only then. -/
theorem list_of_gives (hg : Gives h w .list res) :
    (w.hosts .home).available = true ∧
        res = .ok (.models (remoteModels h w ++ h.clientModels .home (w.hosts .home).models)) ∨
      (w.hosts .home).available = false ∧ ∃ e, res = .error e := by
  obtain ⟨es, h', w', hl, hs⟩ := hg
  obtain ⟨p, -, hlook⟩ := Call.list_look hl
  cases hlook with
  | listed hf =>
    obtain ⟨w₁, h1, h2⟩ := Pair.says_append.1 hs
    obtain ⟨rfl, rfl⟩ := of_found hf h1
    obtain ⟨-, ⟨hv, ha⟩ | ⟨-, e, ha⟩⟩ := (Pair.says_one.1 h2).list
    · cases ha
      exact .inl ⟨hv, rfl⟩
    · cases ha
  | unlisted hf =>
    obtain ⟨w₁, h1, h2⟩ := Pair.says_append.1 hs
    obtain ⟨rfl, rfl⟩ := of_found hf h1
    obtain ⟨-, ⟨-, ha⟩ | ⟨hv, -⟩⟩ := (Pair.says_one.1 h2).list
    · cases ha
    · exact .inr ⟨hv, _, rfl⟩

/-- A lookup gives the model of the kernel that the id is bound to, if its host shows one. -/
theorem model_of_gives {id : KernelId} (hk : Kept h l w)
    (hg : Gives h w (.kernel id .model) res) :
    (∃ e m, Table.find? id l.live = some e ∧
        (w.hosts e.binding.side).shows? e.binding.delegate = some m ∧
        res = .ok (.model (Hub.clientModel id e.binding.side m))) ∨
      (∀ e, Table.find? id l.live = some e →
        (w.hosts e.binding.side).shows? e.binding.delegate = none) ∧ ∃ e, res = .error e := by
  obtain ⟨es, h', w', hl, hs⟩ := hg
  obtain ⟨l', hstep, -⟩ := Ledger.command_simulates rfl hk.mirrors hl
  cases hstep with
  | unknown hf => exact .inr ⟨fun e he => (nomatch hf.symm.trans he), _, rfl⟩
  | @modelled id e m hf =>
    obtain ⟨-, ⟨m, hm, ha⟩ | ⟨-, x, ha⟩⟩ := (Pair.says_one.1 hs).model
    · cases ha
      exact .inl ⟨e, m, hf, hm, rfl⟩
    · cases ha
  | @notModelled id e x hf =>
    obtain ⟨-, ⟨m, -, ha⟩ | ⟨hno, -⟩⟩ := (Pair.says_one.1 hs).model
    · cases ha
    · refine .inr ⟨fun e' he => ?_, _, rfl⟩
      cases hf.symm.trans he
      exact hno
  | looked hc => cases hc

/-! ## That they give something -/

/-- The two hosts, as they would answer now. -/
def Pair.telling (w : Pair) : Hosts := fun _ side q =>
  match q with
  | .connect .. => .refused Host.notConnected
  | q =>
    match ((w.hosts side).accept default q).2 with
    | .inl a => a
    | .inr _ => .refused Host.notConnected

theorem Pair.fitting_telling (w : Pair) : w.telling.Fitting := by
  intro past side q
  have fits (hq : ∀ c b, q ≠ .connect c b) (he : ∀ e, ((w.hosts side).accept default q).2 = .inr e →
      q.Fits (.refused Host.notConnected) = true) : q.Fits (match
        ((w.hosts side).accept default q).2 with
      | .inl a => a
      | .inr _ => .refused Host.notConnected) = true := by
    split
    · next ha => exact Host.fits_accept ha hq
    · next hf => exact he _ hf
  cases q with
  | connect => rfl
  | has => exact fits nofun nofun
  | _ => exact fits nofun fun _ _ => rfl

/-- Does the question leave its host as it is? -/
def Asks (q : Request) : Prop := q = .list ∨ ∃ d, q = .model d

theorem Pair.says_telling (hq : ∀ x ∈ es, Asks x.2.1) {past : List Exchange}
    (hs : w.telling.Say past es) : w.Says es w := by
  induction es generalizing past with
  | nil => exact .nil
  | cons x es ih =>
    obtain ⟨side, q, a⟩ := x
    obtain ⟨rfl, hs⟩ := hs
    refine .cons (replies_self ?_ rfl) (ih (fun x hx => hq x (List.mem_cons_of_mem _ hx)) hs)
    rcases hq _ List.mem_cons_self with h1 | ⟨d, h1⟩ <;> simp only at h1 <;> subst h1
    · exact .told nofun (show (w.hosts side).accept default .list = _ from rfl)
    · exact .told nofun (show (w.hosts side).accept default (.model d) = _ from rfl)

theorem gives_of_asks {c : Command} (hk : Kept h l w) (hc : c.offered = true)
    (hq : ∀ es h' res, (Call.asked c).Leads h es h' (.ended res) → ∀ x ∈ es, Asks x.2.1) :
    ∃ res, Gives h w c res := by
  obtain ⟨es, h', res, hl, hs⟩ := Call.comes_to_end (c := .asked c) w.fitting_telling
    ⟨hc, Ledger.idle_of_mirrors hk.mirrors⟩ []
  exact ⟨res, es, h', w, hl, Pair.says_telling (hq es h' res hl) hs⟩

theorem gives_list (hk : Kept h l w) : ∃ res, Gives h w .list res := by
  refine gives_of_asks hk rfl fun es h' res hl => ?_
  have ask {fs : List Exchange} {found : List Model} {a : Answer} (hf : h.Found fs found) :
      ∀ x ∈ fs ++ [(.home, .list, a)], Asks x.2.1 := by
    cases hf <;> simp [Asks]
  obtain ⟨p, -, hlook⟩ := Call.list_look hl
  cases hlook with
  | listed hf | unlisted hf => exact ask hf

theorem gives_model (hk : Kept h l w) (id : KernelId) :
    ∃ res, Gives h w (.kernel id .model) res := by
  refine gives_of_asks hk rfl fun es h' res hl => ?_
  obtain ⟨l', hstep, -⟩ := Ledger.command_simulates rfl hk.mirrors hl
  cases hstep with
  | unknown => simp
  | modelled | notModelled => simp [Asks]
  | looked hc => cases hc

/-! ## Agreement -/

/-- A listing and the lookups in the same state agree. -/
structure Consistent (h : Hub) (w : Pair) : Prop where
  lists : ∃ res, Gives h w .list res
  finds : ∀ id, ∃ res, Gives h w (.kernel id .model) res
  result : ∀ res, Gives h w .list res → (∃ ms, res = .ok (.models ms)) ∨ ∃ e, res = .error e
  /-- A listing fails when the host at home cannot be reached, and only then. -/
  fails : ∀ res, Gives h w .list res →
    ((∃ e, res = .error e) ↔ (w.hosts .home).available = false)
  distinct : ∀ ms, Gives h w .list (.ok (.models ms)) → (ms.map Model.id).Nodup
  /-- The models of remote kernels come first. -/
  ranked : ∀ ms, Gives h w .list (.ok (.models ms)) → ∃ rs hs, ms = rs ++ hs ∧
    (∀ m ∈ rs, ∃ id, m.id = toString id ∧ h.kernelSide? id = some .remote) ∧
    ∀ m ∈ hs, ∃ id, m.id = toString id ∧ h.kernelSide? id = some .home
  agree : ∀ ms, Gives h w .list (.ok (.models ms)) → ∀ id m,
    m ∈ ms ∧ m.id = toString id ↔
      h.hasKernel id = true ∧ Gives h w (.kernel id .model) (.ok (.model m))

/-- What a listing shows under an id is what the host shows for the kernel that the id has. -/
theorem Kept.mem_list_iff (hk : Kept h l w) (hv : (w.hosts .home).available = true) {m : Model}
    {id : KernelId} :
    m ∈ remoteModels h w ++ h.clientModels .home (w.hosts .home).models ∧ m.id = toString id ↔
      ∃ e m₀, Table.find? id l.live = some e ∧
        (w.hosts e.binding.side).shows? e.binding.delegate = some m₀ ∧
        m = Hub.clientModel id e.binding.side m₀ := by
  constructor
  · rintro ⟨hm, hid⟩
    have found {side : Side} (hv : (w.hosts side).available = true)
        (hm : m ∈ h.clientModels side (w.hosts side).models) : ∃ e m₀,
        Table.find? id l.live = some e ∧
        (w.hosts e.binding.side).shows? e.binding.delegate = some m₀ ∧
        m = Hub.clientModel id e.binding.side m₀ := by
      obtain ⟨id', e, d, m₀, he, hb, hs, rfl⟩ := (hk.mem_listed hv).1 hm
      rw [Hub.id_clientModel] at hid
      cases KernelId.toString_injective hid
      exact ⟨e, m₀, he, by rw [hb]; exact hs, by rw [hb]⟩
    rcases List.mem_append.1 hm with hm | hm
    · simp only [remoteModels] at hm
      split at hm
      · next hr => exact found hr.2 hm
      · cases hm
    · exact found hv hm
  · rintro ⟨e, m₀, he, hs, rfl⟩
    refine ⟨?_, Hub.id_clientModel ..⟩
    obtain ⟨p, hp⟩ := hk.mirrors.registered id e he
    obtain ⟨e', he', -, hside⟩ := hk.mirrors.known id p hp
    cases he.symm.trans he'
    have hve := Host.available_of_shows hs
    have hin := (hk.mem_listed hve).2 ⟨id, e, e.binding.delegate, m₀, he, rfl, hs, rfl⟩
    generalize e.binding.side = side at hve hside hin
    cases side with
    | home => exact List.mem_append_right _ hin
    | remote =>
      refine List.mem_append_left _ ?_
      rw [remoteModels, if_pos ⟨hside, hve⟩]
      exact hin

/-- No model is listed twice. -/
theorem Kept.nodup_list (hk : Kept h l w) :
    ((remoteModels h w ++ h.clientModels .home (w.hosts .home).models).map Model.id).Nodup := by
  have side (x : Side) : ((h.clientModels x (w.hosts x).models).map Model.id).Nodup :=
    Hub.nodup_clientModels hk.mirrors.idMap hk.apart (Host.nodup_models (hk.sound x))
  simp only [remoteModels]
  split
  · rw [List.map_append, List.nodup_append]
    refine ⟨side .remote, side .home, fun x hx y hy hxy => ?_⟩
    obtain ⟨m, hm, rfl⟩ := List.mem_map.1 hx
    obtain ⟨m', hm', rfl⟩ := List.mem_map.1 hy
    obtain ⟨id, hid, hr⟩ := hk.side_of_mem hm
    obtain ⟨id', hid', hh⟩ := hk.side_of_mem hm'
    -- The id would be bound to both sides.
    cases KernelId.toString_injective (hid.symm.trans (hxy.trans hid'))
    cases hr.symm.trans hh
  · exact side .home

/-- A lookup finds what the host shows for the kernel that the id has. -/
theorem Kept.gives_model_iff (hk : Kept h l w) {m : Model} {id : KernelId} :
    h.hasKernel id = true ∧ Gives h w (.kernel id .model) (.ok (.model m)) ↔
      ∃ e m₀, Table.find? id l.live = some e ∧
        (w.hosts e.binding.side).shows? e.binding.delegate = some m₀ ∧
        m = Hub.clientModel id e.binding.side m₀ := by
  rw [(Ledger.agrees_of_mirrors hk.mirrors).kernel]
  constructor
  · rintro ⟨-, hg⟩
    rcases model_of_gives hk hg with ⟨e, m₀, he, hs, heq⟩ | ⟨-, e, heq⟩
    · cases heq
      exact ⟨e, m₀, he, hs, rfl⟩
    · cases heq
  · rintro ⟨e, m₀, he, hs, rfl⟩
    refine ⟨Table.contains_of_find? he, ?_⟩
    obtain ⟨res, hg⟩ := gives_model hk id
    rcases model_of_gives hk hg with ⟨e', m', he', hs', rfl⟩ | ⟨hno, -⟩
    · cases he.symm.trans he'
      cases hs.symm.trans hs'
      exact hg
    · cases hs.symm.trans (hno e he)

/-- What a listing that succeeds gives. -/
theorem models_of_gives {ms : List Model} (hg : Gives h w .list (.ok (.models ms))) :
    (w.hosts .home).available = true ∧
      ms = remoteModels h w ++ h.clientModels .home (w.hosts .home).models := by
  rcases list_of_gives hg with ⟨hv, he⟩ | ⟨-, e, he⟩
  · cases he
    exact ⟨hv, rfl⟩
  · cases he

theorem Kept.side_of_remote (hk : Kept h l w) {m : Model} (hm : m ∈ remoteModels h w) :
    ∃ id, m.id = toString id ∧ h.kernelSide? id = some .remote := by
  simp only [remoteModels] at hm
  split at hm
  · exact hk.side_of_mem hm
  · cases hm

/-- Whatever has been done and has happened, listing and looking up agree. -/
theorem consistent_of_reachable (hr : Reachable h w) : Consistent h w := by
  obtain ⟨l, hk⟩ := kept_of_reachable hr
  refine ⟨gives_list hk, gives_model hk, fun res hg => ?_, fun res hg => ?_, fun ms hg => ?_,
    fun ms hg => ?_, fun ms hg id m => ?_⟩
  · rcases list_of_gives hg with ⟨-, rfl⟩ | ⟨-, e, rfl⟩
    · exact .inl ⟨_, rfl⟩
    · exact .inr ⟨e, rfl⟩
  · rcases list_of_gives hg with ⟨hv, rfl⟩ | ⟨hv, e, rfl⟩
    · simp [hv]
    · simp [hv]
  · obtain ⟨-, rfl⟩ := models_of_gives hg
    exact hk.nodup_list
  · obtain ⟨-, rfl⟩ := models_of_gives hg
    exact ⟨_, _, rfl, fun m hm => hk.side_of_remote hm, fun m hm => hk.side_of_mem hm⟩
  · obtain ⟨hv, rfl⟩ := models_of_gives hg
    exact (hk.mem_list_iff hv).trans hk.gives_model_iff.symm

/-- A start of Python at home, under an id of the host's making. -/
def madeStart : List Exchange :=
  [(.home, .start "python3" {}, .started (Host.made .home .zero))]

/-- A kernel that its host loses once it has started: it stays registered, and neither the
listing nor the lookup has it. -/
theorem consistent_killed : ∃ h w, Reachable h w ∧ h.hasKernel .zero = true ∧ Consistent h w := by
  have key {h : Hub} {w : Pair} {res : Result}
      (hl : (Call.asked (.start (some "python3") {} .zero)).Leads pythonHub madeStart h
        (.ended res))
      (hs : Pair.Says ⟨Hosted.vacantHosts, []⟩ madeStart w) (hk : h.hasKernel .zero = true) :
      ∃ h w, Reachable h w ∧ h.hasKernel .zero = true ∧ Consistent h w := by
    have hr : Reachable pythonHub ⟨Hosted.vacantHosts, []⟩ :=
      .new pythonHub_unused fun side => ⟨rfl, rfl⟩
    have hr := (hr.served rfl hl hs).killed .home (Host.made .home .zero)
    exact ⟨_, _, hr, hk, consistent_of_reachable hr⟩
  have hl : ∃ h, (Call.asked (.start (some "python3") {} .zero)).Leads pythonHub madeStart h
      (.ended (.ok (.started .zero))) ∧ h.hasKernel .zero = true :=
    ⟨_, .step rfl <| .step rfl <| .step rfl <| .step rfl <| .step rfl <| .answer rfl nofun rfl <|
      .step rfl <| .step rfl <| .step rfl <| .step rfl <| .step rfl .refl, rfl⟩
  obtain ⟨h, hl, hk⟩ := hl
  exact key hl (Pair.says_one.2 ⟨some .zero, _, by simp,
    .finished (show Host.accept _ default _ = _ from rfl)
      (show Host.finish _ default _ _ = (_, Answer.started _) from rfl), rfl⟩) hk

end Memory

end KernelHub
