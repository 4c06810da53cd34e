import KernelHub.Proofs.Catalog
import KernelHub.Proofs.Listing

/-
Looking up one type right after the catalog was listed, over two hosts in memory. The lookup
asks the one host that the merge took the name from, and marks what it is told as the merge did:
so it never finds a type that the catalog lacks, and misses none. But of several types of one
name the host tells the first and the merge keeps the last, and only where the two look alike
does the lookup give what was listed.
-/

namespace KernelHub

namespace Catalog

/-- The first type of a name in a listing. -/
def first? (specs : List Spec) (name : String) : Option Spec := specs.find? (·.name = name)

theorem first?_eq_none {specs : List Spec} {n : String} :
    first? specs n = none ↔ last? specs n = none := by
  rw [last?_eq_none]
  simp [first?]

/-- Of one type at most, the first is the last. -/
theorem first?_eq_last? {specs : List Spec} {n : String}
    (h : (specs.filter fun s => s.name = n).length ≤ 1) : first? specs n = last? specs n := by
  rw [first?, last?, ← List.head?_filter]
  generalize specs.filter (fun s => s.name = n) = named at h
  cases named with
  | nil => rfl
  | cons s more =>
    have hm : more = [] := List.length_eq_zero_iff.1 (Nat.le_zero.1 (Nat.le_of_succ_le_succ h))
    rw [hm]
    rfl

end Catalog

namespace Memory

open Catalog (first? last? shown)

variable {h h' : Hub} {w w' : Pair} {es : List Exchange} {res : Result} {side : Side} {a : Answer}

/-! ## What the hosts tell about types -/

theorem Host.listing_of_available {host : Host} (hv : host.available = true) :
    host.listing = .ok host.specs := by
  simp [Host.listing, Host.checkAvailable, hv, Except.map]

theorem Host.available_of_listing {host : Host} {specs : List Spec}
    (hl : Host.looked .specs host.listing = .specs specs) :
    host.available = true ∧ specs = host.specs := by
  cases hv : host.available with
  | false =>
    simp [Host.listing, Host.checkAvailable, hv, Except.map, Host.looked] at hl
  | true =>
    rw [Host.listing_of_available hv] at hl
    cases hl
    exact ⟨rfl, rfl⟩

/-- A host that can be reached tells the first type of a name, or that there is none. -/
theorem Host.spec_of_available {host : Host} (hv : host.available = true) (name : String) :
    host.spec name = match first? host.specs name with
      | some s => .ok s
      | none => .error (.notFound s!"kernel spec {name}") := by
  simp only [Host.spec, Host.checkAvailable, hv, first?]
  rfl

theorem Pair.Replies.specs (hr : w.Replies side .specs a w') :
    w'.hosts = w.hosts ∧ a = Host.looked .specs (w.hosts side).listing := by
  obtain ⟨u, host, -, hr, rfl⟩ := hr
  obtain ⟨rfl, ha⟩ := hr.specs
  exact ⟨(congrArg Pair.hosts (setHost_self w side) :), ha⟩

theorem Pair.Replies.spec {name : String} (hr : w.Replies side (.spec name) a w') :
    w' = w ∧ a = Host.looked .spec ((w.hosts side).spec name) := by
  obtain ⟨u, host, -, hr, rfl⟩ := hr
  obtain ⟨rfl, ha⟩ := hr.spec
  cases hr with
  | told => exact ⟨by rw [Pair.setHost_self]; rfl, ha⟩
  | finished ha' => cases ha'

/-- A merge leaves the hosts alone. The remote types are those of the host, or none. -/
theorem gathering_of_says {home remote : List Spec} (hg : Gathering h.hasRemote es home remote)
    (hs : w.Says es w') : w'.hosts = w.hosts ∧ (w.hosts .home).available = true ∧
      home = (w.hosts .home).specs ∧ (remote = [] ∨ h.hasRemote = true ∧
        (w.hosts .remote).available = true ∧ remote = (w.hosts .remote).specs) := by
  cases hg with
  | alone =>
    obtain ⟨hw, ha⟩ := (Pair.says_one.1 hs).specs
    obtain ⟨hv, rfl⟩ := Host.available_of_listing ha.symm
    exact ⟨hw, hv, rfl, .inl rfl⟩
  | both hr =>
    cases hs with
    | cons h1 h2 =>
      obtain ⟨hw₁, ha₁⟩ := h1.specs
      obtain ⟨hw₂, ha₂⟩ := (Pair.says_one.1 h2).specs
      obtain ⟨hv₁, rfl⟩ := Host.available_of_listing ha₁.symm
      obtain ⟨hv₂, rfl⟩ := Host.available_of_listing ha₂.symm
      rw [hw₁] at hv₂
      exact ⟨hw₂.trans hw₁, hv₁, rfl, .inr ⟨hr, hv₂, by rw [hw₁]⟩⟩
  | degraded =>
    cases hs with
    | cons h1 h2 =>
      obtain ⟨hw₁, ha₁⟩ := h1.specs
      obtain ⟨hw₂, -⟩ := (Pair.says_one.1 h2).specs
      obtain ⟨hv₁, rfl⟩ := Host.available_of_listing ha₁.symm
      exact ⟨hw₂.trans hw₁, hv₁, rfl, .inl rfl⟩

/-! ## The host that a name leads to -/

/-- A type that is found by its name, or not. -/
def told (name : String) : Option Spec → Result
  | some s => .ok (.type s)
  | none => .error (.specNotFound name)

/-- The types that are offered by the host that a name leads to. -/
def offered (h : Hub) (w : Pair) (name : String) : List Spec :=
  (w.hosts (h.provenance.route name)).specs

/-- How types are marked that come from where a name leads to. -/
def mark (h : Hub) (name : String) : Spec → Spec :=
  (shown · (h.config.suffix (h.provenance.route name)))

/-- The name leads to a host, and it can be reached. -/
def Leading (h : Hub) (w : Pair) (name : String) : Prop :=
  h.hasSide (h.provenance.route name) = true ∧
    (w.hosts (h.provenance.route name)).available = true

/-- All that depends on where a name leads. -/
theorem of_route {name : String} {side : Side} (hr : h.provenance.route name = side) :
    (Leading h w name ↔ h.hasSide side = true ∧ (w.hosts side).available = true) ∧
      offered h w name = (w.hosts side).specs ∧
      mark h name = (shown · (h.config.suffix side)) := by
  subst hr
  exact ⟨Iff.rfl, rfl, rfl⟩

/-- A lookup always gives something. -/
theorem gives_type (h : Hub) (w : Pair) (name : String) :
    ∃ res, Gives h w (.type name) res := by
  have ends (x : Except HostError Spec) (suffix : String) (side : Side) :
      Host.looked .spec x ≠ .crashed ∧ ∃ res, (Call.describing name suffix side).answered? h
        (Host.looked .spec x) = some (.ended res) := by
    cases x with
    | ok s => exact ⟨nofun, _, rfl⟩
    | error e => exact ⟨nofun, by cases e <;> exact ⟨_, rfl⟩⟩
  have begins : Call.begin h (.type name) =
      if h.hasSide (h.provenance.route name) = true then
        .describing name (h.config.suffix (h.provenance.route name)) (h.provenance.route name)
      else .ended (.error (.specNotFound name)) := rfl
  split at begins
  · obtain ⟨hc, res, hs⟩ := ends ((w.hosts (h.provenance.route name)).spec name)
      (h.config.suffix (h.provenance.route name)) (h.provenance.route name)
    have hr : w.Replies (h.provenance.route name) (.spec name)
        (Host.looked .spec ((w.hosts (h.provenance.route name)).spec name)) w :=
      Pair.replies_self (.told nofun (show Host.accept _ default _ = _ from rfl)) rfl
    refine ⟨res, _, h, w, .step rfl ?_, Pair.says_one.2 hr⟩
    rw [begins]
    exact .answer rfl hc hs .refl
  · refine ⟨.error (.specNotFound name), _, h, w, .step rfl ?_, .nil⟩
    rw [begins]
    exact .refl

/-- A lookup tells the first type of the name where the name leads to, and changes nothing. -/
theorem type_of_leads {name : String} (hn : Leading h w name)
    (hl : (Call.asked (.type name)).Leads h es h' (.ended res)) (hs : w.Says es w') :
    h' = h ∧ w' = w ∧ res = told name ((first? (offered h w name) name).map (mark h name)) := by
  obtain ⟨p, rfl, hlook⟩ := Call.type_look hl
  have ht := Host.spec_of_available hn.2 name
  cases hlook with
  | described =>
    obtain ⟨rfl, ha⟩ := (Pair.says_one.1 hs).spec
    rw [ht] at ha
    split at ha
    · next s hf =>
      cases ha
      exact ⟨rfl, rfl, by rw [offered, hf]; rfl⟩
    · cases ha
  | undescribed =>
    obtain ⟨rfl, ha⟩ := (Pair.says_one.1 hs).spec
    rw [ht] at ha
    split at ha
    · cases ha
    · next hf =>
      cases ha
      exact ⟨rfl, rfl, by rw [offered, hf]; rfl⟩
  | homeless hside => exact absurd hn.1 (by simp [hside])

theorem gives_first {name : String} (hn : Leading h w name) :
    Gives h w (.type name) (told name ((first? (offered h w name) name).map (mark h name))) := by
  obtain ⟨res, hg⟩ := gives_type h w name
  obtain ⟨es, h', w', hl, hs⟩ := hg
  obtain ⟨rfl, rfl, rfl⟩ := type_of_leads hn hl hs
  exact ⟨es, _, _, hl, hs⟩

/-- After a merge every name leads to a host that can be reached, and the catalog has the last
type of the name that this host offers. -/
theorem leading_of_merge {types : Entries Spec}
    (hl : (Call.asked .types).Leads h es h' (.ended (.ok (.types types)))) (hs : w.Says es w') :
    w'.hosts = w.hosts ∧ ∀ n, Leading h' w' n ∧
      Entries.find? n types = (last? (offered h' w' n) n).map (mark h' n) := by
  obtain ⟨p, rfl, hlook⟩ := Call.types_look hl
  cases hlook with
  | @merged _ home remote hg =>
    obtain ⟨hw, hv, rfl, hr⟩ := gathering_of_says hg hs
    have law := Catalog.lawful_merge h.config (w.hosts .home).specs remote
    refine ⟨hw, fun n => ?_⟩
    by_cases hn : n ∈ (Catalog.provenance h.config (w.hosts .home).specs remote).remote
    · obtain ⟨hk, hh⟩ := (law.fromGateway n).1 hn
      obtain ⟨h1, h2, h3⟩ := of_route (w := w') (h := { h with
        provenance := Catalog.provenance h.config (w.hosts .home).specs remote })
        (if_pos (decide_eq_true hn))
      rw [h1, h2, h3, hw]
      obtain rfl | ⟨hside, hav, rfl⟩ := hr
      · exact absurd ((law.keys n).1 hk) (by simpa using hh)
      · exact ⟨⟨hside, hav⟩, law.atGateway n hh⟩
    · obtain ⟨h1, h2, h3⟩ := of_route (w := w') (h := { h with
        provenance := Catalog.provenance h.config (w.hosts .home).specs remote })
        (if_neg (by simpa [Provenance.isRemote] using hn))
      rw [h1, h2, h3, hw]
      refine ⟨⟨rfl, hv⟩, ?_⟩
      by_cases hh : n ∈ (w.hosts .home).specs.map Spec.name
      · exact law.atHome n hh
      · have hk : n ∉ Entries.keys (Catalog.merge h.config (w.hosts .home).specs remote) :=
          fun hk => hn ((law.fromGateway n).2 ⟨hk, hh⟩)
        rw [Entries.not_mem_keys.1 hk, Catalog.last?_eq_none.2 hh]
        rfl

/-! ## Agreement -/

/-- How lookups go in a state where the catalog has just been listed. -/
structure Lookups (h : Hub) (w : Pair) (types : Entries Spec) : Prop where
  /-- Each gives something, -/
  finds : ∀ n, ∃ res, Gives h w (.type n) res
  /-- and leaves everything as it is, so they may come one after the other. -/
  still : ∀ n es h' w' res, (Call.asked (.type n)).Leads h es h' (.ended res) → w.Says es w' →
    h' = h ∧ w' = w
  /-- A name that is not listed is not found. -/
  absent : ∀ n res, Gives h w (.type n) res →
    (res = .error (.specNotFound n) ↔ n ∉ Entries.keys types)
  /-- Any other name is found: what is told is the first type of the name where it leads to. -/
  first : ∀ n res, Gives h w (.type n) res →
    res = told n ((first? (offered h w n) n).map (mark h n))
  /-- What was listed is told exactly if that one looks like the last. -/
  agrees : ∀ n res, Gives h w (.type n) res → (res = told n (Entries.find? n types) ↔
    (first? (offered h w n) n).map (mark h n) = (last? (offered h w n) n).map (mark h n))
  /-- So it is of any name that its host offers once. -/
  once : ∀ n res, ((offered h w n).filter fun s => s.name = n).length ≤ 1 →
    Gives h w (.type n) res → res = told n (Entries.find? n types)

theorem told_injective {name : String} {s t : Option Spec} (h : told name s = told name t) :
    s = t := by
  cases s <;> cases t <;> cases h <;> rfl

/-- Right after a catalog was listed, whatever the hosts offer and whether the remote one can be
reached or not: a lookup tells the first of what the catalog shows the last of. -/
theorem lookups_of_merge {types : Entries Spec}
    (hl : (Call.asked .types).Leads h es h' (.ended (.ok (.types types)))) (hs : w.Says es w') :
    w'.hosts = w.hosts ∧ Lookups h' w' types := by
  obtain ⟨hw, hn⟩ := leading_of_merge hl hs
  have first (n : String) (res : Result) (hg : Gives h' w' (.type n) res) :
      res = told n ((first? (offered h' w' n) n).map (mark h' n)) := by
    obtain ⟨es', h₁, w₁, hl', hs'⟩ := hg
    exact (type_of_leads (hn n).1 hl' hs').2.2
  have agrees (n : String) (res : Result) (hg : Gives h' w' (.type n) res) :
      res = told n (Entries.find? n types) ↔ (first? (offered h' w' n) n).map (mark h' n) =
        (last? (offered h' w' n) n).map (mark h' n) := by
    rw [first n res hg, (hn n).2]
    exact ⟨told_injective, congrArg (told n)⟩
  refine ⟨hw, gives_type h' w', fun n es' h₁ w₁ res hl' hs' => ?_, fun n res hg => ?_, first,
    agrees, fun n res ho hg => ?_⟩
  · obtain ⟨h1, h2, -⟩ := type_of_leads (hn n).1 hl' hs'
    exact ⟨h1, h2⟩
  · have hk : n ∉ Entries.keys types ↔ first? (offered h' w' n) n = none := by
      rw [Entries.not_mem_keys, (hn n).2, Option.map_eq_none_iff, Catalog.first?_eq_none]
    rw [hk, first n res hg]
    cases first? (offered h' w' n) n with
    | none => simp [told]
    | some s => simp [told]
  · exact (agrees n res hg).2 (by rw [Catalog.first?_eq_last? ho])

/-- Two hosts that offer these types. -/
def offering (home remote : List Spec) : Pair where
  hosts
    | .home => { side := .home, specs := home }
    | .remote => { side := .remote, specs := remote }

/-- A type of Python that is shown in this way. -/
def pythonShown (displayName : String) : Spec := ⟨"python3", displayName, "python", []⟩

theorem says_specs (home remote : List Spec) : ∃ w,
    (offering home remote).Says [(.home, .specs, .specs home)] w :=
  ⟨_, Pair.says_one.2 ⟨some .zero, _, nofun,
    .finished (show Host.accept _ default _ = _ from rfl)
      (show Host.finish _ default _ _ = (_, Answer.specs home) from rfl), rfl⟩⟩

/-- A type that its host offers once is told as it was listed. -/
theorem lookups_python : ∃ es h w types,
    (Call.asked .types).Leads {} es h (.ended (.ok (.types types))) ∧
    (offering [pythonShown "Python 3"] []).Says es w ∧
    w.hosts = (offering [pythonShown "Python 3"] []).hosts ∧ Lookups h w types ∧
    Entries.find? "python3" types = some (pythonShown "Python 3 (Local)") := by
  obtain ⟨w, hs⟩ := says_specs [pythonShown "Python 3"] []
  have hl : (Call.asked .types).Leads {} [(.home, .specs, .specs [pythonShown "Python 3"])]
      _ (.ended (.ok (.types _))) :=
    .step rfl <| .answer rfl nofun rfl <| .step rfl <| .step rfl .refl
  obtain ⟨hw, hk⟩ := lookups_of_merge hl hs
  exact ⟨_, _, w, _, hl, hs, hw, hk, rfl⟩

/-- A host offers two types of one name: the catalog lists the second, and the lookup right after
it tells the first. -/
theorem first_told_last_listed : ∃ es h w types,
    (Call.asked .types).Leads {} es h (.ended (.ok (.types types))) ∧
    (offering [pythonShown "Python 3.11", pythonShown "Python 3.12"] []).Says es w ∧
    w.hosts = (offering [pythonShown "Python 3.11", pythonShown "Python 3.12"] []).hosts ∧
    Entries.find? "python3" types = some (pythonShown "Python 3.12 (Local)") ∧
    Gives h w (.type "python3") (.ok (.type (pythonShown "Python 3.11 (Local)"))) := by
  obtain ⟨w, hs⟩ := says_specs [pythonShown "Python 3.11", pythonShown "Python 3.12"] []
  have hl : (Call.asked .types).Leads {} [(.home, .specs,
      .specs [pythonShown "Python 3.11", pythonShown "Python 3.12"])]
      _ (.ended (.ok (.types _))) :=
    .step rfl <| .answer rfl nofun rfl <| .step rfl <| .step rfl .refl
  obtain ⟨hw, hn⟩ := leading_of_merge hl hs
  have hg := gives_first (hn "python3").1
  simp only [offered, hw] at hg
  exact ⟨_, _, w, _, hl, hs, hw, rfl, hg⟩

end Memory

end KernelHub
