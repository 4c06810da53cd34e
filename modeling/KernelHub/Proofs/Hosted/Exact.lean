import KernelHub.Proofs.Hosted.Accounts

/-
The hosts and the id map. Between starts and shutdowns each host has exactly the kernels
that the id map has for its side, so none is left behind and none is missing; and at all
times the id map can be read in both directions.
-/

namespace KernelHub

namespace Work

variable {h : Hub} {r : Record} {job : Job} {p : Phase}

/-- Work that is no start leaves its record standing for what it is bound to. -/
theorem stands_of_not_starts {id : KernelId} (hf : p.Fits h r job) (ht : p.Typed id job)
    (hj : ¬ job.Starts) (x : Option Transit) (b : Option Binding) : p.stands x b = b := by
  cases p with
  | calling side q =>
    rcases hf with ⟨o, ho, -⟩ | ⟨c, s, -, -, hq⟩
    · exact absurd ⟨o, ho⟩ hj
    · cases job <;> cases hq <;> rfl
  | mapping | binding => exact absurd ht hj
  | _ => rfl

/-- Only shutdowns take kernels away. -/
theorem not_gone_of_not_shutdown {id : KernelId} (hf : p.Fits h r job) (ht : p.Typed id job)
    (hj : ∀ now, job ≠ .shutdown now) (x : Option Transit) : p.gone x = false := by
  cases p with
  | calling side q =>
    rcases hf with ⟨o, -, rfl, -⟩ | ⟨c, s, -, -, hq⟩
    · rfl
    · cases job with
      | start => cases hq
      | shutdown now => exact absurd rfl (hj now)
      | interrupt | restart | model => cases hq; rfl
  | unmapping | unbinding =>
    obtain ⟨now, hs⟩ := ht
    exact absurd hs (hj now)
  | _ => rfl

end Work

/-! ## Reading the id map backwards -/

namespace Hub

/-- No two ids share an entry of the id map. -/
def Apart (h : Hub) : Prop :=
  ∀ id id' b, Table.find? id h.idMap = some b → Table.find? id' h.idMap = some b → id = id'

variable {h : Hub} {side : Side} {d : String} {id : KernelId}

/-- What is read backwards stands in the id map. -/
theorem find?_of_externalId? (hn : (Table.keys h.idMap).Nodup)
    (he : h.externalId? side d = some id) : Table.find? id h.idMap = some ⟨side, d⟩ := by
  obtain ⟨⟨id', b⟩, hf, rfl⟩ := Option.map_eq_some_iff.1 he
  have hb : b = ⟨side, d⟩ := by
    have hp := List.find?_some hf
    simp only [decide_eq_true_eq] at hp
    obtain ⟨rfl, rfl⟩ := hp
    rfl
  subst hb
  exact (Table.mem_iff_find? hn).1 (List.mem_of_find?_eq_some hf)

/-- What stands in the id map under one id only is read backwards. -/
theorem externalId?_of_find? (hn : (Table.keys h.idMap).Nodup)
    (ha : ∀ id', Table.find? id' h.idMap = some ⟨side, d⟩ → id' = id)
    (he : Table.find? id h.idMap = some ⟨side, d⟩) : h.externalId? side d = some id := by
  have hm : (id, (⟨side, d⟩ : Binding)) ∈ h.idMap := Table.mem_of_find? he
  cases hx : h.externalId? side d with
  | some id' => rw [ha id' (find?_of_externalId? hn hx)]
  | none =>
    have hf := List.find?_eq_none.1 (Option.map_eq_none_iff.1 hx) _ hm
    simp at hf

theorem externalId?_eq_some (hn : (Table.keys h.idMap).Nodup) (ha : h.Apart) :
    h.externalId? side d = some id ↔ Table.find? id h.idMap = some ⟨side, d⟩ :=
  ⟨find?_of_externalId? hn, fun he => externalId?_of_find? hn (fun _ he' => ha _ _ _ he' he) he⟩

theorem id_clientModel (id : KernelId) (side : Side) (m : Model) :
    (clientModel id side m).id = toString id := by cases side <;> rfl

theorem mem_clientModels {ms : List Model} {m : Model} : m ∈ h.clientModels side ms ↔
    ∃ m₀ ∈ ms, ∃ id, h.externalId? side m₀.id = some id ∧ m = clientModel id side m₀ := by
  simp only [clientModels, List.mem_filterMap, Option.map_eq_some_iff, eq_comm (a := m)]

theorem mem_delegates (hn : (Table.keys h.idMap).Nodup) :
    (d, id) ∈ h.delegates side ↔ Table.find? id h.idMap = some ⟨side, d⟩ := by
  rw [← Table.mem_iff_find? hn, delegates, List.mem_map]
  constructor
  · rintro ⟨⟨id', b⟩, he, hd⟩
    obtain ⟨hm, hs⟩ := List.mem_filter.1 he
    simp only [decide_eq_true_eq] at hs
    cases hd
    cases hs
    exact hm
  · intro he
    exact ⟨_, List.mem_filter.2 ⟨he, by simp⟩, rfl⟩

/-- The list of a side's kernels names each host's id once. -/
theorem nodup_delegates (hn : (Table.keys h.idMap).Nodup) (ha : h.Apart) (side : Side) :
    ((h.delegates side).map (·.1)).Nodup := by
  have hids : h.idMap.Pairwise (fun x y => x.1 ≠ y.1) := List.pairwise_map.1 hn
  refine List.pairwise_map.2 (List.pairwise_map.2 ((hids.filter _).imp_of_mem ?_))
  rintro ⟨id, b⟩ ⟨id', b'⟩ hx hy hne hd
  obtain ⟨hx, hs⟩ := List.mem_filter.1 hx
  obtain ⟨hy, hs'⟩ := List.mem_filter.1 hy
  simp only [decide_eq_true_eq] at hs hs'
  -- The side and the host's id make up the entry.
  have hb : b = b' := by
    obtain ⟨_, _⟩ := b
    obtain ⟨_, _⟩ := b'
    cases hs
    cases hs'
    cases hd
    rfl
  subst hb
  exact hne (ha id id' b ((Table.mem_iff_find? hn).1 hx) ((Table.mem_iff_find? hn).1 hy))

end Hub

namespace Hosted

variable {s : Hosted} {m : Nat → Option Binding}

/-- No start and no shutdown is under way on a record. -/
def Quiet (s : Hosted) : Prop :=
  ∀ (i : Nat) (w : Work) (a : Call.After), s.traffic.calls[i]? = some (.working w a) →
    ¬ w.job.Starts ∧ ∀ now, w.job ≠ .shutdown now

/-- The hosts and the id map say the same, and the id map says it in both directions. -/
structure Exact (s : Hosted) : Prop where
  held : s.Quiet → ∀ side d, d ∈ (s.hosts side).ids ↔
    ∃ id, Table.find? id s.hub.idMap = some ⟨side, d⟩
  apart : s.hub.Apart
  external : ∀ side d id, s.hub.externalId? side d = some id ↔
    Table.find? id s.hub.idMap = some ⟨side, d⟩
  delegates : ∀ side d id, (d, id) ∈ s.hub.delegates side ↔
    Table.find? id s.hub.idMap = some ⟨side, d⟩
  /-- No kernel of a host is listed twice. -/
  listed : ∀ side, ((s.hub.delegates side).map (·.1)).Nodup

/-- A record that is bound stands for what it is bound to. -/
theorem stands_of_bound {p : Nat} {r : Record} {b : Binding} (hr : s.traffic.Reachable)
    (hst : s.Standing m) (hrec : s.hub.record? p = some r) (hb : r.binding = some b) :
    m p = some b := by
  rcases hst.inside_or hrec with ⟨i, w, a, hc, rfl, -, hm⟩ | hm
  · exact hm.trans (Work.stands_bound ((Traffic.guarded_of_reachable hr).fits i w a r hc hrec) hb)
  · exact hm.trans hb

/-- What an id is mapped to, a record with this id stands for. -/
theorem stands_of_entry {id : KernelId} {b : Binding} (hr : s.traffic.Reachable)
    (hst : s.Standing m) (hf : Table.find? id s.hub.idMap = some b) :
    ∃ p r, s.hub.record? p = some r ∧ r.id = id ∧ m p = some b := by
  obtain ⟨p, r, hrec, hid, hor⟩ := (Traffic.mapped_of_reachable hr).mapped id b hf
  refine ⟨p, r, hrec, hid, ?_⟩
  rcases hor with hb | ⟨i, w, hc, rfl, hph⟩
  · exact stands_of_bound hr hst hrec hb
  · rw [hst.inside i w _ r hc (by rw [hph]; rfl) hrec, hph]
    rfl

theorem apart_of_accounted (hr : s.traffic.Reachable) (ha : s.Accounted m) : s.hub.Apart := by
  intro id id' b hf hf'
  obtain ⟨p, r, hrec, rfl, hm⟩ := stands_of_entry hr ha.standing hf
  obtain ⟨p', r', hrec', rfl, hm'⟩ := stands_of_entry hr ha.standing hf'
  obtain rfl := ha.unique p p' b hm hm'
  cases hrec.symm.trans hrec'
  rfl

/-! ## Between starts and shutdowns -/

/-- Each record stands for what it is bound to, and its kernel is there. -/
theorem quiet_record {p : Nat} {r : Record} (hr : s.traffic.Reachable) (hst : s.Standing m)
    (hq : s.Quiet) (hrec : s.hub.record? p = some r) : m p = r.binding ∧ ¬ s.Gone p := by
  have hg := Traffic.guarded_of_reachable hr
  have hpl := Traffic.placed_of_reachable hr
  constructor
  · rcases hst.inside_or hrec with ⟨i, w, a, hc, rfl, -, hm⟩ | hm
    · obtain ⟨-, hty⟩ := hpl.suits hc hrec
      exact hm.trans (Work.stands_of_not_starts (hg.fits i w a r hc hrec) hty (hq i w a hc).1 _ _)
    · exact hm
  · rintro ⟨i, c, hc, hl⟩
    cases c with
    | working w a =>
      obtain ⟨rfl, hgone⟩ := hl
      obtain ⟨-, hty⟩ := hpl.suits hc hrec
      cases hgone.symm.trans (Work.not_gone_of_not_shutdown (hg.fits i w a r hc hrec) hty
        (hq i w a hc).2 _)
    | _ => exact hl

/-- A binding is in the id map, unless a shutdown is about to clear it. -/
theorem quiet_entry {p : Nat} {r : Record} {b : Binding} (hr : s.traffic.Reachable)
    (hq : s.Quiet) (hrec : s.hub.record? p = some r) (hb : r.binding = some b) :
    Table.find? r.id s.hub.idMap = some b := by
  rcases (Traffic.mapped_of_reachable hr).bound p r b hrec hb with hf | ⟨i, w, a, hc, -, hph⟩
  · exact hf
  · obtain ⟨r₀, -, -, hty⟩ := (Traffic.placed_of_reachable hr).working i w a hc
    rw [hph] at hty
    obtain ⟨now, hj⟩ := hty
    exact absurd hj ((hq i w a hc).2 now)

theorem held_of_quiet (hr : s.traffic.Reachable) (ha : s.Accounted m) (hq : s.Quiet)
    (side : Side) (d : String) :
    d ∈ (s.hosts side).ids ↔ ∃ id, Table.find? id s.hub.idMap = some ⟨side, d⟩ := by
  rw [Memory.Host.ids, Table.mem_keys, ha.live]
  constructor
  · rintro ⟨p, hm, -⟩
    obtain ⟨r, hrec⟩ := ha.standing.known p _ hm
    have hb := (quiet_record hr ha.standing hq hrec).1.symm.trans hm
    exact ⟨r.id, quiet_entry hr hq hrec hb⟩
  · rintro ⟨id, hf⟩
    obtain ⟨p, r, hrec, -, hm⟩ := stands_of_entry hr ha.standing hf
    exact ⟨p, hm, (quiet_record hr ha.standing hq hrec).2⟩

/-- In all that an unused hub over vacant hosts can come to, the hosts and the id map are
exact: no kernel is left behind, and none is missing. -/
theorem exact_of_reachable (hs : s.Reachable) : s.Exact := by
  obtain ⟨hr, m, ha⟩ := accounted_of_reachable hs
  have hn : (Table.keys s.hub.idMap).Nodup := Traffic.nodup_idMap hr
  have hap := apart_of_accounted hr ha
  exact {
    held := held_of_quiet hr ha
    apart := hap
    external := fun side d id => Hub.externalId?_eq_some hn hap
    delegates := fun side d id => Hub.mem_delegates hn
    listed := Hub.nodup_delegates hn hap }

/-- Hosts without kernels, of which the one at home offers Python. -/
def vacantHosts (side : Side) : Memory.Host :=
  { side, specs := if side = .home then [⟨"python3", "Python 3", "python", []⟩] else [] }

/-- A start at a host that is made unreachable before its answer arrives. -/
def unreachableStart : List Event :=
  [.own (.ask (.start (some "python3") { id := some .zero } .zero)), .own (.step 0),
    .own (.step 0), .own (.step 0), .own (.step 0), .own (.step 0), .pose 0 default,
    .finish 0 default .zero, .control .home (.available false), .deliver 0, .own (.step 0),
    .own (.step 0), .own (.step 0), .own (.step 0), .own (.step 0)]

/-- A started kernel is at its host, and its id is found from there. -/
theorem exact_started : ∃ s : Hosted, s.Reachable ∧ s.Exact ∧ s.Quiet ∧
    toString KernelId.zero ∈ (s.hosts .home).ids ∧
    s.hub.externalId? .home (toString KernelId.zero) = some .zero := by
  have key {s : Hosted}
      (hr : run? ⟨⟨pythonHub, []⟩, vacantHosts, [], []⟩ unreachableStart = some s)
      (hf : Table.find? KernelId.zero s.hub.idMap = some ⟨.home, toString KernelId.zero⟩)
      (hc : s.traffic.calls = [.ended (.ok (.started .zero))]) :
      s.Reachable ∧ s.Exact ∧ s.Quiet ∧ toString KernelId.zero ∈ (s.hosts .home).ids ∧
        s.hub.externalId? .home (toString KernelId.zero) = some .zero := by
    have hs : s.Reachable :=
      ⟨pythonHub, vacantHosts, unreachableStart, pythonHub_unused, fun side => ⟨rfl, rfl⟩, hr⟩
    have hq : s.Quiet := by
      intro i w a hw
      rw [hc] at hw
      cases i <;> cases hw
    have he := exact_of_reachable hs
    exact ⟨hs, he, hq, (he.held hq .home _).2 ⟨.zero, hf⟩, (he.external .home _ _).2 hf⟩
  exact ⟨_, key rfl rfl rfl⟩

end Hosted

end KernelHub
