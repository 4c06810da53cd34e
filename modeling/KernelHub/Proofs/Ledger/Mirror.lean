import KernelHub.Proofs.Ledger

/-
When a hub at rest mirrors a ledger, and what becomes of that under the changes that
calls leave behind: a kernel more, a kernel less, a failed start, a kernel found dead.
-/

namespace KernelHub

/-- What a hub has from its maker. -/
def Hub.setting (h : Hub) : Ledger.Setting :=
  ⟨h.config.resolvedDefault h.environment, h.hasRemote⟩

/-- The record of a kernel at rest. -/
def Ledger.Entry.record (id : KernelId) (e : Ledger.Entry) : Record :=
  ⟨id, e.name, e.status.state, some e.binding, false⟩

namespace Ledger

/-- The hub, with no call on it, has what the ledger has. -/
structure Mirrors (h : Hub) (l : Ledger) : Prop where
  known : ∀ id p, Table.find? id h.registry = some p → ∃ e, Table.find? id l.live = some e ∧
    h.record? p = some (e.record id) ∧ h.hasSide e.binding.side = true
  registered : ∀ id e, Table.find? id l.live = some e → ∃ p, Table.find? id h.registry = some p
  mapped : ∀ id, Table.find? id h.idMap = (Table.find? id l.live).map (·.binding)
  retired : ∀ id, id ∈ h.retired ↔ id ∈ l.retired
  apart : ∀ id ∈ l.retired, Table.find? id l.live = none
  registry : (Table.keys h.registry).Nodup
  idMap : (Table.keys h.idMap).Nodup
  live : (Table.keys l.live).Nodup

/-- What clients can see of the hub is what the ledger says. -/
structure Agrees (h : Hub) (l : Ledger) : Prop where
  state : ∀ id, h.kernelState? id = (Table.find? id l.live).map (·.status.state)
  side : ∀ id, h.kernelSide? id = (Table.find? id l.live).map (·.binding.side)
  kernel : ∀ id, h.hasKernel id = Table.contains id l.live
  ids : ∀ id, id ∈ h.kernelIds ↔ Table.contains id l.live = true
  nodup : h.kernelIds.Nodup
  get : ∀ id, Table.find? id h.idMap = (Table.find? id l.live).map (·.binding)
  contains : ∀ id, Table.contains id h.idMap = Table.contains id l.live
  length : h.idMap.length = l.live.length

variable {h : Hub} {l : Ledger} {id : KernelId} {p : Nat} {e : Entry}

theorem mirrors_unused (hu : h.Unused) : Mirrors h {} := by
  refine ⟨fun id p hf => ?_, fun id e hf => ?_, fun id => ?_, fun id => ?_, fun id hi => ?_, ?_, ?_,
    List.nodup_nil⟩
  · rw [hu.registry] at hf
    cases hf
  · cases hf
  · rw [hu.idMap]
    rfl
  · rw [hu.retired]
  · cases hi
  · rw [hu.registry]
    exact List.nodup_nil
  · rw [hu.idMap]
    exact List.nodup_nil

theorem kernel?_eq (hm : Mirrors h l) (id : KernelId) :
    h.kernel? id = (Table.find? id l.live).map (·.record id) := by
  cases hf : Table.find? id h.registry with
  | some p =>
    obtain ⟨e, he, hr, -⟩ := hm.known id p hf
    simp [Hub.kernel?, hf, he, hr]
  | none =>
    cases hl : Table.find? id l.live with
    | none => simp [Hub.kernel?, hf]
    | some e =>
      obtain ⟨p, hp⟩ := hm.registered id e hl
      cases hf.symm.trans hp

theorem contains_registry (hm : Mirrors h l) (id : KernelId) :
    Table.contains id h.registry = Table.contains id l.live := by
  rw [Bool.eq_iff_iff, Table.contains_iff, Table.contains_iff]
  refine ⟨fun ⟨p, hp⟩ => ?_, fun ⟨e, he⟩ => hm.registered id e he⟩
  obtain ⟨e, he, -⟩ := hm.known id p hp
  exact ⟨e, he⟩

theorem agrees_of_mirrors (hm : Mirrors h l) : Agrees h l := by
  have hk (id : KernelId) : Table.contains id h.idMap = Table.contains id l.live := by
    simp [Table.contains, hm.mapped id]
  refine ⟨fun id => ?_, fun id => ?_, contains_registry hm, fun id => ?_, hm.registry, hm.mapped,
    hk, Table.length_eq_of_keys hm.idMap hm.live hk⟩
  · rw [Hub.kernelState?, kernel?_eq hm]
    cases Table.find? id l.live <;> rfl
  · rw [Hub.kernelSide?, kernel?_eq hm]
    cases Table.find? id l.live <;> rfl
  · rw [← contains_registry hm, ← Table.mem_keys]
    rfl

/-- Ids that can be registered are held by neither part, and the other way round. -/
theorem register?_eq_none (hm : Mirrors h l) (id : KernelId) (name : String) :
    h.register? id name = none ↔ l.Holds id := by
  rw [Hub.register?_eq_none, Holds, contains_registry hm id, hm.retired id]

/-! ## What calls leave behind -/

/-- What is known about types is no part of the ledger. -/
theorem mirrors_provenance (hm : Mirrors h l) (m : Provenance) :
    Mirrors { h with provenance := m } l :=
  ⟨hm.known, hm.registered, hm.mapped, hm.retired, hm.apart, hm.registry, hm.idMap, hm.live⟩

/-- Ids have records of their own. -/
theorem place_ne (hm : Mirrors h l) {x : KernelId} {q : Nat}
    (hp : Table.find? id h.registry = some p) (hq : Table.find? x h.registry = some q)
    (hx : x ≠ id) : q ≠ p := by
  rintro rfl
  obtain ⟨e, -, hr, -⟩ := hm.known id q hp
  obtain ⟨e', -, hr', -⟩ := hm.known x q hq
  have hid : (e'.record x).id = (e.record id).id :=
    congrArg Record.id (Option.some.inj (hr'.symm.trans hr))
  exact hx hid

/-- A start that succeeded adds its entry. -/
theorem mirrors_started {b : Binding} {name : String} (hm : Mirrors h l) (hn : ¬ l.Holds id)
    (hs : h.hasSide b.side = true) :
    Mirrors (((h.enroll id name).map id b).put h.records.length
      ⟨id, name, .running, some b, false⟩) (l.add id ⟨name, b, .running⟩) := by
  have hlen : h.records.length < ((h.enroll id name).map id b).records.length := by
    simp [Hub.map, Hub.enroll]
  refine ⟨fun x q hf => ?_, fun x e hf => ?_, fun x => ?_, hm.retired, fun x hx => ?_,
    Table.nodup_set hm.registry id _, Table.nodup_set hm.idMap id b, Table.nodup_set hm.live id _⟩
  · by_cases hx : x = id
    · subst hx
      cases (Table.find?_set_self x h.records.length h.registry).symm.trans hf
      exact ⟨_, Table.find?_set_self _ _ _, Hub.record?_put hlen _, hs⟩
    · have hf : Table.find? x h.registry = some q := (Table.find?_set_of_ne hx _ _).symm.trans hf
      obtain ⟨e, he, hr, hse⟩ := hm.known x q hf
      have hq := Nat.ne_of_lt (Hub.lt_length_of_record? hr)
      refine ⟨e, (Table.find?_set_of_ne hx _ _).trans he, ?_, hse⟩
      rw [Hub.record?_put_of_ne hq]
      exact (Hub.record?_enroll h id name q).trans ((if_neg hq).trans hr)
  · by_cases hx : x = id
    · subst hx
      exact ⟨_, Table.find?_set_self _ _ _⟩
    · obtain ⟨q, hq⟩ := hm.registered x e ((Table.find?_set_of_ne hx _ _).symm.trans hf)
      exact ⟨q, (Table.find?_set_of_ne hx _ _).trans hq⟩
  · show Table.find? x (Table.set id b h.idMap) = _
    simp only [add, Table.find?_set]
    split
    · rfl
    · exact hm.mapped x
  · have hne : x ≠ id := fun he => hn (.inr (he ▸ hx))
    exact (Table.find?_set_of_ne hne _ _).trans (hm.apart x hx)

/-- A start that failed leaves a record behind that no id has. -/
theorem mirrors_unstarted {name : String} {r : Record} (hm : Mirrors h l) (hn : ¬ l.Holds id) :
    Mirrors (((h.enroll id name).put h.records.length r).unregister id) l := by
  have hk : Table.contains id h.registry = false := by
    rw [contains_registry hm]
    exact Bool.eq_false_iff.2 fun hc => hn (.inl hc)
  have hreg (x : KernelId) :
      Table.find? x (Table.erase id (Table.set id h.records.length h.registry)) =
        Table.find? x h.registry := by
    rw [Table.find?_erase, Table.find?_set]
    split
    · next hx => rw [hx, Table.contains_eq_false.1 hk]
    · rfl
  refine ⟨fun x q hf => ?_, fun x e hf => ?_, hm.mapped, hm.retired, hm.apart,
    Table.nodup_erase (Table.nodup_set hm.registry _ _) _, hm.idMap, hm.live⟩
  · obtain ⟨e, he, hr, hse⟩ := hm.known x q ((hreg x).symm.trans hf)
    have hq := Nat.ne_of_lt (Hub.lt_length_of_record? hr)
    refine ⟨e, he, ?_, hse⟩
    show ((h.enroll id name).put h.records.length r).record? q = _
    rw [Hub.record?_put_of_ne hq]
    exact (Hub.record?_enroll h id name q).trans ((if_neg hq).trans hr)
  · obtain ⟨q, hq⟩ := hm.registered x e hf
    exact ⟨q, (hreg x).trans hq⟩

/-- A shutdown moves the id to the retired ones. -/
theorem mirrors_retire {r : Record} (hm : Mirrors h l)
    (hp : Table.find? id h.registry = some p) :
    Mirrors ((((h.unmap id).put p r).retire id).unregister id) (l.retire id) := by
  refine ⟨fun x q hf => ?_, fun x e hf => ?_, fun x => ?_, fun x => ?_, fun x hx => ?_,
    Table.nodup_erase hm.registry id, Table.nodup_erase hm.idMap id,
    Table.nodup_erase hm.live id⟩
  · have hf : (if x = id then none else Table.find? x h.registry) = some q :=
      (Table.find?_erase id x h.registry).symm.trans hf
    split at hf
    · cases hf
    · next hx =>
      obtain ⟨e, he, hr, hse⟩ := hm.known x q hf
      refine ⟨e, (Table.find?_erase_of_ne hx _).trans he, ?_, hse⟩
      show ((h.unmap id).put p r).record? q = _
      rw [Hub.record?_put_of_ne (place_ne hm hp hf hx)]
      exact hr
  · simp only [retire, Table.find?_erase] at hf
    split at hf
    · cases hf
    · next hx =>
      obtain ⟨q, hq⟩ := hm.registered x e hf
      exact ⟨q, (Table.find?_erase_of_ne hx _).trans hq⟩
  · show Table.find? x (Table.erase id h.idMap) = _
    simp only [retire, Table.find?_erase]
    split
    · rfl
    · exact hm.mapped x
  · show x ∈ (((h.unmap id).put p r).retire id).retired ↔ x ∈ id :: l.retired
    rw [List.mem_cons, ← hm.retired x]
    refine ⟨fun hx => Hub.of_mem_retire hx, ?_⟩
    rintro (rfl | hx)
    · exact Hub.mem_retire_self _ x
    · exact Hub.mem_retire hx
  · simp only [retire, Table.find?_erase]
    split
    · rfl
    · next hne => exact hm.apart x ((List.mem_cons.1 hx).resolve_left hne)

/-- A kernel that its host lost is dead. -/
theorem mirrors_dead (hm : Mirrors h l) (hp : Table.find? id h.registry = some p)
    (he : Table.find? id l.live = some e) :
    Mirrors (h.put p ⟨id, e.name, .dead, some e.binding, false⟩)
      (l.add id { e with status := .dead }) := by
  obtain ⟨e₀, he₀, hr₀, hs₀⟩ := hm.known id p hp
  cases he.symm.trans he₀
  have hlen := Hub.lt_length_of_record? hr₀
  refine ⟨fun x q hf => ?_, fun x e' hf => ?_, fun x => ?_, hm.retired, fun x hx => ?_,
    hm.registry, hm.idMap, Table.nodup_set hm.live id _⟩
  · by_cases hx : x = id
    · subst hx
      cases hp.symm.trans hf
      exact ⟨_, Table.find?_set_self _ _ _, Hub.record?_put hlen _, hs₀⟩
    · obtain ⟨e', he', hr', hs'⟩ := hm.known x q hf
      refine ⟨e', (Table.find?_set_of_ne hx _ _).trans he', ?_, hs'⟩
      rw [Hub.record?_put_of_ne (place_ne hm hp hf hx)]
      exact hr'
  · by_cases hx : x = id
    · exact ⟨p, hx ▸ hp⟩
    · exact hm.registered x e' ((Table.find?_set_of_ne hx _ _).symm.trans hf)
  · show Table.find? x h.idMap = _
    simp only [add, Table.find?_set]
    split
    · next hx => rw [hx, hm.mapped id, he]; rfl
    · exact hm.mapped x
  · have hne : x ≠ id := by
      rintro rfl
      cases (hm.apart x hx).symm.trans he
    exact (Table.find?_set_of_ne hne _ _).trans (hm.apart x hx)

end Ledger

end KernelHub
