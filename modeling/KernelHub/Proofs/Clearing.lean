import KernelHub.Proofs.Deeds
import KernelHub.Proofs.Ledger.Jobs
import KernelHub.Proofs.Traffic.Rest

/-
Shutting all kernels down. What becomes of one kernel makes no difference to another: those that
their hosts refuse to shut down stay as they are, all others are gone, in whatever order they were
asked for. Records that are not registered, and what the id map has for them, are not touched.
-/

namespace KernelHub

/-- Does the host refuse to shut down a kernel that it has? -/
def Answer.refuses : Answer → Bool
  | .refused e => !e.isNotFound
  | _ => false

namespace Hub

/-- The kernel of a host that a registered id stands for. -/
def delegate? (h : Hub) (id : KernelId) : Option Binding := (h.kernel? id).bind (·.binding)

/-- Does the host of the kernel refuse to shut it down, if hosts answer like this? -/
def stays (h : Hub) (reply : Side → String → Answer) (id : KernelId) : Bool :=
  (h.delegate? id).any fun b => (reply b.side b.delegate).refuses

/-- How the shutdown of a registered kernel is served, if hosts answer like this. -/
def stopped? (h : Hub) (now : Bool) (reply : Side → String → Answer) (id : KernelId) :
    Option Served :=
  (h.delegate? id).map fun b =>
    let a := reply b.side b.delegate
    ⟨.kernel id (.shutdown now), [(b.side, .shutdown b.delegate now, a)],
      Ledger.given id b.side (.shutdown now) a⟩

/-! ## Hubs without some kernels -/

/-- What a hub has besides kernels. -/
def bare (h : Hub) : Hub := { h with records := [], registry := [], idMap := [], retired := [] }

/-- The hub is the other one without these registered kernels, which were shut down. -/
structure Without (h : Hub) (gone : List KernelId) (h' : Hub) : Prop where
  bare : h'.bare = h.bare
  registry : h'.registry = h.registry.filter fun e => e.1 ∉ gone
  idMap : h'.idMap = h.idMap.filter fun e => e.1 ∉ gone
  record : ∀ p, h'.record? p = (h.record? p).map fun r =>
    if r.id ∈ gone ∧ Table.find? r.id h.registry = some p then
      { r with state := .dead, binding := none }
    else r
  retired : ∀ id, id ∈ h'.retired ↔ id ∈ gone ∨ id ∈ h.retired

variable {h h₁ h₂ h' : Hub} {gone more : List KernelId} {id : KernelId} {p : Nat} {now : Bool}
  {reply : Side → String → Answer}

theorem Without.refl (h : Hub) : h.Without [] h where
  bare := rfl
  registry := (List.filter_eq_self.2 (by simp)).symm
  idMap := (List.filter_eq_self.2 (by simp)).symm
  record p := by simp
  retired id := by simp

theorem Without.trans (hw : h.Without gone h₁) (hw' : h₁.Without more h₂)
    (hd : ∀ id ∈ more, id ∉ gone) : h.Without (gone ++ more) h₂ where
  bare := hw'.bare.trans hw.bare
  registry := by
    rw [hw'.registry, hw.registry, List.filter_filter]
    simp [Bool.and_comm]
  idMap := by
    rw [hw'.idMap, hw.idMap, List.filter_filter]
    simp [Bool.and_comm]
  record p := by
    rw [hw'.record, hw.record, Option.map_map]
    refine congrArg (Option.map · _) (funext fun r => ?_)
    simp only [Function.comp, hw.registry, Table.find?_filter, List.mem_append]
    by_cases hg : r.id ∈ gone
    · have hm : r.id ∉ more := fun hm => hd _ hm hg
      by_cases hp : Table.find? r.id h.registry = some p <;> simp [hg, hm, hp]
    · simp [hg]
  retired id := by
    rw [hw'.retired, hw.retired, List.mem_append, or_left_comm, or_assoc, or_left_comm]

/-- Which kernels are gone tells all but in which order they were retired. -/
theorem Without.unique (hw : h.Without gone h₁) (hw' : h.Without more h₂)
    (hg : ∀ id, id ∈ gone ↔ id ∈ more) :
    h₁ = { h₂ with retired := h₁.retired } ∧ ∀ id, id ∈ h₁.retired ↔ id ∈ h₂.retired := by
  have hrec : h₁.records = h₂.records := by
    refine List.ext_getElem? fun p => ?_
    have h1 := hw.record p
    have h2 := hw'.record p
    simp only [hg] at h1
    exact h1.trans h2.symm
  refine ⟨?_, fun id => by rw [hw.retired, hw'.retired, hg]⟩
  have hbare : h₁.bare = h₂.bare := hw.bare.trans hw'.bare.symm
  have hreg : h₁.registry = h₂.registry := by rw [hw.registry, hw'.registry]; simp only [hg]
  have hmap : h₁.idMap = h₂.idMap := by rw [hw.idMap, hw'.idMap]; simp only [hg]
  cases h₁
  cases h₂
  simp_all [Hub.bare]

theorem Without.hasKernel (hw : h.Without gone h') (id : KernelId) :
    h'.hasKernel id = (decide (id ∉ gone) && h.hasKernel id) := by
  rw [Hub.hasKernel, Hub.hasKernel, Table.contains, Table.contains, hw.registry, Table.find?_filter]
  by_cases hg : id ∈ gone <;> simp [hg]

theorem Without.hasKernel_of_ne {q : Bool} {x : KernelId}
    (hw : h.Without (if q = true then [] else [id]) h') (hx : x ≠ id)
    (hk : h.hasKernel x = true) : h'.hasKernel x = true := by
  rw [hw.hasKernel, hk]
  cases q <;> simp [hx]

/-- What stands in the registry after a kernel was shut down. -/
theorem without_stop {name : String} {st : KernelState} {b : Option Binding}
    (hp : Table.find? id h.registry = some p) (hr : h.record? p = some ⟨id, name, st, b, false⟩) :
    h.Without [id]
      ((((h.unmap id).put p ⟨id, name, .dead, none, false⟩).retire id).unregister id) where
  bare := rfl
  registry := Table.erase_eq_filter id h.registry
  idMap := Table.erase_eq_filter id h.idMap
  record q := by
    have hl : p < (h.unmap id).records.length := lt_length_of_record? hr
    show ((h.unmap id).put p _).record? q = _
    by_cases hq : q = p
    · subst hq
      rw [record?_put hl, hr]
      simp [hp]
    · rw [record?_put_of_ne hq]
      show h.record? q = _
      cases hrq : h.record? q with
      | none => rfl
      | some r =>
        rw [Option.map_some, if_neg]
        rintro ⟨hid, hf⟩
        rw [List.mem_singleton.1 hid, hp] at hf
        exact hq (Option.some.inj hf).symm
  retired x := by
    refine ⟨fun hx => (of_mem_retire hx).imp_left List.mem_singleton.2, ?_⟩
    rintro (hx | hx)
    · rw [List.mem_singleton.1 hx]
      exact mem_retire_self _ id
    · exact mem_retire (h := (h.unmap id).put p _) hx

/-! ## Orderly hubs -/

theorem Orderly.found (ho : h.Orderly) (hk : h.hasKernel id = true) : ∃ p name st b,
    Table.find? id h.registry = some p ∧ h.record? p = some ⟨id, name, st, some b, false⟩ ∧
      h.hasSide b.side = true ∧ Table.find? id h.idMap = some b ∧ h.delegate? id = some b := by
  obtain ⟨p, hp⟩ := Table.contains_iff.1 hk
  obtain ⟨name, st, b, hr, hs, hm⟩ := ho.kernel id p hp
  exact ⟨p, name, st, b, hp, hr, hs, hm, by simp [delegate?, Hub.kernel?, hp, hr]⟩

theorem Orderly.idle (ho : h.Orderly) : h.Idle := by
  intro id p hf
  obtain ⟨name, st, b, hr, -⟩ := ho.kernel id p hf
  exact ⟨_, hr, rfl⟩

/-- A kernel that is not gone is as it was. -/
theorem Without.kernel? (hw : h.Without gone h') (ho : h.Orderly) (hg : id ∉ gone) :
    h'.kernel? id = h.kernel? id := by
  rw [Hub.kernel?, Hub.kernel?, hw.registry, Table.find?_filter, if_neg hg]
  cases hp : Table.find? id h.registry with
  | none => rfl
  | some p =>
    obtain ⟨name, st, b, hr, -⟩ := ho.kernel id p hp
    rw [Option.bind_some, Option.bind_some, hw.record, hr, Option.map_some,
      if_neg fun hn => hg hn.1]

theorem Without.delegate? (hw : h.Without gone h') (ho : h.Orderly) (hg : id ∉ gone) :
    h'.delegate? id = h.delegate? id := by rw [Hub.delegate?, Hub.delegate?, hw.kernel? ho hg]

theorem Without.orderly (hw : h.Without gone h') (ho : h.Orderly) : h'.Orderly where
  distinct := by
    rw [hw.registry]
    exact ho.distinct.sublist (List.filter_sublist.map _)
  kernel id p hf := by
    rw [hw.registry, Table.find?_filter] at hf
    split at hf
    · cases hf
    · next hg =>
      obtain ⟨name, st, b, hr, hs, hm⟩ := ho.kernel id p hf
      refine ⟨name, st, b, ?_, ?_, ?_⟩
      · rw [hw.record, hr, Option.map_some, if_neg fun hn => hg hn.1]
      · have hrem : h'.bare.hasRemote = h.bare.hasRemote := congrArg Hub.hasRemote hw.bare
        rw [hasSide_congr (show h'.hasRemote = h.hasRemote from hrem)]
        exact hs
      · rw [hw.idMap, Table.find?_filter, if_neg hg]
        exact hm
  unretired id hk hi := by
    rw [hw.hasKernel, Bool.and_eq_true, decide_eq_true_eq] at hk
    exact ((hw.retired id).1 hi).elim hk.1 (ho.unretired id hk.2)

/-! ## What is not registered -/

/-- The hub has what the other one has for the registered ids. It may have more: records that are
not registered, and what belongs to them. -/
structure Beside (h h' : Hub) : Prop where
  hasRemote : h'.hasRemote = h.hasRemote
  kernelIds : h'.kernelIds = h.kernelIds
  kernel : ∀ id, h.hasKernel id = true → h'.kernel? id = h.kernel? id
  mapped : ∀ id, h.hasKernel id = true → Table.find? id h'.idMap = Table.find? id h.idMap
  retired : h'.retired = h.retired

theorem Beside.refl (h : Hub) : h.Beside h := ⟨rfl, rfl, fun _ _ => rfl, fun _ _ => rfl, rfl⟩

theorem hasKernel_iff : h.hasKernel id = true ↔ id ∈ h.kernelIds := Table.mem_keys.symm

theorem Beside.hasKernel (hb : h.Beside h') (id : KernelId) : h'.hasKernel id = h.hasKernel id := by
  rw [Bool.eq_iff_iff, hasKernel_iff, hasKernel_iff, hb.kernelIds]

/-- The record that a registered id stands for is no other one's. -/
theorem Beside.record? (hb : h.Beside h') (ho : h.Orderly)
    (hf : Table.find? id h'.registry = some p) : ∃ name st b, h.hasKernel id = true ∧
      h'.record? p = some ⟨id, name, st, some b, false⟩ ∧ h.hasSide b.side = true ∧
      Table.find? id h.idMap = some b := by
  have hk : h.hasKernel id = true := (hb.hasKernel id).symm.trans (Table.contains_of_find? hf)
  obtain ⟨q, name, st, b, hq, hr, hs, hm, -⟩ := ho.found hk
  have hk' := hb.kernel id hk
  rw [Hub.kernel?, Hub.kernel?, hf, hq, Option.bind_some, Option.bind_some, hr] at hk'
  exact ⟨name, st, b, hk, hk', hs, hm⟩

theorem Beside.orderly (hb : h.Beside h') (ho : h.Orderly) : h'.Orderly where
  distinct := (congrArg List.Nodup hb.kernelIds).mpr ho.distinct
  kernel id p hf := by
    obtain ⟨name, st, b, hk, hr, hs, hm⟩ := hb.record? ho hf
    exact ⟨name, st, b, hr, (hasSide_congr hb.hasRemote _).trans hs, (hb.mapped id hk).trans hm⟩
  unretired id hk := by
    rw [hb.retired]
    exact ho.unretired id ((hb.hasKernel id).symm.trans hk)

theorem Beside.adopt (hb : h.Beside h') (ho : h.Orderly) (id : KernelId) (name : String) :
    h.Beside (h'.adopt id name).1 where
  hasRemote := hb.hasRemote
  kernelIds := hb.kernelIds
  kernel x hk := by
    rw [← hb.kernel x hk, Hub.kernel?, Hub.kernel?]
    show (Table.find? x h'.registry).bind _ = _
    obtain ⟨p, hf⟩ := Table.contains_iff.1 ((hb.hasKernel x).trans hk)
    obtain ⟨name, st, b, -, hr, -⟩ := hb.record? ho hf
    rw [hf, Option.bind_some, Option.bind_some]
    exact List.getElem?_append_left (lt_length_of_record? hr)
  mapped := hb.mapped
  retired := hb.retired

/-- Work on a record whose id is not registered touches nothing that is. -/
theorem Beside.turn {w w' : Work} {r : Record} (hb : h.Beside h₁) (ho : h.Orderly)
    (hr : h₁.record? w.place = some r) (ht : w.Turn h₁ r h₂ w') (hid : h.hasKernel r.id = false) :
    h.Beside h₂ := by
  have hf := Work.frame_turn hr ht
  refine ⟨hf.hasRemote.trans hb.hasRemote, ?_, fun x hk => ?_, fun x hk => ?_,
    hf.retired.trans hb.retired⟩
  · rw [Hub.kernelIds, hf.registry]
    exact hb.kernelIds
  · rw [← hb.kernel x hk, Hub.kernel?, Hub.kernel?, hf.registry]
    obtain ⟨p, hp⟩ := Table.contains_iff.1 ((hb.hasKernel x).trans hk)
    obtain ⟨name, st, b, -, hrp, -⟩ := hb.record? ho hp
    rw [hp, Option.bind_some, Option.bind_some]
    refine hf.others p ?_
    rintro rfl
    cases hrp.symm.trans hr
    cases hk.symm.trans hid
  · rw [← hb.mapped x hk, Work.remap_turn ht]
    have hne : x ≠ r.id := by
      rintro rfl
      cases hk.symm.trans hid
    cases w.phase with
    | mapping b => exact Table.find?_set_of_ne hne _ _
    | unmapping => exact Table.find?_erase_of_ne hne _
    | _ => rfl

/-- So is a job on such a record, from any point on to any other. -/
theorem Beside.leads {c c' : Call} {es : List Exchange} (hb : h.Beside h₁) (ho : h.Orderly)
    (hc : (∃ res, c = .ended res) ∨ ∃ w r, c = .working w .nothing ∧
      h₁.record? w.place = some r ∧ h.hasKernel r.id = false)
    (hl : c.Leads h₁ es h₂ c') : h.Beside h₂ := by
  induction hl with
  | refl => exact hb
  | @step h₁ c h₁' c₁ _ _ _ hs _ ih =>
    rcases hc with ⟨res, rfl⟩ | ⟨w, r, rfl, hr, hid⟩
    · cases hs
    · simp only [Call.step?] at hs
      split at hs
      · cases hs
        exact ih hb (.inl ⟨_, rfl⟩)
      · obtain ⟨⟨h₂, w'⟩, hw, he⟩ := Option.map_eq_some_iff.1 hs
        cases he
        obtain ⟨r₁, hr₁, ht⟩ := Work.turn_of_step? hw
        cases hr.symm.trans hr₁
        have hf := Work.frame_turn hr ht
        obtain ⟨r', hr', hid', -⟩ := hf.record
        exact ih (hb.turn ho hr ht hid) (.inr ⟨w', r', rfl, by rw [hf.place, hr'], hid' ▸ hid⟩)
  | answer hq _ hs _ ih =>
    rcases hc with ⟨res, rfl⟩ | ⟨w, r, rfl, hr, hid⟩
    · cases hq
    · obtain ⟨w', hw, rfl⟩ := Option.map_eq_some_iff.1 hs
      obtain ⟨r₁, p, hr₁, -, rfl⟩ := Work.heard_of_answered? hw
      exact ih hb (.inr ⟨_, r, rfl, hr, hid⟩)

/-! ## Shutdowns one after the other -/

/-- A registered kernel's host is asked once, and the kernel is gone unless the host refuses. -/
theorem Orderly.shutdown_leads {es : List Exchange} {res : Result} (ho : h.Orderly)
    (hk : h.hasKernel id = true)
    (hl : (Call.asked (.kernel id (.shutdown now))).Leads h es h' (.ended res)) : ∃ b a,
    h.delegate? id = some b ∧ es = [(b.side, .shutdown b.delegate now, a)] ∧
      res = Ledger.given id b.side (.shutdown now) a ∧
      h.Without (if a.refuses = true then [] else [id]) h' := by
  obtain ⟨p, name, st, b, hp, hr, hs, -, ht⟩ := ho.found hk
  have h1 : (Call.seeking id (.shutdown now)).Leads h es h' (.ended res) :=
    Call.of_step hl rfl (by simp [Call.step?, Call.begin, ho.unretired id hk])
  have h2 : (Call.working { job := .shutdown now, place := p } (.shutDown id)).Leads h es h'
      (.ended res) := Call.of_step h1 rfl (by simp [Call.step?, hp, Call.afterJob])
  rcases Work.shutdown_spec hr hs h2 with ⟨a, fs, rfl, ha, h3⟩ | ⟨x, fs, rfl, hx, h3⟩
  · obtain ⟨rfl, rfl, rfl⟩ := Call.of_follow_shutDown h3
    refine ⟨b, a, ht, rfl, ?_⟩
    rcases ha with rfl | ⟨s, rfl⟩ <;> exact ⟨rfl, without_stop hp hr⟩
  · obtain ⟨rfl, rfl, rfl⟩ := Call.of_follow_notShutDown h3
    refine ⟨b, .refused x, ht, rfl, by simp [Ledger.given, hx], ?_⟩
    rw [Answer.refuses, hx]
    exact Without.refl _

/-- What is served for some registered kernels, and the hub after it. -/
theorem Orderly.serves_shutdowns {ids : List KernelId} {ss : List Served} (ho : h.Orderly)
    (hs : h.Serves ss h') (hc : ss.map (·.command) = ids.map fun id => .kernel id (.shutdown now))
    (hn : ids.Nodup) (hk : ∀ id ∈ ids, h.hasKernel id = true)
    (hr : ∀ side d a, (side, .shutdown d now, a) ∈ ss.flatMap (·.exchanges) → a = reply side d) :
    ss.map some = ids.map (h.stopped? now reply) ∧
      h.Without (ids.filter fun id => !h.stays reply id) h' := by
  induction ids generalizing h ss with
  | nil =>
    obtain rfl := List.map_eq_nil_iff.1 hc
    cases hs
    exact ⟨rfl, .refl _⟩
  | cons id ids ih =>
    cases hs with
    | nil => cases hc
    | @cons _ c es res h₁ ss _ _ hl hs =>
      obtain ⟨rfl, hcs⟩ := List.cons.inj hc
      obtain ⟨hid, hn⟩ := List.nodup_cons.1 hn
      obtain ⟨hk₁, hk⟩ := List.forall_mem_cons.1 hk
      obtain ⟨b, a, ht, rfl, rfl, hw⟩ := ho.shutdown_leads hk₁ hl
      obtain rfl : a = reply b.side b.delegate := hr _ _ _ List.mem_cons_self
      -- The other kernels are as they were.
      have hout {x : KernelId} (hx : x ∈ ids) :
          x ∉ if (reply b.side b.delegate).refuses = true then [] else [id] := by
        split
        · exact List.not_mem_nil
        · rw [List.mem_singleton]
          rintro rfl
          exact hid hx
      obtain ⟨hss, hw'⟩ := ih (hw.orderly ho) hs hcs hn
        (fun x hx => by rw [hw.hasKernel, hk x hx, decide_eq_true (hout hx)]; rfl)
        fun side d a hm => hr side d a (List.mem_cons_of_mem _ hm)
      have hstop : ids.map (h₁.stopped? now reply) = ids.map (h.stopped? now reply) :=
        List.map_congr_left fun x hx => by rw [stopped?, stopped?, hw.delegate? ho (hout hx)]
      have hstay : (ids.filter fun x => !h₁.stays reply x) = ids.filter fun x => !h.stays reply x :=
        List.filter_congr fun x hx => by rw [stays, stays, hw.delegate? ho (hout hx)]
      rw [hstay] at hw'
      have hfirst : h.stays reply id = (reply b.side b.delegate).refuses := by rw [stays, ht]; rfl
      refine ⟨?_, ?_⟩
      · rw [List.map_cons, List.map_cons, hss, hstop, stopped?, ht]
        rfl
      · have hall := hw.trans hw' fun x hx => hout (List.mem_filter.1 hx).1
        rw [List.filter_cons, hfirst]
        cases hx : (reply b.side b.delegate).refuses <;> rw [hx] at hall <;> exact hall

/-- Whatever hosts answer, registered kernels can be shut down in every order. -/
theorem Orderly.exists_shutdowns {hosts : Hosts} {ids : List KernelId} (hf : hosts.Fitting)
    (ho : h.Orderly) (hn : ids.Nodup) (hk : ∀ id ∈ ids, h.hasKernel id = true) (now : Bool)
    (past : List Exchange) : ∃ ss h', ss.map (·.command) = ids.map (fun id =>
      Command.kernel id (.shutdown now)) ∧ h.Serves ss h' ∧
      hosts.Say past (ss.flatMap (·.exchanges)) := by
  induction ids generalizing h past with
  | nil => exact ⟨[], h, rfl, .nil, trivial⟩
  | cons id ids ih =>
    obtain ⟨hid, hn⟩ := List.nodup_cons.1 hn
    obtain ⟨hk₁, hk⟩ := List.forall_mem_cons.1 hk
    obtain ⟨es, h₁, res, hl, hsay⟩ := Call.comes_to_end (c := .asked (.kernel id (.shutdown now)))
      hf ⟨rfl, ho.idle⟩ past
    obtain ⟨b, a, -, -, -, hw⟩ := ho.shutdown_leads hk₁ hl
    obtain ⟨ss, h', hc, hs, hsays⟩ := ih (hw.orderly ho) hn
      (fun x hx => hw.hasKernel_of_ne (fun he => hid (he ▸ hx)) (hk x hx)) (past ++ es)
    exact ⟨⟨_, es, res⟩ :: ss, h', by rw [List.map_cons, List.map_cons, hc], .cons rfl hl hs,
      Hosts.say_append hsay hsays⟩

/-- All registered kernels are shut down, one after the other in some order, by these hosts. -/
structure ShutsAll (h : Hub) (now : Bool) (hosts : Hosts) (past : List Exchange)
    (ss : List Served) (h' : Hub) : Prop where
  gives : Deed.Gives h (.shutDownAll now) (ss.map (·.command))
  serves : h.Serves ss h'
  answers : hosts.Say past (ss.flatMap (·.exchanges))

/-- What shutting all kernels down comes to, if hosts answer like this. -/
structure Cleared (h : Hub) (now : Bool) (reply : Side → String → Answer) (ss : List Served)
    (h' : Hub) : Prop where
  /-- The host of each registered kernel is asked once to shut it down, and nothing else. -/
  calls : (ss.flatMap (·.exchanges)).Perm (h.kernelIds.filterMap fun id =>
    (h.delegate? id).map fun b => (b.side, .shutdown b.delegate now, reply b.side b.delegate))
  bound : ∀ id, h.hasKernel id = true → (h.delegate? id).isSome = true
  /-- Registered, and mapped of those that were registered, are the kernels that stay. -/
  registered : ∀ id, h'.hasKernel id = h.stays reply id
  mapped : ∀ id, h.hasKernel id = true → Table.contains id h'.idMap = h.stays reply id
  kept : ∀ id, h.stays reply id = true →
    h'.kernel? id = h.kernel? id ∧ Table.find? id h'.idMap = h.delegate? id
  others : ∀ id, h.hasKernel id = false → Table.find? id h'.idMap = Table.find? id h.idMap
  /-- So where all that was mapped was registered, the id map has the kernels that stay. -/
  only : (∀ id, Table.contains id h.idMap = true → h.hasKernel id = true) →
    ∀ id, Table.contains id h'.idMap = h.stays reply id
  /-- All other ids that were registered are retired. -/
  retired : ∀ id, id ∈ h'.retired ↔
    h.hasKernel id = true ∧ h.stays reply id = false ∨ id ∈ h.retired

theorem hasKernel_of_stays (hs : h.stays reply id = true) : h.hasKernel id = true := by
  rw [stays, delegate?, Hub.kernel?] at hs
  rw [Hub.hasKernel, Table.contains]
  cases hf : Table.find? id h.registry with
  | none => simp [hf] at hs
  | some p => rfl

/-- What the hosts are asked for kernels that are served like this. -/
theorem flatMap_stopped (h : Hub) (now : Bool) (reply : Side → String → Answer)
    (ids : List KernelId) : (ids.filterMap (h.stopped? now reply)).flatMap (·.exchanges) =
      ids.filterMap fun id => (h.delegate? id).map fun b =>
        (b.side, .shutdown b.delegate now, reply b.side b.delegate) := by
  induction ids with
  | nil => rfl
  | cons id ids ih =>
    rw [List.filterMap_cons, List.filterMap_cons, stopped?]
    cases h.delegate? id with
    | none => exact ih
    | some b => exact congrArg (_ :: ·) ih

/-- Some registered kernels are served, and those among them that do not stay are gone. -/
theorem ShutsAll.spec {hosts : Hosts} {past : List Exchange} {ss : List Served}
    (hs : h.ShutsAll now hosts past ss h') (ho : h.Orderly)
    (hr : ∀ past side d, hosts past side (.shutdown d now) = reply side d) :
    ∃ ids : List KernelId, ids.Perm h.kernelIds ∧ ss = ids.filterMap (h.stopped? now reply) ∧
      h.Without (ids.filter fun id => !h.stays reply id) h' := by
  obtain ⟨hg, hv, hsay⟩ := hs
  generalize hc : ss.map (·.command) = cs at hg
  cases hg with
  | @shutDownAll _ ids hp =>
    obtain ⟨hss, hw⟩ := ho.serves_shutdowns hv hc (hp.nodup_iff.2 ho.distinct)
      (fun id hi => hasKernel_iff.2 (hp.mem_iff.1 hi)) fun side d a hm => by
        obtain ⟨past', ha⟩ := Hosts.of_say hsay hm
        exact ha.trans (hr past' side d)
    refine ⟨ids, hp, ?_, hw⟩
    have he := congrArg (List.filterMap id) hss
    rwa [List.filterMap_map, List.filterMap_map, Function.id_comp, Function.id_comp,
      List.filterMap_some] at he

theorem ShutsAll.clears {hosts : Hosts} {past : List Exchange} {ss : List Served}
    (hs : h.ShutsAll now hosts past ss h') (ho : h.Orderly)
    (hr : ∀ past side d, hosts past side (.shutdown d now) = reply side d) :
    h.Cleared now reply ss h' := by
  obtain ⟨ids, hp, rfl, hw⟩ := hs.spec ho hr
  have hgone (id : KernelId) : id ∈ ids.filter (fun id => !h.stays reply id) ↔
      h.hasKernel id = true ∧ h.stays reply id = false := by
    rw [List.mem_filter, hp.mem_iff, ← hasKernel_iff, Bool.not_eq_true']
  have hin {id : KernelId} (hst : h.stays reply id = true) :
      id ∉ ids.filter fun id => !h.stays reply id := fun hg => by
    cases hst.symm.trans ((hgone id).1 hg).2
  have hfind (id : KernelId) : Table.find? id h'.idMap =
      if h.hasKernel id = true ∧ h.stays reply id = false then none
      else Table.find? id h.idMap := by
    rw [hw.idMap, Table.find?_filter]
    simp only [hgone]
  have hmapped (id : KernelId) (hk : h.hasKernel id = true) :
      Table.contains id h'.idMap = h.stays reply id := by
    obtain ⟨p, name, st, b, -, -, -, hm, -⟩ := ho.found hk
    rw [Table.contains, hfind, hk]
    cases h.stays reply id <;> simp [hm]
  have hothers (id : KernelId) (hk : h.hasKernel id = false) :
      Table.find? id h'.idMap = Table.find? id h.idMap := by
    rw [hfind, if_neg (fun hn => by cases hk.symm.trans hn.1)]
  refine ⟨?_, fun id hk => ?_, fun id => ?_, hmapped, fun id hst => ?_, hothers, fun hm id => ?_,
    fun id => ?_⟩
  · rw [flatMap_stopped]
    exact hp.filterMap _
  · obtain ⟨p, name, st, b, -, -, -, -, ht⟩ := ho.found hk
    rw [ht]
    rfl
  · rw [hw.hasKernel]
    cases hst : h.stays reply id with
    | true => simp [hin hst, hasKernel_of_stays hst]
    | false =>
      cases hk : h.hasKernel id with
      | true => simp [(hgone id).2 ⟨hk, hst⟩]
      | false => rw [Bool.and_false]
  · obtain ⟨p, name, st, b, -, -, -, hm, ht⟩ := ho.found (hasKernel_of_stays hst)
    refine ⟨hw.kernel? ho (hin hst), ?_⟩
    rw [hfind, if_neg (fun hn => by cases hst.symm.trans hn.2), hm, ht]
  · cases hk : h.hasKernel id with
    | true => exact hmapped id hk
    | false =>
      have hstay : h.stays reply id = false :=
        Bool.eq_false_iff.2 fun hst => by cases hk.symm.trans (hasKernel_of_stays hst)
      rw [hstay, Table.contains, hothers id hk]
      exact Bool.eq_false_iff.2 fun hc => by cases hk.symm.trans (hm id hc)
  · rw [hw.retired, hgone]

end Hub

/-- In every hub that callers leave at rest, whatever else there is beside what they have started,
all registered kernels can be shut down in every order; each host is asked once for each kernel,
what is left are the kernels that stay; and the order makes no difference. -/
theorem Traffic.cleared {t : Traffic} {h : Hub} {hosts : Hosts} {reply : Side → String → Answer}
    (ht : t.Reachable) (hr : t.AtRest) (hb : t.hub.Beside h) (hf : hosts.Fitting)
    (hd : ∀ past side d now, hosts past side (.shutdown d now) = reply side d) (now : Bool)
    (past : List Exchange) :
    (∀ ids : List KernelId, ids.Perm h.kernelIds → ∃ ss h', ss.map (·.command) =
      ids.map (fun id => Command.kernel id (.shutdown now)) ∧ h.ShutsAll now hosts past ss h') ∧
    (∀ ss h', h.ShutsAll now hosts past ss h' → h.Cleared now reply ss h') ∧
    ∀ ss₁ ss₂ h₁ h₂, h.ShutsAll now hosts past ss₁ h₁ → h.ShutsAll now hosts past ss₂ h₂ →
      ss₁.Perm ss₂ ∧ h₁ = { h₂ with retired := h₁.retired } ∧
        ∀ id, id ∈ h₁.retired ↔ id ∈ h₂.retired := by
  have ho : h.Orderly := hb.orderly (orderly_of_rest ht hr)
  refine ⟨fun ids hp => ?_, fun ss h' hs => hs.clears ho fun past side d => hd past side d now,
    fun ss₁ ss₂ h₁ h₂ h1 h2 => ?_⟩
  · obtain ⟨ss, h', hc, hs, hsay⟩ := Hub.Orderly.exists_shutdowns hf ho
      (hp.nodup_iff.2 ho.distinct) (fun id hi => Hub.hasKernel_iff.2 (hp.mem_iff.1 hi)) now past
    exact ⟨ss, h', hc, hc ▸ .shutDownAll hp, hs, hsay⟩
  · obtain ⟨ids₁, hp₁, rfl, hw₁⟩ := h1.spec ho fun past side d => hd past side d now
    obtain ⟨ids₂, hp₂, rfl, hw₂⟩ := h2.spec ho fun past side d => hd past side d now
    have hp := hp₁.trans hp₂.symm
    exact ⟨hp.filterMap _, hw₁.unique hw₂ fun id => (hp.filter _).mem_iff⟩

namespace Traffic

/-- Two kernels are started, one after the other. -/
def startBoth : List Event :=
  [.ask (.start (some "python3") { id := some .zero } .zero)] ++ List.replicate 5 (.step 0) ++
    [.answer 0 (.started "k")] ++ List.replicate 5 (.step 0) ++
    [.ask (.start (some "python3") {} (.ofRandom 1))] ++ List.replicate 5 (.step 1) ++
    [.answer 1 (.started "m")] ++ List.replicate 5 (.step 1)

/-- Hosts that answer shutdowns like this, and refuse all else that they can refuse. -/
def stoppers (reply : Side → String → Answer) : Hosts := fun past side q =>
  match q with
  | .shutdown d _ => reply side d
  | q => Ledger.refusing past side q

theorem fitting_stoppers {reply : Side → String → Answer}
    (hr : ∀ side d, reply side d = .done ∨ ∃ e, reply side d = .refused e) :
    (stoppers reply).Fitting := by
  intro past side q
  cases q with
  | shutdown d now =>
    rcases hr side d with h | ⟨e, h⟩ <;> (rw [stoppers, h]; rfl)
  | _ => rfl

/-- Two kernels were started, and then one beside them, by the owner of a record. -/
structure Accompanied (t : Traffic) (h : Hub) : Prop where
  run : run? ⟨pythonHub, []⟩ startBoth = some t
  calls : t.calls = [.ended (.ok (.started .zero)), .ended (.ok (.started (.ofRandom 1)))]
  length : t.hub.records.length = 2
  leads : (Call.asked (.record 2 (.start {}))).Leads (t.hub.adopt (.ofRandom 2) "python3").1
    [(.home, .start "python3" {}, .started "n")] h (.ended (.ok (.started (.ofRandom 2))))
  unregistered : t.hub.hasKernel (.ofRandom 2) = false
  kernelIds : h.kernelIds = [.zero, .ofRandom 1]
  first : h.delegate? .zero = some ⟨.home, "k"⟩
  second : h.delegate? (.ofRandom 1) = some ⟨.home, "m"⟩
  third : Table.find? (KernelId.ofRandom 2) h.idMap = some ⟨.home, "n"⟩

theorem exists_accompanied : ∃ t h, Accompanied t h :=
  ⟨_, _, rfl, rfl, rfl, .step rfl <| .step rfl <| .step rfl <| .answer rfl nofun rfl <|
    .step rfl <| .step rfl <| .step rfl <| .step rfl <| .step rfl .refl, rfl, rfl, rfl, rfl, rfl⟩

variable {t : Traffic} {h : Hub}

theorem Accompanied.reachable (ha : Accompanied t h) : t.Reachable :=
  ⟨pythonHub, startBoth, pythonHub_unused, ha.run⟩

theorem Accompanied.rest (ha : Accompanied t h) : t.AtRest := by
  rw [AtRest, ha.calls]
  simp [Call.detached]

theorem Accompanied.beside (ha : Accompanied t h) : t.hub.Beside h := by
  have ho := orderly_of_rest ha.reachable ha.rest
  refine ((Hub.Beside.refl t.hub).adopt ho (.ofRandom 2) "python3").leads ho
    (.inr ⟨⟨.start {}, 2, .waiting⟩, ⟨.ofRandom 2, "python3", .unborn, none, false⟩, rfl, ?_,
      ha.unregistered⟩) (Call.of_step ha.leads rfl rfl)
  simp [Hub.record?, Hub.adopt, ha.length]

theorem Accompanied.hasKernel_iff (ha : Accompanied t h) {id : KernelId} :
    h.hasKernel id = true ↔ id ∈ [KernelId.zero, .ofRandom 1] := by
  rw [Hub.hasKernel_iff, ha.kernelIds]

theorem Accompanied.not_hasKernel (ha : Accompanied t h) : h.hasKernel (.ofRandom 2) = false :=
  Bool.eq_false_iff.2 fun hk => absurd (ha.hasKernel_iff.1 hk) (by decide)

/-- One kernel is not shut down. -/
def refusingOne (_ : Side) (d : String) : Answer :=
  if d = "k" then .refused (.failed "no") else .done

/-- One of two kernels is refused to be shut down, and stays; so does what is beside them. -/
theorem cleared_but_refused : ∃ t h ss h', Reachable t ∧ t.AtRest ∧ t.hub.Beside h ∧
    h.ShutsAll true (stoppers refusingOne) [] ss h' ∧
    h'.hasKernel .zero = true ∧ h'.hasKernel (.ofRandom 1) = false ∧
    KernelId.ofRandom 1 ∈ h'.retired ∧ Table.contains KernelId.zero h'.idMap = true ∧
    Table.find? (KernelId.ofRandom 2) h'.idMap = some ⟨.home, "n"⟩ := by
  obtain ⟨t, h, ha⟩ := exists_accompanied
  have hf : (stoppers refusingOne).Fitting :=
    fitting_stoppers fun _ d => by by_cases hd : d = "k" <;> simp [refusingOne, hd]
  obtain ⟨hex, hcl, -⟩ :=
    cleared ha.reachable ha.rest ha.beside hf (fun _ _ _ _ => rfl) true []
  obtain ⟨ss, h', -, hs⟩ := hex [.ofRandom 1, .zero] (by rw [ha.kernelIds]; exact .swap ..)
  have hc := hcl ss h' hs
  have hst : h.stays refusingOne .zero = true := by
    simp [Hub.stays, ha.first, refusingOne, Answer.refuses, HostError.isNotFound]
  have hgo : h.stays refusingOne (.ofRandom 1) = false := by
    simp [Hub.stays, ha.second, refusingOne, Answer.refuses]
  have hz : h.hasKernel .zero = true := Hub.hasKernel_of_stays hst
  have ho : h.hasKernel (.ofRandom 1) = true := ha.hasKernel_iff.2 (by simp)
  exact ⟨t, h, ss, h', ha.reachable, ha.rest, ha.beside, hs, (hc.registered _).trans hst,
    (hc.registered _).trans hgo, (hc.retired _).2 (.inl ⟨ho, hgo⟩), (hc.mapped _ hz).trans hst,
    (hc.others _ ha.not_hasKernel).trans ha.third⟩

/-- Both kernels are shut down, and the id map is still not empty. -/
theorem mapped_beside : ∃ t h ss h', Reachable t ∧ t.AtRest ∧
    (Call.asked (.record 2 (.start {}))).Leads (t.hub.adopt (.ofRandom 2) "python3").1
      [(.home, .start "python3" {}, .started "n")] h (.ended (.ok (.started (.ofRandom 2)))) ∧
    h.ShutsAll true (stoppers fun _ _ => .done) [] ss h' ∧
    (∀ e ∈ ss.flatMap (·.exchanges), e.2.2 = .done) ∧ (∀ id, h'.hasKernel id = false) ∧
    Table.find? (KernelId.ofRandom 2) h'.idMap = some ⟨.home, "n"⟩ := by
  obtain ⟨t, h, ha⟩ := exists_accompanied
  have ho : h.Orderly := ha.beside.orderly (orderly_of_rest ha.reachable ha.rest)
  have hf : (stoppers fun _ _ => .done).Fitting := fitting_stoppers fun _ _ => .inl rfl
  obtain ⟨ss, h', hcs, hv, hsay⟩ := Hub.Orderly.exists_shutdowns hf ho ho.distinct
    (fun id hi => Hub.hasKernel_iff.2 hi) true []
  have hs : h.ShutsAll true (stoppers fun _ _ => .done) [] ss h' :=
    ⟨hcs ▸ .shutDownAll (List.Perm.refl _), hv, hsay⟩
  have hc : h.Cleared true (fun _ _ => .done) ss h' := hs.clears ho fun _ _ _ => rfl
  have hstay (id : KernelId) : h.stays (fun _ _ => .done) id = false := by
    rw [Hub.stays]
    cases h.delegate? id <;> rfl
  refine ⟨t, h, ss, h', ha.reachable, ha.rest, ha.leads, hs, fun e he => ?_,
    fun id => (hc.registered id).trans (hstay id), (hc.others _ ha.not_hasKernel).trans ha.third⟩
  obtain ⟨id, -, hd⟩ := List.mem_filterMap.1 (hc.calls.mem_iff.1 he)
  obtain ⟨b, -, rfl⟩ := Option.map_eq_some_iff.1 hd
  rfl

end Traffic

end KernelHub
