import KernelHub.Proofs.Ledger.Mirror
import KernelHub.Proofs.Looks

/-
The hub does what the ledger does. Each command, run to its end on a hub that mirrors a
ledger, gives what the ledger's rules say, and leaves a hub that mirrors the ledger after.
-/

namespace KernelHub

namespace Call

variable {h h' : Hub} {c c' : Call} {es : List Exchange} {res : Result} {name : String}
  {o : StartOptions} {fresh : KernelId}

/-! ## Calls that look -/

/-- Does the call come from a command that leaves all kernels alone? -/
def looks : Call → Bool
  | asked c => c.looks
  | mergingHome .types => true
  | mergedHome .types _ => true
  | mergingRemote .types _ => true
  | merged .types .. => true
  | describing .. => true
  | defaulting => true
  | listing .. => true
  | listed .. => true
  | opening .. => true
  | connecting .. => true
  | ended _ => true
  | _ => false

theorem looks_begun {d : Command} (hd : d.looks = true) (hb : Begun h d c) : c.looks = true := by
  cases hb with
  | named | byDefault | nameless | gone | sought | record | inactive | activating | unopened
  | openingRecord => cases hd
  | _ => rfl

theorem looks_step (hc : c.looks = true) (hs : c.step? h = some (h', c')) :
    c'.looks = true ∧ ∃ m, h' = { h with provenance := m } := by
  cases advance_of_step? hs with
  | begun hb => exact ⟨looks_begun hc hb, _, rfl⟩
  | @both goal | @alone goal =>
    cases goal with
    | types => exact ⟨rfl, _, rfl⟩
    | start => cases hc
  | published | halfway | listed => exact ⟨rfl, _, rfl⟩
  | _ => cases hc

theorem looks_answered {a : Answer} (hc : c.looks = true) (hs : c.answered? h a = some c') :
    c'.looks = true := by
  cases reaction_of_answered? hs with
  | heard | named => cases hc
  | @home goal | @remote goal | @leftOut goal =>
    cases goal with
    | types => rfl
    | start => cases hc
  | _ => rfl

/-- A call that looks changes at most what is known about types. -/
theorem looks_leads (hc : c.looks = true) (hl : Leads h c es h' (ended res)) :
    ∃ m, h' = { h with provenance := m } := by
  generalize he : ended res = d at hl
  induction hl with
  | refl => exact ⟨_, rfl⟩
  | step hs _ ih =>
    obtain ⟨hc', m, rfl⟩ := looks_step hc hs
    exact ih hc' he
  | answer _ _ hs _ ih => exact ih (looks_answered hc hs) he

/-! ## Which type is started -/

theorem refresh_spec (hl : Leads h (checking name o fresh) es h' (ended res)) :
    (∃ e, Ledger.Refreshes h.setting es (some e) ∧ res = .error (.catalog e) ∧ h' = h) ∨
    ∃ fs gs m, es = fs ++ gs ∧ Ledger.Refreshes h.setting fs none ∧
      Leads { h with provenance := m } (registering name o fresh) gs h' (ended res) := by
  have h1 := of_step hl rfl rfl
  split at h1
  · exact .inr ⟨[], es, h.provenance, rfl, .known, h1⟩
  · rcases merge_spec h1 with ⟨e, rfl, rfl, rfl⟩ | ⟨home, remote, fs, gs, rfl, hg, h2⟩
    · exact .inl ⟨e, .unlisted, rfl, rfl⟩
    · refine .inr ⟨fs, gs, _, rfl, ?_, h2⟩
      cases hg with
      | alone hr => exact .home hr
      | both hr | degraded hr => exact .both hr

theorem name_spec {asked : Option String}
    (hl : Leads h (.asked (.start asked o fresh)) es h' (ended res)) :
    (∃ e, Ledger.Names h.setting asked es (.error e) ∧ res = .error e ∧ h' = h) ∨
    ∃ name fs gs, es = fs ++ gs ∧ Ledger.Names h.setting asked fs (.ok name) ∧
      Leads h (checking name o fresh) gs h' (ended res) := by
  have h1 := of_step hl rfl rfl
  cases asked with
  | some name => exact .inr ⟨name, [], es, rfl, .given, h1⟩
  | none =>
    cases hd : h.config.resolvedDefault h.environment with
    | some name =>
      simp only [begin, hd] at h1
      exact .inr ⟨name, [], es, rfl, .default hd, h1⟩
    | none =>
      simp only [begin, hd] at h1
      obtain ⟨a, c, fs, rfl, ha, hs, h2⟩ := of_request h1 rfl rfl
      cases reaction_of_answered? hs with
      | @named _ _ _ name hf => exact .inr ⟨name, [_], fs, rfl, .first hd hf, h2⟩
      | nameless hf =>
        obtain ⟨rfl, rfl, rfl⟩ := of_ended h2
        exact .inl ⟨_, .nothing hd hf, rfl, rfl⟩
      | unnamed =>
        obtain ⟨rfl, rfl, rfl⟩ := of_ended h2
        exact .inl ⟨_, .unlisted hd, rfl, rfl⟩
      | crashed => exact absurd rfl ha

/-! ## What follows work -/

theorem of_follow_nothing {res₁ : Result} (hl : Leads h (follow res₁ .nothing) es h' (ended res)) :
    es = [] ∧ h' = h ∧ res = res₁ := of_ended hl

theorem of_follow_started {id : KernelId} {x : Outcome}
    (hl : Leads h (follow (.ok x) (.started id)) es h' (ended res)) :
    es = [] ∧ h' = h ∧ res = .ok x := of_ended hl

theorem of_follow_unstarted {id : KernelId} {e : KernelError}
    (hl : Leads h (follow (.error e) (.started id)) es h' (ended res)) :
    es = [] ∧ h' = h.unregister id ∧ res = .error e :=
  of_ended (of_step hl rfl rfl)

theorem of_follow_shutDown {id : KernelId} {x : Outcome}
    (hl : Leads h (follow (.ok x) (.shutDown id)) es h' (ended res)) :
    es = [] ∧ h' = (h.retire id).unregister id ∧ res = .ok .done :=
  of_ended (of_step (of_step hl rfl rfl) rfl rfl)

theorem of_follow_notShutDown {id : KernelId} {e : KernelError}
    (hl : Leads h (follow (.error e) (.shutDown id)) es h' (ended res)) :
    es = [] ∧ h' = h ∧ res = .error e := of_ended hl

end Call

namespace Ledger

variable {h h' : Hub} {l : Ledger} {es : List Exchange} {res : Result}

/-- A start whose type is known either finds its id held, or registers it and asks the host
of the type, if there is one. -/
theorem registering_spec {name : String} {o : StartOptions} {fresh : KernelId} (hm : Mirrors h l)
    (hl : (Call.registering name o fresh).Leads h es h' (.ended res)) :
    (l.Holds (o.id.getD fresh) ∧ es = [] ∧ h' = h ∧
      res = .error (.alreadyExists (o.id.getD fresh))) ∨
    ¬ l.Holds (o.id.getD fresh) ∧
      ((h.hasSide (h.provenance.route name) = false ∧ es = [] ∧ Mirrors h' l ∧
        res = .error (.specNotFound name)) ∨
      h.hasSide (h.provenance.route name) = true ∧
        ((∃ d, es = [(h.provenance.route name, .start name o, .started d)] ∧
          Mirrors h' (l.add (o.id.getD fresh) ⟨name, ⟨h.provenance.route name, d⟩, .running⟩) ∧
          res = .ok (.started (o.id.getD fresh))) ∨
        ∃ e, es = [(h.provenance.route name, .start name o, .refused e)] ∧ Mirrors h' l ∧
          res = .error (if e.isNotFound = true then .specNotFound name
            else .operationFailed (o.id.getD fresh) .start e))) := by
  cases hreg : h.register? (o.id.getD fresh) name with
  | none =>
    have h1 := Call.of_step hl rfl (by simp only [Call.step?, hreg]; rfl)
    obtain ⟨rfl, rfl, rfl⟩ := Call.of_ended h1
    exact .inl ⟨(register?_eq_none hm _ name).1 hreg, rfl, rfl, rfl⟩
  | some hp =>
    obtain ⟨h₁, p⟩ := hp
    have hfree : ¬ l.Holds (o.id.getD fresh) := by
      rw [← register?_eq_none hm _ name, hreg]
      exact Option.some_ne_none _
    have h1 := Call.of_step hl rfl (by simp only [Call.step?, hreg]; rfl)
    obtain ⟨-, -, rfl, rfl⟩ := Hub.register?_eq_some hreg
    have hrec : (h.enroll (o.id.getD fresh) name).record? h.records.length =
        some ⟨o.id.getD fresh, name, .unborn, none, false⟩ := by simp [Hub.record?_enroll]
    refine .inr ⟨hfree, ?_⟩
    rcases Work.start_spec hrec rfl h1 with ⟨hs, h2⟩ | ⟨hs, a, gs', rfl, hor⟩
    · obtain ⟨rfl, rfl, rfl⟩ := Call.of_follow_unstarted h2
      exact .inl ⟨hs, rfl, mirrors_unstarted hm hfree, rfl⟩
    · refine .inr ⟨hs, ?_⟩
      rcases hor with ⟨d, rfl, h2⟩ | ⟨e, res₁, rfl, rfl, h2⟩
      · obtain ⟨rfl, rfl, rfl⟩ := Call.of_follow_started h2
        exact .inl ⟨d, rfl, mirrors_started hm hfree hs, rfl⟩
      · obtain ⟨rfl, rfl, rfl⟩ := Call.of_follow_unstarted h2
        exact .inr ⟨e, rfl, mirrors_unstarted hm hfree, rfl⟩

/-- So the ledger has a rule for it. It is told that the id exists when the id is held, and only
then. -/
theorem register_simulates {name : String} {asked : Option String} {o : StartOptions}
    {fresh : KernelId} {fs gs : List Exchange} (hm : Mirrors h l)
    (hn : Names h.setting asked fs (.ok name)) (hr : Refreshes h.setting gs none)
    (hl : (Call.registering name o fresh).Leads h es h' (.ended res)) :
    ∃ l', Step h.setting l (.start asked o fresh) (fs ++ gs ++ es) res l' ∧ Mirrors h' l' ∧
      (res = .error (.alreadyExists (o.id.getD fresh)) ↔ l.Holds (o.id.getD fresh)) := by
  have hside {side : Side} {b : Bool} (hs : h.hasSide side = b) :
      side = .home ∧ b = true ∨ h.setting.remote = b := by
    cases side
    · exact .inl ⟨rfl, hs.symm⟩
    · exact .inr hs
  rcases registering_spec hm hl with ⟨hh, rfl, rfl, rfl⟩ |
    ⟨hfree, ⟨hs, rfl, hm', rfl⟩ | ⟨hs, ⟨d, rfl, hm', rfl⟩ | ⟨e, rfl, hm', rfl⟩⟩⟩
  · rw [List.append_nil]
    exact ⟨l, .taken hn hr hh, hm, iff_of_true rfl hh⟩
  · rw [List.append_nil]
    have hno := (hside hs).resolve_left fun hc => nomatch hc.2
    exact ⟨l, .homeless hn hr hfree hno, hm', iff_of_false nofun hfree⟩
  · have hyes := (hside hs).imp_left And.left
    exact ⟨_, .started hn hr hfree hyes, hm', iff_of_false nofun hfree⟩
  · have hyes := (hside hs).imp_left And.left
    refine ⟨l, .unstarted hn hr hfree hyes, hm', iff_of_false ?_ hfree⟩
    split <;> nofun

theorem start_simulates {asked : Option String} {o : StartOptions} {fresh : KernelId}
    (hm : Mirrors h l) (hl : (Call.asked (.start asked o fresh)).Leads h es h' (.ended res)) :
    ∃ l', Step h.setting l (.start asked o fresh) es res l' ∧ Mirrors h' l' := by
  rcases Call.name_spec hl with ⟨e, hn, rfl, rfl⟩ | ⟨name, fs, gs, rfl, hn, h1⟩
  · exact ⟨l, .unnamed hn, hm⟩
  · rcases Call.refresh_spec h1 with ⟨e, hr, rfl, rfl⟩ | ⟨gs, ks, m, rfl, hr, h2⟩
    · exact ⟨l, .unlisted hn hr, hm⟩
    · rw [← List.append_assoc]
      obtain ⟨l', hs, hm', -⟩ := register_simulates (h := { h with provenance := m })
        (mirrors_provenance hm m) hn hr h2
      exact ⟨l', hs, hm'⟩

/-- A job on an id finds no kernel, or the record of the one that the ledger has. -/
theorem seek_spec {id : KernelId} {job : Job} (hm : Mirrors h l)
    (hl : (Call.seeking id job).Leads h es h' (.ended res)) :
    (Table.find? id l.live = none ∧ es = [] ∧ h' = h ∧ res = .error (.kernelNotFound id)) ∨
    ∃ p e, Table.find? id h.registry = some p ∧ Table.find? id l.live = some e ∧
      h.record? p = some (e.record id) ∧ h.hasSide e.binding.side = true ∧
      (Call.working { job, place := p } (Call.afterJob id job)).Leads h es h' (.ended res) := by
  have h1 := Call.of_step hl rfl rfl
  cases hf : Table.find? id h.registry with
  | none =>
    rw [hf] at h1
    obtain ⟨rfl, rfl, rfl⟩ := Call.of_ended h1
    have hk := contains_registry hm id
    rw [Table.contains_eq_false.2 hf] at hk
    exact .inl ⟨Table.contains_eq_false.1 hk.symm, rfl, rfl, rfl⟩
  | some p =>
    rw [hf] at h1
    obtain ⟨e, he, hr, hs⟩ := hm.known id p hf
    exact .inr ⟨p, e, rfl, he, hr, hs, h1⟩

theorem interrupt_simulates {id : KernelId} (hm : Mirrors h l)
    (hl : (Call.seeking id .interrupt).Leads h es h' (.ended res)) :
    ∃ l', Step h.setting l (.kernel id .interrupt) es res l' ∧ Mirrors h' l' := by
  rcases seek_spec hm hl with ⟨hf, rfl, rfl, rfl⟩ | ⟨p, ⟨name, b, st⟩, hp, hf, hr, hs, h1⟩
  · exact ⟨l, .unknown hf nofun, hm⟩
  · cases st with
    | dead =>
      obtain ⟨rfl, rfl, rfl⟩ := Call.of_follow_nothing (Work.refused_spec hr rfl h1)
      exact ⟨l, .interruptDead hf rfl, hm⟩
    | running =>
      obtain ⟨a, fs, res₁, rfl, ⟨rfl, rfl⟩ | ⟨e, rfl, rfl⟩, h2⟩ := Work.interrupt_spec hr hs h1
      · obtain ⟨rfl, rfl, rfl⟩ := Call.of_follow_nothing h2
        exact ⟨l, .interrupted hf rfl, hm⟩
      · obtain ⟨rfl, rfl, rfl⟩ := Call.of_follow_nothing h2
        exact ⟨l, .notInterrupted hf rfl, hm⟩

theorem restart_simulates {id : KernelId} {now : Bool} (hm : Mirrors h l)
    (hl : (Call.seeking id (.restart now)).Leads h es h' (.ended res)) :
    ∃ l', Step h.setting l (.kernel id (.restart now)) es res l' ∧ Mirrors h' l' := by
  rcases seek_spec hm hl with ⟨hf, rfl, rfl, rfl⟩ | ⟨p, ⟨name, b, st⟩, hp, hf, hr, hs, h1⟩
  · exact ⟨l, .unknown hf nofun, hm⟩
  · cases st with
    | dead =>
      obtain ⟨rfl, rfl, rfl⟩ := Call.of_follow_nothing (Work.refused_spec hr rfl h1)
      exact ⟨l, .restartDead hf rfl, hm⟩
    | running =>
      rcases Work.restart_spec hr hs h1 with ⟨fs, rfl, h2⟩ |
        ⟨e, a, fs, h₁, rfl, ⟨⟨w, rfl⟩, rfl⟩ | ⟨ha, rfl⟩, h2⟩
      · obtain ⟨rfl, rfl, rfl⟩ := Call.of_follow_nothing h2
        exact ⟨l, .restarted hf rfl, hm⟩
      · obtain ⟨rfl, rfl, rfl⟩ := Call.of_follow_nothing h2
        exact ⟨_, .lost hf rfl, mirrors_dead hm hp hf⟩
      · obtain ⟨rfl, rfl, rfl⟩ := Call.of_follow_nothing h2
        exact ⟨l, .notRestarted hf rfl ha, hm⟩

theorem model_simulates {id : KernelId} (hm : Mirrors h l)
    (hl : (Call.seeking id .model).Leads h es h' (.ended res)) :
    ∃ l', Step h.setting l (.kernel id .model) es res l' ∧ Mirrors h' l' := by
  rcases seek_spec hm hl with ⟨hf, rfl, rfl, rfl⟩ | ⟨p, e, hp, hf, hr, hs, h1⟩
  · exact ⟨l, .unknown hf nofun, hm⟩
  · obtain ⟨a, fs, res₁, rfl, ⟨m, rfl, rfl⟩ | ⟨x, rfl, rfl⟩, h2⟩ := Work.model_spec hr hs h1
    · obtain ⟨rfl, rfl, rfl⟩ := Call.of_follow_nothing h2
      exact ⟨l, .modelled hf, hm⟩
    · obtain ⟨rfl, rfl, rfl⟩ := Call.of_follow_nothing h2
      exact ⟨l, .notModelled hf, hm⟩

theorem shutdown_simulates {id : KernelId} {now : Bool} (hm : Mirrors h l) (hn : id ∉ h.retired)
    (hl : (Call.seeking id (.shutdown now)).Leads h es h' (.ended res)) :
    ∃ l', Step h.setting l (.kernel id (.shutdown now)) es res l' ∧ Mirrors h' l' := by
  rcases seek_spec hm hl with ⟨hf, rfl, rfl, rfl⟩ | ⟨p, e, hp, hf, hr, hs, h1⟩
  · exact ⟨l, .unknown hf fun _ _ => fun hr => hn ((hm.retired id).2 hr), hm⟩
  · rcases Work.shutdown_spec hr hs h1 with ⟨a, fs, rfl, ha, h2⟩ | ⟨x, fs, rfl, hx, h2⟩
    · obtain ⟨rfl, rfl, rfl⟩ := Call.of_follow_shutDown h2
      exact ⟨_, .shutDown hf ha, mirrors_retire hm hp⟩
    · obtain ⟨rfl, rfl, rfl⟩ := Call.of_follow_notShutDown h2
      exact ⟨l, .notShutDown hf hx, hm⟩

/-- One command, run to its end. -/
theorem command_simulates {c : Command} (hc : c.offered = true) (hm : Mirrors h l)
    (hl : (Call.asked c).Leads h es h' (.ended res)) :
    ∃ l', Step h.setting l c es res l' ∧ Mirrors h' l' := by
  have look (hc : c.looks = true) : ∃ l', Step h.setting l c es res l' ∧ Mirrors h' l' := by
    obtain ⟨m, rfl⟩ := Call.looks_leads (c := .asked c) hc hl
    exact ⟨l, .looked hc, mirrors_provenance hm m⟩
  cases c with
  | types | type | defaultName | list | openSession => exact look rfl
  | record | active | openRecord => cases hc
  | start asked o fresh => exact start_simulates hm hl
  | kernel id job =>
    have h1 := Call.of_step hl rfl rfl
    cases job with
    | start => cases hc
    | interrupt => exact interrupt_simulates hm h1
    | restart now => exact restart_simulates hm h1
    | model => exact model_simulates hm h1
    | shutdown now =>
      simp only [Call.begin] at h1
      split at h1
      · next hr =>
        obtain ⟨rfl, rfl, rfl⟩ := Call.of_ended h1
        exact ⟨l, .again ((hm.retired id).1 hr), hm⟩
      · next hr => exact shutdown_simulates hm hr h1

end Ledger

end KernelHub
