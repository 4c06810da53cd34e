import KernelHub.Proofs.Deeds
import KernelHub.Proofs.Hosted.Exact
import KernelHub.Proofs.Looks
import KernelHub.Proofs.Veil.Calls
import Mathlib.Data.List.Forall2

/-
The ids that hosts give to their kernels stay hidden. Hosts that answer the same but for these
ids cannot be told apart by those who use the hub: whatever is done, the results are the same,
and so is all that can be asked of the hub itself. The models that clients are shown bear the
ids that clients know.
-/

namespace KernelHub

/-! ## What callers can see -/

def SessionBinding.seen (s : SessionBinding) : SessionBinding :=
  { s with binding := { s.binding with delegate := "" } }

/-- The result without what only its host may know: the host's own id of a session's kernel, the
texts of the host's errors, and what the additional part of a model holds. -/
def Result.seen : Result → Result
  | .ok (.model m) => .ok (.model m.mute)
  | .ok (.models ms) => .ok (.models (ms.map Model.mute))
  | .ok (.opened session channel) => .ok (.opened session.seen channel)
  | .ok x => .ok x
  | .error e => .error e.mute

/-- After a deed in one run and in another, callers see the same. -/
structure Done.Matches (d₁ d₂ : Done) : Prop where
  results : d₁.served.map (Result.seen ·.result) = d₂.served.map (Result.seen ·.result)
  ids : d₁.hub.kernelIds = d₂.hub.kernelIds
  kernel : ∀ id, d₁.hub.hasKernel id = d₂.hub.hasKernel id
  state : ∀ id, d₁.hub.kernelState? id = d₂.hub.kernelState? id
  side : ∀ id, d₁.hub.kernelSide? id = d₂.hub.kernelSide? id

/-- Is it a model of the kernel that clients know by this id, as they should see it? -/
structure Model.Shown (m : Model) (h : Hub) (id : KernelId) : Prop where
  named : m.id = toString id
  placed : (h.kernelSide? id).isSome = true
  home : h.kernelSide? id = some .home → m.additional = none
  remote : h.kernelSide? id = some .remote → m.executionState = none

/-- The models that a deed gives, of one kernel or of all, are as clients should see them. -/
structure Done.Shows (d : Done) : Prop where
  model : ∀ s ∈ d.served, ∀ id m, s.command = .kernel id .model → s.result = .ok (.model m) →
    m.Shown d.hub id
  models : ∀ s ∈ d.served, ∀ ms, s.command = .list → s.result = .ok (.models ms) → ∀ m ∈ ms,
    ∃ id, m.Shown d.hub id

/-- Asked the same after the same, do the hosts answer the same? What is the same is judged under
veils, one for the hosts on either hand: with them, ids that are renamed have one name. -/
def Hosts.Alike (v₁ v₂ : Veil) (hosts₁ hosts₂ : Hosts) : Prop :=
  ∀ p₁ p₂ side q₁ q₂, hosts₁.Say [] p₁ → hosts₂.Say [] p₂ →
    p₁.map v₁.exchange = p₂.map v₂.exchange → v₁.request side q₁ = v₂.request side q₂ →
    v₁.answer side (hosts₁ p₁ side q₁) = v₂.answer side (hosts₂ p₂ side q₂)

namespace Veil

variable {v v₁ v₂ : Veil} {h h' h₁ h₂ : Hub} {l : Ledger} {hosts₁ hosts₂ : Hosts}
  {ds ds₁ ds₂ : List Done} {p₁ p₂ es fs : List Exchange}

/-! ## Runs under a veil -/

variable (v) in
def done (d : Done) : Done := ⟨d.deed, d.served.map v.served, v.hub d.hub⟩

theorem commands_served (ss : List Served) :
    (ss.map v.served).map (·.command) = ss.map (·.command) := by
  rw [List.map_map]
  rfl

theorem exchanges_served (ss : List Served) :
    (ss.map v.served).flatMap (·.exchanges) = (ss.flatMap (·.exchanges)).map v.exchange := by
  rw [List.flatMap_map, List.map_flatMap]
  rfl

theorem plan_done (ds : List Done) : (ds.map v.done).map Done.plan = ds.map Done.plan := by
  rw [List.map_map]
  refine List.map_congr_left fun d _ => ?_
  exact Prod.ext rfl (commands_served d.served)

theorem exchanges_done (ds : List Done) :
    (ds.map v.done).flatMap Done.exchanges = (ds.flatMap Done.exchanges).map v.exchange := by
  rw [List.flatMap_map, List.map_flatMap]
  exact List.flatMap_congr fun d _ => exchanges_served d.served

theorem gives_hub {d : Deed} {cs : List Command} :
    d.Gives (v.hub h) cs ↔ d.Gives h cs := by
  constructor <;> intro hg <;> cases hg with
  | ask => exact .ask
  | shutDownAll hp => exact .shutDownAll hp

theorem does_hub (hd : h.Does ds) : (v.hub h).Does (ds.map v.done) := by
  induction hd with
  | nil => exact .nil
  | cons hg hs _ ih =>
    refine .cons ?_ (serves_hub hs) ih
    rw [commands_served]
    exact gives_hub.2 hg

/-! ## What a veil leaves to be seen -/

theorem mute_mute_host (e : HostError) : e.mute.mute = e.mute := by cases e <;> rfl

theorem mute_mute_error (e : KernelError) : e.mute.mute = e.mute := by
  cases e with
  | operationFailed | catalog | channel => simp [KernelError.mute, mute_mute_host]
  | _ => rfl

theorem mute_mute_model (m : Model) : m.mute.mute = m.mute := by
  simp [Model.mute, Function.comp_def]

@[simp] theorem seen_result (r : Result) : (v.result r).seen = r.seen := by
  cases r with
  | error e => simp [result, Result.seen, mute_mute_error]
  | ok x => cases x <;> simp [result, outcome, Result.seen, mute_mute_model, session, binding,
      SessionBinding.seen]

theorem matches_of_done {d₁ d₂ : Done} (he : v₁.done d₁ = v₂.done d₂) : d₁.Matches d₂ := by
  have hresults (v : Veil) (d : Done) : d.served.map (Result.seen ·.result) =
      (v.done d).served.map (Result.seen ·.result) := by
    simp [done, served, Function.comp_def]
  have hhub : v₁.hub d₁.hub = v₂.hub d₂.hub := congrArg Done.hub he
  refine ⟨by rw [hresults v₁, he, ← hresults v₂], ?_, fun id => ?_, fun id => ?_, fun id => ?_⟩
  · rw [← kernelIds_hub (v := v₁), hhub, kernelIds_hub]
  · rw [← hasKernel_hub (v := v₁), hhub, hasKernel_hub]
  · rw [← kernelState?_hub (v := v₁), hhub, kernelState?_hub]
  · rw [← kernelSide?_hub (v := v₁), hhub, kernelSide?_hub]

/-! ## Two runs -/

/-- Hosts that answer alike do not part ways at an answer. -/
theorem concur_of_alike (ha : Hosts.Alike v₁ v₂ hosts₁ hosts₂) (h1 : hosts₁.Say [] es)
    (h2 : hosts₂.Say [] fs) : Concur (es.map v₁.exchange) (fs.map v₂.exchange) := by
  intro past side q a b es' fs' he hf
  obtain ⟨p₁, es₁, rfl, hp₁, he⟩ := List.map_eq_append_iff.1 he
  obtain ⟨⟨side₁, q₁, a₁⟩, es₂, rfl, hx₁, -⟩ := List.map_eq_cons_iff.1 he
  obtain ⟨p₂, fs₁, rfl, hp₂, hf⟩ := List.map_eq_append_iff.1 hf
  obtain ⟨⟨side₂, q₂, a₂⟩, fs₂, rfl, hx₂, -⟩ := List.map_eq_cons_iff.1 hf
  obtain ⟨hs₁, ha₁, -⟩ := Hosts.of_say_append h1
  obtain ⟨hs₂, ha₂, -⟩ := Hosts.of_say_append h2
  cases hx₁
  obtain ⟨hside, hx₂⟩ := Prod.mk.inj hx₂
  obtain ⟨hq, rfl⟩ := Prod.mk.inj hx₂
  cases hside
  rw [ha₁, ha₂]
  exact ha p₁ p₂ _ q₁ q₂ hs₁ hs₂ (hp₁.trans hp₂.symm) hq.symm

/-- Hubs that are one hub under the veils stay so, if the same is done with them. -/
theorem does_alike (ha : Hosts.Alike v₁ v₂ hosts₁ hosts₂) (hv : v₁.hub h₁ = v₂.hub h₂)
    (hd₁ : h₁.Does ds₁) (hd₂ : h₂.Does ds₂) (hp : ds₂.map Done.plan = ds₁.map Done.plan)
    (hs₁ : hosts₁.Say [] (ds₁.flatMap Done.exchanges))
    (hs₂ : hosts₂.Say [] (ds₂.flatMap Done.exchanges)) : ds₁.map v₁.done = ds₂.map v₂.done := by
  refine Hub.does_unique (does_hub hd₁) (hv ▸ does_hub hd₂) ?_ ?_
  · rw [plan_done, plan_done, hp]
  · rw [exchanges_done, exchanges_done]
    exact concur_of_alike ha hs₁ hs₂

/-- What is done over one pair of hosts can be done over the other. -/
theorem exists_twin (ha : Hosts.Alike v₁ v₂ hosts₁ hosts₂) (hf : hosts₂.Fitting)
    (hd : h₁.Does ds₁) (hv : v₁.hub h₁ = v₂.hub h₂) (hm : Ledger.Mirrors h₂ l)
    (hp₁ : hosts₁.Say [] p₁) (hp₂ : hosts₂.Say [] p₂)
    (hp : p₁.map v₁.exchange = p₂.map v₂.exchange)
    (hs : hosts₁.Say p₁ (ds₁.flatMap Done.exchanges)) :
    ∃ ds₂, h₂.Does ds₂ ∧ ds₂.map Done.plan = ds₁.map Done.plan ∧
      hosts₂.Say p₂ (ds₂.flatMap Done.exchanges) := by
  induction hd generalizing h₂ l p₁ p₂ with
  | nil => exact ⟨[], .nil, rfl, trivial⟩
  | @cons h₁ d ss h₁' ds hg hss hd ih =>
    obtain ⟨hs, hrest⟩ := Hosts.of_say_append hs
    have ho : ∀ c ∈ ss.map (·.command), c.offered = true := hss.offered
    obtain ⟨ts, h₂', hts, hc, hsay⟩ := Ledger.serves_all hf hm p₂ _ ho
    have hx : Concur ((ss.map v₁.served).flatMap (·.exchanges))
        ((ts.map v₂.served).flatMap (·.exchanges)) := by
      have hall := concur_of_alike ha (Hosts.say_append hp₁ hs) (Hosts.say_append hp₂ hsay)
      rw [List.map_append, List.map_append, hp] at hall
      rw [exchanges_served, exchanges_served]
      exact Concur.right hall
    obtain ⟨hsame, hv'⟩ := Hub.serves_unique (serves_hub hss) (hv ▸ serves_hub hts)
      (by rw [commands_served, commands_served, hc]) hx
    obtain ⟨l', hm'⟩ := Ledger.mirrors_serves hm hts
    have hpasts : (p₁ ++ ss.flatMap (·.exchanges)).map v₁.exchange =
        (p₂ ++ ts.flatMap (·.exchanges)).map v₂.exchange := by
      rw [List.map_append, List.map_append, hp, ← exchanges_served, hsame, exchanges_served]
    obtain ⟨ds₂, hd₂, hplan, hsays⟩ := ih hv' hm' (Hosts.say_append hp₁ hs)
      (Hosts.say_append hp₂ hsay) hpasts hrest
    have hg' : d.Gives h₂ (ts.map (·.command)) := by
      rw [hc, ← gives_hub (v := v₂), ← hv, gives_hub]
      exact hg
    refine ⟨⟨d, ts, h₂'⟩ :: ds₂, .cons hg' hts hd₂, ?_, Hosts.say_append hsay hsays⟩
    simp only [List.map_cons, hplan, Done.plan, hc]

end Veil

/-! ## Models as clients see them -/

variable {h h₁ : Hub} {l : Ledger} {es : List Exchange} {ss : List Served} {ds : List Done}

theorem Hub.shown_clientModel {id : KernelId} {side : Side}
    (hs : h.kernelSide? id = some side) (m : Model) : (clientModel id side m).Shown h id := by
  refine ⟨id_clientModel id side m, by rw [hs]; rfl, fun hh => ?_, fun hr => ?_⟩
  · cases hs.symm.trans hh
    rfl
  · cases hs.symm.trans hr
    rfl

/-- Except for a shutdown, one command is all that a deed comes to. -/
theorem Deed.Gives.alone {d : Deed} {s : Served} (hg : d.Gives h (ss.map (·.command)))
    (hs : s ∈ ss) (hn : ∀ id now, s.command ≠ .kernel id (.shutdown now)) : ss = [s] := by
  have hc : s.command ∈ ss.map (·.command) := List.mem_map_of_mem hs
  generalize hcs : ss.map (·.command) = cs at hg hc
  cases hg with
  | ask =>
    obtain ⟨s', rfl, -⟩ := List.map_eq_singleton_iff.1 hcs
    rw [List.mem_singleton.1 hs]
  | shutDownAll =>
    obtain ⟨id, -, he⟩ := List.mem_map.1 hc
    exact absurd he.symm (hn id _)

theorem Hub.Serves.of_one {s : Served} (hs : h.Serves [s] h₁) : s.command.offered = true ∧
    (Call.asked s.command).Leads h s.exchanges h₁ (.ended s.result) := by
  cases hs with
  | cons hc hl hn =>
    cases hn
    exact ⟨hc, hl⟩

theorem Ledger.shown_model {id : KernelId} {m : Model} (hm : Mirrors h l)
    (hl : (Call.asked (.kernel id .model)).Leads h es h₁ (.ended (.ok (.model m)))) :
    m.Shown h₁ id := by
  obtain ⟨l', hstep, hm'⟩ := command_simulates rfl hm hl
  have hside := (agrees_of_mirrors hm').side id
  cases hstep with
  | modelled hf =>
    rw [hf] at hside
    exact Hub.shown_clientModel hside _
  | looked hc => cases hc

theorem Ledger.shown_clientModels {side : Side} {ms : List Model} {m : Model} (hm : Mirrors h l)
    (hmem : m ∈ h.clientModels side ms) : ∃ id, m.Shown h id := by
  obtain ⟨m₀, -, id, hx, rfl⟩ := Hub.mem_clientModels.1 hmem
  have hb := Hub.find?_of_externalId? hm.idMap hx
  rw [hm.mapped] at hb
  obtain ⟨e, he, hb⟩ := Option.map_eq_some_iff.1 hb
  have hside := (agrees_of_mirrors hm).side id
  rw [he, Option.map_some, hb] at hside
  exact ⟨id, Hub.shown_clientModel hside m₀⟩

theorem Ledger.shown_list {ms : List Model} {m : Model} (hm : Mirrors h l)
    (hl : (Call.asked .list).Leads h es h₁ (.ended (.ok (.models ms)))) (hmem : m ∈ ms) :
    ∃ id, m.Shown h₁ id := by
  obtain ⟨p, rfl, hlook⟩ := Call.list_look hl
  have shown (hm : ∃ side ms, m ∈ h.clientModels side ms) :
      ∃ id, m.Shown { h with provenance := p } id := by
    obtain ⟨side, ms, hmem⟩ := hm
    exact shown_clientModels (mirrors_provenance ‹_› p) hmem
  cases hlook with
  | @listed es found ms hf =>
    rcases List.mem_append.1 hmem with hmem | hmem
    · cases hf with
      | alone | unlisted => cases hmem
      | listed => exact shown ⟨_, _, hmem⟩
    · exact shown ⟨_, _, hmem⟩

theorem Ledger.shows_of_does (hm : Mirrors h l) (hd : h.Does ds) : ∀ d ∈ ds, d.Shows := by
  induction hd generalizing l with
  | nil => nofun
  | @cons h d ss h₁ ds hg hs _ ih =>
    obtain ⟨l₁, hm₁⟩ := mirrors_serves hm hs
    refine List.forall_mem_cons.2 ⟨⟨?_, ?_⟩, ih hm₁⟩
    · intro s hmem id m hc hr
      rw [hg.alone hmem (by rw [hc]; nofun)] at hs
      obtain ⟨-, hl⟩ := hs.of_one
      rw [hc, hr] at hl
      exact shown_model hm hl
    · intro s hmem ms hc hr m hin
      rw [hg.alone hmem (by rw [hc]; nofun)] at hs
      obtain ⟨-, hl⟩ := hs.of_one
      rw [hc, hr] at hl
      exact shown_list hm hl hin

/-! ## The hosts' own ids stay hidden -/

/-- What is done over one pair of hosts can be done over another that is alike, and however it is
done there, callers see the same. -/
theorem Hub.twins_of_alike {v₁ v₂ : Veil} {hosts₁ hosts₂ : Hosts} {ds₁ : List Done}
    (hu : h.Unused) (hf : hosts₂.Fitting) (ha : Hosts.Alike v₁ v₂ hosts₁ hosts₂)
    (hd₁ : h.Does ds₁) (hs₁ : hosts₁.Say [] (ds₁.flatMap Done.exchanges)) :
    (∃ ds₂, h.Does ds₂ ∧ ds₂.map Done.plan = ds₁.map Done.plan ∧
      hosts₂.Say [] (ds₂.flatMap Done.exchanges)) ∧
    ∀ ds₂, h.Does ds₂ → ds₂.map Done.plan = ds₁.map Done.plan →
      hosts₂.Say [] (ds₂.flatMap Done.exchanges) → List.Forall₂ Done.Matches ds₁ ds₂ := by
  have hv : v₁.hub h = v₂.hub h := by simp [Veil.hub, hu.records, hu.idMap]
  have hnone (hosts : Hosts) : hosts.Say [] [] := trivial
  refine ⟨Veil.exists_twin ha hf hd₁ hv (Ledger.mirrors_unused hu) (hnone _) (hnone _) rfl hs₁, ?_⟩
  intro ds₂ hd₂ hp hs₂
  have he := Veil.does_alike ha hv hd₁ hd₂ hp hs₁ hs₂
  rw [← List.forall₂_eq_eq_eq, List.forall₂_map_left_iff, List.forall₂_map_right_iff] at he
  exact he.imp fun _ _ => Veil.matches_of_done

/-- Over hosts that answer the same but for the ids they give to their kernels, all that is done
with a hub can be done, and callers see the same. Each model that they are shown bears the id
that they know, and only what makes sense for its side. -/
theorem Hub.matches_of_alike {v₁ v₂ : Veil} {hosts₁ hosts₂ : Hosts} (hu : h.Unused)
    (hf₁ : hosts₁.Fitting) (hf₂ : hosts₂.Fitting) (ha : Hosts.Alike v₁ v₂ hosts₁ hosts₂) :
    (∀ deeds : List Deed, (∀ d ∈ deeds, d.offered = true) → ∃ ds, h.Does ds ∧
      ds.map (·.deed) = deeds ∧ hosts₁.Say [] (ds.flatMap Done.exchanges)) ∧
    (∀ ds, h.Does ds → ∀ d ∈ ds, d.Shows) ∧
    ∀ ds₁, h.Does ds₁ → hosts₁.Say [] (ds₁.flatMap Done.exchanges) →
      (∃ ds₂, h.Does ds₂ ∧ ds₂.map Done.plan = ds₁.map Done.plan ∧
        hosts₂.Say [] (ds₂.flatMap Done.exchanges)) ∧
      ∀ ds₂, h.Does ds₂ → ds₂.map Done.plan = ds₁.map Done.plan →
        hosts₂.Say [] (ds₂.flatMap Done.exchanges) → List.Forall₂ Done.Matches ds₁ ds₂ := by
  have hm := Ledger.mirrors_unused hu
  exact ⟨fun deeds hd => Hub.exists_does hf₁ hm hd [], fun ds hd => Ledger.shows_of_does hm hd,
    fun ds₁ hd₁ hs₁ => Hub.twins_of_alike hu hf₂ ha hd₁ hs₁⟩

/-! Hosts that number their kernels, and tell the number wherever they can. -/

/-- The kernels that a host has handed out. -/
def handed (side : Side) (past : List Exchange) : List String :=
  past.filterMap fun
    | (x, .start .., .started d) => if x = side then some d else none
    | _ => none

def tellTaleModel (d : String) : Model :=
  { id := d, name := "python3", additional := some (.string d) }

def tellTale (f : String → String) : Hosts := fun past side q =>
  match q with
  | .specs => .specs [⟨"python3", "Python 3", "python", []⟩]
  | .spec name => .spec ⟨name, "Python 3", "python", []⟩
  | .start .. => .started (f (toString past.length))
  | .interrupt d => .refused (.failed d)
  | .model d => .model (tellTaleModel d)
  | .list => .models ((handed side past).map tellTaleModel)
  | .has _ => .has true
  | .openChannel .. => .opened past.length
  | _ => .done

namespace Veil

/-- A veil that renames nothing. -/
def plain : Veil := ⟨fun _ d => d, fun _ _ _ h => h⟩

/-- A veil that writes a letter before each id. -/
def lettered : Veil := ⟨fun _ d => "x" ++ d, fun _ _ _ h => by simpa using h⟩

theorem request_plain (side : Side) (q : Request) : plain.request side q = q := by
  cases q <;> rfl

theorem handed_exchange (v : Veil) (side : Side) (past : List Exchange) :
    handed side (past.map v.exchange) = (handed side past).map (v.name side) := by
  rw [handed, handed, List.filterMap_map, List.map_filterMap]
  congr 1
  funext ⟨x, q, a⟩
  cases q with
  | start name o =>
    cases a with
    | started d =>
      by_cases hx : x = side
      · subst hx
        simp [exchange, request, answer]
      · simp [exchange, request, answer, hx]
    | _ => rfl
  | _ => rfl

theorem alike_tellTale : Hosts.Alike lettered plain (tellTale id) (tellTale ("x" ++ ·)) := by
  intro p₁ p₂ side q₁ q₂ _ _ hp hq
  have hlen : p₁.length = p₂.length := by simpa using congrArg List.length hp
  have hhanded : (handed side p₁).map ("x" ++ ·) = handed side p₂ := by
    have := congrArg (handed side) hp
    rw [handed_exchange, handed_exchange] at this
    simpa [lettered, plain] using this
  rw [request_plain] at hq
  subst hq
  cases q₁ with
  | start => simp [tellTale, answer, request, lettered, plain, hlen]
  | list =>
    simp only [tellTale, request, answer, ← hhanded, List.map_map]
    rfl
  | openChannel => simp [tellTale, answer, request, hlen]
  | _ => rfl

end Veil

/-- A kernel is started, looked up, listed, opened, interrupted in vain, and shut down. -/
def sixDeeds : List Deed :=
  [.ask (.start (some "python3") { id := some .zero } .zero), .ask (.kernel .zero .model),
    .ask .list, .ask (.openSession .zero default), .ask (.kernel .zero .interrupt),
    .shutDownAll true]

/-- Six deeds over hosts of which one writes a letter before each id. -/
theorem Hub.matches_tellTale : ∃ ds₁ ds₂, pythonHub.Does ds₁ ∧ pythonHub.Does ds₂ ∧
    (tellTale id).Say [] (ds₁.flatMap Done.exchanges) ∧
    (tellTale ("x" ++ ·)).Say [] (ds₂.flatMap Done.exchanges) ∧
    ds₁.map (·.deed) = sixDeeds ∧ ds₂.map Done.plan = ds₁.map Done.plan ∧
    List.Forall₂ Done.Matches ds₁ ds₂ ∧ ∀ d ∈ ds₁ ++ ds₂, d.Shows := by
  have hf (f : String → String) : (tellTale f).Fitting := by
    intro past side q
    cases q <;> rfl
  obtain ⟨hex, hshows, htwo⟩ :=
    Hub.matches_of_alike pythonHub_unused (hf id) (hf ("x" ++ ·)) Veil.alike_tellTale
  obtain ⟨ds₁, hd₁, hdeeds, hs₁⟩ := hex sixDeeds (by decide)
  obtain ⟨⟨ds₂, hd₂, hp, hs₂⟩, hall⟩ := htwo ds₁ hd₁ hs₁
  refine ⟨ds₁, ds₂, hd₁, hd₂, hs₁, hs₂, hdeeds, hp, hall ds₂ hd₂ hp hs₂, fun d hd => ?_⟩
  rcases List.mem_append.1 hd with hd | hd
  · exact hshows ds₁ hd₁ d hd
  · exact hshows ds₂ hd₂ d hd

end KernelHub
