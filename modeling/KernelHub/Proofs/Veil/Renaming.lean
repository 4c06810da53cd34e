import KernelHub.Proofs.Veil.Secrecy
import Mathlib.Logic.Relator

/-
Hosts that rename their kernels. A renaming says which id of one host is which of another, and
requests, answers and whole conversations are renamed with it. A one-to-one renaming is a pair of
veils, so hosts of which one is the other renamed cannot be told apart by those who use the hub.
-/

namespace KernelHub

variable {R : Side → String → String → Prop} {side : Side}

/-! ## What is the same but for a renaming -/

def SessionBinding.Renamed (R : Side → String → String → Prop) (s₁ s₂ : SessionBinding) : Prop :=
  s₁.seen = s₂.seen ∧ R s₁.binding.side s₁.binding.delegate s₂.binding.delegate

/-- The models differ in their ids, which are renamed, and in what only their hosts know. -/
def Model.Renamed (R : Side → String → String → Prop) (side : Side) (m₁ m₂ : Model) : Prop :=
  R side m₁.id m₂.id ∧ { m₁.mute with id := "" } = { m₂.mute with id := "" }

inductive Request.Renamed (R : Side → String → String → Prop) (side : Side) :
    Request → Request → Prop
  | specs : Renamed R side .specs .specs
  | spec {name} : Renamed R side (.spec name) (.spec name)
  | start {name o} : Renamed R side (.start name o) (.start name o)
  | list : Renamed R side .list .list
  | shutdown {d₁ d₂ now} (h : R side d₁ d₂) :
    Renamed R side (.shutdown d₁ now) (.shutdown d₂ now)
  | interrupt {d₁ d₂} (h : R side d₁ d₂) : Renamed R side (.interrupt d₁) (.interrupt d₂)
  | restart {d₁ d₂ now} (h : R side d₁ d₂) : Renamed R side (.restart d₁ now) (.restart d₂ now)
  | model {d₁ d₂} (h : R side d₁ d₂) : Renamed R side (.model d₁) (.model d₂)
  | has {d₁ d₂} (h : R side d₁ d₂) : Renamed R side (.has d₁) (.has d₂)
  | openChannel {d₁ d₂ session} (h : R side d₁ d₂) :
    Renamed R side (.openChannel d₁ session) (.openChannel d₂ session)
  | connect {channel s₁ s₂} (h : SessionBinding.Renamed R s₁ s₂) :
    Renamed R side (.connect channel s₁) (.connect channel s₂)

/-- Errors may differ in their texts, in which a host can tell what it likes. -/
inductive Answer.Renamed (R : Side → String → String → Prop) (side : Side) :
    Answer → Answer → Prop
  | specs {ss} : Renamed R side (.specs ss) (.specs ss)
  | spec {s} : Renamed R side (.spec s) (.spec s)
  | started {d₁ d₂} (h : R side d₁ d₂) : Renamed R side (.started d₁) (.started d₂)
  | done : Renamed R side .done .done
  | model {m₁ m₂} (h : Model.Renamed R side m₁ m₂) : Renamed R side (.model m₁) (.model m₂)
  | models {ms₁ ms₂} (h : List.Forall₂ (Model.Renamed R side) ms₁ ms₂) :
    Renamed R side (.models ms₁) (.models ms₂)
  | has {held} : Renamed R side (.has held) (.has held)
  | opened {channel} : Renamed R side (.opened channel) (.opened channel)
  | refused {e₁ e₂} (h : e₁.mute = e₂.mute) : Renamed R side (.refused e₁) (.refused e₂)
  | crashed : Renamed R side .crashed .crashed

def Exchange.Renamed (R : Side → String → String → Prop) (x₁ x₂ : Exchange) : Prop :=
  x₁.1 = x₂.1 ∧ Request.Renamed R x₁.1 x₁.2.1 x₂.2.1 ∧ Answer.Renamed R x₁.1 x₁.2.2 x₂.2.2

/-- Asked the same after the same, but for a renaming, do the hosts answer the same but for it? -/
def Hosts.Renamed (R : Side → String → String → Prop) (hosts₁ hosts₂ : Hosts) : Prop :=
  ∀ p₁ p₂ side q₁ q₂, hosts₁.Say [] p₁ → hosts₂.Say [] p₂ →
    List.Forall₂ (Exchange.Renamed R) p₁ p₂ → Request.Renamed R side q₁ q₂ →
    Answer.Renamed R side (hosts₁ p₁ side q₁) (hosts₂ p₂ side q₂)

namespace Veil

/-! ## Renamings as veils -/

open Classical in
/-- A name for an id, given a renaming of other ids to such: the id that was renamed to it, or a
name that no other has. -/
noncomputable def unrenamed (R : String → String → Prop) (d : String) : String :=
  if h : ∃ d₀, R d₀ d then "a" ++ h.choose else "b" ++ d

theorem a_append_ne_b (d d' : String) : "a" ++ d ≠ "b" ++ d' := by
  intro he
  have := congrArg String.toList he
  simp at this

theorem unrenamed_eq_iff {R : String → String → Prop} (hr : Relator.BiUnique R) {d₀ d : String} :
    "a" ++ d₀ = unrenamed R d ↔ R d₀ d := by
  unfold unrenamed
  split
  · next h =>
    rw [String.append_right_inj]
    exact ⟨fun he => he ▸ h.choose_spec, fun hd => hr.1 hd h.choose_spec⟩
  · next h => exact ⟨fun he => absurd he (a_append_ne_b _ _), fun hd => absurd ⟨d₀, hd⟩ h⟩

theorem unrenamed_injective {R : String → String → Prop} (hr : Relator.BiUnique R) :
    Function.Injective (unrenamed R) := by
  intro d d' he
  unfold unrenamed at he
  split at he <;> split at he
  · next h h' =>
    rw [String.append_right_inj] at he
    exact hr.2 h.choose_spec (he ▸ h'.choose_spec)
  · exact absurd he (a_append_ne_b _ _)
  · exact absurd he.symm (a_append_ne_b _ _)
  · exact (String.append_right_inj _).1 he

/-- Every one-to-one renaming, of whatever ids it is, is a pair of veils: those ids have one name
of which one is renamed to the other. -/
theorem exists_of_renaming {R : Side → String → String → Prop}
    (hr : ∀ side, Relator.BiUnique (R side)) :
    ∃ v₁ v₂ : Veil, ∀ side d₁ d₂, v₁.name side d₁ = v₂.name side d₂ ↔ R side d₁ d₂ :=
  ⟨⟨fun _ d => "a" ++ d, fun _ _ _ he => (String.append_right_inj _).1 he⟩,
    ⟨fun side => unrenamed (R side), fun side => unrenamed_injective (hr side)⟩,
    fun side _ _ => unrenamed_eq_iff (hr side)⟩

/-! ## Under veils that agree just on what is renamed -/

section Same

variable {v₁ v₂ : Veil} (hv : ∀ side d₁ d₂, v₁.name side d₁ = v₂.name side d₂ ↔ R side d₁ d₂)
include hv

theorem session_eq_iff {s₁ s₂ : SessionBinding} :
    v₁.session s₁ = v₂.session s₂ ↔ s₁.Renamed R s₂ := by
  obtain ⟨k₁, i₁, side₁, d₁⟩ := s₁
  obtain ⟨k₂, i₂, side₂, d₂⟩ := s₂
  simp only [session, binding, SessionBinding.Renamed, SessionBinding.seen,
    SessionBinding.mk.injEq, Binding.mk.injEq]
  constructor
  · rintro ⟨hk, hi, rfl, hd⟩
    exact ⟨⟨hk, hi, rfl, trivial⟩, (hv _ _ _).1 hd⟩
  · rintro ⟨⟨hk, hi, rfl, -⟩, hd⟩
    exact ⟨hk, hi, rfl, (hv _ _ _).2 hd⟩

theorem model_eq_iff {m₁ m₂ : Model} :
    v₁.model side m₁ = v₂.model side m₂ ↔ m₁.Renamed R side m₂ := by
  rw [Model.Renamed, ← hv]
  simp [model]

theorem models_eq_iff {ms₁ ms₂ : List Model} :
    ms₁.map (v₁.model side) = ms₂.map (v₂.model side) ↔
      List.Forall₂ (Model.Renamed R side) ms₁ ms₂ := by
  rw [← List.forall₂_eq_eq_eq, List.forall₂_map_left_iff, List.forall₂_map_right_iff]
  simp only [model_eq_iff hv]

theorem request_eq_iff {q₁ q₂ : Request} :
    v₁.request side q₁ = v₂.request side q₂ ↔ q₁.Renamed R side q₂ := by
  constructor
  · intro he
    cases q₁ <;> cases q₂ <;> simp only [request, reduceCtorEq] at he
    case shutdown.shutdown =>
      obtain ⟨hd, rfl⟩ := Request.shutdown.inj he
      exact .shutdown ((hv _ _ _).1 hd)
    case interrupt.interrupt => exact .interrupt ((hv _ _ _).1 (Request.interrupt.inj he))
    case restart.restart =>
      obtain ⟨hd, rfl⟩ := Request.restart.inj he
      exact .restart ((hv _ _ _).1 hd)
    case model.model => exact .model ((hv _ _ _).1 (Request.model.inj he))
    case has.has => exact .has ((hv _ _ _).1 (Request.has.inj he))
    case openChannel.openChannel =>
      obtain ⟨hd, rfl⟩ := Request.openChannel.inj he
      exact .openChannel ((hv _ _ _).1 hd)
    case connect.connect =>
      obtain ⟨rfl, hs⟩ := Request.connect.inj he
      exact .connect ((session_eq_iff hv).1 hs)
    all_goals
      cases he
      constructor
  · intro hr
    cases hr with
    | specs | spec | start | list => rfl
    | shutdown h | interrupt h | restart h | model h | has h | openChannel h =>
      simp only [request, (hv _ _ _).2 h]
    | connect h => simp only [request, (session_eq_iff hv).2 h]

theorem answer_eq_iff {a₁ a₂ : Answer} :
    v₁.answer side a₁ = v₂.answer side a₂ ↔ a₁.Renamed R side a₂ := by
  constructor
  · intro he
    cases a₁ <;> cases a₂ <;> simp only [answer, reduceCtorEq] at he
    case started.started => exact .started ((hv _ _ _).1 (Answer.started.inj he))
    case model.model => exact .model ((model_eq_iff hv).1 (Answer.model.inj he))
    case models.models => exact .models ((models_eq_iff hv).1 (Answer.models.inj he))
    case refused.refused => exact .refused (Answer.refused.inj he)
    all_goals
      cases he
      constructor
  · intro hr
    cases hr with
    | specs | spec | done | has | opened | crashed => rfl
    | started h => simp only [answer, (hv _ _ _).2 h]
    | model h => simp only [answer, (model_eq_iff hv).2 h]
    | models h => simp only [answer, (models_eq_iff hv).2 h]
    | refused h => simp only [answer, h]

theorem exchange_eq_iff {x₁ x₂ : Exchange} :
    v₁.exchange x₁ = v₂.exchange x₂ ↔ Exchange.Renamed R x₁ x₂ := by
  obtain ⟨side₁, q₁, a₁⟩ := x₁
  obtain ⟨side₂, q₂, a₂⟩ := x₂
  simp only [exchange, Exchange.Renamed, Prod.mk.injEq]
  refine and_congr_right fun hside => ?_
  subst hside
  rw [request_eq_iff hv, answer_eq_iff hv]

theorem exchanges_eq_iff {p₁ p₂ : List Exchange} :
    p₁.map v₁.exchange = p₂.map v₂.exchange ↔ List.Forall₂ (Exchange.Renamed R) p₁ p₂ := by
  rw [← List.forall₂_eq_eq_eq, List.forall₂_map_left_iff, List.forall₂_map_right_iff]
  simp only [exchange_eq_iff hv]

/-- Hosts are alike under such veils just if the ones are the others renamed. -/
theorem alike_iff_renamed {hosts₁ hosts₂ : Hosts} :
    Hosts.Alike v₁ v₂ hosts₁ hosts₂ ↔ hosts₁.Renamed R hosts₂ := by
  simp only [Hosts.Alike, Hosts.Renamed, exchanges_eq_iff hv, request_eq_iff hv, answer_eq_iff hv]

end Same

end Veil

/-! ## Renamed hosts -/

/-- What is done over hosts can be done over the same hosts renamed one-to-one, and however it is
done there, callers see the same. -/
theorem Hub.twins_of_renamed {h : Hub} {hosts₁ hosts₂ : Hosts} {ds₁ : List Done} (hu : h.Unused)
    (hf : hosts₂.Fitting) (hr : ∀ side, Relator.BiUnique (R side))
    (hn : hosts₁.Renamed R hosts₂) (hd₁ : h.Does ds₁)
    (hs₁ : hosts₁.Say [] (ds₁.flatMap Done.exchanges)) :
    (∃ ds₂, h.Does ds₂ ∧ ds₂.map Done.plan = ds₁.map Done.plan ∧
      hosts₂.Say [] (ds₂.flatMap Done.exchanges)) ∧
    ∀ ds₂, h.Does ds₂ → ds₂.map Done.plan = ds₁.map Done.plan →
      hosts₂.Say [] (ds₂.flatMap Done.exchanges) → List.Forall₂ Done.Matches ds₁ ds₂ := by
  obtain ⟨v₁, v₂, hv⟩ := Veil.exists_of_renaming hr
  exact Hub.twins_of_alike hu hf ((Veil.alike_iff_renamed hv).2 hn) hd₁ hs₁

/-- Hosts that write a letter before each of their ids are the same hosts renamed. -/
theorem renamed_tellTale :
    (tellTale id).Renamed (fun _ d₁ d₂ => "x" ++ d₁ = d₂) (tellTale ("x" ++ ·)) :=
  (Veil.alike_iff_renamed fun _ _ _ => Iff.rfl).1 Veil.alike_tellTale

/-- So whatever is done over the hosts that tell the numbers of their kernels, callers see the
same over those that write a letter before the number. -/
theorem Hub.twin_tellTale {ds₁ : List Done} (hd₁ : pythonHub.Does ds₁)
    (hs₁ : (tellTale id).Say [] (ds₁.flatMap Done.exchanges)) :
    ∃ ds₂, pythonHub.Does ds₂ ∧ (tellTale ("x" ++ ·)).Say [] (ds₂.flatMap Done.exchanges) ∧
      List.Forall₂ Done.Matches ds₁ ds₂ := by
  have hfits : (tellTale ("x" ++ ·)).Fitting := by
    intro past side q
    cases q <;> rfl
  have hunique (side : Side) : Relator.BiUnique (fun d₁ d₂ : String => "x" ++ d₁ = d₂) :=
    ⟨fun _ _ _ h h' => (String.append_right_inj _).1 (h.trans h'.symm), fun _ _ _ h h' => h ▸ h'⟩
  obtain ⟨⟨ds₂, hd₂, hp, hs₂⟩, hall⟩ :=
    Hub.twins_of_renamed pythonHub_unused hfits hunique renamed_tellTale hd₁ hs₁
  exact ⟨ds₂, hd₂, hs₂, hall ds₂ hd₂ hp hs₂⟩

end KernelHub
