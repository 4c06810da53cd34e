import KernelHub.Proofs.Memory.Busy
import KernelHub.Proofs.Solo

/-
Two hosts in memory that answer one question after the other. A question is answered at
once, or accepted and then finished; for what it finishes a host draws an id that nobody
has drawn before.
-/

namespace KernelHub.Memory

namespace Host

/-- The host answers a question, whenever that is, and may draw an id for it. -/
inductive Replies (h : Host) : Request → Option Uuid → Answer → Host → Prop
  | told {q now a h'} (hc : ∀ c b, q ≠ .connect c b) (ha : h.accept now q = (h', .inl a)) :
    Replies h q none a h'
  | finished {q now h₁ f later fresh a h'} (ha : h.accept now q = (h₁, .inr f))
    (hf : h₁.finish later fresh f = (h', a)) : Replies h q (some fresh) a h'
  | connected {c b st lane listening ms h'}
    (hc : h.connect st c lane listening = (h', .ok (), ms)) : Replies h (.connect c b) none .done h'
  | unconnected {c b st lane listening e ms h'}
    (hc : h.connect st c lane listening = (h', .error e, ms)) :
    Replies h (.connect c b) none (.refused e) h'

/-- One way to answer a question: at once, and with the clock standing still. -/
def reply (h : Host) (q : Request) : Host × Answer :=
  match q with
  | .connect c _ =>
    match h.connect default c 0 true with
    | (h, .ok (), _) => (h, .done)
    | (h, .error e, _) => (h, .refused e)
  | q =>
    match h.accept default q with
    | (h, .inl a) => (h, a)
    | (h, .inr f) => h.finish default default f

theorem replies_reply (h : Host) (q : Request) :
    ∃ u, h.Replies q u (h.reply q).2 (h.reply q).1 := by
  cases q with
  | connect c b =>
    simp only [reply]
    split
    · next he => exact ⟨none, .connected he⟩
    · next he => exact ⟨none, .unconnected he⟩
  | _ =>
    simp only [reply]
    split
    · next he => exact ⟨none, .told nofun he⟩
    · next he => exact ⟨some default, .finished he rfl⟩

/-- Every kernel has its place, and its id once. -/
structure Sound (h : Host) : Prop where
  tidy : h.Tidy
  nodup : (Table.keys h.live).Nodup

variable {h h' : Host} {q : Request} {u : Option Uuid} {a : Answer}

theorem sound_keeps (hs : h.Sound) (hk : h.Keeps h') (hr : h.Renews h') : h'.Sound :=
  ⟨hr.tidy hs.tidy, hk.1 ▸ hs.nodup⟩

theorem sound_accept (hs : h.Sound) (now : Instant) (q : Request) : (h.accept now q).1.Sound := by
  refine sound_keeps hs (keeps_accept h now q) ?_
  rcases begins_accept h now q with ⟨hc, -⟩ | ⟨d, k, f, -, -, -, -, hb⟩
  · exact hc.renews
  · exact hb.renews

theorem sound_finish (hs : h.Sound) {f : Flight} (hf : f.Of q) (now : Instant) (fresh : Uuid) :
    (h.finish now fresh f).1.Sound := by
  have hr : h.Renews (h.finish now fresh f).1 := by
    cases hk : f.kernel? with
    | none => exact (calm_finish hs.tidy hk).renews
    | some k => exact (ends_finish hk).renews
  refine ⟨hr.tidy hs.tidy, ?_⟩
  cases f with
  | start name o =>
    generalize hx : h.finish now fresh (.start name o) = x
    rcases finish_start hx with ⟨e, -, hk⟩ | ⟨d, n, -, hl, -⟩
    · exact hk.1 ▸ hs.nodup
    · rw [hl]
      exact Table.nodup_set hs.nodup d n
  | shutdown d k =>
    simp only [finish]
    split
    · exact Table.nodup_erase hs.nodup d
    · exact hs.nodup
  | specs | interrupt | restart => exact hs.nodup

theorem sound_apply (hs : h.Sound) (c : Control) : (c.apply h).Sound :=
  sound_keeps hs (c.keeps_apply h) (c.calm_apply h).renews

theorem sound_kill (hs : h.Sound) (d : String) : (h.kill d).1.Sound :=
  ⟨(calm_kill h d).renews.tidy hs.tidy, Table.nodup_erase hs.nodup d⟩

theorem sound_vacant (hl : h.live = []) : h.Sound := by
  refine ⟨⟨fun d k hd => ?_, fun d d' k hd => ?_⟩, ?_⟩
  · rw [hl] at hd
    cases hd
  · rw [hl] at hd
    cases hd
  · rw [hl]
    exact List.nodup_nil

theorem Replies.sound (hr : h.Replies q u a h') (hs : h.Sound) : h'.Sound := by
  cases hr with
  | @told _ now _ _ _ ha =>
    have h1 := sound_accept hs now q
    rwa [ha] at h1
  | @finished _ now h₁ f later fresh _ _ ha hf =>
    have h1 := sound_accept hs now q
    have hi : (h.accept now q).2 = .inr f := by rw [ha]
    have hf' := of_accept hi
    rw [ha] at h1
    have h2 := sound_finish h1 hf' later fresh
    rwa [hf] at h2
  | @connected c _ st lane listening _ _ hc | @unconnected c _ st lane listening _ _ _ hc =>
    have h1 := sound_apply hs (.connect st c lane listening)
    simp only [Control.apply, hc] at h1
    exact h1

theorem Replies.side (hr : h.Replies q u a h') : h'.side = h.side := by
  cases hr with
  | @told _ now _ _ _ ha =>
    have h1 := keeps_accept h now q
    rw [ha] at h1
    exact h1.2
  | @finished _ now h₁ f later fresh _ _ ha hf =>
    have h1 := keeps_accept h now q
    rw [ha] at h1
    have h2 := side_finish h₁ later fresh f
    rw [hf] at h2
    exact h2.trans h1.2
  | @connected c _ st lane listening _ _ hc | @unconnected c _ st lane listening _ _ _ hc =>
    have h1 := (Control.connect st c lane listening).keeps_apply h
    simp only [Control.apply, hc] at h1
    exact h1.2

/-- No call changes what the host offers. -/
theorem Replies.offer (hr : h.Replies q u a h') : h'.specs = h.specs := by
  have enters (op d : String) (onKernel : Kernel → Kernel) (flight : Nat → Flight) :
      (h.accepted op d onKernel flight).1.specs = h.specs := by
    simp only [accepted, enter]
    cases h.checkAvailable with
    | error => rfl
    | ok =>
      cases h.checkWilling op with
      | error => rfl
      | ok =>
        cases h.find d with
        | error => rfl
        | ok k => exact apply_ite Host.specs _ _ _ |>.trans (ite_self _)
  have accepts (now : Instant) : (h.accept now q).1.specs = h.specs := by
    cases q with
    | shutdown | interrupt | restart => exact enters ..
    | openChannel =>
      simp only [accept]
      split <;> rfl
    | _ => rfl
  cases hr with
  | @told _ now _ _ _ ha =>
    have h1 := accepts now
    rwa [ha] at h1
  | @finished _ now h₁ f later fresh _ _ ha hf =>
    have h1 := accepts now
    rw [ha] at h1
    have h2 : (h₁.finish later fresh f).1.specs = h₁.specs := by
      cases f with
      | start | shutdown =>
        simp only [finish]
        split <;> rfl
      | _ => rfl
    rw [hf] at h2
    exact h2.trans h1
  | @connected c _ st lane listening _ _ hc | @unconnected c _ st lane listening _ _ _ hc =>
    have h1 : (h.connect st c lane listening).1.specs = h.specs := by
      simp only [connect]
      cases h.channels[c]? with
      | none => rfl
      | some ch => exact apply_ite Host.specs _ _ _ |>.trans (ite_self _)
    rwa [hc] at h1

/-- A host has no kernels but those it had, and the one it has just started. -/
theorem Replies.live {d : String} (hr : h.Replies q u a h')
    (hd : Table.contains d h'.live = true) :
    Table.contains d h.live = true ∨ ∃ name o, q = .start name o ∧ a = .started d := by
  cases hr with
  | @told _ now _ _ _ ha =>
    have h1 := (keeps_accept h now q).1
    rw [ha] at h1
    exact .inl (h1 ▸ hd)
  | @finished _ now h₁ f later fresh _ _ ha hf =>
    have h1 := (keeps_accept h now q).1
    have hi : (h.accept now q).2 = .inr f := by rw [ha]
    have hof := of_accept hi
    rw [ha] at h1
    rw [← h1]
    cases q with
    | start name o =>
      cases ha
      rcases finish_start hf with ⟨e, -, hk⟩ | ⟨d', n, rfl, hl, -⟩
      · exact .inl (hk.1 ▸ hd)
      · rw [hl, Table.contains_set, Bool.or_eq_true, decide_eq_true_eq] at hd
        exact hd.symm.imp_right fun he => ⟨_, _, rfl, by rw [he]⟩
    | shutdown d' n =>
      cases f with
      | shutdown =>
        refine .inl ?_
        simp only [finish] at hf
        split at hf
        · cases hf
          exact (Bool.and_eq_true_iff.1 ((Table.contains_erase _ d h₁.live).symm.trans hd)).2
        · cases hf
          exact hd
      | _ => cases hof
    | _ =>
      have hk : h₁.Keeps (h₁.finish later fresh f).1 := keeps_finish hof (by simp) (by simp)
      rw [hf] at hk
      exact .inl (hk.1 ▸ hd)
  | @connected c _ st lane listening _ _ hc | @unconnected c _ st lane listening _ _ _ hc =>
    have h1 := ((Control.connect st c lane listening).keeps_apply h).1
    simp only [Control.apply, hc] at h1
    exact .inl (h1 ▸ hd)

/-- A kernel that is started under an id that is free at its host gets this id. -/
theorem Replies.pinned {name d : String} {o : StartOptions} {id : KernelId} (hi : o.id = some id)
    (hn : Table.contains (toString id) h.live = false)
    (hr : h.Replies (.start name o) u (.started d) h') : d = toString id := by
  cases hr with
  | told _ ha => cases ha
  | finished ha hf =>
    cases ha
    simp only [finish] at hf
    split at hf
    · cases hf
      simp [add, hi, Option.filter, hn]
    · cases hf

/-- What a host says is an answer to the question. -/
theorem Replies.fits (hr : h.Replies q u a h') : q.Fits a = true := by
  cases hr with
  | @told _ now _ _ hc ha =>
    have hi : (h.accept now q).2 = .inl a := by rw [ha]
    exact fits_accept hi hc
  | @finished _ now h₁ f later fresh _ _ ha hf =>
    have hi : (h.accept now q).2 = .inr f := by rw [ha]
    have hfit := fits_finish (of_accept hi) h₁ later fresh
    rwa [hf] at hfit
  | connected | unconnected => rfl

/-- A start gives a kernel the id that was asked for, or one that was never drawn before. -/
theorem Replies.started {name : String} {o : StartOptions} {d : String}
    (hr : h.Replies (.start name o) u (.started d) h') :
    o.id.map toString = some d ∨ ∃ v, u = some v ∧ d = made h.side v := by
  cases hr with
  | told _ ha => cases ha
  | finished ha hf =>
    cases ha
    rcases finish_start hf with ⟨e, he, -⟩ | ⟨d', n, he, -, -, hd⟩
    · cases he
    · cases he
      exact hd.imp_right fun hd => ⟨_, rfl, hd⟩

/-- The types that the host offers, if it can be reached. -/
def listing (h : Host) : Except HostError (List Spec) := h.checkAvailable.map fun _ => h.specs

theorem Replies.specs (hr : h.Replies .specs u a h') : h' = h ∧ a = looked .specs h.listing := by
  cases hr with
  | told _ ha => cases ha
  | finished ha hf =>
    cases ha
    cases hf
    refine ⟨rfl, ?_⟩
    rw [listing]
    cases h.checkAvailable <;> rfl

theorem Replies.spec {name : String} (hr : h.Replies (.spec name) u a h') :
    h' = h ∧ a = looked .spec (h.spec name) := by
  cases hr with
  | told _ ha => cases ha; exact ⟨rfl, rfl⟩
  | finished ha => cases ha

/-- A type that the host does not offer is not started. -/
theorem Replies.unoffered {name : String} {o : StartOptions}
    (hn : h.specs.find? (·.name = name) = none) (hr : h.Replies (.start name o) u a h') :
    h' = h ∧ ∃ e, a = .refused e := by
  cases hr with
  | told _ ha => cases ha
  | finished ha hf =>
    cases ha
    have hs (s : Spec) : h.spec name ≠ .ok s := by
      simp only [Host.spec, hn]
      cases h.checkAvailable <;> nofun
    simp only [finish] at hf
    split at hf
    · next s he =>
      cases hc : h.checkAvailable <;> cases hw : h.checkWilling "start" <;>
        cases hx : h.spec name <;> rw [hc, hw, hx] at he <;> cases he
      exact absurd hx (hs s)
    · cases hf
      exact ⟨rfl, _, rfl⟩

/-- A listing shows all that the host has, if the host can be reached. -/
theorem Replies.list (hr : h.Replies .list u a h') : h' = h ∧ u = none ∧
    (h.available = true ∧ a = .models h.models ∨ h.available = false ∧ ∃ e, a = .refused e) := by
  cases hr with
  | told hc ha =>
    cases ha
    refine ⟨rfl, rfl, ?_⟩
    cases hv : h.available with
    | true => exact .inl ⟨rfl, by simp [checkAvailable, hv, looked]⟩
    | false => exact .inr ⟨rfl, _, by simp [checkAvailable, hv, looked]; rfl⟩
  | finished ha => cases ha

/-- The model that the host shows for an id, if it can be reached and has such a kernel. -/
def shows? (h : Host) (d : String) : Option Model :=
  if h.available then
    (Table.find? d h.live).map fun k => (h.kernels[k]?.getD default).model h.side d
  else none

theorem Replies.model {d : String} (hr : h.Replies (.model d) u a h') : h' = h ∧ u = none ∧
    ((∃ m, h.shows? d = some m ∧ a = .model m) ∨ h.shows? d = none ∧ ∃ e, a = .refused e) := by
  cases hr with
  | told hc ha =>
    cases ha
    refine ⟨rfl, rfl, ?_⟩
    cases hv : h.available with
    | false =>
      exact .inr ⟨by simp [shows?, hv], _, by simp [checkAvailable, hv]; rfl⟩
    | true =>
      cases hd : Table.find? d h.live with
      | none =>
        exact .inr ⟨by simp [shows?, hd], _, by simp [checkAvailable, find, hv, hd]; rfl⟩
      | some k =>
        exact .inl ⟨_, by simp [shows?, hv, hd]; rfl, by simp [checkAvailable, find, hv, hd]; rfl⟩
  | finished ha => cases ha

theorem available_of_shows {d : String} {m : Model} (hm : h.shows? d = some m) :
    h.available = true := by
  simp only [shows?] at hm
  split at hm
  · assumption
  · cases hm

theorem id_shows {d : String} {m : Model} (hm : h.shows? d = some m) : m.id = d := by
  simp only [shows?] at hm
  split at hm
  · obtain ⟨k, -, rfl⟩ := Option.map_eq_some_iff.1 hm
    rfl
  · cases hm

theorem mem_models (hs : h.Sound) (hv : h.available = true) {m : Model} :
    m ∈ h.models ↔ ∃ d, m.id = d ∧ h.shows? d = some m := by
  simp only [models, List.mem_filterMap, Option.map_eq_some_iff, shows?, hv, if_true]
  constructor
  · rintro ⟨⟨d, k⟩, he, x, hx, rfl⟩
    simp only at hx
    exact ⟨d, rfl, k, (Table.mem_iff_find? hs.nodup).1 he, by rw [hx]; rfl⟩
  · rintro ⟨d, -, k, hd, rfl⟩
    have hk := List.getElem?_eq_getElem (hs.tidy.kept d k hd)
    exact ⟨(d, k), Table.mem_of_find? hd, _, hk, by rw [hk]; rfl⟩

theorem nodup_models (hs : h.Sound) : (h.models.map Model.id).Nodup := by
  rw [models, List.map_filterMap]
  refine List.Pairwise.filterMap _ ?_ (List.pairwise_map.1 hs.nodup)
  rintro ⟨d, k⟩ ⟨d', k'⟩ hne b hb b' hb'
  obtain ⟨m, hm, rfl⟩ := Option.map_eq_some_iff.1 hb
  obtain ⟨m', hm', rfl⟩ := Option.map_eq_some_iff.1 hb'
  obtain ⟨y, -, rfl⟩ := Option.map_eq_some_iff.1 hm
  obtain ⟨y', -, rfl⟩ := Option.map_eq_some_iff.1 hm'
  exact hne

end Host

/-- The hosts of a hub, and the ids they have drawn. -/
structure Pair where
  hosts : Side → Host
  drawn : List Uuid := []

namespace Pair

def setHost (w : Pair) (side : Side) (h : Host) : Pair :=
  { w with hosts := fun x => if x = side then h else w.hosts x }

/-- One of the hosts answers a question. What it draws was not drawn before. -/
def Replies (w : Pair) (side : Side) (q : Request) (a : Answer) (w' : Pair) : Prop :=
  ∃ u h, (∀ v, u = some v → v ∉ w.drawn) ∧ (w.hosts side).Replies q u a h ∧
    w' = { w.setHost side h with drawn := u.toList ++ w.drawn }

/-- The hosts answer one question after the other, and nothing else happens to them. -/
inductive Says : Pair → List Exchange → Pair → Prop
  | nil {w} : Says w [] w
  | cons {w side q a w₁ es w'} (hr : w.Replies side q a w₁) (hs : Says w₁ es w') :
    Says w ((side, q, a) :: es) w'

/-- Both hosts are sound. -/
def Sound (w : Pair) : Prop := ∀ side, (w.hosts side).Sound

variable {w w' : Pair} {side : Side} {q : Request} {a : Answer} {es fs : List Exchange}

theorem setHost_self (w : Pair) (side : Side) : w.setHost side (w.hosts side) = w := by
  simp only [setHost]
  congr
  funext x
  split
  · next hx => rw [hx]
  · rfl

theorem sound_setHost (hs : w.Sound) {h : Host} (hh : h.Sound) : (w.setHost side h).Sound := by
  intro x
  simp only [setHost]
  split
  · exact hh
  · exact hs x

theorem Replies.sound (hr : w.Replies side q a w') (hs : w.Sound) : w'.Sound := by
  obtain ⟨u, h, -, hr, rfl⟩ := hr
  exact sound_setHost hs (hr.sound (hs side))

theorem Replies.sides (hr : w.Replies side q a w') (x : Side) :
    (w'.hosts x).side = (w.hosts x).side := by
  obtain ⟨u, h, -, hr, rfl⟩ := hr
  simp only [setHost]
  split
  · next hx => rw [hr.side, hx]
  · rfl

theorem Replies.drawn (hr : w.Replies side q a w') : w.drawn ⊆ w'.drawn := by
  obtain ⟨u, h, -, hr, rfl⟩ := hr
  exact List.subset_append_right _ _

theorem Says.sound (hs : w.Says es w') (hw : w.Sound) : w'.Sound := by
  induction hs with
  | nil => exact hw
  | cons hr _ ih => exact ih (hr.sound hw)

theorem Says.sides (hs : w.Says es w') (x : Side) : (w'.hosts x).side = (w.hosts x).side := by
  induction hs with
  | nil => rfl
  | cons hr _ ih => exact ih.trans (hr.sides x)

theorem Says.drawn (hs : w.Says es w') : w.drawn ⊆ w'.drawn := by
  induction hs with
  | nil => exact List.Subset.refl _
  | cons hr _ ih => exact List.Subset.trans hr.drawn ih

theorem says_append : w.Says (es ++ fs) w' ↔ ∃ w₁, w.Says es w₁ ∧ w₁.Says fs w' := by
  induction es generalizing w with
  | nil => exact ⟨fun hs => ⟨w, .nil, hs⟩, fun ⟨w₁, hn, hs⟩ => by cases hn; exact hs⟩
  | cons e es ih =>
    constructor
    · intro hs
      cases hs with
      | cons hr hs =>
        obtain ⟨w₁, h1, h2⟩ := ih.1 hs
        exact ⟨w₁, .cons hr h1, h2⟩
    · rintro ⟨w₁, h1, h2⟩
      cases h1 with
      | cons hr hs => exact .cons hr (ih.2 ⟨w₁, hs, h2⟩)

theorem says_one : w.Says [(side, q, a)] w' ↔ w.Replies side q a w' := by
  constructor
  · intro hs
    cases hs with
    | cons hr hs => cases hs; exact hr
  · exact fun hr => .cons hr .nil

/-- A question after which nothing has changed. -/
theorem replies_self {u : Option Uuid} (hr : (w.hosts side).Replies q u a (w.hosts side))
    (hu : u = none) : w.Replies side q a w := by
  subst hu
  exact ⟨none, _, nofun, hr, by rw [setHost_self]; rfl⟩

theorem Replies.list (hr : w.Replies side .list a w') : w' = w ∧
    ((w.hosts side).available = true ∧ a = .models (w.hosts side).models ∨
      (w.hosts side).available = false ∧ ∃ e, a = .refused e) := by
  obtain ⟨u, h, -, hr, rfl⟩ := hr
  obtain ⟨rfl, rfl, ha⟩ := hr.list
  exact ⟨by rw [setHost_self]; rfl, ha⟩

theorem Replies.model {d : String} (hr : w.Replies side (.model d) a w') : w' = w ∧
    ((∃ m, (w.hosts side).shows? d = some m ∧ a = .model m) ∨
      (w.hosts side).shows? d = none ∧ ∃ e, a = .refused e) := by
  obtain ⟨u, h, -, hr, rfl⟩ := hr
  obtain ⟨rfl, rfl, ha⟩ := hr.model
  exact ⟨by rw [setHost_self]; rfl, ha⟩

end Pair

end KernelHub.Memory
