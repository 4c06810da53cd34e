import KernelHub.Proofs.Memory.Pair

/-
What is left of a host in memory when nobody looks at the clock, or at the numbers that
clients give to their lanes. Hosts that are alike in this do and answer the same, whenever
they are asked.
-/

namespace KernelHub

def Model.bare (m : Model) : Model := { m with lastActivity := none }

def Answer.bare : Answer → Answer
  | .model m => .model m.bare
  | .models ms => .models (ms.map Model.bare)
  | a => a

namespace Memory

def Kernel.bare (k : Kernel) : Kernel := { k with lastActivity := .epoch }

def Channel.bare (c : Channel) : Channel := { c with lane := c.lane.map fun _ => 0 }

namespace Host

/-- The two differ in times and lane numbers only. -/
structure Like (h₁ h₂ : Host) : Prop where
  side : h₁.side = h₂.side
  specs : h₁.specs = h₂.specs
  kernels : h₁.kernels.map Kernel.bare = h₂.kernels.map Kernel.bare
  live : h₁.live = h₂.live
  channels : h₁.channels.map Channel.bare = h₂.channels.map Channel.bare
  available : h₁.available = h₂.available
  failing : h₁.failing = h₂.failing
  delay : h₁.delay = h₂.delay
  overlaps : h₁.overlaps = h₂.overlaps
  nextProcess : h₁.nextProcess = h₂.nextProcess
  gateOpen : h₁.gateOpen = h₂.gateOpen

variable {h₁ h₂ h₃ : Host} {q : Request} {f : Flight}

theorem like_refl (h : Host) : h.Like h := ⟨rfl, rfl, rfl, rfl, rfl, rfl, rfl, rfl, rfl, rfl, rfl⟩

theorem Like.symm (hl : h₁.Like h₂) : h₂.Like h₁ :=
  ⟨hl.side.symm, hl.specs.symm, hl.kernels.symm, hl.live.symm, hl.channels.symm,
    hl.available.symm, hl.failing.symm, hl.delay.symm, hl.overlaps.symm, hl.nextProcess.symm,
    hl.gateOpen.symm⟩

theorem Like.trans (hl : h₁.Like h₂) (hr : h₂.Like h₃) : h₁.Like h₃ :=
  ⟨hl.side.trans hr.side, hl.specs.trans hr.specs, hl.kernels.trans hr.kernels,
    hl.live.trans hr.live, hl.channels.trans hr.channels, hl.available.trans hr.available,
    hl.failing.trans hr.failing, hl.delay.trans hr.delay, hl.overlaps.trans hr.overlaps,
    hl.nextProcess.trans hr.nextProcess, hl.gateOpen.trans hr.gateOpen⟩

theorem Like.kernel (hl : h₁.Like h₂) (k : Nat) :
    h₁.kernels[k]?.map Kernel.bare = h₂.kernels[k]?.map Kernel.bare := by
  rw [← List.getElem?_map, ← List.getElem?_map, hl.kernels]

theorem Like.channel (hl : h₁.Like h₂) (c : Nat) :
    h₁.channels[c]?.map Channel.bare = h₂.channels[c]?.map Channel.bare := by
  rw [← List.getElem?_map, ← List.getElem?_map, hl.channels]

theorem Like.kernelCount (hl : h₁.Like h₂) : h₁.kernels.length = h₂.kernels.length := by
  simpa using congrArg List.length hl.kernels

theorem Like.channelCount (hl : h₁.Like h₂) : h₁.channels.length = h₂.channels.length := by
  simpa using congrArg List.length hl.channels

theorem Like.busy (hl : h₁.Like h₂) (k : Nat) : h₁.busy k = h₂.busy k := by
  have hb (h : Host) : h.busy k = ((h.kernels[k]?.map Kernel.bare).map (·.busy)).getD false := by
    rw [Option.map_map]
    rfl
  rw [hb, hb, hl.kernel]

theorem Like.checkAvailable (hl : h₁.Like h₂) : h₁.checkAvailable = h₂.checkAvailable := by
  simp only [Host.checkAvailable, hl.available, hl.side]

theorem Like.checkWilling (hl : h₁.Like h₂) (op : String) :
    h₁.checkWilling op = h₂.checkWilling op := by
  simp only [Host.checkWilling, hl.failing, hl.side]

theorem Like.find (hl : h₁.Like h₂) (d : String) : h₁.find d = h₂.find d := by
  simp only [Host.find, hl.live]

theorem Like.spec (hl : h₁.Like h₂) (name : String) : h₁.spec name = h₂.spec name := by
  simp only [Host.spec, hl.checkAvailable, hl.specs]

theorem Like.models (hl : h₁.Like h₂) : h₁.models.map Model.bare = h₂.models.map Model.bare := by
  have hm (h : Host) : h.models.map Model.bare = h.live.filterMap fun e =>
      (h.kernels[e.2]?.map Kernel.bare).map fun k => (k.model h.side e.1).bare := by
    simp only [Host.models, List.map_filterMap, Option.map_map]
    rfl
  rw [hm, hm, hl.live, hl.side]
  simp only [hl.kernel]

/-! ## Changing one kernel or channel -/

theorem map_modify {α β : Type} {g : α → β} {f f' : α → α} {xs ys : List α} (k : Nat)
    (hxs : xs.map g = ys.map g) (hf : ∀ x y, g x = g y → g (f x) = g (f' y)) :
    (xs.modify k f).map g = (ys.modify k f').map g := by
  refine List.ext_getElem? fun j => ?_
  have hj : xs[j]?.map g = ys[j]?.map g := by
    rw [← List.getElem?_map, ← List.getElem?_map, hxs]
  simp only [List.getElem?_map, List.getElem?_modify]
  cases hx : xs[j]? with
  | none =>
    rw [hx] at hj
    have hy : ys[j]? = none := by simpa using hj.symm
    simp [hy]
  | some x =>
    rw [hx] at hj
    obtain ⟨y, hy, hxy⟩ := Option.map_eq_some_iff.1 hj.symm
    by_cases he : k = j
    · simp [hy, he, hf x y hxy.symm]
    · simp [hy, he, hxy]

theorem Like.editKernel (hl : h₁.Like h₂) (k : Nat) {f f' : Kernel → Kernel}
    (hf : ∀ x y, x.bare = y.bare → (f x).bare = (f' y).bare) :
    (h₁.editKernel k f).Like (h₂.editKernel k f') :=
  { hl with kernels := map_modify k hl.kernels hf }

theorem Like.editChannel (hl : h₁.Like h₂) (c : Nat) {f f' : Channel → Channel}
    (hf : ∀ x y, x.bare = y.bare → (f x).bare = (f' y).bare) :
    (h₁.editChannel c f).Like (h₂.editChannel c f') :=
  { hl with channels := map_modify c hl.channels hf }

/-- A new state, and the time of it. -/
theorem bare_touch (s : ExecutionState) (now later : Instant) (x y : Kernel)
    (h : x.bare = y.bare) : (x.touch s now).bare = (y.touch s later).bare := by
  have ht (x : Kernel) (now : Instant) : (x.touch s now).bare = { x.bare with state := s } := rfl
  rw [ht, ht, h]

theorem Like.leave (hl : h₁.Like h₂) (k : Nat) : (h₁.leave k).Like (h₂.leave k) :=
  hl.editKernel k fun _ _ h => congrArg (fun z : Kernel => { z with busy := false }) h

/-! ## Questions -/

theorem Like.enter (hl : h₁.Like h₂) (op d : String) :
    (∃ e, h₁.enter op d = .error e ∧ h₂.enter op d = .error e) ∨
    ∃ g₁ g₂ k, h₁.enter op d = .ok (g₁, k) ∧ h₂.enter op d = .ok (g₂, k) ∧ g₁.Like g₂ := by
  have he (h : Host) : h.enter op d = (do
      h.checkAvailable
      h.checkWilling op
      let k ← h.find d
      return (if h.busy k then
        { h.editKernel k (fun x => { x with busy := true }) with overlaps := h.overlaps + 1 }
        else h.editKernel k fun x => { x with busy := true }, k)) := rfl
  have hm (k : Nat) : (h₁.editKernel k fun x => { x with busy := true }).Like
      (h₂.editKernel k fun x => { x with busy := true }) :=
    hl.editKernel k fun _ _ h => congrArg (fun z : Kernel => { z with busy := true }) h
  rw [he, he, hl.checkAvailable, hl.checkWilling, hl.find]
  cases h₂.checkAvailable with
  | error e => exact .inl ⟨e, rfl, rfl⟩
  | ok =>
    cases h₂.checkWilling op with
    | error e => exact .inl ⟨e, rfl, rfl⟩
    | ok =>
      cases h₂.find d with
      | error e => exact .inl ⟨e, rfl, rfl⟩
      | ok k =>
        refine .inr ⟨_, _, k, rfl, rfl, ?_⟩
        rw [hl.busy]
        split
        · exact { hm k with overlaps := congrArg (· + 1) hl.overlaps }
        · exact hm k

theorem Like.accepted (hl : h₁.Like h₂) (op d : String) {f f' : Kernel → Kernel}
    (hf : ∀ x y, x.bare = y.bare → (f x).bare = (f' y).bare) (flight : Nat → Flight) :
    (h₁.accepted op d f flight).1.Like (h₂.accepted op d f' flight).1 ∧
      (h₁.accepted op d f flight).2 = (h₂.accepted op d f' flight).2 := by
  rcases hl.enter op d with ⟨e, h1, h2⟩ | ⟨g₁, g₂, k, h1, h2, hg⟩
  · simp only [Host.accepted, h1, h2]
    exact ⟨hl, trivial⟩
  · simp only [Host.accepted, h1, h2]
    exact ⟨hg.editKernel k hf, trivial⟩

/-- What two hosts say is alike: both answer, and the same but for times, or both accept the
same. -/
def Same : Answer ⊕ Flight → Answer ⊕ Flight → Prop
  | .inl a, .inl b => a.bare = b.bare
  | .inr f, .inr g => f = g
  | _, _ => False

theorem same_refl (x : Answer ⊕ Flight) : Same x x := by cases x <;> rfl

theorem Like.model (hl : h₁.Like h₂) (d : String) : Same
    (.inl (looked .model do
      h₁.checkAvailable
      let k ← h₁.find d
      return (h₁.kernels[k]?.getD default).model h₁.side d))
    (.inl (looked .model do
      h₂.checkAvailable
      let k ← h₂.find d
      return (h₂.kernels[k]?.getD default).model h₂.side d)) := by
  rw [hl.checkAvailable, hl.find, hl.side]
  cases h₂.checkAvailable with
  | error => rfl
  | ok =>
    cases h₂.find d with
    | error => rfl
    | ok k =>
      have hb (o : Option Kernel) : ((o.getD default).model h₂.side d).bare =
          (((o.map Kernel.bare).getD default).model h₂.side d).bare := by cases o <;> rfl
      show Answer.model _ = Answer.model _
      rw [hb, hb h₂.kernels[k]?, hl.kernel]

theorem Like.accept (hl : h₁.Like h₂) (now later : Instant) (q : Request) :
    (h₁.accept now q).1.Like (h₂.accept later q).1 ∧
      Same (h₁.accept now q).2 (h₂.accept later q).2 := by
  cases q with
  | specs | start | connect => exact ⟨hl, same_refl _⟩
  | spec name =>
    refine ⟨hl, ?_⟩
    simp only [Host.accept, hl.spec]
    exact same_refl _
  | shutdown d | restart d =>
    obtain ⟨h1, h2⟩ := hl.accepted _ d (bare_touch _ now later) _
    exact ⟨h1, h2 ▸ same_refl _⟩
  | interrupt d =>
    have same (x y : Kernel) (h : x.bare = y.bare) :
        ((fun k => k) x : Kernel).bare = ((fun k => k) y).bare := h
    obtain ⟨h1, h2⟩ := hl.accepted "interrupt" d same .interrupt
    exact ⟨h1, h2 ▸ same_refl _⟩
  | model d => exact ⟨hl, hl.model d⟩
  | list =>
    refine ⟨hl, ?_⟩
    simp only [Host.accept, hl.checkAvailable]
    cases h₂.checkAvailable with
    | error => rfl
    | ok => exact congrArg Answer.models hl.models
  | has d =>
    refine ⟨hl, ?_⟩
    simp only [Host.accept, hl.available, hl.live]
    exact same_refl _
  | openChannel d s =>
    simp only [Host.accept, hl.checkAvailable, hl.find]
    cases (do h₂.checkAvailable; h₂.find d) with
    | error => exact ⟨hl, same_refl _⟩
    | ok k =>
      refine ⟨{ hl with channels := ?_ }, ?_⟩
      · rw [List.map_append, List.map_append, hl.channels]
      · rw [hl.channelCount]
        exact same_refl _

/-- The id of a kernel that this starts, if any, does not depend on what the host draws. -/
def Pinned (h : Host) (name : String) (o : StartOptions) : Prop :=
  (∃ id, o.id = some id ∧ Table.find? (toString id) h.live = none) ∨
    h.specs.find? (·.name = name) = none

theorem Like.add (hl : h₁.Like h₂) (s : Spec) {o : StartOptions} {id : KernelId}
    (hi : o.id = some id) (hf : Table.find? (toString id) h₂.live = none) (fresh other : Uuid)
    (now later : Instant) : (h₁.add s o fresh now).1.Like (h₂.add s o other later).1 ∧
      (h₁.add s o fresh now).2 = toString id ∧ (h₂.add s o other later).2 = toString id := by
  have hw (h : Host) (hh : h.live = h₂.live) : (o.id.map toString).filter
      (fun d => !Table.contains d h.live) = some (toString id) := by
    simp [hi, hh, Option.filter, Table.contains, hf]
  simp only [Host.add, hw h₁ hl.live, hw h₂ rfl, Option.getD_some]
  refine ⟨{ hl with kernels := ?_, live := ?_, nextProcess := ?_ }, trivial, trivial⟩
  · rw [List.map_append, List.map_append, hl.kernels, hl.nextProcess]
    rfl
  · rw [hl.live, hl.kernelCount]
  · rw [hl.nextProcess]

theorem Like.finish (hl : h₁.Like h₂) (now later : Instant) (fresh other : Uuid)
    (hp : ∀ name o, f = .start name o → h₂.Pinned name o) :
    (h₁.finish now fresh f).1.Like (h₂.finish later other f).1 ∧
      (h₁.finish now fresh f).2 = (h₂.finish later other f).2 := by
  cases f with
  | specs =>
    simp only [Host.finish, hl.checkAvailable, hl.specs]
    exact ⟨hl, trivial⟩
  | start name o =>
    have hs : h₂.specs.find? (·.name = name) = none → ∀ s, h₂.spec name ≠ .ok s := by
      intro hn s he
      simp only [Host.spec, hn] at he
      cases hc : h₂.checkAvailable <;> rw [hc] at he <;> cases he
    simp only [Host.finish, hl.checkAvailable, hl.checkWilling, hl.spec]
    split
    · next s he =>
      obtain ⟨id, hi, hf⟩ := (hp name o rfl).resolve_right fun hn => by
        cases hc : h₂.checkAvailable <;> cases hw : h₂.checkWilling "start" <;>
          cases hx : h₂.spec name <;> rw [hc, hw, hx] at he <;> cases he
        exact hs hn _ hx
      obtain ⟨ha, h1, h2⟩ := hl.add s hi hf fresh other now later
      exact ⟨ha, by rw [h1, h2]⟩
    · exact ⟨hl, rfl⟩
  | shutdown d k =>
    simp only [Host.finish, hl.find]
    split
    · next dying _ =>
      have he : ({ h₁ with live := Table.erase d h₁.live } : Host).Like
          { h₂ with live := Table.erase d h₂.live } := { hl with live := by rw [hl.live] }
      exact ⟨(he.editKernel dying (bare_touch _ now later)).leave k, rfl⟩
    · exact ⟨hl.leave k, rfl⟩
  | interrupt k =>
    exact ⟨(hl.editKernel k (bare_touch _ now later)).leave k, rfl⟩
  | restart k =>
    refine ⟨(hl.editKernel k fun x y h => ?_).leave k, rfl⟩
    exact bare_touch _ now later _ _ (congrArg (fun z : Kernel => { z with executions := 0 }) h)

/-! ## Channels and controls -/

theorem Like.connect (hl : h₁.Like h₂) (st st' : Kernel.Stamps) (c lane lane' : Nat)
    (listening listening' : Bool) :
    (h₁.connect st c lane listening).1.Like (h₂.connect st' c lane' listening').1 := by
  have hc := hl.channel c
  simp only [Host.connect]
  cases h1 : h₁.channels[c]? with
  | none =>
    rw [h1] at hc
    have h2 : h₂.channels[c]? = none := by simpa using hc.symm
    rw [h2]
    exact hl
  | some x =>
    rw [h1] at hc
    obtain ⟨y, h2, hxy⟩ := Option.map_eq_some_iff.1 hc.symm
    have hk : y.kernel = x.kernel := show y.bare.kernel = x.bare.kernel by rw [hxy]
    have hn : y.lane.isNone = x.lane.isNone := by
      have := congrArg (·.lane.isNone) hxy
      simpa [Channel.bare] using this
    rw [h2]
    simp only [hk, hn]
    have hset (x y : Channel) (h : x.bare = y.bare) :
        ({ x with lane := some lane } : Channel).bare = { y with lane := some lane' }.bare :=
      congrArg (fun z : Channel => { z with lane := some 0 }) h
    split
    · exact (hl.editKernel x.kernel fun _ _ h => congrArg
        (fun z : Kernel => { z with connections := z.connections + 1 }) h).editChannel c hset
    · exact hl.editChannel c hset

theorem Like.disconnect (hl : h₁.Like h₂) (c : Nat) :
    (h₁.disconnect c).Like (h₂.disconnect c) := by
  have hc := hl.channel c
  simp only [Host.disconnect]
  cases h1 : h₁.channels[c]? with
  | none =>
    rw [h1] at hc
    have h2 : h₂.channels[c]? = none := by simpa using hc.symm
    rw [h2]
    exact hl
  | some x =>
    rw [h1] at hc
    obtain ⟨y, h2, hxy⟩ := Option.map_eq_some_iff.1 hc.symm
    have hk : y.kernel = x.kernel := show y.bare.kernel = x.bare.kernel by rw [hxy]
    have hn : y.lane.isSome = x.lane.isSome := by
      have := congrArg (·.lane.isSome) hxy
      simpa [Channel.bare] using this
    rw [h2]
    simp only [hk, hn]
    have hset (x y : Channel) (h : x.bare = y.bare) :
        ({ x with lane := none } : Channel).bare = { y with lane := none }.bare :=
      congrArg (fun z : Channel => { z with lane := none }) h
    split
    · exact (hl.editKernel x.kernel fun _ _ h => congrArg
        (fun z : Kernel => { z with connections := z.connections - 1 }) h).editChannel c hset
    · exact hl.editChannel c hset

end Host

/-- What a kernel answers to a message leaves it as it would leave a kernel that is alike. -/
theorem Kernel.bare_answer {x y : Kernel} (h : x.bare = y.bare) (st : Kernel.Stamps)
    (s s' : SessionId) (m : Message) :
    (({ x with received := x.received ++ [m] } : Kernel).answer st s m).1.bare =
      (({ y with received := y.received ++ [m] } : Kernel).answer st s' m).1.bare := by
  have hr : ({ x with received := x.received ++ [m] } : Kernel).bare =
      { y with received := y.received ++ [m] }.bare :=
    congrArg (fun z : Kernel => { z with received := z.received ++ [m] }) h
  simp only [Kernel.answer]
  split
  · exact hr
  · split
    · exact Host.bare_touch _ _ _ _ _
        (congrArg (fun z : Kernel => { z with executions := z.executions + 1 }) hr)
    · exact hr

namespace Host

variable {h₁ h₂ : Host} {q : Request}

theorem Like.send (hl : h₁.Like h₂) (st : Kernel.Stamps) (c : Nat) (listening : Bool)
    (m : Message) : (h₁.send st c listening m).1.Like (h₂.send st c listening m).1 := by
  have hc := hl.channel c
  simp only [Host.send]
  cases h1 : h₁.channels[c]? with
  | none =>
    rw [h1] at hc
    have h2 : h₂.channels[c]? = none := by simpa using hc.symm
    rw [h2]
    exact hl
  | some x =>
    rw [h1] at hc
    obtain ⟨y, h2, hxy⟩ := Option.map_eq_some_iff.1 hc.symm
    have hk : y.kernel = x.kernel := show y.bare.kernel = x.bare.kernel by rw [hxy]
    have hn : y.lane.isNone = x.lane.isNone := by
      have := congrArg (·.lane.isNone) hxy
      simpa [Channel.bare] using this
    rw [h2]
    simp only [hk, hn]
    split
    · exact hl
    · have hd : (h₁.kernels[x.kernel]?.getD default).bare =
          (h₂.kernels[x.kernel]?.getD default).bare := by
        have hb (o : Option Kernel) : (o.getD default).bare =
            (o.map Kernel.bare).getD (default : Kernel).bare := by cases o <;> rfl
        rw [hb, hb, hl.kernel]
      exact hl.editKernel x.kernel fun _ _ _ => Kernel.bare_answer hd st x.session y.session m

theorem Like.apply (hl : h₁.Like h₂) (c : Control) : (c.apply h₁).Like (c.apply h₂) := by
  cases c with
  | available is => exact { hl with available := rfl }
  | failing is => exact { hl with failing := rfl }
  | delay n => exact { hl with delay := rfl }
  | specs l => exact { hl with specs := rfl }
  | gate is => exact { hl with gateOpen := rfl }
  | connect st c lane listening => exact hl.connect st st c lane lane listening listening
  | send st c listening m => exact hl.send st c listening m
  | disconnect c => exact hl.disconnect c

theorem Like.kill (hl : h₁.Like h₂) (d : String) : (h₁.kill d).1.Like (h₂.kill d).1 :=
  { hl with live := congrArg (Table.erase d) hl.live }

/-- Two hosts that are alike answer a question alike, whenever it reaches them, unless they are
to make up an id or to connect a channel. -/
theorem Like.replies (hl : h₁.Like h₂) {u v : Option Uuid} {a b : Answer} {g₁ g₂ : Host}
    (hc : ∀ c x, q ≠ .connect c x) (hp : ∀ name o, q = .start name o → h₂.Pinned name o)
    (hr : h₁.Replies q u a g₁) (hs : h₂.Replies q v b g₂) : g₁.Like g₂ ∧ a.bare = b.bare := by
  cases hr with
  | @told _ now _ _ _ h1 =>
    cases hs with
    | @told _ later _ _ _ h2 =>
      have ha := hl.accept now later q
      rw [h1, h2] at ha
      exact ha
    | @finished _ later _ _ _ _ _ _ h2 =>
      have ha := hl.accept now later q
      rw [h1, h2] at ha
      exact ha.2.elim
    | connected | unconnected => exact absurd rfl (hc _ _)
  | @finished _ now k₁ f now' fresh _ _ h1 hf =>
    cases hs with
    | @told _ later _ _ _ h2 =>
      have ha := hl.accept now later q
      rw [h1, h2] at ha
      exact ha.2.elim
    | @finished _ later k₂ f' later' other _ _ h2 hf' =>
      have ha := hl.accept now later q
      rw [h1, h2] at ha
      obtain ⟨hk, rfl⟩ : k₁.Like k₂ ∧ f = f' := ha
      have hpin (name : String) (o : StartOptions) (he : f = .start name o) : k₂.Pinned name o := by
        subst he
        have hi : (h₂.accept later q).2 = .inr (.start name o) := by rw [h2]
        have hq := of_accept hi
        cases q with
        | start name' o' =>
          obtain ⟨rfl, rfl⟩ := hq
          cases h2
          exact hp _ _ rfl
        | _ => cases hq
      have hfin := hk.finish now' later' fresh other hpin
      rw [hf, hf'] at hfin
      exact ⟨hfin.1, congrArg Answer.bare hfin.2⟩
    | connected | unconnected => exact absurd rfl (hc _ _)
  | connected | unconnected => exact absurd rfl (hc _ _)

/-- Connections leave hosts alike, whoever listens. -/
theorem Like.replies_connect (hl : h₁.Like h₂) {u v : Option Uuid} {a b : Answer} {g₁ g₂ : Host}
    {c : Nat} {x y : SessionBinding} (hr : h₁.Replies (.connect c x) u a g₁)
    (hs : h₂.Replies (.connect c y) v b g₂) : g₁.Like g₂ := by
  have out {h g : Host} {u : Option Uuid} {a : Answer} {x : SessionBinding}
      (hr : h.Replies (.connect c x) u a g) :
      ∃ st lane listening, g = (h.connect st c lane listening).1 := by
    cases hr with
    | told hn => exact absurd rfl (hn _ _)
    | finished ha => cases ha
    | connected hc | unconnected hc => exact ⟨_, _, _, by rw [hc]⟩
  obtain ⟨st, lane, listening, rfl⟩ := out hr
  obtain ⟨st', lane', listening', rfl⟩ := out hs
  exact hl.connect st st' c lane lane' listening listening'

end Host

end Memory

end KernelHub
