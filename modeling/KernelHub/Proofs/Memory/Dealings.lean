import KernelHub.Proofs.Memory.Busy

/-
What clients have to do with a host in memory. Of a kernel they can tell how many connections and
how many executions it counts, and what it has received; only what they do on their channels
changes that, but that a restarted kernel starts to count anew. Each of the three things they can
do on a channel is said here once, with all that it changes.
-/

namespace KernelHub

/-- Does a message ask for an execution? -/
def Message.isExecution (m : Message) : Bool := m.header.type = "execute_request"

namespace Memory

/-- What clients have had to do with a kernel. -/
structure Dealings where
  connections : UInt32 := 0
  executions : UInt32 := 0
  received : List Message := []

namespace Dealings

/-- One connection more. -/
def join (d : Dealings) : Dealings := { d with connections := d.connections + 1 }

/-- One connection less. -/
def part (d : Dealings) : Dealings := { d with connections := d.connections - 1 }

/-- One message more, which may ask for an execution. -/
def ask (d : Dealings) (m : Message) : Dealings :=
  { d with
    executions := d.executions + if m.isExecution then 1 else 0
    received := d.received ++ [m] }

/-- No execution yet. -/
def renew (d : Dealings) : Dealings := { d with executions := 0 }

end Dealings

def Kernel.dealings (k : Kernel) : Dealings where
  connections := k.connections
  executions := k.executions
  received := k.received

namespace Kernel

/-- Requests are told by the end of their type. -/
theorem requestBase?_eq_some {type base : String} :
    requestBase? type = some base ↔ type = base ++ "_request" := by
  have hl : "_request".toList.length = 8 := rfl
  constructor
  · intro h
    simp only [requestBase?] at h
    split at h
    · next he =>
      obtain ⟨front, hf⟩ := List.isSuffixOf_iff_suffix.1 he
      cases h
      refine String.toList_injective ?_
      rw [String.toList_append, String.toList_ofList, ← hf]
      simp
    · cases h
  · rintro rfl
    have he : "_request".toList.isSuffixOf (base ++ "_request").toList = true :=
      List.isSuffixOf_iff_suffix.2 ⟨base.toList, String.toList_append.symm⟩
    simp only [requestBase?, he, if_true, Option.some.injEq]
    refine String.toList_injective ?_
    rw [String.toList_ofList, String.toList_append]
    simp

theorem dealings_answer (k : Kernel) (st : Stamps) (session : SessionId) (m : Message) :
    (k.answer st session m).1.dealings =
      { k.dealings with executions := k.executions + if m.isExecution then 1 else 0 } := by
  have hx : m.isExecution = decide (requestBase? m.header.type = some "execute") := by
    rw [Message.isExecution, decide_eq_decide, requestBase?_eq_some]
    rfl
  rw [answer, hx]
  cases requestBase? m.header.type with
  | none => simp [dealings]
  | some base => by_cases hb : base = "execute" <;> simp [hb, dealings, touch]

/-- What a kernel answers does not depend on what it has received. -/
theorem answer_received (k : Kernel) (st : Stamps) (session : SessionId) (m : Message)
    (ms : List Message) :
    ({ k with received := ms }.answer st session m).2 = (k.answer st session m).2 := by
  rw [answer, answer]
  cases requestBase? m.header.type with
  | none => rfl
  | some base => by_cases hb : base = "execute" <;> simp [hb, replyContent]

end Kernel

namespace Host

variable {h h' : Host} {now : Instant} {fresh : Uuid} {k : Nat}

/-- What clients have had to do with a kernel; nothing, if there is none. -/
def dealings (h : Host) (k : Nat) : Dealings := (h.kernels[k]?.map Kernel.dealings).getD {}

theorem dealings_of_kernels (hk : h'.kernels = h.kernels) : h'.dealings = h.dealings := by
  funext k
  rw [dealings, hk, dealings]

theorem dealings_editKernel (h : Host) (k : Nat) (f : Kernel → Kernel) (j : Nat) :
    (h.editKernel k f).dealings j =
      if k = j then ((h.kernels[j]?).map fun x => (f x).dealings).getD {} else h.dealings j := by
  simp only [dealings, editKernel, List.getElem?_modify]
  split
  · simp [Option.map_map, Function.comp_def]
  · simp

/-- A change of a kernel that the host has, as clients see it. -/
theorem dealings_editKernel_of_lt (hk : k < h.kernels.length) {f : Kernel → Kernel}
    {g : Dealings → Dealings} (hf : ∀ x, (f x).dealings = g x.dealings) (j : Nat) :
    (h.editKernel k f).dealings j = if k = j then g (h.dealings j) else h.dealings j := by
  rw [dealings_editKernel]
  split
  · next hj =>
    subst hj
    simp [dealings, List.getElem?_eq_getElem hk, hf]
  · rfl

theorem editChannel_spec (h : Host) (c : Nat) (f : Channel → Channel) :
    (h.editChannel c f).channels = h.channels.modify c f ∧
      (h.editChannel c f).kernels = h.kernels ∧ (h.editChannel c f).dealings = h.dealings :=
  ⟨rfl, rfl, rfl⟩

theorem editKernel_spec (h : Host) (k : Nat) (f : Kernel → Kernel) :
    (h.editKernel k f).channels = h.channels ∧
      (h.editKernel k f).kernels.length = h.kernels.length :=
  ⟨rfl, List.length_modify ..⟩

/-- A change that clients have nothing to do with. -/
theorem dealings_editKernel_same {f : Kernel → Kernel}
    (hf : ∀ x, h.kernels[k]? = some x → (f x).dealings = x.dealings) :
    (h.editKernel k f).dealings = h.dealings := by
  funext j
  rw [dealings_editKernel, dealings]
  split
  · next hk =>
    subst hk
    cases hx : h.kernels[k]? with
    | none => rfl
    | some x => exact hf x hx
  · rfl

/-! ## What the host does by itself -/

/-- No client has moved: at most a kernel was added, and a channel to a kernel opened. -/
structure Quiet (h h' : Host) : Prop where
  dealings : h'.dealings = h.dealings
  kernels : h.kernels.length ≤ h'.kernels.length
  channels : ∃ more, h'.channels = h.channels ++ more ∧
    ∀ ch ∈ more, ch.lane = none ∧ ch.kernel < h.kernels.length

theorem quiet_of_kernels (hk : h'.kernels = h.kernels) (hc : h'.channels = h.channels) :
    h.Quiet h' :=
  ⟨dealings_of_kernels hk, Nat.le_of_eq (by rw [hk]), [], by simp [hc]⟩

theorem quiet_refl (h : Host) : h.Quiet h := quiet_of_kernels rfl rfl

/-- Then a kernel was changed, in a way that clients have nothing to do with. -/
theorem Quiet.edit (hq : h.Quiet h') {f : Kernel → Kernel} (hf : ∀ x, (f x).dealings = x.dealings) :
    h.Quiet (h'.editKernel k f) :=
  ⟨(dealings_editKernel_same fun x _ => hf x).trans hq.dealings,
    by simpa [editKernel] using hq.kernels, hq.channels⟩

theorem Quiet.leave (hq : h.Quiet h') (k : Nat) : h.Quiet (h'.leave k) := hq.edit fun _ => rfl

theorem quiet_accepted (h : Host) (op d : String) {onKernel : Kernel → Kernel}
    (flight : Nat → Flight) (hf : ∀ x, (onKernel x).dealings = x.dealings) :
    h.Quiet (h.accepted op d onKernel flight).1 := by
  have entered {h' : Host} {k : Nat} (he : h.enter op d = .ok (h', k)) : h.Quiet h' := by
    cases ha : h.available <;> cases hw : h.failing <;> cases hd : Table.find? d h.live <;>
      simp only [enter, checkAvailable, checkWilling, find, ha, hw, hd] at he
    case true.false.some j =>
      cases he
      have hq : h.Quiet (h.editKernel k fun x => { x with busy := true }) :=
        (quiet_refl h).edit fun _ => rfl
      split
      · exact ⟨hq.dealings, hq.kernels, hq.channels⟩
      · exact hq
    all_goals cases he
  simp only [accepted]
  split
  · next h₁ j he =>
    exact (entered he).edit hf
  · exact quiet_refl h

/-- Taking a call moves no client. A channel is opened to a kernel that the host has. -/
theorem quiet_accept (ht : h.Tidy) (now : Instant) (q : Request) : h.Quiet (h.accept now q).1 := by
  cases q with
  | shutdown | interrupt | restart => exact quiet_accepted h _ _ _ fun _ => rfl
  | openChannel d session =>
    simp only [accept]
    split
    · next k hk =>
      refine ⟨rfl, Nat.le_refl _, [_], rfl, fun ch hch => ?_⟩
      obtain rfl := List.mem_singleton.1 hch
      refine ⟨rfl, ht.kept d k ?_⟩
      cases ha : h.available <;> cases hd : Table.find? d h.live <;>
        simp only [checkAvailable, find, ha, hd] at hk <;> cases hk
      rfl
    · exact quiet_refl h
  | _ => exact quiet_refl h

/-- The end of a call moves no client, but the end of a restart lets the kernel count anew. -/
theorem quiet_finish (h : Host) (now : Instant) (fresh : Uuid) {f : Flight}
    (hf : ∀ k, f ≠ .restart k) :
    h.Quiet (h.finish now fresh f).1 := by
  cases f with
  | specs => exact quiet_refl h
  | start =>
    simp only [finish]
    split
    · refine ⟨funext fun k => ?_, by simp [add], [], by simp [add]⟩
      simp only [dealings, add, List.getElem?_append]
      split
      · rfl
      · next hk =>
        rw [List.getElem?_eq_none (Nat.not_lt.1 hk)]
        cases hx : k - h.kernels.length <;> rfl
    · exact quiet_refl h
  | shutdown d k =>
    have he : h.Quiet { h with live := Table.erase d h.live } := quiet_of_kernels rfl rfl
    simp only [finish]
    split
    · next dying _ => exact (he.edit (f := fun x => x.touch .dead now) fun _ => rfl).leave k
    · exact (quiet_refl h).leave k
  | interrupt k =>
    exact ((quiet_refl h).edit (f := fun x => x.touch .idle now) fun _ => rfl).leave k
  | restart k => exact absurd rfl (hf k)

theorem dealings_restart (h : Host) (now : Instant) (fresh : Uuid) (k j : Nat) :
    (h.finish now fresh (.restart k)).1.dealings j =
    if k = j then (h.dealings j).renew else h.dealings j := by
  have hl (h : Host) : (h.leave k).dealings = h.dealings := dealings_editKernel_same fun _ _ => rfl
  simp only [finish, hl, dealings_editKernel]
  split
  · simp only [dealings]
    cases h.kernels[j]? <;> rfl
  · rfl

theorem quiet_abandon (h : Host) (f : Flight) : h.Quiet (h.abandon f) := by
  cases f with
  | specs | start => exact quiet_refl h
  | _ => exact (quiet_refl h).leave _

/-! ## What clients do -/

section Clients

variable {st : Kernel.Stamps} {c s : Nat} {ch : Channel} {b : Bool} {m : Message}

theorem connect_none (hc : h.channels[c]? = none) : (h.connect st c s b).1 = h := by
  simp only [connect, hc]

/-- A connection counts if the channel held no socket, whoever listens. -/
theorem connect_some (st : Kernel.Stamps) (s : Nat) (b : Bool) (hc : h.channels[c]? = some ch)
    (hk : ch.kernel < h.kernels.length) :
    (h.connect st c s b).1.channels = h.channels.modify c (fun x => { x with lane := some s }) ∧
    (h.connect st c s b).1.kernels.length = h.kernels.length ∧
    (h.connect st c s b).2 = say b (Kernel.greeting st ch.session) ∧
    ∀ k, (h.connect st c s b).1.dealings k =
      if ch.kernel = k ∧ ch.lane = none then (h.dealings k).join else h.dealings k := by
  have hd := dealings_editKernel_of_lt hk
    (f := fun x => { x with connections := x.connections + 1 }) (g := Dealings.join) fun _ => rfl
  cases hl : ch.lane <;> simp [connect, hc, hl, hd, editChannel_spec, editKernel_spec]

theorem said_say (b : Bool) (ms : List Message) : (say b ms).2 = if b then ms else [] := by
  cases b <;> cases ms <;> rfl

theorem send_unconnected (hl : h.channels[c]?.bind (·.lane) = none) :
    h.send st c b m = (h, .error notConnected, []) := by
  simp only [send]
  split
  · rfl
  · next ch hc =>
    have : ch.lane = none := by simpa [hc] using hl
    rw [this]
    rfl

/-- A message is received, and counted if it asks for an execution, whoever listens. -/
theorem send_some (st : Kernel.Stamps) (b : Bool) (m : Message) (hc : h.channels[c]? = some ch)
    (hl : ch.lane = some s) (hk : ch.kernel < h.kernels.length) :
    (h.send st c b m).1.channels = h.channels ∧
    (h.send st c b m).1.kernels.length = h.kernels.length ∧
    (∃ x, h.kernels[ch.kernel]? = some x ∧
      (h.send st c b m).2 = say b (x.answer st ch.session m).2) ∧
    ∀ k, (h.send st c b m).1.dealings k =
      if ch.kernel = k then (h.dealings k).ask m else h.dealings k := by
  obtain ⟨x, hx⟩ : ∃ x, h.kernels[ch.kernel]? = some x := ⟨_, List.getElem?_eq_getElem hk⟩
  -- The message is written down before it is answered, which makes no difference to the answer.
  have hs : h.send st c b m =
      (h.editKernel ch.kernel fun _ =>
        ({ x with received := x.received ++ [m] }.answer st ch.session m).1,
        say b (x.answer st ch.session m).2) := by
    simp only [send, hc, hl, hx, Option.isNone_some, Option.getD_some,
      ← Kernel.answer_received x st ch.session m (x.received ++ [m])]
    rfl
  simp only [hs]
  refine ⟨rfl, (editKernel_spec h _ _).2, ⟨x, hx, rfl⟩, fun k => ?_⟩
  rw [dealings_editKernel]
  split
  · next hj =>
    subst hj
    simp only [hx, dealings, Kernel.dealings_answer]
    rfl
  · rfl

theorem disconnect_none (hc : h.channels[c]? = none) : h.disconnect c = h := by
  simp only [disconnect, hc]

/-- The end of a connection counts if the channel held a socket. -/
theorem disconnect_some (hc : h.channels[c]? = some ch) (hk : ch.kernel < h.kernels.length) :
    (h.disconnect c).channels = h.channels.modify c (fun x => { x with lane := none }) ∧
    (h.disconnect c).kernels.length = h.kernels.length ∧
    ∀ k, (h.disconnect c).dealings k =
      if ch.kernel = k ∧ ch.lane ≠ none then (h.dealings k).part else h.dealings k := by
  have hd := dealings_editKernel_of_lt hk
    (f := fun x => { x with connections := x.connections - 1 }) (g := Dealings.part) fun _ => rfl
  cases hl : ch.lane <;> simp [disconnect, hc, hl, hd, editChannel_spec, editKernel_spec]

end Clients

end Host

/-- Is it a setting of the host, and nothing that a client does? -/
def Control.isSetting : Control → Bool
  | .connect .. => false
  | .send .. => false
  | .disconnect .. => false
  | _ => true

theorem Control.quiet_apply {c : Control} (hc : c.isSetting = true) (h : Host) :
    h.Quiet (c.apply h) := by
  cases c with
  | connect | send | disconnect => cases hc
  | _ => exact Host.quiet_of_kernels rfl rfl

end Memory

end KernelHub
