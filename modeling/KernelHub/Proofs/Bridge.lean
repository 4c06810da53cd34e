import KernelHub.Session

/-
What each operation of a bridge does to its queue and to the client's socket. A remote session's
bridge leaves out what says that the kernel starts, but for what it says itself when a
connection begins; it brings nothing to a client that has gone; and its pump brings what is
first in the queue.
-/

namespace KernelHub

theorem ExecutionState.ofWord_eq_starting {w : String} : ofWord w = starting ↔ w = "starting" := by
  refine ⟨fun h => ?_, fun h => h ▸ rfl⟩
  cases hf : ofWord? w with
  | none => simp [ofWord, hf] at h
  | some s =>
    obtain rfl : s = starting := by simpa [ofWord, hf] using h
    have hw := List.find?_some hf
    exact (of_decide_eq_true hw).symm

namespace Message

/-- Is the execution state in the content the text `starting`? -/
def saysStarting (m : Message) : Bool :=
  match m.content.get? "execution_state" with
  | some (.string w) => w = "starting"
  | _ => false

theorem reportsStarting_eq (m : Message) : m.reportsStarting = m.saysStarting := by
  unfold reportsStarting executionState? saysStarting
  cases m.content.get? "execution_state" with
  | none => rfl
  | some j => cases j <;> simp [Json.string?, ExecutionState.ofWord_eq_starting]

/-- Messages without those that say that the kernel starts. -/
def news (ms : List Message) : List Message := ms.filter fun m => !m.saysStarting

theorem news_append (ms ms' : List Message) : news (ms ++ ms') = news ms ++ news ms' :=
  List.filter_append ..

theorem news_cons (m : Message) (ms : List Message) :
    news (m :: ms) = if m.saysStarting then news ms else m :: news ms := by
  cases h : m.saysStarting <;> simp [news, h]

/-- The message that tells a session that its kernel starts. -/
structure Announces (session : SessionId) (m : Message) : Prop where
  channel : m.channel = "iopub"
  type : m.header.type = "status"
  session : m.header.session = toString session
  content : m.content = .object [("execution_state", .string "starting")]

theorem announces_status (st : Stamp) (session : SessionId) :
    (status st session .starting).Announces session :=
  ⟨rfl, rfl, rfl, rfl⟩

end Message

namespace Bridge

variable {b b' : Bridge} {m : Message}

/-! ## What each operation does -/

/-- Messages reach the client. -/
def reach (b : Bridge) (ms : List Message) : Bridge :=
  { b with socket := { b.socket with arrived := b.socket.arrived ++ ms } }

@[simp] theorem reach_nil (b : Bridge) : b.reach [] = b := by simp [reach]

/-- Does the bridge bring a message to a client that listens? -/
def passes (b : Bridge) (m : Message) : Bool := !(b.tunnel && m.saysStarting)

theorem passes_eq (b : Bridge) (m : Message) :
    b.passes m = !(b.tunnel && m.reportsStarting) := by
  rw [passes, Message.reportsStarting_eq]

theorem forward_of_held (h : b.passes m = false) : b.forward m = (b, .ok false) := by
  rw [passes_eq, Bool.not_eq_false'] at h
  simp only [forward, h, if_true]

theorem forward_of_passes (h : b.passes m = true) :
    b.forward m =
      if b.socket.listening then (b.reach [m], .ok true) else (b, .error socketClosed) := by
  rw [passes_eq, Bool.not_eq_true'] at h
  cases hl : b.socket.listening <;> simp [forward, h, Socket.send?, hl, reach]

theorem forward_fst (b : Bridge) (m : Message) :
    (b.forward m).1 = b.reach (if b.passes m && b.socket.listening then [m] else []) := by
  cases hp : b.passes m with
  | false => simp [forward_of_held hp]
  | true =>
    rw [forward_of_passes hp]
    cases hl : b.socket.listening <;> simp

/-- A remote session's lane is opened, and its client hears that the kernel starts. -/
def announced (b : Bridge) (m : Message) : Bridge :=
  { b.reach [m] with lane := b.lane + 1, since := b.lane + 1, queue := [], pumping := true }

theorem begin_of_tunnel (ht : b.tunnel = true) (st : Stamp) (session : SessionId) :
    b.begin st session =
      if b.socket.listening then .ok (b.announced (.status st session .starting))
      else .error socketClosed := by
  cases hl : b.socket.listening <;> simp [begin, ht, Socket.send?, hl, announced, reach]

theorem begin_of_direct (ht : b.tunnel = false) (st : Stamp) (session : SessionId) :
    b.begin st session = .ok { b with lane := b.lane + 1 } := by
  simp [begin, ht]

theorem push_of_tunnel (ht : b.tunnel = true) (hl : b.since ≤ b.lane) (ms : List Message) :
    b.push b.lane ms = if b.pumping then { b with queue := b.queue ++ ms } else b := by
  cases hp : b.pumping <;> simp [push, hears, ht, hl, hp]

theorem push_of_direct (ht : b.tunnel = false) (hl : b.since ≤ b.lane) (ms : List Message) :
    b.push b.lane ms = if b.socket.listening then b.reach ms else b := by
  cases hp : b.socket.listening <;> simp [push, hears, ht, hl, hp, reach]

theorem pump_of_idle (h : b.pumping = false ∨ b.queue = []) : b.pump = b := by
  unfold pump
  split
  · rename_i hp hq
    rcases h with h | h
    · cases hp.symm.trans h
    · cases hq.symm.trans h
  · rfl

theorem pump_of_waits {q : List Message} (hp : b.pumping = true) (hq : b.queue = m :: q) :
    b.pump =
      if b.passes m then
        if b.socket.listening then { b with queue := q }.reach [m] else b.stop
      else { b with queue := q } := by
  -- The message is forwarded by the bridge that has the rest of the queue.
  have hpass : passes { b with queue := q } m = b.passes m := rfl
  have hpump : b.pump = match ({ b with queue := q } : Bridge).forward m with
      | (b, .ok _) => b
      | (b, .error _) => b.stop := by
    unfold pump
    split
    · rename_i hq'
      obtain ⟨rfl, rfl⟩ := List.cons.inj (hq.symm.trans hq')
      rcases ({ b with queue := q } : Bridge).forward m with ⟨b', _ | _⟩ <;> rfl
    · rename_i hn
      exact (hn m q hp hq).elim
  rw [hpump]
  cases hm : b.passes m with
  | false => rw [forward_of_held (hpass.trans hm)]; rfl
  | true =>
    rw [forward_of_passes (hpass.trans hm)]
    cases b.socket.listening <;> rfl

/-! ## What has arrived stays -/

theorem arrived_forward (b : Bridge) (m : Message) :
    b.socket.arrived <+: (b.forward m).1.socket.arrived := by
  rw [forward_fst]
  exact List.prefix_append ..

theorem arrived_begin {st : Stamp} {session : SessionId} (h : b.begin st session = .ok b') :
    b.socket.arrived <+: b'.socket.arrived := by
  cases ht : b.tunnel with
  | false =>
    rw [begin_of_direct ht] at h
    cases h
    exact List.prefix_rfl
  | true =>
    rw [begin_of_tunnel ht] at h
    split at h <;> cases h
    exact List.prefix_append ..

theorem arrived_push (b : Bridge) (lane : Nat) (ms : List Message) :
    b.socket.arrived <+: (b.push lane ms).socket.arrived := by
  unfold push
  split
  · exact List.prefix_rfl
  · split
    · exact List.prefix_rfl
    · exact List.prefix_append ..

theorem arrived_pump (b : Bridge) : b.socket.arrived <+: b.pump.socket.arrived := by
  cases hp : b.pumping with
  | false => exact (pump_of_idle (.inl hp)).symm ▸ List.prefix_rfl
  | true =>
    cases hq : b.queue with
    | nil => exact (pump_of_idle (.inr hq)).symm ▸ List.prefix_rfl
    | cons m q =>
      rw [pump_of_waits hp hq]
      split
      · split
        · exact List.prefix_append ..
        · exact List.prefix_rfl
      · exact List.prefix_rfl

/-! ## Remote sessions -/

/-- An operation on an open lane of a remote session brings some messages to the client. -/
structure Brings (b b' : Bridge) (ms : List Message) : Prop where
  tunnel : b'.tunnel = b.tunnel
  lane : b'.lane = b.lane
  since : b'.since = b.since
  listening : b'.socket.listening = true → b.socket.listening = true
  pumping : b'.pumping = true → b.pumping = true
  arrived : b'.socket.arrived = b.socket.arrived ++ ms
  /-- Only who listens hears, and hears none that says that the kernel starts. -/
  heard : ∀ m ∈ ms, b.socket.listening = true ∧ m.saysStarting = false

theorem brings_stop (b : Bridge) : b.Brings b.stop [] :=
  ⟨rfl, rfl, rfl, id, nofun, (List.append_nil _).symm, nofun⟩

theorem brings_close (b : Bridge) : b.Brings b.close [] :=
  ⟨rfl, rfl, rfl, nofun, id, (List.append_nil _).symm, nofun⟩

theorem brings_push (ht : b.tunnel = true) (hl : b.since ≤ b.lane) (ms : List Message) :
    b.Brings (b.push b.lane ms) [] := by
  rw [push_of_tunnel ht hl]
  split <;> exact ⟨rfl, rfl, rfl, id, id, (List.append_nil _).symm, nofun⟩

theorem passes_of_tunnel (ht : b.tunnel = true) (m : Message) : b.passes m = !m.saysStarting := by
  simp [passes, ht]

theorem brings_forward (ht : b.tunnel = true) (m : Message) :
    ∃ ms, (b.forward m).1 = b.reach ms ∧ b.Brings (b.reach ms) ms := by
  rw [forward_fst]
  split
  · rename_i h
    rw [Bool.and_eq_true, passes_of_tunnel ht, Bool.not_eq_true'] at h
    exact ⟨[m], rfl, rfl, rfl, rfl, id, id, rfl,
      fun m' hm => List.mem_singleton.1 hm ▸ ⟨h.2, h.1⟩⟩
  · exact ⟨[], rfl, rfl, rfl, rfl, id, id, rfl, nofun⟩

theorem brings_queue (b : Bridge) (q : List Message) : b.Brings { b with queue := q } [] :=
  ⟨rfl, rfl, rfl, id, id, (List.append_nil _).symm, nofun⟩

/-- What the pump does to the bridge of a remote session. -/
structure Pumps (b : Bridge) (ms : List Message) : Prop where
  brings : b.Brings b.pump ms
  idle : b.pumping = false → ms = []
  /-- While it works, it brings what is first in the queue. -/
  carried : b.pump.pumping = true →
    ms ++ Message.news b.pump.queue = Message.news b.queue
  order : ms <+: Message.news b.queue
  listening : b.pump.socket.listening = b.socket.listening
  /-- It goes on as long as the client listens. -/
  lasts : b.socket.listening = true → b.pump.pumping = b.pumping
  /-- Then each of its turns takes a message from the queue. -/
  takes : b.socket.listening = true → b.pumping = true → b.pump.queue = b.queue.tail

theorem pumps_of_idle (h : b.pumping = false ∨ b.queue = []) : b.Pumps [] := by
  have he := pump_of_idle h
  refine ⟨?_, fun _ => rfl, fun _ => ?_, List.nil_prefix, by rw [he], fun _ => by rw [he],
    fun _ hp => ?_⟩
  · rw [he]
    exact b.brings_queue b.queue
  · rw [he, List.nil_append]
  · rcases h with h | h
    · cases hp.symm.trans h
    · rw [he, h]
      rfl

/-- The pump leaves out what says that the kernel starts. -/
theorem pumps_of_starting {q : List Message} (ht : b.tunnel = true) (hp : b.pumping = true)
    (hq : b.queue = m :: q) (hs : m.saysStarting = true) : b.Pumps [] := by
  have he : b.pump = { b with queue := q } := by
    rw [pump_of_waits hp hq, passes_of_tunnel ht, hs]
    rfl
  refine ⟨he ▸ b.brings_queue q, fun _ => rfl, fun _ => ?_, List.nil_prefix, by rw [he],
    fun _ => by rw [he], fun _ _ => by rw [he, hq]; rfl⟩
  rw [he, hq, Message.news_cons, if_pos hs, List.nil_append]

/-- The pump stops at what a client that has gone should hear. -/
theorem pumps_of_closed {q : List Message} (ht : b.tunnel = true) (hp : b.pumping = true)
    (hq : b.queue = m :: q) (hs : m.saysStarting = false) (hl : b.socket.listening = false) :
    b.Pumps [] := by
  have he : b.pump = b.stop := by
    rw [pump_of_waits hp hq, passes_of_tunnel ht, hs, hl]
    rfl
  have hstops : b.pump.pumping = false := by
    rw [he]
    rfl
  refine ⟨he ▸ b.brings_stop, fun _ => rfl, fun h => ?_, List.nil_prefix, by rw [he]; rfl,
    fun h => ?_, fun h => ?_⟩
  · cases hstops.symm.trans h
  · cases hl.symm.trans h
  · cases hl.symm.trans h

/-- The pump brings anything else to the client. -/
theorem pumps_of_passes {q : List Message} (ht : b.tunnel = true) (hp : b.pumping = true)
    (hq : b.queue = m :: q) (hs : m.saysStarting = false) (hl : b.socket.listening = true) :
    b.Pumps [m] := by
  have he : b.pump = { b with queue := q }.reach [m] := by
    rw [pump_of_waits hp hq, passes_of_tunnel ht, hs, hl]
    rfl
  have hnews : Message.news b.queue = m :: Message.news q := by
    rw [hq, Message.news_cons, hs]
    rfl
  refine ⟨?_, fun h => ?_, fun _ => ?_, ?_, by rw [he]; rfl, fun _ => by rw [he]; rfl,
    fun _ _ => by rw [he, hq]; rfl⟩
  · rw [he]
    exact ⟨rfl, rfl, rfl, id, id, rfl, fun m' h => List.mem_singleton.1 h ▸ ⟨hl, hs⟩⟩
  · cases hp.symm.trans h
  · rw [he, hnews]
    rfl
  · rw [hnews]
    exact List.prefix_append [m] _

theorem pumps (ht : b.tunnel = true) : ∃ ms, b.Pumps ms := by
  cases hp : b.pumping with
  | false => exact ⟨[], pumps_of_idle (.inl hp)⟩
  | true =>
    cases hq : b.queue with
    | nil => exact ⟨[], pumps_of_idle (.inr hq)⟩
    | cons m q =>
      cases hs : m.saysStarting with
      | true => exact ⟨[], pumps_of_starting ht hp hq hs⟩
      | false =>
        cases hl : b.socket.listening with
        | false => exact ⟨[], pumps_of_closed ht hp hq hs hl⟩
        | true => exact ⟨[m], pumps_of_passes ht hp hq hs hl⟩

end Bridge

end KernelHub
