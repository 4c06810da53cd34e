import KernelHub.Proofs.Memory.Dealings
import KernelHub.Proofs.Memory.Pair
import KernelHub.Session

/-
Clients at the kernels of a host in memory. Their sockets come and go, their channels are
connected to one socket or another, and what a kernel says on a channel arrives at its socket. A
log keeps what clients did and what was said to them; it alone tells which channels hold a socket.
-/

namespace KernelHub.Memory

/-- A message that a client has sent, and what the kernel said to it. -/
structure Question where
  kernel : Nat
  channel : Nat
  session : SessionId
  /-- The socket that the channel was connected to, and whether its client listened. -/
  socket : Nat
  heard : Bool
  request : Message
  said : List Message

/-- What a client has done, or that a kernel was restarted. -/
inductive Note
  | connected (channel socket : Nat) (succeeded : Bool) (said : List Message)
  | disconnected (channel : Nat)
  | asked (q : Question)
  | restarted (kernel : Nat)

/-- A host, the sockets of its clients, and what they have done. -/
structure Lobby where
  host : Host
  sockets : List Socket := []
  log : List Note := []

/-- What can happen. -/
inductive Act
  | call (now : Instant) (q : Request)
  | finish (now : Instant) (fresh : Uuid) (f : Flight)
  | abandon (f : Flight)
  | kill (id : String)
  | set (c : Control)
  /-- A client comes. -/
  | come
  /-- A client goes. -/
  | close (socket : Nat)
  | connect (st : Kernel.Stamps) (channel socket : Nat)
  | send (st : Kernel.Stamps) (channel : Nat) (m : Message)
  | disconnect (channel : Nat)

/-! ## The log -/

namespace Note

/-- The socket that a channel holds after a note, and whether its connection succeeded. -/
def stand (c : Nat) (held : Option (Nat × Bool)) : Note → Option (Nat × Bool)
  | .connected c' s succeeded _ => if c' = c then some (s, succeeded) else held
  | .disconnected c' => if c' = c then none else held
  | _ => held

/-- What was said to a socket. -/
def saidTo (s : Nat) : Note → List Message
  | .connected _ s' _ said => if s' = s then said else []
  | .asked q => if q.socket = s then q.said else []
  | _ => []

end Note

/-- The socket that a channel holds after all of a log, and whether its last connection
succeeded. -/
def standing (log : List Note) (c : Nat) : Option (Nat × Bool) := log.foldl (Note.stand c) none

theorem standing_concat (log : List Note) (n : Note) (c : Nat) :
    standing (log ++ [n]) c = n.stand c (standing log c) := by
  simp [standing]

namespace Lobby

/-- Does anyone listen at the socket? -/
def listens (l : Lobby) (s : Nat) : Bool := (l.sockets[s]?.map (·.listening)).getD false

/-- What has arrived at the socket. -/
def arrived (l : Lobby) (s : Nat) : List Message := (l.sockets[s]?.map (·.arrived)).getD []

/-- Brings what a kernel says to a socket. -/
def tell (l : Lobby) (s : Nat) (ms : List Message) : Lobby :=
  { l with sockets := l.sockets.modify s fun x => { x with arrived := x.arrived ++ ms } }

def note (l : Lobby) (n : Note) : Lobby := { l with log := l.log ++ [n] }

/-- Connects a channel to a socket. -/
def connect (l : Lobby) (st : Kernel.Stamps) (c s : Nat) : Lobby :=
  let (h, r, ms) := l.host.connect st c s (l.listens s)
  match l.host.channels[c]? with
  | some _ => ({ l with host := h }.tell s ms).note (.connected c s r.isOk ms)
  | none => { l with host := h }

/-- Sends a message on a channel. -/
def send (l : Lobby) (st : Kernel.Stamps) (c : Nat) (m : Message) : Lobby :=
  match l.host.channels[c]? with
  | some { kernel, session, lane := some s } =>
    let (h, _, ms) := l.host.send st c (l.listens s) m
    ({ l with host := h }.tell s ms).note (.asked {
      kernel, channel := c, session, socket := s, heard := l.listens s, request := m, said := ms })
  | _ => { l with host := (l.host.send st c false m).1 }

def step (l : Lobby) : Act → Lobby
  | .call now q => { l with host := (l.host.accept now q).1 }
  | .finish now fresh f =>
    let l := { l with host := (l.host.finish now fresh f).1 }
    match f with
    | .restart k => l.note (.restarted k)
    | _ => l
  | .abandon f => { l with host := l.host.abandon f }
  | .kill id => { l with host := (l.host.kill id).1 }
  | .set c => if c.isSetting then { l with host := c.apply l.host } else l
  | .come => { l with sockets := l.sockets ++ [{}] }
  | .close s => { l with sockets := l.sockets.modify s fun x => { x with listening := false } }
  | .connect st c s => l.connect st c s
  | .send st c m => l.send st c m
  | .disconnect c => { l with host := l.host.disconnect c }.note (.disconnected c)

/-- All that has happened to a new host. -/
def run (side : Side) (acts : List Act) : Lobby := acts.foldl step { host := { side } }

/-! ## One step -/

variable {l l' : Lobby}

/-- All that one step can do to the host, to the log and to what has arrived. -/
inductive Moves (l l' : Lobby) : Prop
  | quiet (host : l.host.Quiet l'.host) (log : l'.log = l.log) (arrived : l'.arrived = l.arrived)
  | restarted (k : Nat) (channels : l'.host.channels = l.host.channels)
    (kernels : l'.host.kernels.length = l.host.kernels.length)
    (dealings : ∀ j, l'.host.dealings j =
      if k = j then (l.host.dealings j).renew else l.host.dealings j)
    (log : l'.log = l.log ++ [.restarted k]) (arrived : l'.arrived = l.arrived)
  | connected (st : Kernel.Stamps) (c s : Nat) (ch : Channel) (r : Except HostError Unit)
    (ms : List Message) (at_ : l.host.channels[c]? = some ch)
    (channels : l'.host.channels = l.host.channels.modify c fun x => { x with lane := some s })
    (kernels : l'.host.kernels.length = l.host.kernels.length)
    (dealings : ∀ k, l'.host.dealings k =
      if ch.kernel = k ∧ ch.lane = none then (l.host.dealings k).join else l.host.dealings k)
    (said : (r, ms) = Host.say (l.listens s) (Kernel.greeting st ch.session))
    (log : l'.log = l.log ++ [.connected c s r.isOk ms])
    (arrived : ∀ j, l'.arrived j = l.arrived j ++ if s = j then ms else [])
  | asked (st : Kernel.Stamps) (q : Question) (x : Kernel)
    (at_ : l.host.channels[q.channel]? = some ⟨q.kernel, q.session, some q.socket⟩)
    (kernel : l.host.kernels[q.kernel]? = some x)
    (channels : l'.host.channels = l.host.channels)
    (kernels : l'.host.kernels.length = l.host.kernels.length)
    (dealings : ∀ k, l'.host.dealings k =
      if q.kernel = k then (l.host.dealings k).ask q.request else l.host.dealings k)
    (heard : q.heard = l.listens q.socket)
    (said : q.said = if q.heard then (x.answer st q.session q.request).2 else [])
    (log : l'.log = l.log ++ [.asked q])
    (arrived : ∀ j, l'.arrived j = l.arrived j ++ if q.socket = j then q.said else [])
  | disconnected (c : Nat)
    (channels : l'.host.channels = l.host.channels.modify c fun x => { x with lane := none })
    (kernels : l'.host.kernels.length = l.host.kernels.length)
    (dealings : ∀ k, l'.host.dealings k =
      if ∃ ch, l.host.channels[c]? = some ch ∧ ch.kernel = k ∧ ch.lane ≠ none then
        (l.host.dealings k).part
      else l.host.dealings k)
    (log : l'.log = l.log ++ [.disconnected c]) (arrived : l'.arrived = l.arrived)

/-- What holds after every step: the host is sound, every channel leads to a kernel that the host
has, and the log tells which socket it holds. -/
structure Kept (l : Lobby) : Prop where
  sound : l.host.Sound
  placed : ∀ ch ∈ l.host.channels, ch.kernel < l.host.kernels.length
  lanes : ∀ c, l.host.channels[c]?.bind (·.lane) = (standing l.log c).map (·.1)

/-- Nothing is said to a socket where nobody listens, or that there is not. -/
theorem arrived_tell {s : Nat} {ms : List Message} (hm : l.listens s = false → ms = []) (j : Nat) :
    (l.tell s ms).arrived j = l.arrived j ++ if s = j then ms else [] := by
  simp only [arrived, tell, List.getElem?_modify]
  cases hs : l.sockets[s]? with
  | none =>
    have : ms = [] := hm (by simp [listens, hs])
    cases l.sockets[j]? <;> simp [this]
  | some x =>
    by_cases hj : s = j
    · subst hj
      simp [hs]
    · simp [hj]

theorem moves_connect (hk : l.Kept) (st : Kernel.Stamps) (c s : Nat) :
    l.Moves (l.connect st c s) := by
  cases hc : l.host.channels[c]? with
  | none =>
    have he : l.connect st c s = { l with host := l.host } := by
      simp only [connect, hc, Host.connect_none hc]
    rw [he]
    exact .quiet (Host.quiet_refl _) rfl rfl
  | some ch =>
    obtain ⟨hch, hlen, hr, hd⟩ := Host.connect_some st s (l.listens s) hc
      (hk.placed ch (List.mem_of_getElem? hc))
    simp only [connect, hc]
    refine .connected st c s ch _ _ hc hch hlen hd hr rfl fun j => arrived_tell (fun hl => ?_) j
    change (l.host.connect st c s (l.listens s)).2.2 = []
    have hl : l.listens s = false := hl
    rw [hr, Host.said_say, hl]
    rfl

theorem moves_send (hk : l.Kept) (st : Kernel.Stamps) (c : Nat) (m : Message) :
    l.Moves (l.send st c m) := by
  by_cases hl : l.host.channels[c]?.bind (·.lane) = none
  · have he : l.send st c m = { l with host := l.host } := by
      rw [send]
      split
      · next hc => simp [hc] at hl
      · rw [Host.send_unconnected hl]
    rw [he]
    exact .quiet (Host.quiet_refl _) rfl rfl
  · obtain ⟨s, hs⟩ := Option.ne_none_iff_exists'.1 hl
    obtain ⟨⟨kernel, session, lane⟩, hc, rfl⟩ := Option.bind_eq_some_iff.1 hs
    obtain ⟨hch, hlen, ⟨x, hx, hr⟩, hd⟩ := Host.send_some st (l.listens s) m hc rfl
      (hk.placed _ (List.mem_of_getElem? hc))
    have hsaid : (l.host.send st c (l.listens s) m).2.2 =
        if l.listens s then (x.answer st session m).2 else [] := by
      rw [hr, Host.said_say]
    simp only [send, hc]
    let q : Question := {
      kernel, channel := c, session, socket := s, heard := l.listens s, request := m
      said := (l.host.send st c (l.listens s) m).2.2 }
    refine .asked st q x hc hx hch hlen hd rfl hsaid rfl fun j => arrived_tell (fun hl => ?_) j
    have hl : l.listens s = false := hl
    exact hsaid.trans (by rw [hl]; rfl)

theorem moves_disconnect (hk : l.Kept) (c : Nat) : l.Moves (l.step (.disconnect c)) := by
  cases hc : l.host.channels[c]? with
  | none =>
    refine .disconnected c ?_ ?_ (fun k => ?_) rfl rfl
    · simp only [step, note, Host.disconnect_none hc]
      rw [List.modify_eq_self (List.getElem?_eq_none_iff.1 hc)]
    · simp only [step, note, Host.disconnect_none hc]
    · simp [step, note, Host.disconnect_none hc, hc]
  | some ch =>
    obtain ⟨hch, hlen, hd⟩ := Host.disconnect_some hc (hk.placed ch (List.mem_of_getElem? hc))
    refine .disconnected c hch hlen (fun k => (hd k).trans ?_) rfl rfl
    simp [hc]

theorem moves_step (hk : l.Kept) (a : Act) : l.Moves (l.step a) := by
  cases a with
  | call now q => exact .quiet (Host.quiet_accept hk.sound.tidy now q) rfl rfl
  | finish now fresh f =>
    by_cases hf : ∃ k, f = .restart k
    · obtain ⟨k, rfl⟩ := hf
      exact .restarted k rfl (by simp [step, note, Host.finish, Host.leave, Host.editKernel_spec])
        (fun j => Host.dealings_restart l.host now fresh k j) rfl rfl
    · have hq := Host.quiet_finish l.host now fresh fun k hk => hf ⟨k, hk⟩
      cases f with
      | restart k => exact absurd ⟨k, rfl⟩ hf
      | _ => exact .quiet hq rfl rfl
  | abandon f => exact .quiet (Host.quiet_abandon _ f) rfl rfl
  | kill id => exact .quiet (Host.quiet_of_kernels rfl rfl) rfl rfl
  | set c =>
    simp only [step]
    split
    · next hc => exact .quiet (Control.quiet_apply hc _) rfl rfl
    · exact .quiet (Host.quiet_refl _) rfl rfl
  | come =>
    refine .quiet (Host.quiet_refl _) rfl (funext fun s => ?_)
    simp only [arrived, step, List.getElem?_append]
    split
    · rfl
    · next hs =>
      rw [List.getElem?_eq_none (Nat.not_lt.1 hs)]
      cases s - l.sockets.length <;> rfl
  | close s =>
    refine .quiet (Host.quiet_refl _) rfl (funext fun j => ?_)
    simp only [arrived, step, List.getElem?_modify]
    cases l.sockets[j]? with
    | none => rfl
    | some x => by_cases hj : s = j <;> simp [hj]
  | connect st c s => exact moves_connect hk st c s
  | send st c m => exact moves_send hk st c m
  | disconnect c => exact moves_disconnect hk c

/-! ## Runs -/

/-- Every flight is that of a call. -/
theorem exists_of (f : Flight) : ∃ q, f.Of q := by
  cases f with
  | specs => exact ⟨.specs, trivial⟩
  | start name o => exact ⟨.start name o, rfl, rfl⟩
  | shutdown d k => exact ⟨.shutdown d false, rfl⟩
  | interrupt k => exact ⟨.interrupt "", trivial⟩
  | restart k => exact ⟨.restart "" false, trivial⟩

theorem sound_step (hs : l.host.Sound) (a : Act) : (l.step a).host.Sound := by
  cases a with
  | call now q => exact Host.sound_accept hs now q
  | finish now fresh f =>
    obtain ⟨q, hf⟩ := exists_of f
    have h := Host.sound_finish hs hf now fresh
    cases f <;> exact h
  | abandon f =>
    cases f with
    | specs | start => exact hs
    | _ => exact Host.sound_keeps hs ⟨rfl, rfl⟩ (Host.renews_editKernel l.host _ _)
  | kill id => exact Host.sound_kill hs id
  | set c =>
    simp only [step]
    split
    · exact Host.sound_apply hs c
    · exact hs
  | come | close => exact hs
  | connect st c s =>
    have h := Host.sound_apply hs (.connect st c s (l.listens s))
    simp only [step, connect]
    split <;> exact h
  | send st c m =>
    simp only [step, send]
    split
    · next s _ => exact Host.sound_apply hs (.send st c (l.listens s) m)
    · exact Host.sound_apply hs (.send st c false m)
  | disconnect c => exact Host.sound_apply hs (.disconnect c)

theorem Moves.kernels_le (hm : l.Moves l') : l.host.kernels.length ≤ l'.host.kernels.length := by
  cases hm with
  | quiet host => exact host.kernels
  | restarted | connected | asked | disconnected => exact Nat.le_of_eq (Eq.symm ‹_›)

/-- Of its channels, only one holds another socket. -/
theorem getElem?_modify_lane (chs : List Channel) (d : Nat) (lane : Option Nat) (c : Nat) :
    (chs.modify d fun x => { x with lane })[c]? =
      chs[c]?.map fun ch => { ch with lane := if d = c then lane else ch.lane } := by
  rw [List.getElem?_modify]
  cases chs[c]? with
  | none => rfl
  | some ch => by_cases hd : d = c <;> simp [hd]

/-- A channel stays one of its kernel and of its session. -/
theorem Moves.of_channel {c : Nat} {ch : Channel} (hm : l.Moves l')
    (hc : l.host.channels[c]? = some ch) :
    ∃ lane, l'.host.channels[c]? = some { ch with lane } := by
  cases hm with
  | quiet host =>
    obtain ⟨more, hm, -⟩ := host.channels
    exact ⟨ch.lane, by rw [hm, List.getElem?_append_left (List.getElem?_eq_some_iff.1 hc).1, hc]⟩
  | restarted _ channels | asked _ _ _ _ _ channels => exact ⟨ch.lane, by rw [channels, hc]⟩
  | connected _ _ _ _ _ _ _ channels | disconnected _ channels =>
    exact ⟨_, by rw [channels, getElem?_modify_lane, hc, Option.map_some]⟩

/-- A channel that was not there is one to a kernel, and holds no socket. -/
theorem Moves.of_no_channel {c : Nat} {ch : Channel} (hm : l.Moves l')
    (hn : l.host.channels[c]? = none) (hc : l'.host.channels[c]? = some ch) :
    ch.lane = none ∧ ch.kernel < l.host.kernels.length ∧ l'.log = l.log := by
  cases hm with
  | quiet host log =>
    obtain ⟨more, hm, hall⟩ := host.channels
    rw [hm, List.getElem?_append_right (List.getElem?_eq_none_iff.1 hn)] at hc
    obtain ⟨hl, hk⟩ := hall ch (List.mem_of_getElem? hc)
    exact ⟨hl, hk, log⟩
  | restarted _ channels | asked _ _ _ _ _ channels =>
    rw [channels, hn] at hc
    cases hc
  | connected _ _ _ _ _ _ _ channels | disconnected _ channels =>
    rw [channels, getElem?_modify_lane, hn] at hc
    cases hc

theorem lanes_step (hk : l.Kept) (hm : l.Moves l') (c : Nat) :
    l'.host.channels[c]?.bind (·.lane) = (standing l'.log c).map (·.1) := by
  have hl := hk.lanes c
  cases hm with
  | quiet host log =>
    obtain ⟨more, hm, hall⟩ := host.channels
    rw [log, ← hl, hm, List.getElem?_append]
    split
    · rfl
    · next hc =>
      rw [List.getElem?_eq_none (Nat.not_lt.1 hc), Option.bind_none, Option.bind_eq_none_iff]
      exact fun ch hch => (hall ch (List.mem_of_getElem? hch)).1
  | restarted k channels _ _ log =>
    rw [channels, hl, log, standing_concat]
    rfl
  | connected st d s ch r ms at_ channels _ _ _ log =>
    rw [channels, getElem?_modify_lane, Option.bind_map, log, standing_concat, Note.stand]
    by_cases hd : d = c
    · subst hd
      simp [at_]
    · simpa [hd, Function.comp_def] using hl
  | asked st q x _ _ channels _ _ _ _ log =>
    rw [channels, hl, log, standing_concat]
    rfl
  | disconnected d channels _ _ log =>
    rw [channels, getElem?_modify_lane, Option.bind_map, log, standing_concat, Note.stand]
    by_cases hd : d = c
    · simp [hd]
    · simpa [hd, Function.comp_def] using hl

theorem kept_step (hk : l.Kept) (a : Act) : (l.step a).Kept := by
  have hm := moves_step hk a
  refine ⟨sound_step hk.sound a, fun ch hch => ?_, lanes_step hk hm⟩
  obtain ⟨c, hc⟩ := List.mem_iff_getElem?.1 hch
  refine Nat.lt_of_lt_of_le ?_ hm.kernels_le
  cases hn : l.host.channels[c]? with
  | none => exact (hm.of_no_channel hn hc).2.1
  | some ch₀ =>
    obtain ⟨lane, he⟩ := hm.of_channel hn
    cases he.symm.trans hc
    exact hk.placed ch₀ (List.mem_of_getElem? hn)

theorem kept_new (side : Side) : Kept { host := { side } } :=
  ⟨Host.sound_vacant rfl, nofun, fun _ => rfl⟩

/-- What holds of a new host and is kept by every step holds after every run. -/
theorem run_induct {P : Lobby → Prop} {side : Side} (hn : P { host := { side } })
    (hs : ∀ l a, P l → P (l.step a)) (acts : List Act) : P (run side acts) := by
  rw [run]
  generalize ({ host := { side } } : Lobby) = l at hn
  induction acts generalizing l with
  | nil => exact hn
  | cons a acts ih => exact ih (l.step a) (hs l a hn)

/-- A kernel is started, and two channels to it are opened. -/
def opening : List Act := [
  .set (.specs [{ name := "python3", displayName := "Python 3", language := "python" }]),
  .call default (.start "python3" { id := some .zero }),
  .finish default default (.start "python3" { id := some .zero }),
  .call default (.openChannel (toString KernelId.zero) .zero),
  .call default (.openChannel (toString KernelId.zero) .zero)]

end Lobby

end KernelHub.Memory
