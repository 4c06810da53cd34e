import Mathlib.Data.Finset.Card
import KernelHub.Proofs.Memory.Lobby

/-
How many connections a kernel in memory counts: one for each of its channels that holds a socket.
A channel holds the socket of its last connection until it is disconnected, also when that
connection failed because nobody listened any more. So the count is that of the channels whose last
connection succeeded exactly as long as no failed one stands.
-/

namespace KernelHub.Memory

namespace Host

variable {h h' : Host}

/-- How a client's session with a kernel fails to open: the host has no channel to it, the client
has gone before the connection was begun, or the connection fails. -/
inductive Unopened (h : Host) (about : SessionBinding) (socket : Socket) : HostError → Host → Prop
  | refused {now e h'}
    (ha : h.accept now (.openChannel about.binding.delegate about.session) =
      (h', .inl (.refused e))) : Unopened h about socket e h'
  | left {now c e h' st}
    (ha : h.accept now (.openChannel about.binding.delegate about.session) = (h', .inl (.opened c)))
    (hb : { (Session.ofOpened about c).bridge with socket }.begin st about.session = .error e) :
    Unopened h about socket e h'
  | unconnected {now c h₁ st b sts e ms h'}
    (ha : h.accept now (.openChannel about.binding.delegate about.session) = (h₁, .inl (.opened c)))
    (hb : { (Session.ofOpened about c).bridge with socket }.begin st about.session = .ok b)
    (hc : h₁.connect sts c b.lane (b.hears b.lane) = (h', .error e, ms)) :
    Unopened h about socket e h'

/-- A channel is opened to a kernel that the host has, if the host can be reached. -/
theorem accept_openChannel {now : Instant} {d : String} {session : SessionId} {a : Answer}
    (ha : h.accept now (.openChannel d session) = (h', .inl a)) :
    (∃ e, a = .refused e ∧ h' = h ∧ ∀ k, ¬ (h.available = true ∧ Table.find? d h.live = some k)) ∨
    ∃ k, a = .opened h.channels.length ∧ h.available = true ∧ Table.find? d h.live = some k ∧
      h' = { h with channels := h.channels ++ [{ kernel := k, session }] } := by
  cases hv : h.available <;> cases hd : Table.find? d h.live <;>
    simp only [accept, checkAvailable, find, hv, hd] at ha <;> cases ha
  case true.some k => exact .inr ⟨k, rfl, rfl, rfl, rfl⟩
  all_goals exact .inl ⟨_, rfl, rfl, fun k hk => by simp at hk⟩

/-- The gateway's channels are opened to a queue, where a pump listens. -/
theorem hears_of_begin {about : SessionBinding} {c : Nat} {socket : Socket} {st : Stamp}
    {b : Bridge} (hs : about.binding.side = .remote)
    (hb : { (Session.ofOpened about c).bridge with socket }.begin st about.session = .ok b) :
    b.hears b.lane = true := by
  simp only [Bridge.begin, Session.ofOpened, hs, Side.isRemote, decide_true, if_true] at hb
  split at hb <;> cases hb
  rfl

theorem begin_of_home {about : SessionBinding} {c : Nat} {socket : Socket} {st : Stamp}
    (hs : about.binding.side = .home) :
    ∃ b, { (Session.ofOpened about c).bridge with socket }.begin st about.session = .ok b := by
  simp [Bridge.begin, Session.ofOpened, hs, Side.isRemote]

theorem not_listening_of_say {b : Bool} {ms said : List Message} {e : HostError}
    (hs : say b ms = (.error e, said)) : b = false := by
  cases b with
  | false => rfl
  | true => cases hs

/-- A connection that fails counts like any other. -/
theorem connections_of_failed {ch : Channel} {c s : Nat} {st : Kernel.Stamps} {b : Bool}
    {e : HostError} {ms : List Message} (hc : h.channels[c]? = some ch)
    (hk : ch.kernel < h.kernels.length) (hf : h.connect st c s b = (h', .error e, ms)) (k : Nat) :
    (h'.dealings k).connections =
      (h.dealings k).connections + if ch.kernel = k ∧ ch.lane = none then 1 else 0 := by
  have hd := (connect_some st s b hc hk).2.2.2 k
  rw [hf] at hd
  rw [hd]
  split
  · rfl
  · exact (UInt32.add_zero _).symm

/-- A session that does not open has made a connection at home only, where nobody listened. -/
theorem connections_of_unopened {about : SessionBinding} {socket : Socket} {e : HostError}
    (ht : h.Tidy) (hu : h.Unopened about socket e h') (k : Nat) :
    (h'.dealings k).connections = (h.dealings k).connections +
      if about.binding.side = .home ∧ h.available = true ∧
        Table.find? about.binding.delegate h.live = some k then 1 else 0 := by
  cases hu with
  | refused ha =>
    obtain ⟨e', -, rfl, hn⟩ | ⟨k', he, -⟩ := accept_openChannel ha
    · rw [if_neg fun hc => hn k hc.2, UInt32.add_zero]
    · cases he
  | left ha hb =>
    obtain ⟨e', he, -⟩ | ⟨k', -, -, -, rfl⟩ := accept_openChannel ha
    · cases he
    · have hs : about.binding.side ≠ .home := fun hs => by
        obtain ⟨b, hb'⟩ := begin_of_home hs
        cases hb.symm.trans hb'
      rw [if_neg fun hc => hs hc.1, UInt32.add_zero]
      rfl
  | @unconnected now c h₁ st b sts e ms h' ha hb hc =>
    obtain ⟨e', he, -⟩ | ⟨k', hc', hv, hd, rfl⟩ := accept_openChannel ha
    · cases he
    cases hc'
    have hch : (h.channels ++ [{ kernel := k', session := about.session }])[h.channels.length]? =
        some { kernel := k', session := about.session } := by simp
    have hk := ht.kept _ _ hd
    cases hs : about.binding.side with
    | remote =>
      have hsay := (connect_some (h := { h with channels := h.channels ++ [_] }) sts b.lane
        (b.hears b.lane) hch hk).2.2.1
      rw [hc] at hsay
      have := not_listening_of_say hsay.symm
      rw [hears_of_begin hs hb] at this
      cases this
    | home =>
      rw [connections_of_failed hch hk hc]
      simp [hv, hd, dealings]

/-- A model shows the count of its kernel. -/
theorem connections_of_model {now : Instant} {d : String} {m : Model} (ht : h.Tidy)
    (ha : h.accept now (.model d) = (h', .inl (.model m))) :
    ∃ k, Table.find? d h.live = some k ∧ m.connections = (h.dealings k).connections := by
  cases hv : h.available <;> cases hd : Table.find? d h.live <;>
    simp only [accept, checkAvailable, find, hv, hd] at ha <;> cases ha
  next k =>
  refine ⟨k, rfl, ?_⟩
  rw [dealings, List.getElem?_eq_getElem (ht.kept d k hd)]
  rfl

end Host

namespace Lobby

variable {l l' : Lobby} {k c : Nat}

/-- The channels of a kernel that hold a socket. -/
def held (l : Lobby) (k : Nat) : Finset Nat :=
  (Finset.range l.host.channels.length).filter fun c =>
    l.host.channels[c]?.map (·.kernel) = some k ∧ (standing l.log c).isSome

/-- How many channels of a kernel hold a socket since a connection that succeeded, or that
failed. -/
def joined (l : Lobby) (k : Nat) (succeeded : Bool) : Nat :=
  ((Finset.range l.host.channels.length).filter fun c =>
    l.host.channels[c]?.map (·.kernel) = some k ∧
      (standing l.log c).map (·.2) = some succeeded).card

theorem mem_held : c ∈ l.held k ↔
    (∃ ch, l.host.channels[c]? = some ch ∧ ch.kernel = k) ∧ standing l.log c ≠ none := by
  simp only [held, Finset.mem_filter, Finset.mem_range, Option.map_eq_some_iff,
    Option.isSome_iff_ne_none]
  constructor
  · rintro ⟨-, h⟩
    exact h
  · rintro ⟨⟨ch, hc, hk⟩, hs⟩
    exact ⟨(List.getElem?_eq_some_iff.1 hc).1, ⟨ch, hc, hk⟩, hs⟩

theorem card_held (l : Lobby) (k : Nat) : (l.held k).card = l.joined k true + l.joined k false := by
  rw [joined, joined, ← Finset.card_union_of_disjoint]
  · refine congrArg _ (Finset.ext fun c => ?_)
    simp only [held, Finset.mem_union, Finset.mem_filter, ← and_or_left]
    refine and_congr_right fun _ => and_congr_right fun _ => ?_
    rcases standing l.log c with _ | ⟨s, _ | _⟩ <;> simp
  · rw [Finset.disjoint_filter]
    rintro c - ⟨-, ht⟩ ⟨-, hf⟩
    exact absurd (ht.symm.trans hf) (by simp)

theorem standing_of_no_channel (hk : l.Kept) (hc : l.host.channels[c]? = none) :
    standing l.log c = none := by
  have hl := hk.lanes c
  rw [hc, Option.bind_none] at hl
  exact Option.map_eq_none_iff.1 hl.symm

theorem lane_eq_none (hk : l.Kept) {ch : Channel} (hc : l.host.channels[c]? = some ch) :
    ch.lane = none ↔ standing l.log c = none := by
  have hl := hk.lanes c
  rw [hc, Option.bind_some] at hl
  rw [hl, Option.map_eq_none_iff]

/-- A step opens no channel that holds a socket. -/
theorem mem_held_of_moves (hk : l.Kept) (hm : l.Moves l') : c ∈ l'.held k ↔
    (∃ ch, l.host.channels[c]? = some ch ∧ ch.kernel = k) ∧ standing l'.log c ≠ none := by
  rw [mem_held]
  constructor
  · rintro ⟨⟨ch', hc', rfl⟩, hs⟩
    refine ⟨?_, hs⟩
    cases hc : l.host.channels[c]? with
    | none =>
      -- A channel that was opened just now has not been connected yet.
      refine absurd ?_ hs
      rw [(hm.of_no_channel hc hc').2.2]
      exact standing_of_no_channel hk hc
    | some ch =>
      obtain ⟨lane, he⟩ := hm.of_channel hc
      cases he.symm.trans hc'
      exact ⟨ch, rfl, rfl⟩
  · rintro ⟨⟨ch, hc, rfl⟩, hs⟩
    obtain ⟨lane, he⟩ := hm.of_channel hc
    exact ⟨⟨_, he, rfl⟩, hs⟩

/-- Notes that change no connection. -/
theorem held_of_standing (hk : l.Kept) (hm : l.Moves l')
    (hs : ∀ c, standing l'.log c = none ↔ standing l.log c = none) : l'.held k = l.held k :=
  Finset.ext fun c => by rw [mem_held_of_moves hk hm, mem_held, Ne, hs]

theorem mem_held_iff_lane (hk : l.Kept) :
    c ∈ l.held k ↔ ∃ ch, l.host.channels[c]? = some ch ∧ ch.kernel = k ∧ ch.lane ≠ none := by
  rw [mem_held]
  constructor
  · rintro ⟨⟨ch, hc, he⟩, hs⟩
    exact ⟨ch, hc, he, mt (lane_eq_none hk hc).1 hs⟩
  · rintro ⟨ch, hc, he, hn⟩
    exact ⟨⟨ch, hc, he⟩, mt (lane_eq_none hk hc).2 hn⟩

theorem held_of_connected (hk : l.Kept) (hm : l.Moves l') {ch : Channel} {s : Nat} {r : Bool}
    {ms : List Message} (hc : l.host.channels[c]? = some ch)
    (log : l'.log = l.log ++ [.connected c s r ms]) :
    l'.held k = if ch.kernel = k then insert c (l.held k) else l.held k := by
  ext d
  rw [mem_held_of_moves hk hm, log, standing_concat, Note.stand]
  by_cases hd : c = d
  · subst hd
    by_cases he : ch.kernel = k <;> simp [hc, he, mem_held]
  · by_cases he : ch.kernel = k <;> simp [hd, he, mem_held, Ne.symm hd]

theorem held_of_disconnected (hk : l.Kept) (hm : l.Moves l')
    (log : l'.log = l.log ++ [.disconnected c]) : l'.held k = (l.held k).erase c := by
  ext d
  rw [mem_held_of_moves hk hm, log, standing_concat, Note.stand, Finset.mem_erase, mem_held]
  by_cases hd : c = d <;> simp [hd, Ne.symm]

/-- A kernel counts its channels that hold a socket. -/
theorem connections_of_moves (hk : l.Kept) (hm : l.Moves l')
    (hc : (l.host.dealings k).connections = UInt32.ofNat (l.held k).card) :
    (l'.host.dealings k).connections = UInt32.ofNat (l'.held k).card := by
  have hm' := hm
  cases hm with
  | quiet host log => rw [host.dealings, hc, held_of_standing hk hm' fun c => by rw [log]]
  | restarted j _ _ dealings log | asked _ _ _ _ _ _ _ dealings _ _ log =>
    have hs (c : Nat) : standing l'.log c = none ↔ standing l.log c = none := by
      rw [log, standing_concat]
      rfl
    rw [dealings, held_of_standing hk hm' hs, ← hc]
    split <;> rfl
  | connected st c s ch r ms at_ _ _ dealings _ log =>
    have hin : c ∈ l.held k ↔ ch.kernel = k ∧ ch.lane ≠ none := by
      rw [mem_held_iff_lane hk]
      simp [at_]
    rw [dealings, held_of_connected hk hm' at_ log]
    by_cases he : ch.kernel = k
    · by_cases hl : ch.lane = none
      · have hn : c ∉ l.held k := by simp [hin, hl]
        rw [if_pos ⟨he, hl⟩, if_pos he, Finset.card_insert_of_notMem hn, UInt32.ofNat_add, ← hc]
        rfl
      · rw [if_neg fun h => hl h.2, if_pos he, Finset.insert_eq_of_mem (hin.2 ⟨he, hl⟩), hc]
    · rw [if_neg fun h => he h.1, if_neg he, hc]
  | disconnected c _ _ dealings log =>
    rw [dealings, held_of_disconnected hk hm' log]
    by_cases hin : c ∈ l.held k
    · have hn := Finset.card_erase_add_one hin
      rw [if_pos ((mem_held_iff_lane hk).1 hin), Dealings.part, hc, ← hn, UInt32.ofNat_add]
      simp
    · rw [if_neg fun h => hin ((mem_held_iff_lane hk).2 h), Finset.erase_eq_of_notMem hin, hc]

/-- What is kept by every step. -/
structure Counted (l : Lobby) : Prop where
  kept : l.Kept
  connections : ∀ k, (l.host.dealings k).connections = UInt32.ofNat (l.held k).card

theorem counted_step (hl : l.Counted) (a : Act) : (l.step a).Counted :=
  have hm := moves_step hl.kept a
  ⟨kept_step hl.kept a, fun k => connections_of_moves hl.kept hm (hl.connections k)⟩

theorem counted_run (side : Side) (acts : List Act) : (run side acts).Counted :=
  run_induct (P := Counted) ⟨kept_new side, fun _ => rfl⟩ (fun _ a hl => counted_step hl a) acts

/-- A count is exact as long as there are not too many channels to count. -/
theorem toNat_connections (hl : l.Counted) (hlt : l.host.channels.length < UInt32.size) (k : Nat) :
    (l.host.dealings k).connections.toNat = (l.held k).card := by
  have hle : (l.held k).card ≤ l.host.channels.length :=
    (Finset.card_filter_le _ _).trans (Nat.le_of_eq (Finset.card_range _))
  rw [hl.connections, UInt32.toNat_ofNat_of_lt' (Nat.lt_of_le_of_lt hle hlt)]

/-- What a host counts for its kernels. -/
structure Tallied (l : Lobby) : Prop where
  /-- A kernel's model tells how many of its channels hold a socket, since a connection that
  succeeded or one that failed. -/
  model : ∀ now d m h', l.host.accept now (.model d) = (h', .inl (.model m)) →
    ∃ k, Table.find? d l.host.live = some k ∧
      m.connections = UInt32.ofNat (l.joined k true + l.joined k false) ∧
      (l.host.channels.length < UInt32.size →
        m.connections.toNat = l.joined k true + l.joined k false)
  /-- No disconnection takes from nothing. -/
  floor : l.host.channels.length < UInt32.size → ∀ c ch, l.host.channels[c]? = some ch →
    standing l.log c ≠ none → (l.host.dealings ch.kernel).connections ≠ 0
  /-- A connection that fails counts, unless the channel held a socket already. -/
  failed : ∀ c ch s st b e ms h', l.host.channels[c]? = some ch →
    l.host.connect st c s b = (h', .error e, ms) → ∀ k, (h'.dealings k).connections =
      (l.host.dealings k).connections + if ch.kernel = k ∧ standing l.log c = none then 1 else 0
  /-- A session that does not open counts at home, if the host has its kernel. -/
  unopened : ∀ about socket e h', l.host.Unopened about socket e h' →
    ∀ k, (h'.dealings k).connections = (l.host.dealings k).connections +
      if about.binding.side = .home ∧ l.host.available = true ∧
        Table.find? about.binding.delegate l.host.live = some k then 1 else 0

/-- After every run of a host with its clients, a kernel counts one connection for each channel
that holds a socket. It counts those whose last connection succeeded, and no others, exactly as
long as none is left of those whose last connection failed. -/
theorem tallied_of_run (side : Side) (acts : List Act) : (run side acts).Tallied := by
  have hl := counted_run side acts
  generalize run side acts = l at hl
  have hk := hl.kept
  refine ⟨fun now d m h' ha => ?_, fun hlt c ch hc hs h0 => ?_,
    fun c ch s st b e ms h' hc hf k => ?_,
    fun about socket e h' hu => Host.connections_of_unopened hk.sound.tidy hu⟩
  · obtain ⟨k, hd, hm⟩ := Host.connections_of_model hk.sound.tidy ha
    refine ⟨k, hd, ?_, fun hlt => ?_⟩
    · rw [hm, hl.connections, card_held]
    · rw [hm, toNat_connections hl hlt, card_held]
  · have hin : c ∈ l.held ch.kernel := mem_held.2 ⟨⟨ch, hc, rfl⟩, hs⟩
    have hn := toNat_connections hl hlt ch.kernel
    rw [h0] at hn
    exact Finset.card_ne_zero_of_mem hin hn.symm
  · have hp := hk.placed ch (List.mem_of_getElem? hc)
    simp only [Host.connections_of_failed hc hp hf, lane_eq_none hk hc]

/-- The client of a channel has gone, and the channel is connected all the same. -/
def deserted : Lobby := run .home (opening ++ [.come, .close 0, .connect default 0 0])

/-- A kernel whose only connection failed shows one connection. -/
theorem failed_connection_counts :
    deserted.log.map (fun n => n matches .connected _ _ false _) = [true] ∧
    deserted.joined 0 true = 0 ∧
    ∃ m h', deserted.host.accept default (.model (toString KernelId.zero)) = (h', .inl (.model m)) ∧
      m.connections = 1 :=
  ⟨by decide +kernel, by decide +kernel, _, _, rfl, by decide +kernel⟩

end Lobby

end KernelHub.Memory
