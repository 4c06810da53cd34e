import KernelHub.Memory.Kernel
import KernelHub.Proofs.Relay

/-
What closing a session does to what its kernel has said. At home everything has arrived by
then. A remote session loses what still waits in its queue: closing it stops the pump, whether
the pump has had its turns or not.
-/

namespace KernelHub.Relay

/-- Does a turn close the session at the hub's end? -/
def Turn.closes : Turn → Bool
  | .disconnect | .drop => true
  | _ => false

variable {about : SessionBinding} {channel : Nat} {r r' l l' : Relay} {t c : Turn}
  {ts us : List Turn}

theorem log_step (h : r.step? t = some r') : r.log <+: r'.log := by
  cases t with
  | connect st =>
    simp only [step?] at h
    split at h
    · split at h <;> cases h
      · exact List.prefix_append ..
      · exact List.prefix_rfl
    · cases h
  | say m | hand m =>
    simp only [step?] at h
    split at h <;> cases h
    exact List.prefix_append ..
  | pump | disconnect | drop | close =>
    cases h
    exact List.prefix_append ..

/-- What has arrived stays. -/
theorem log_run (h : r.run? ts = some r') : r.log <+: r'.log :=
  run_induct (p := fun u => r.log <+: u.log) h List.prefix_rfl
    fun _ _ _ _ hl hs => hl.trans (log_step hs)

/-! ## Sessions at home -/

/-- How a session at home stands, while nobody ends it. -/
structure Direct (r : Relay) : Prop where
  tunnel : r.bridge.tunnel = false
  lane : r.bridge.since ≤ r.bridge.lane
  idle : r.bridge.pumping = false
  listening : r.bridge.socket.listening = true
  /-- What was said has arrived. -/
  passed : r.heard .transport = r.said

theorem direct_ofOpened (h : about.binding.side.isRemote = false) :
    (ofOpened about channel).Direct :=
  ⟨h, Nat.le_refl _, rfl, rfl, rfl⟩

theorem direct_step (hi : r.Direct) (he : t.ends = false) (h : r.step? t = some r') :
    r'.Direct := by
  cases t with
  | connect st =>
    simp only [step?] at h
    split at h
    · rw [Bridge.begin_of_direct hi.tunnel] at h
      cases h
      exact ⟨hi.tunnel, Nat.le_succ_of_le hi.lane, hi.idle, hi.listening,
        (heard_quiet rfl _).trans hi.passed⟩
    · cases h
  | say m =>
    simp only [step?] at h
    split at h
    · cases h
      rw [Bridge.push_of_direct hi.tunnel hi.lane, if_pos hi.listening]
      refine ⟨hi.tunnel, hi.lane, hi.idle, hi.listening, ?_⟩
      exact (heard_moved rfl _).trans (congrArg (· ++ [m]) hi.passed)
    · cases h
  | pump =>
    cases h
    rw [Bridge.pump_of_idle (.inl hi.idle)]
    exact ⟨hi.tunnel, hi.lane, hi.idle, hi.listening, (heard_quiet rfl _).trans hi.passed⟩
  | hand m =>
    simp only [step?] at h
    split at h
    · cases h
    · cases h
      rw [Bridge.forward_fst]
      refine ⟨hi.tunnel, hi.lane, hi.idle, hi.listening, ?_⟩
      exact (heard_moved rfl _).trans ((List.append_nil _).trans hi.passed)
  | disconnect | drop | close => cases he

theorem direct_run (h : r.run? ts = some r') (hi : r.Direct) (he : ∀ t ∈ ts, t.ends = false) :
    r'.Direct :=
  run_induct h hi fun _ t _ ht hi hs => direct_step hi (he t ht) hs

/-! ## Remote sessions that were closed -/

/-- A connection was begun, and its pump has stopped. -/
structure Cut (r : Relay) : Prop where
  begun : ∃ st, r.attempt = .begun st
  stopped : r.bridge.pumping = false

/-- Closing a session brings nothing to the client. -/
theorem cut_closes (hi : r.Tunnelled about) (hb : ∃ st, r.attempt = .begun st)
    (hc : c.closes = true) (h : r.step? c = some r') :
    r'.Cut ∧ r'.heard .transport = r.heard .transport := by
  cases c with
  | disconnect =>
    cases h
    have ht : r.session.disconnected.bridge = r.bridge.stop := if_pos hi.tunnel
    exact ⟨⟨hb, congrArg Bridge.pumping ht⟩, heard_quiet (congrArg (·.socket.arrived) ht) _⟩
  | drop => cases h; exact ⟨⟨hb, rfl⟩, heard_quiet rfl _⟩
  | _ => cases hc

/-- Nothing more comes from the kernel. -/
theorem cut_step (hi : r.Tunnelled about) (hr : r.Cut) (h : r.step? t = some r') :
    r'.Cut ∧ r'.heard .transport = r.heard .transport := by
  obtain ⟨⟨st, ha⟩, hp⟩ := hr
  cases t with
  | connect => simp only [step?, ha] at h; cases h
  | say m =>
    simp only [step?, ha] at h
    cases h
    rw [Bridge.push_of_tunnel hi.tunnel hi.lane, hp]
    exact ⟨⟨⟨st, ha⟩, hp⟩, heard_quiet rfl _⟩
  | pump =>
    cases h
    rw [Bridge.pump_of_idle (.inl hp)]
    exact ⟨⟨⟨st, ha⟩, hp⟩, heard_quiet rfl _⟩
  | hand m =>
    simp only [step?, ha] at h
    cases h
    rw [Bridge.forward_fst]
    exact ⟨⟨⟨st, ha⟩, hp⟩, (heard_moved rfl _).trans (List.append_nil _)⟩
  | disconnect | drop => exact cut_closes hi ⟨st, ha⟩ rfl h
  | close => cases h; exact ⟨⟨⟨st, ha⟩, hp⟩, heard_quiet rfl _⟩

theorem heard_cut (h : r.run? ts = some r') (hi : r.Tunnelled about) (hr : r.Cut) :
    r'.heard .transport = r.heard .transport :=
  (run_induct (p := fun u => u.Tunnelled about ∧ u.Cut ∧ u.heard .transport = r.heard .transport)
    h ⟨hi, hr, rfl⟩ fun _ _ _ _ ⟨hi, hr, hh⟩ hs =>
      have ⟨hcut, hheard⟩ := cut_step hi hr hs
      ⟨tunnelled_step hi hs, hcut, hheard.trans hh⟩).2.2

/-! ## What is lost -/

/-- What the pump has still to bring to the client. -/
def waiting (r : Relay) : List Message := r.bridge.queue.filter (!·.saysStarting)

/-- A connection was begun on a session, and neither end has ended it. -/
structure Open (side : Side) (r : Relay) : Prop where
  run : ∃ about channel ts, about.binding.side = side ∧ (∀ t ∈ ts, t.ends = false) ∧
    (ofOpened about channel).run? ts = some r
  begun : ∃ st, r.attempt = .begun st

theorem Open.logged {side : Side} (h : r.Open side) : r.Logged := by
  obtain ⟨about, channel, ts, -, -, hr⟩ := h.run
  exact logged_run hr

theorem Open.direct (h : r.Open .home) : r.Direct := by
  obtain ⟨about, channel, ts, hs, he, hr⟩ := h.run
  exact direct_run hr (direct_ofOpened (hs ▸ rfl)) he

theorem Open.tunnelled (h : r.Open .remote) : ∃ about, r.Tunnelled about ∧ r.Lively := by
  obtain ⟨about, channel, ts, hs, he, hr⟩ := h.run
  have hi : (ofOpened about channel).Tunnelled about := tunnelled_ofOpened (hs ▸ rfl)
  exact ⟨about, tunnelled_run hr hi, lively_run hr hi lively_ofOpened he⟩

/-- A session at home after some turns, and a remote one after it was closed. -/
structure Closing (l l' r r' : Relay) : Prop where
  logged : l'.Logged ∧ r'.Logged
  /-- At home all that was said has arrived, and stays. -/
  home : l.heard .transport = l.said ∧ l.log <+: l'.log
  /-- A remote client never hears what waits when the session is closed. -/
  lost : r'.heard .transport ++ r.waiting = r.said.filter (!·.saysStarting)
  /-- So clients of kernels that said the same have heard the same exactly when nothing waits. -/
  alike : l.said = r.said →
    (r'.heard .transport = (l.heard .transport).filter (!·.saysStarting) ↔ r.waiting = [])
  /-- Nothing would wait if the pump had had its turns before. -/
  spared : ∃ u, r.run? (List.replicate r.bridge.queue.length .pump) = some u ∧
    u.said = r.said ∧ u.waiting = []

/-- Two sessions whose ends nobody has ended: nothing takes from the client at home what was
said; however the remote session is closed, what waits is lost, and nothing else is. -/
theorem closing_of_open (hl : l.Open .home) (hr : r.Open .remote) (hl' : l.run? us = some l')
    (hc : c.closes = true) (hr' : r.run? (c :: ts) = some r') : Closing l l' r r' := by
  have hpassed := hl.direct.passed
  obtain ⟨about, hi, hv⟩ := hr.tunnelled
  obtain ⟨st, ha⟩ := hr.begun
  obtain ⟨u, hu, hru⟩ := Option.bind_eq_some_iff.1 hr'
  obtain ⟨hcut, hheard⟩ := cut_closes hi hr.begun hc hu
  have hlost : r'.heard .transport ++ r.waiting = r.said.filter (!·.saysStarting) := by
    rw [heard_cut hru (tunnelled_step hi hu) hcut, hheard]
    exact hi.carried (hv.pumping st ha)
  refine ⟨⟨?_, ?_⟩, ⟨hpassed, log_run hl'⟩, hlost, fun hs => ?_, ?_⟩
  · exact run_induct hl' hl.logged fun _ _ _ _ h hs => logged_step h hs
  · exact run_induct hr' hr.logged fun _ _ _ _ h hs => logged_step h hs
  · rw [hpassed, hs, ← hlost]
    exact ⟨fun h => List.self_eq_append_right.1 h, fun h => by rw [h, List.append_nil]⟩
  · obtain ⟨v, hv, hq, hsaid⟩ := drained hi hv hr.begun rfl
    exact ⟨v, hv, hsaid, by rw [waiting, hq]; rfl⟩

/-! ## A request whose answer is lost -/

/-- A session with a kernel at home. -/
def nearSession : SessionBinding := ⟨.zero, .zero, ⟨.home, "k"⟩⟩

/-- A request to execute something. -/
def executeRequest : Message :=
  .make default "shell" "execute_request" .zero (.object [("code", .string "1 + 1")])

/-- A kernel in memory greets the client, and answers its request. The pump has carried the
greeting on, and not yet the answer. -/
def answered : List Turn :=
  .connect default :: (Memory.Kernel.greeting default .zero).map .say ++ [.pump, .pump] ++
    (Memory.Kernel.answer default default .zero executeRequest).2.map .say

/-- The session is disconnected before the pump's next turns. -/
def hangUp : List Turn := [.disconnect, .pump, .pump, .pump]

theorem open_answered {side : Side} {about : SessionBinding} (hs : about.binding.side = side)
    (h : (ofOpened about 0).run? answered = some r) (hb : r.attempt = .begun default) :
    r.Open side :=
  ⟨⟨about, 0, answered, hs, by decide, h⟩, default, hb⟩

/-- What waits is the whole answer. -/
theorem closing_answered : ∃ l l' r r', l.Open .home ∧ r.Open .remote ∧
    l.run? hangUp = some l' ∧ r.run? hangUp = some r' ∧ Closing l l' r r' ∧ l.said = r.said ∧
    r.waiting.map (·.header.type) = ["status", "execute_reply", "status"] := by
  have key {l l' r r' : Relay} (hl : (ofOpened nearSession 0).run? answered = some l)
      (hr : (ofOpened farSession 0).run? answered = some r) (hbl : l.attempt = .begun default)
      (hbr : r.attempt = .begun default) (hl' : l.run? hangUp = some l')
      (hr' : r.run? hangUp = some r') (hs : l.said = r.said)
      (hw : r.waiting.map (·.header.type) = ["status", "execute_reply", "status"]) :
      l.Open .home ∧ r.Open .remote ∧ l.run? hangUp = some l' ∧ r.run? hangUp = some r' ∧
        Closing l l' r r' ∧ l.said = r.said ∧
        r.waiting.map (·.header.type) = ["status", "execute_reply", "status"] := by
    have hol : l.Open .home := open_answered rfl hl hbl
    have hor : r.Open .remote := open_answered rfl hr hbr
    exact ⟨hol, hor, hl', hr', closing_of_open hol hor hl' rfl hr', hs, hw⟩
  exact ⟨_, _, _, _, key rfl rfl rfl rfl rfl rfl rfl rfl⟩

/-- The same is said on two sessions, and the same is done to them, but only the client at home
gets the answer to its request, though the other one listens too. -/
theorem answer_lost : ∃ l r,
    (ofOpened nearSession 0).run? (answered ++ hangUp) = some l ∧
    (ofOpened farSession 0).run? (answered ++ hangUp) = some r ∧
    l.said = r.said ∧ r.bridge.socket.listening = true ∧
    (l.heard .transport).map (fun m => (m.header.type, m.executionState?)) =
      [("status", some .starting), ("status", some .idle), ("status", some .busy),
        ("execute_reply", none), ("status", some .idle)] ∧
    (r.heard .transport).map (fun m => (m.header.type, m.executionState?)) =
      [("status", some .idle)] :=
  ⟨_, _, rfl, rfl, rfl, rfl, rfl, rfl⟩

end KernelHub.Relay
