import KernelHub.Proofs.Bridge

/-
What a client hears of its session. A connection can be begun once; before and after that the
kernel talks, the pump gets its turns, callers hand messages over past the pump, and either end
goes away, all in any order. Whether the transport has said that it is connected makes no
difference to a bridge, so that is none of the turns.

A client of a remote kernel hears first that the kernel starts, hears it once, and hears what
the kernel says in order, up to where the session or the client ended; all of it, if nobody
ends the session and the pump gets its turns.
-/

namespace KernelHub

/-- What became of the attempt to connect. -/
inductive Relay.Attempt
  | none
  | refused (e : HostError)
  | begun (st : Stamp)

/-- Where a message that has reached the client comes from. -/
inductive Relay.Origin
  /-- The bridge made it. -/
  | bridge
  /-- The kernel's transport said it. -/
  | transport
  /-- A caller handed it over, past the pump. -/
  | caller
deriving DecidableEq

/-- A session that is connected once, with all that was said on it and all that arrived. -/
structure Relay where
  session : Session
  attempt : Relay.Attempt := .none
  /-- What the transport has said. -/
  said : List Message := []
  /-- What has reached the client, and where it comes from. -/
  log : List (Relay.Origin × Message) := []

/-- What can happen to a session. -/
inductive Relay.Turn
  /-- The client asks to be connected. -/
  | connect (st : Stamp)
  /-- The transport says something to the bridge. -/
  | say (m : Message)
  /-- The pump carries a message on. -/
  | pump
  /-- A caller hands a message over for the client. -/
  | hand (m : Message)
  /-- The session is disconnected. -/
  | disconnect
  /-- The session is given up. -/
  | drop
  /-- The client's socket is closed. -/
  | close

/-- Does a turn end the session, at one end or the other? -/
def Relay.Turn.ends : Turn → Bool
  | disconnect | drop | close => true
  | _ => false

namespace Relay

variable {about : SessionBinding} {channel : Nat} {r r' : Relay} {s : Session} {o : Origin}
  {ms : List Message} {t : Turn} {ts us : List Turn}

/-- A session that was opened and not connected. -/
def ofOpened (about : SessionBinding) (channel : Nat) : Relay where
  session := .ofOpened about channel

abbrev bridge (r : Relay) : Bridge := r.session.bridge

/-- The session with another state of its bridge. -/
abbrev across (r : Relay) (b : Bridge) : Session := { r.session with bridge := b }

/-- The session is in a new state; what arrived meanwhile has an origin. -/
def moved (r : Relay) (o : Origin) (s : Session) : Relay :=
  { r with
    session := s
    log := r.log ++ (s.bridge.socket.arrived.drop r.bridge.socket.arrived.length).map (o, ·) }

/-- One turn. A session is connected once; the transport has nothing to talk to before that was
begun, and messages are handed over after it was tried. -/
def step? (r : Relay) : Turn → Option Relay
  | .connect st =>
    match r.attempt with
    | .none =>
      match r.bridge.begin st r.session.about.session with
      | .ok b => some { r.moved .bridge (r.across b) with attempt := .begun st }
      | .error e => some { r with attempt := .refused e }
    | _ => none
  | .say m =>
    match r.attempt with
    | .begun _ =>
      some { r.moved .transport (r.across (r.bridge.push r.bridge.lane [m])) with
        said := r.said ++ [m] }
    | _ => none
  | .pump => some (r.moved .transport (r.across r.bridge.pump))
  | .hand m =>
    match r.attempt with
    | .none => none
    | _ => some (r.moved .caller (r.across (r.bridge.forward m).1))
  | .disconnect => some (r.moved .bridge r.session.disconnected)
  | .drop => some (r.moved .bridge (r.across r.bridge.stop))
  | .close => some (r.moved .bridge (r.across r.bridge.close))

/-- Turns one after the other. -/
def run? (r : Relay) : List Turn → Option Relay
  | [] => some r
  | t :: ts => (r.step? t).bind fun r => r.run? ts

/-- What each of some turns keeps, all of them keep. -/
theorem run_induct {p : Relay → Prop} (h : r.run? ts = some r') (hr : p r)
    (hp : ∀ u t u', t ∈ ts → p u → u.step? t = some u' → p u') : p r' := by
  induction ts generalizing r with
  | nil => cases h; exact hr
  | cons t ts ih =>
    obtain ⟨u, hu, h⟩ := Option.bind_eq_some_iff.1 h
    exact ih h (hp r t u (.head _) hr hu) fun v t v' ht => hp v t v' (.tail _ ht)

/-- What reached the client from somewhere. -/
def heard (r : Relay) (o : Origin) : List Message := (r.log.filter (·.1 = o)).map (·.2)

theorem moved_log (h : s.bridge.socket.arrived = r.bridge.socket.arrived ++ ms) :
    (r.moved o s).log = r.log ++ ms.map (o, ·) := by
  simp [moved, h]

theorem heard_moved (h : s.bridge.socket.arrived = r.bridge.socket.arrived ++ ms) (o' : Origin) :
    (r.moved o s).heard o' = r.heard o' ++ if o = o' then ms else [] := by
  rw [heard, moved_log h, heard]
  split
  · rename_i ho
    subst ho
    simp [List.filter_map, Function.comp_def]
  · rename_i ho
    simp [ho, List.filter_map, Function.comp_def]

theorem heard_quiet (h : s.bridge.socket.arrived = r.bridge.socket.arrived) (o' : Origin) :
    (r.moved o s).heard o' = r.heard o' := by
  rw [heard_moved (h.trans (List.append_nil _).symm)]
  split <;> exact List.append_nil _

/-- What has arrived at the client's socket is what the log says. -/
def Logged (r : Relay) : Prop := r.bridge.socket.arrived = r.log.map (·.2)

theorem logged_moved (hl : r.Logged) (hp : r.bridge.socket.arrived <+: s.bridge.socket.arrived)
    (o : Origin) : (r.moved o s).Logged := by
  obtain ⟨ms, hms⟩ := hp
  refine hms.symm.trans ?_
  rw [moved_log hms.symm, List.map_append, ← hl]
  simp [Function.comp_def]

theorem logged_step (hl : r.Logged) (h : r.step? t = some r') : r'.Logged := by
  cases t with
  | connect st =>
    simp only [step?] at h
    split at h
    · split at h <;> cases h
      · rename_i b hb
        exact logged_moved hl (Bridge.arrived_begin hb) .bridge
      · exact hl
    · cases h
  | say m =>
    simp only [step?] at h
    split at h <;> cases h
    exact logged_moved hl (Bridge.arrived_push ..) .transport
  | pump => cases h; exact logged_moved hl (Bridge.arrived_pump _) .transport
  | hand m =>
    simp only [step?] at h
    split at h <;> cases h
    exact logged_moved hl (Bridge.arrived_forward ..) .caller
  | disconnect =>
    cases h
    refine logged_moved hl ?_ .bridge
    simp only [Session.disconnected]
    split <;> exact List.prefix_rfl
  | drop | close => cases h; exact logged_moved hl List.prefix_rfl .bridge

theorem logged_run (h : (ofOpened about channel).run? ts = some r) : r.Logged :=
  run_induct h rfl fun _ _ _ _ hl hs => logged_step hl hs

/-! ## Remote sessions -/

/-- How a remote session stands. -/
structure Tunnelled (about : SessionBinding) (r : Relay) : Prop where
  same : r.session.about = about
  tunnel : r.bridge.tunnel = true
  lane : r.bridge.since ≤ r.bridge.lane
  /-- Nothing happens before a connection is begun. -/
  silent : (∀ st, r.attempt ≠ .begun st) → r.log = [] ∧ r.said = [] ∧ r.bridge.pumping = false
  refused : ∀ e, r.attempt = .refused e →
    e = Bridge.socketClosed ∧ r.bridge.socket.listening = false
  /-- Only the first message is the bridge's own, and only that one says that the kernel
  starts. -/
  first : ∀ st, r.attempt = .begun st →
    ∃ rest, r.log = (.bridge, .status st about.session .starting) :: rest ∧
      ∀ e ∈ rest, e.1 ≠ .bridge ∧ e.2.saysStarting = false
  /-- While the pump works, what has not arrived is in the queue. -/
  carried : r.bridge.pumping = true →
    r.heard .transport ++ Message.news r.bridge.queue = Message.news r.said
  order : r.heard .transport <+: Message.news r.said

theorem tunnelled_ofOpened (h : about.binding.side.isRemote = true) :
    (ofOpened about channel).Tunnelled about where
  same := rfl
  tunnel := h
  lane := Nat.le_refl _
  silent _ := ⟨rfl, rfl, rfl⟩
  refused _ h := by cases h
  first _ h := by cases h
  carried h := by cases h
  order := List.prefix_rfl

/-- What an operation on the bridge keeps, whoever made it. -/
theorem Tunnelled.brings {said : List Message} (hi : r.Tunnelled about) (hs : s.about = about)
    (hb : r.bridge.Brings s.bridge ms) (ho : o = .bridge → ms = [])
    (hn : r.attempt = .none → ms = [])
    (hsaid : (∀ st, r.attempt ≠ .begun st) → said = r.said)
    (hc : s.bridge.pumping = true →
      (r.moved o s).heard .transport ++ Message.news s.bridge.queue = Message.news said)
    (hp : (r.moved o s).heard .transport <+: Message.news said) :
    ({ r.moved o s with said := said } : Relay).Tunnelled about := by
  have hlog : (r.moved o s).log = r.log ++ ms.map (o, ·) := moved_log hb.arrived
  -- A client that was refused a connection has gone, so nothing reaches it.
  have hnil (h : ∀ st, r.attempt ≠ .begun st) : ms = [] := by
    cases ha : r.attempt with
    | none => exact hn ha
    | begun st => exact (h st ha).elim
    | refused e =>
      refine List.eq_nil_iff_forall_not_mem.2 fun m hm => ?_
      cases (hi.refused e ha).2.symm.trans (hb.heard m hm).1
  refine ⟨hs, hb.tunnel.trans hi.tunnel, ?_, fun h => ?_, fun e h => ?_, fun st h => ?_, hc, hp⟩
  · exact hb.since ▸ hb.lane ▸ hi.lane
  · obtain ⟨hl, hsd, hpm⟩ := hi.silent h
    refine ⟨by rw [hlog, hl, hnil h]; rfl, (hsaid h).trans hsd, ?_⟩
    exact Bool.eq_false_iff.2 fun hq => by cases hpm.symm.trans (hb.pumping hq)
  · obtain ⟨he, hl⟩ := hi.refused e h
    exact ⟨he, Bool.eq_false_iff.2 fun hq => by cases hl.symm.trans (hb.listening hq)⟩
  · obtain ⟨rest, hr, hg⟩ := hi.first st h
    refine ⟨rest ++ ms.map (o, ·), by rw [hlog, hr]; rfl, fun e he => ?_⟩
    rcases List.mem_append.1 he with he | he
    · exact hg e he
    · obtain ⟨m, hm, rfl⟩ := List.mem_map.1 he
      refine ⟨fun hq => ?_, (hb.heard m hm).2⟩
      rw [ho hq] at hm
      cases hm

/-- The session is announced to its client before anything else arrives. -/
theorem tunnelled_announced {st : Stamp} (hi : r.Tunnelled about) (ha : r.attempt = .none) :
    ({ r.moved .bridge (r.across (r.bridge.announced (.status st about.session .starting))) with
      attempt := .begun st } : Relay).Tunnelled about := by
  obtain ⟨hl, hs, -⟩ := hi.silent fun st h => by cases ha.symm.trans h
  have hlog := moved_log (r := r) (o := .bridge)
    (s := r.across (r.bridge.announced (.status st about.session .starting))) rfl
  have hheard := heard_moved (r := r) (o := .bridge)
    (s := r.across (r.bridge.announced (.status st about.session .starting))) rfl .transport
  have hnone : r.heard .transport = [] := by simp [heard, hl]
  rw [hnone] at hheard
  refine ⟨hi.same, hi.tunnel, Nat.le_refl _, fun h => (h st rfl).elim, fun e h => ?_,
    fun st' h => ?_, fun _ => ?_, ?_⟩
  · cases h
  · cases h
    exact ⟨[], by rw [hlog, hl]; rfl, fun e he => by cases he⟩
  · refine (congrArg (· ++ _) hheard).trans ?_
    change _ = Message.news r.said
    rw [hs]
    rfl
  · exact hheard ▸ List.nil_prefix

theorem tunnelled_connect {st : Stamp} (hi : r.Tunnelled about)
    (h : r.step? (.connect st) = some r') : r'.Tunnelled about := by
  simp only [step?] at h
  split at h
  · rename_i ha
    rw [Bridge.begin_of_tunnel hi.tunnel, hi.same] at h
    cases hl : r.bridge.socket.listening with
    | false =>
      simp only [hl, Bool.false_eq_true, if_false, Option.some.injEq] at h
      subst h
      refine { hi with
        silent := fun _ => hi.silent fun st h => by cases ha.symm.trans h
        refused := fun e h => ?_
        first := fun st h => by cases h }
      cases h
      exact ⟨rfl, hl⟩
    | true =>
      simp only [hl, if_true, Option.some.injEq] at h
      subst h
      exact tunnelled_announced hi ha
  · cases h

/-- What brings nothing to the client, and may close the queue. -/
theorem Tunnelled.quiet (hi : r.Tunnelled about) (hs : s.about = about)
    (hb : r.bridge.Brings s.bridge [])
    (hq : s.bridge.pumping = true → s.bridge.queue = r.bridge.queue) :
    (r.moved o s).Tunnelled about := by
  have hh : (r.moved o s).heard .transport = r.heard .transport :=
    heard_quiet (hb.arrived.trans (List.append_nil _)) _
  refine hi.brings hs hb (fun _ => rfl) (fun _ => rfl) (fun _ => rfl) (fun h => ?_) (hh ▸ hi.order)
  rw [hh, hq h]
  exact hi.carried (hb.pumping h)

theorem tunnelled_say {m : Message} (hi : r.Tunnelled about) (h : r.step? (.say m) = some r') :
    r'.Tunnelled about := by
  simp only [step?] at h
  split at h
  · rename_i st ha
    cases h
    have hb := Bridge.brings_push hi.tunnel hi.lane [m]
    have hh := heard_moved (o := .transport) (s := r.across (r.bridge.push r.bridge.lane [m]))
      hb.arrived .transport
    rw [if_pos rfl, List.append_nil] at hh
    have hnews := Message.news_append r.said [m]
    refine hi.brings hi.same hb (fun _ => rfl) (fun _ => rfl) (fun h => (h st ha).elim)
      (fun h => ?_) ?_
    · have hp := hb.pumping h
      have hpush := Bridge.push_of_tunnel hi.tunnel hi.lane [m]
      rw [if_pos hp] at hpush
      rw [hh, hpush, hnews, ← hi.carried hp, List.append_assoc]
      exact congrArg _ (Message.news_append ..)
    · rw [hh, hnews]
      exact hi.order.trans (List.prefix_append ..)
  · cases h

theorem tunnelled_pump (hi : r.Tunnelled about) :
    (r.moved .transport (r.across r.bridge.pump)).Tunnelled about := by
  obtain ⟨ms, hp⟩ := Bridge.pumps hi.tunnel
  have hh := heard_moved (o := .transport) (s := r.across r.bridge.pump) hp.brings.arrived
    .transport
  rw [if_pos rfl] at hh
  refine hi.brings hi.same hp.brings (fun h => by cases h) (fun ha => ?_) (fun _ => rfl)
    (fun h => ?_) ?_
  · exact hp.idle (hi.silent fun st h => by cases ha.symm.trans h).2.2
  · rw [hh, List.append_assoc, hp.carried h]
    exact hi.carried (hp.brings.pumping h)
  · -- The pump may stop in this turn; what it brought was first in the queue before.
    rw [hh]
    cases hpm : r.bridge.pumping with
    | false =>
      rw [hp.idle hpm, List.append_nil]
      exact hi.order
    | true =>
      rw [← hi.carried hpm]
      exact (List.prefix_append_right_inj _).2 hp.order

theorem tunnelled_hand {m : Message} (hi : r.Tunnelled about) (h : r.step? (.hand m) = some r') :
    r'.Tunnelled about := by
  simp only [step?] at h
  split at h
  · cases h
  · rename_i hn
    cases h
    obtain ⟨ms, he, hb⟩ := Bridge.brings_forward hi.tunnel m
    have hh := heard_moved (o := .caller) (s := r.across (r.bridge.reach ms)) hb.arrived .transport
    rw [if_neg nofun, List.append_nil] at hh
    rw [he]
    refine hi.brings hi.same hb (fun h => by cases h) (fun ha => (hn ha).elim) (fun _ => rfl)
      (fun h => ?_) (hh ▸ hi.order)
    rw [hh]
    exact hi.carried h

theorem tunnelled_step (hi : r.Tunnelled about) (h : r.step? t = some r') :
    r'.Tunnelled about := by
  cases t with
  | connect st => exact tunnelled_connect hi h
  | say m => exact tunnelled_say hi h
  | pump => cases h; exact tunnelled_pump hi
  | hand m => exact tunnelled_hand hi h
  | disconnect =>
    cases h
    have ht : r.session.disconnected.bridge = r.bridge.stop := if_pos hi.tunnel
    exact hi.quiet hi.same (ht ▸ r.bridge.brings_stop) fun h => by rw [ht] at h; cases h
  | drop => cases h; exact hi.quiet hi.same r.bridge.brings_stop fun h => by cases h
  | close => cases h; exact hi.quiet hi.same r.bridge.brings_close fun _ => rfl

theorem tunnelled_run (h : r.run? ts = some r') (hi : r.Tunnelled about) : r'.Tunnelled about :=
  run_induct h hi fun _ _ _ _ hi hs => tunnelled_step hi hs

/-! ## While nobody ends the session -/

/-- A client stops listening only when its socket is closed. -/
theorem listening_step (hi : r.Tunnelled about) (ht : t ≠ .close) (h : r.step? t = some r') :
    r'.bridge.socket.listening = r.bridge.socket.listening := by
  cases t with
  | connect st =>
    simp only [step?] at h
    split at h
    · rw [Bridge.begin_of_tunnel hi.tunnel] at h
      cases hl : r.bridge.socket.listening <;> rw [hl] at h <;> cases h <;> exact hl
    · cases h
  | say m =>
    simp only [step?] at h
    split at h
    · cases h
      rw [Bridge.push_of_tunnel hi.tunnel hi.lane]
      split <;> rfl
    · cases h
  | pump =>
    cases h
    obtain ⟨ms, hp⟩ := Bridge.pumps hi.tunnel
    exact hp.listening
  | hand m =>
    simp only [step?] at h
    split at h
    · cases h
    · cases h
      rw [Bridge.forward_fst]
      rfl
  | disconnect =>
    cases h
    exact congrArg (·.socket.listening) (if_pos hi.tunnel : r.session.disconnected.bridge = _)
  | drop => cases h; rfl
  | close => exact (ht rfl).elim

theorem listening_run (h : r.run? ts = some r') (hi : r.Tunnelled about)
    (hl : r.bridge.socket.listening = true) (hc : Turn.close ∉ ts) :
    r'.bridge.socket.listening = true :=
  (run_induct (p := fun u => u.Tunnelled about ∧ u.bridge.socket.listening = true) h ⟨hi, hl⟩
    fun _ _ _ ht ⟨hi, hl⟩ hs => ⟨tunnelled_step hi hs,
      (listening_step hi (fun he => hc (he ▸ ht)) hs).trans hl⟩).2

/-- The client listens, and the pump works once the connection was begun. -/
structure Lively (r : Relay) : Prop where
  listening : r.bridge.socket.listening = true
  pumping : ∀ st, r.attempt = .begun st → r.bridge.pumping = true

theorem lively_step (hi : r.Tunnelled about) (hl : r.Lively) (he : t.ends = false)
    (h : r.step? t = some r') : r'.Lively := by
  refine ⟨(listening_step hi (fun ht => by rw [ht] at he; cases he) h).trans hl.listening, ?_⟩
  cases t with
  | connect st =>
    simp only [step?] at h
    split at h
    · rw [Bridge.begin_of_tunnel hi.tunnel, if_pos hl.listening] at h
      cases h
      exact fun _ _ => rfl
    · cases h
  | say m =>
    simp only [step?] at h
    split at h
    · rename_i st ha
      cases h
      have hp := hl.pumping st ha
      rw [Bridge.push_of_tunnel hi.tunnel hi.lane, if_pos hp]
      exact fun _ _ => hp
    · cases h
  | pump =>
    cases h
    obtain ⟨ms, hp⟩ := Bridge.pumps hi.tunnel
    exact fun st ha => (hp.lasts hl.listening).trans (hl.pumping st ha)
  | hand m =>
    simp only [step?] at h
    split at h
    · cases h
    · cases h
      rw [Bridge.forward_fst]
      exact hl.pumping
  | disconnect | drop | close => cases he

theorem lively_run (h : r.run? ts = some r') (hi : r.Tunnelled about) (hl : r.Lively)
    (he : ∀ t ∈ ts, t.ends = false) : r'.Lively :=
  (run_induct (p := fun u => u.Tunnelled about ∧ u.Lively) h ⟨hi, hl⟩
    fun _ t _ ht ⟨hi, hl⟩ hs => ⟨tunnelled_step hi hs, lively_step hi hl (he t ht) hs⟩).2

theorem lively_ofOpened : (ofOpened about channel).Lively :=
  ⟨rfl, fun _ h => by cases h⟩

/-- The pump empties the queue of a client that listens, if it gets its turns. -/
theorem drained (hi : r.Tunnelled about) (hl : r.Lively) (hb : ∃ st, r.attempt = .begun st)
    {n : Nat} (hn : r.bridge.queue.length = n) :
    ∃ u, r.run? (List.replicate n .pump) = some u ∧ u.bridge.queue = [] ∧ u.said = r.said := by
  -- By induction on what waits: each turn takes one message, and ends nothing.
  induction n generalizing r with
  | zero => exact ⟨r, rfl, List.eq_nil_of_length_eq_zero hn, rfl⟩
  | succ n ih =>
    obtain ⟨st, ha⟩ := hb
    obtain ⟨ms, hp⟩ := Bridge.pumps hi.tunnel
    have hq := hp.takes hl.listening (hl.pumping st ha)
    have hs : r.step? .pump = some (r.moved .transport (r.across r.bridge.pump)) := rfl
    obtain ⟨u, hu, he, hsaid⟩ := ih (tunnelled_step hi hs) (lively_step hi hl rfl hs) ⟨st, ha⟩
      ((congrArg List.length hq).trans (by rw [List.length_tail, hn]; rfl))
    exact ⟨u, Option.bind_eq_some_iff.2 ⟨_, hs, hu⟩, he, hsaid⟩

/-! ## The client's view -/

/-- What the client of a remote session has heard after some turns. -/
structure Provisional (session : SessionId) (ts : List Turn) (r : Relay) : Prop where
  logged : r.Logged
  /-- Nothing arrives unless a connection was begun. -/
  silent : (∀ st, r.attempt ≠ .begun st) → r.log = []
  /-- Only a client that has gone is refused a connection. -/
  refused : ∀ e, r.attempt = .refused e → e = Bridge.socketClosed ∧ Turn.close ∈ ts
  /-- The first message is the bridge's own and announces the kernel's start; no other message
  is the bridge's own, or says that the kernel starts. -/
  first : ∀ st, r.attempt = .begun st → ∃ m rest, r.log = (.bridge, m) :: rest ∧
    m = .status st session .starting ∧ m.Announces session ∧
      ∀ e ∈ rest, e.1 ≠ .bridge ∧ e.2.saysStarting = false
  order : r.heard .transport <+: r.said.filter (!·.saysStarting)
  /-- What nobody cuts short arrives as a whole once the queue is empty. -/
  whole : (∀ t ∈ ts, t.ends = false) → r.bridge.queue = [] →
    r.heard .transport = r.said.filter (!·.saysStarting)
  /-- The pump empties the queue if it gets its turns. -/
  drains : (∀ t ∈ ts, t.ends = false) → ∀ st, r.attempt = .begun st →
    ∃ u, r.run? (List.replicate r.bridge.queue.length .pump) = some u ∧ u.bridge.queue = [] ∧
      u.said = r.said

/-- Whatever happens to a remote session that was opened, its client hears once, and before all
else, that the kernel starts; then it hears what the kernel says, in order. -/
theorem provisional_of_run (ha : about.binding.side = .remote)
    (h : (ofOpened about channel).run? ts = some r) : r.Provisional about.session ts := by
  have hs : (ofOpened about channel).Tunnelled about := tunnelled_ofOpened (ha ▸ rfl)
  have hi := tunnelled_run h hs
  refine ⟨logged_run h, fun hn => (hi.silent hn).1, fun e he => ⟨(hi.refused e he).1, ?_⟩,
    fun st hst => ?_, hi.order, fun hends hq => ?_, fun hends st hst => ?_⟩
  · refine Classical.byContradiction fun hc => ?_
    cases (hi.refused e he).2.symm.trans (listening_run h hs rfl hc)
  · obtain ⟨rest, hr, hg⟩ := hi.first st hst
    exact ⟨_, rest, hr, rfl, Message.announces_status st about.session, hg⟩
  · by_cases hb : ∃ st, r.attempt = .begun st
    · obtain ⟨st, hst⟩ := hb
      have hc := hi.carried ((lively_run h hs lively_ofOpened hends).pumping st hst)
      rw [hq] at hc
      exact (List.append_nil _).symm.trans hc
    · obtain ⟨hlog, hsaid, -⟩ := hi.silent fun st hst => hb ⟨st, hst⟩
      rw [heard, hlog, hsaid]
      rfl
  · exact drained hi (lively_run h hs lively_ofOpened hends) ⟨st, hst⟩ rfl

/-- A session with a remote kernel. -/
def farSession : SessionBinding := ⟨.zero, .zero, ⟨.remote, "k"⟩⟩

/-- A kernel that says twice that it starts, and a caller who says so too. -/
def twiceStarting : List Turn :=
  let tells (state : ExecutionState) : Message := .status default .zero state
  [.connect default, .say (tells .starting), .say (tells .idle), .hand (tells .busy), .pump,
    .hand (tells .starting), .pump, .say (tells .starting), .say (tells .dead), .pump, .pump]

/-- The client hears of one start, and of all else. -/
theorem provisional_twiceStarting : ∃ r, (ofOpened farSession 0).run? twiceStarting = some r ∧
    r.Provisional .zero twiceStarting ∧ r.bridge.queue = [] ∧
    r.log.map (fun e => (e.1, e.2.executionState?)) = [(.bridge, some .starting),
      (.caller, some .busy), (.transport, some .idle), (.transport, some .dead)] := by
  have key {r : Relay} (h : (ofOpened farSession 0).run? twiceStarting = some r)
      (hq : r.bridge.queue = [])
      (hl : r.log.map (fun e => (e.1, e.2.executionState?)) = [(.bridge, some .starting),
        (.caller, some .busy), (.transport, some .idle), (.transport, some .dead)]) :
      (ofOpened farSession 0).run? twiceStarting = some r ∧
        r.Provisional .zero twiceStarting ∧ r.bridge.queue = [] ∧
        r.log.map (fun e => (e.1, e.2.executionState?)) = [(.bridge, some .starting),
          (.caller, some .busy), (.transport, some .idle), (.transport, some .dead)] :=
    ⟨h, provisional_of_run (by rfl) h, hq, hl⟩
  exact ⟨_, key rfl rfl rfl⟩

end Relay

end KernelHub
