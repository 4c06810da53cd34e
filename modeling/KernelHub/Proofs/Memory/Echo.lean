import KernelHub.Proofs.Memory.Lobby
import KernelHub.Proofs.Wire

/-
The echo of a kernel in memory. A request is answered by one reply to it, which for an execution
stands between the broadcasts that the kernel is busy and idle; nothing else is answered. What is
said goes to the socket of the channel that was asked on, and to no other. The executions of a
kernel are counted over all its channels since its last restart, and what it has received is all
that was sent to it, in that order.
-/

namespace KernelHub

/-! ## Answers -/

namespace Header

theorem sorted_toJson (h : Header) : h.toJson.sorted =
    .object [("date", .string h.date), ("msg_id", .string h.id), ("msg_type", .string h.type),
      ("session", .string h.session), ("username", .string h.username),
      ("version", .string h.version)] := by
  simp only [toJson, Json.sorted, Json.sortedMembers, Entries.ofList, Entries.insert,
    List.foldl_cons, List.foldl_nil, String.reduceLT, String.reduceEq, if_true, if_false]

/-- The order of its members does not matter to a header. -/
theorem slots?_sorted (h : Header) : h.toJson.sorted.document.slots? fields =
    some [some (.string (some h.id)), some (.string (some h.type)),
      some (.string (some h.session)), some (.string (some h.username)),
      some (.string (some h.date)), some (.string (some h.version))] := by
  rw [sorted_toJson, Json.slots?_document]
  · simp [fields, Entries.find?, Json.document]
  · simp

theorem decode?_sorted (h : Header) {room : Nat} (hr : room ≠ 0) :
    decode? room h.toJson.sorted.document = some h :=
  decode?_eq_some.2 ⟨hr, _, _, _, _, _, _, h.slots?_sorted, rfl, rfl, rfl, rfl, rfl, rfl⟩

end Header

namespace Message

/-- The header that the parent of a message is read as. -/
def parentHeader? (m : Message) : Option Header :=
  (Json.Document.read? m.parent.text).bind (Header.decode? Json.Document.maxDepth)

theorem parentHeader?_of_parent {m request : Message} (h : m.parent = request.asParent) :
    m.parentHeader? = some request.header := by
  have hd : Json.Document.maxDepth ≠ 0 := by decide
  rw [parentHeader?, h, Json.read?_text, Option.bind_some, asParent, Header.decode?_sorted _ hd]

/-- It is a reply to the request: on its channel, in its session and to its user. -/
structure IsReply (request : Message) (base : String) (reply : Message) : Prop where
  channel : reply.channel = request.channel
  type : reply.header.type = base ++ "_reply"
  session : reply.header.session = request.header.session
  username : reply.header.username = request.header.username
  parent : reply.parentHeader? = some request.header

/-- It is a broadcast in a session about a state that the request has led to. -/
structure IsStatus (request : Message) (session : SessionId) (state : ExecutionState)
    (m : Message) : Prop where
  channel : m.channel = "iopub"
  type : m.header.type = "status"
  session : m.header.session = toString session
  state : m.executionState? = some state
  parent : m.parentHeader? = some request.header

end Message

namespace Memory

/-- What is said in answer to a message. If it asks for an execution, it is the one of the given
number. -/
inductive Echo (n : Nat) (session : SessionId) (request : Message) : List Message → Prop
  | silent (other : ∀ base, request.header.type ≠ base ++ "_request") : Echo n session request []
  | answered {base reply} (type : request.header.type = base ++ "_request")
    (other : base ≠ "execute") (isReply : request.IsReply base reply) :
    Echo n session request [reply]
  | executed {busy reply idle} (type : request.header.type = "execute_request")
    (isBusy : request.IsStatus session .busy busy) (isReply : request.IsReply "execute" reply)
    (count : reply.content.get? "execution_count" = some (.int n))
    (isIdle : request.IsStatus session .idle idle) : Echo n session request [busy, reply, idle]

namespace Kernel

theorem isReply_reply (st : Stamp) (request : Message) (base : String) (content : Json) :
    request.IsReply base (.reply st request (base ++ "_reply") content) :=
  ⟨rfl, rfl, rfl, rfl, Message.parentHeader?_of_parent rfl⟩

theorem isStatus_statusFor (st : Stamp) (session : SessionId) {state : ExecutionState}
    (hs : ExecutionState.ofWord state.word = state) (request : Message) :
    request.IsStatus session state (statusFor st session state request) :=
  ⟨rfl, rfl, rfl, congrArg some hs, Message.parentHeader?_of_parent rfl⟩

theorem echo_answer (k : Kernel) (st : Stamps) (session : SessionId) (m : Message) :
    Echo (k.answer st session m).1.executions.toNat session m (k.answer st session m).2 := by
  rw [answer]
  split
  · next hb =>
    exact .silent fun base ht => by cases (requestBase?_eq_some.2 ht).symm.trans hb
  · next base hb =>
    have ht := requestBase?_eq_some.1 hb
    by_cases he : base = "execute"
    · subst he
      rw [if_pos rfl]
      exact .executed ht (isStatus_statusFor _ _ rfl m) (isReply_reply _ m "execute" _) rfl
        (isStatus_statusFor _ _ rfl m)
    · rw [if_neg he]
      exact .answered ht he (isReply_reply _ m base _)

end Kernel

/-! ## Runs -/

namespace Note

/-- What was sent to a kernel. -/
def sentTo (k : Nat) : Note → List Message
  | .asked q => if q.kernel = k then [q.request] else []
  | _ => []

/-- How many executions a kernel was asked for since it was last restarted. -/
def count (k n : Nat) : Note → Nat
  | .asked q => if q.kernel = k ∧ q.request.isExecution then n + 1 else n
  | .restarted k' => if k' = k then 0 else n
  | _ => n

end Note

/-- How many executions a kernel was asked for in a log since it was last restarted. -/
def executed (log : List Note) (k : Nat) : Nat := log.foldl (Note.count k) 0

theorem executed_concat (log : List Note) (n : Note) (k : Nat) :
    executed (log ++ [n]) k = n.count k (executed log k) := by
  simp [executed]

namespace Lobby

variable {l l' : Lobby}

/-- What is known of a message that was sent, from the log before it. -/
structure Answered (l : Lobby) (pre : List Note) (q : Question) : Prop where
  owner : ∃ lane, l.host.channels[q.channel]? = some ⟨q.kernel, q.session, lane⟩
  socket : (standing pre q.channel).map (·.1) = some q.socket
  unheard : q.heard = false → q.said = []
  echo : q.heard = true → executed (pre ++ [.asked q]) q.kernel < UInt32.size →
    Echo (executed (pre ++ [.asked q]) q.kernel) q.session q.request q.said

/-- What is kept by every step. -/
structure Recorded (l : Lobby) : Prop where
  kept : l.Kept
  received : ∀ k, (l.host.dealings k).received = l.log.flatMap (Note.sentTo k)
  executions : ∀ k, (l.host.dealings k).executions = UInt32.ofNat (executed l.log k)
  arrived : ∀ s, l.arrived s = l.log.flatMap (Note.saidTo s)
  answered : ∀ pre q post, l.log = pre ++ .asked q :: post → l.Answered pre q

theorem Answered.of_moves {pre : List Note} {q : Question} (ha : l.Answered pre q)
    (hm : l.Moves l') : l'.Answered pre q := by
  obtain ⟨lane, hc⟩ := ha.owner
  obtain ⟨lane', hc'⟩ := hm.of_channel hc
  exact ⟨⟨lane', hc'⟩, ha.socket, ha.unheard, ha.echo⟩

/-- A message that is sent now. -/
theorem answered_now (hr : l.Recorded) {st : Kernel.Stamps} {q : Question} {x : Kernel}
    (hc : l.host.channels[q.channel]? = some ⟨q.kernel, q.session, some q.socket⟩)
    (hx : l.host.kernels[q.kernel]? = some x)
    (hs : q.said = if q.heard then (x.answer st q.session q.request).2 else []) :
    l.Answered l.log q where
  owner := ⟨_, hc⟩
  socket := by rw [← hr.kept.lanes, hc, Option.bind_some]
  unheard hq := by rw [hs, hq]; rfl
  echo hq hlt := by
    -- The kernel counts the message before it answers, as the log does.
    have he : x.executions = UInt32.ofNat (executed l.log q.kernel) := by
      have := hr.executions q.kernel
      rwa [Host.dealings, hx] at this
    have hn : (x.answer st q.session q.request).1.executions =
        UInt32.ofNat (executed (l.log ++ [.asked q]) q.kernel) := by
      have hd := congrArg Dealings.executions (x.dealings_answer st q.session q.request)
      refine hd.trans ?_
      rw [executed_concat, Note.count, he]
      cases q.request.isExecution <;> simp [UInt32.ofNat_add]
    have hx := x.echo_answer st q.session q.request
    rw [hn, UInt32.toNat_ofNat_of_lt' hlt] at hx
    rwa [hs, hq, if_pos rfl]

theorem append_singleton_eq {α : Type} {log pre post : List α} {n a : α}
    (h : log ++ [n] = pre ++ a :: post) :
    log = pre ∧ n = a ∨ ∃ post', log = pre ++ a :: post' := by
  rcases List.eq_nil_or_concat post with rfl | ⟨post', b, rfl⟩
  · exact .inl (by simpa using List.append_inj' h rfl)
  · have h' : log ++ [n] = (pre ++ a :: post') ++ [b] := by simpa using h
    exact .inr ⟨post', (List.append_inj' h' rfl).1⟩

theorem received_of_moves (hm : l.Moves l') {k : Nat}
    (hr : (l.host.dealings k).received = l.log.flatMap (Note.sentTo k)) :
    (l'.host.dealings k).received = l'.log.flatMap (Note.sentTo k) := by
  cases hm with
  | quiet host log => rw [host.dealings, hr, log]
  | restarted j _ _ dealings log | connected _ _ _ _ _ _ _ _ _ dealings _ log
  | disconnected _ _ _ dealings log =>
    rw [dealings, log, List.flatMap_append, ← hr]
    split <;> simp [Note.sentTo, Dealings.renew, Dealings.join, Dealings.part]
  | asked st q x _ _ _ _ dealings _ _ log =>
    rw [dealings, log, List.flatMap_append, ← hr]
    split <;> simp [Note.sentTo, Dealings.ask, *]

theorem executions_of_moves (hm : l.Moves l') {k : Nat}
    (he : (l.host.dealings k).executions = UInt32.ofNat (executed l.log k)) :
    (l'.host.dealings k).executions = UInt32.ofNat (executed l'.log k) := by
  cases hm with
  | quiet host log => rw [host.dealings, he, log]
  | restarted j _ _ dealings log =>
    rw [dealings, log, executed_concat, Note.count]
    split
    · rfl
    · exact he
  | connected _ _ _ _ _ _ _ _ _ dealings _ log | disconnected _ _ _ dealings log =>
    have hn : executed l'.log k = executed l.log k := by
      rw [log, executed_concat]
      rfl
    rw [dealings, hn, ← he]
    split <;> rfl
  | asked st q x _ _ _ _ dealings _ _ log =>
    rw [dealings, log, executed_concat, Note.count]
    by_cases hq : q.kernel = k
    · cases hx : q.request.isExecution <;> simp [hq, hx, Dealings.ask, he, UInt32.ofNat_add]
    · simpa [hq] using he

theorem arrived_of_moves (hm : l.Moves l') {s : Nat}
    (ha : l.arrived s = l.log.flatMap (Note.saidTo s)) :
    l'.arrived s = l'.log.flatMap (Note.saidTo s) := by
  cases hm with
  | quiet host log arrived => rw [arrived, ha, log]
  | restarted _ _ _ _ log arrived | disconnected _ _ _ _ log arrived =>
    rw [arrived, ha, log]
    simp [Note.saidTo]
  | connected _ _ _ _ _ _ _ _ _ _ _ log arrived | asked _ _ _ _ _ _ _ _ _ _ log arrived =>
    rw [arrived, ha, log]
    simp [Note.saidTo]

theorem answered_of_moves (hr : l.Recorded) (hm : l.Moves l') {pre post : List Note} {q : Question}
    (h : l'.log = pre ++ .asked q :: post) : l'.Answered pre q := by
  -- A step writes one note at most: the message was sent before it, or by it.
  have before {n : Note} (log : l'.log = l.log ++ [n]) (hn : n ≠ .asked q) :
      l'.Answered pre q := by
    obtain ⟨-, he⟩ | ⟨post', he⟩ := append_singleton_eq (log.symm.trans h)
    · exact absurd he hn
    · exact (hr.answered pre q post' he).of_moves hm
  have hm' := hm
  cases hm with
  | quiet host log => exact (hr.answered pre q post (log ▸ h)).of_moves hm'
  | restarted _ _ _ _ log | connected _ _ _ _ _ _ _ _ _ _ _ log | disconnected _ _ _ _ log =>
    exact before log nofun
  | asked st q' x at_ kernel _ _ _ _ said log =>
    obtain ⟨rfl, he⟩ | ⟨post', he⟩ := append_singleton_eq (log.symm.trans h)
    · cases he
      exact (answered_now hr at_ kernel said).of_moves hm'
    · exact (hr.answered pre q post' he).of_moves hm'

theorem recorded_step (hr : l.Recorded) (a : Act) : (l.step a).Recorded :=
  have hm := moves_step hr.kept a
  { kept := kept_step hr.kept a
    received := fun k => received_of_moves hm (hr.received k)
    executions := fun k => executions_of_moves hm (hr.executions k)
    arrived := fun s => arrived_of_moves hm (hr.arrived s)
    answered := fun _ _ _ h => answered_of_moves hr hm h }

theorem recorded_run (side : Side) (acts : List Act) : (run side acts).Recorded := by
  refine run_induct (P := Recorded) ?_ (fun l a hr => recorded_step hr a) acts
  exact {
    kept := kept_new side
    received := fun _ => rfl
    executions := fun _ => rfl
    arrived := fun _ => rfl
    answered := fun pre q post h => by cases pre <;> cases h }

/-- What the clients of a host can rely on. -/
structure Echoes (l : Lobby) : Prop where
  /-- A host shows what was sent to a kernel, in that order. -/
  received : ∀ d k, Table.find? d l.host.live = some k →
    l.host.received d = l.log.flatMap (Note.sentTo k)
  /-- At a socket there arrives what was said to it, in that order, and nothing else. -/
  arrived : ∀ s, l.arrived s = l.log.flatMap (Note.saidTo s)
  /-- Whatever was sent was answered by its echo, if anyone listened. -/
  answered : ∀ pre q post, l.log = pre ++ .asked q :: post → l.Answered pre q
  /-- A message on a channel that holds a socket where someone listens is sent. -/
  sent : ∀ st c s b m, standing l.log c = some (s, b) → l.listens s = true →
    ∃ q, (l.step (.send st c m)).log = l.log ++ [.asked q] ∧ q.channel = c ∧ q.request = m ∧
      q.heard = true ∧ (l.host.send st c true m).2.1 = .ok ()

/-- After every run of a host with its clients, every message that was sent on a channel was
received and answered by its echo on this channel alone, where the executions of a kernel are
counted over all channels since it was last restarted. -/
theorem echoes_of_run (side : Side) (acts : List Act) : (run side acts).Echoes := by
  have hr := recorded_run side acts
  generalize run side acts = l at hr
  refine ⟨fun d k hd => ?_, hr.arrived, hr.answered, fun st c s b m hs hl => ?_⟩
  · rw [← hr.received, Host.received, hd, Option.bind_some, Host.dealings]
    cases l.host.kernels[k]? <;> rfl
  · have hc : l.host.channels[c]?.bind (·.lane) = some s := by rw [hr.kept.lanes, hs]; rfl
    obtain ⟨⟨kernel, session, lane⟩, hc, rfl⟩ := Option.bind_eq_some_iff.1 hc
    obtain ⟨-, -, ⟨x, -, hsaid⟩, -⟩ := Host.send_some st true m hc rfl
      (hr.kept.placed _ (List.mem_of_getElem? hc))
    refine ⟨{ kernel, channel := c, session, socket := s, heard := l.listens s, request := m
              said := (l.host.send st c (l.listens s) m).2.2 }, ?_, rfl, rfl, hl, ?_⟩
    · simp only [step, send, hc]
      rfl
    · rw [hsaid]
      rfl

/-- Executions on two channels, with a restart before the last. -/
example :
    let execute (c : Nat) : Act :=
      .send default c { header := { id := "", type := "execute_request" } }
    let l := run .home (opening ++ [.come, .come, .connect default 0 0, .connect default 1 1,
      execute 0, execute 1, execute 0, .finish default default (.restart 0), execute 1])
    let counts (s : Nat) := (l.arrived s).filterMap fun m =>
      (m.content.get? "execution_count").bind Json.int?
    counts 0 = [1, 3] ∧ counts 1 = [2, 1] := by
  decide +kernel

end Lobby

end Memory

end KernelHub
