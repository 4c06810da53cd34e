import KernelHub.Proofs.Progress
import KernelHub.Proofs.Traffic.Threads

/-
Who is blamed for a failure. An error that says that the host at home could not list what it
has passes on what that host has answered, with one exception: a type that is looked up at the
remote host. What the remote host refuses is left out of a listing, or reported as its own.
-/

namespace KernelHub

/-- Is the command there to do this job? -/
def Command.Orders : Command → Job → Prop
  | .start .., .start _ => True
  | .kernel _ job, job' => job = job'
  | .record _ job, job' => job = job'
  | _, _ => False

/-- The command looks up one type, and the remote host could not tell about it, for another
reason than that there is none. -/
def Misblamed (k : Command) (xs : List Exchange) (e : HostError) : Prop :=
  ∃ name, k = .type name ∧ xs = [(.remote, .spec name, .refused e)] ∧ e.isNotFound = false

/-- What becomes of a refusal of the remote host in the result of a command. -/
inductive Handled (k : Command) (q : Request) (e : HostError) : Result → Prop
  /-- What the host cannot list is left out. -/
  | leftOut {res} (hq : q = .specs ∨ q = .list) : Handled k q e res
  /-- A kernel that is gone need not be shut down. -/
  | gone {now} (hk : k.Orders (.shutdown now)) (he : e.isNotFound = true) :
    Handled k q e (.ok .done)
  /-- The host's error is passed on, as that of something else than a listing at home. -/
  | passed {err} (hs : err.source? = some e) (hc : ∀ x, err ≠ .catalog x) :
    Handled k q e (.error err)
  | missing {err} (he : e.isNotFound = true) (hn : err.isNotFound = true) :
    Handled k q e (.error err)
  /-- A failed restart is reported as such, whatever the host says about the kernel then. -/
  | restart {now err} (hk : k.Orders (.restart now)) (hc : ∀ x, err ≠ .catalog x) :
    Handled k q e (.error err)

/-- The result of a command does justice to what its hosts have answered. -/
structure Fair (k : Command) (xs : List Exchange) (res : Result) : Prop where
  blamed : ∀ e, res = .error (.catalog e) →
    (∃ past q, xs = past ++ [(.home, q, .refused e)]) ∨ Misblamed k xs e
  handled : ∀ q e, (.remote, q, .refused e) ∈ xs → Handled k q e res ∨ Misblamed k xs e

/-- The remote host has refused nothing but listings. -/
def Quiet (xs : List Exchange) : Prop :=
  ∀ q e, (.remote, q, .refused e) ∈ xs → q = .specs ∨ q = .list

variable {h h' : Hub} {k : Command} {xs : List Exchange} {c c' : Call} {side : Side} {q : Request}
  {a : Answer} {res : Result}

theorem quiet_nil : Quiet [] := by simp [Quiet]

theorem quiet_snoc (hx : Quiet xs)
    (ha : side = .remote → ∀ e, a = .refused e → q = .specs ∨ q = .list) :
    Quiet (xs ++ [(side, q, a)]) := by
  intro q' e hm
  rcases List.mem_append.1 hm with hm | hm
  · exact hx q' e hm
  · cases List.mem_singleton.1 hm
    exact ha rfl e rfl

/-- Nothing has to be reported when only listings were refused. -/
theorem fair_of_quiet (hx : Quiet xs) (hc : ∀ e, res ≠ .error (.catalog e)) : Fair k xs res :=
  ⟨fun e he => absurd he (hc e), fun q e hm => .inl (.leftOut (hx q e hm))⟩

/-- The last answer decides, when before it only listings were refused. -/
theorem fair_snoc (hx : Quiet xs) (hc : ∀ e, res ≠ .error (.catalog e))
    (ha : ∀ e, side = .remote → a = .refused e → Handled k q e res) :
    Fair k (xs ++ [(side, q, a)]) res := by
  refine ⟨fun e he => absurd he (hc e), fun q' e hm => .inl ?_⟩
  rcases List.mem_append.1 hm with hm | hm
  · exact .leftOut (hx q' e hm)
  · cases List.mem_singleton.1 hm
    exact ha e rfl rfl

/-- A refusal may be passed on. -/
theorem fair_passed {e : HostError} {err : KernelError} (hx : Quiet xs)
    (hs : err.source? = some e) (hc : ∀ x, err ≠ .catalog x) :
    Fair k (xs ++ [(side, q, .refused e)]) (.error err) :=
  fair_snoc hx (by simpa using hc) fun e' _ he => by
    cases he
    exact .passed hs hc

/-- What is not found may be reported as missing. -/
theorem fair_missing {e : HostError} {err : KernelError} (hx : Quiet xs)
    (he : e.isNotFound = true) (hn : err.isNotFound = true) :
    Fair k (xs ++ [(side, q, .refused e)]) (.error err) :=
  fair_snoc hx (by rintro x h; cases h; cases hn) fun e' _ h => by
    cases h
    exact .missing he hn

/-- A catalog error after a refusal at home is fair. -/
theorem fair_home {e : HostError} (hx : Quiet xs) :
    Fair k (xs ++ [(.home, q, .refused e)]) (.error (.catalog e)) := by
  refine ⟨fun x he => ?_, fun q' x hm => .inl ?_⟩
  · cases he
    exact .inl ⟨xs, q, rfl⟩
  · rcases List.mem_append.1 hm with hm | hm
    · exact .leftOut (hx q' x hm)
    · cases List.mem_singleton.1 hm

/-- A restart that failed is fair to all. -/
theorem fair_restart {now : Bool} {err : KernelError} (hk : k.Orders (.restart now))
    (hc : ∀ x, err ≠ .catalog x) : Fair k xs (.error err) :=
  ⟨fun e he => absurd (Except.error.inj he) (hc e), fun _ _ _ => .inl (.restart hk hc)⟩

/-- An outcome matters only to a shutdown. -/
theorem Fair.done {o : Outcome} (hf : Fair k xs (.ok o)) : Fair k xs (.ok .done) := by
  refine ⟨nofun, fun q e hm => (hf.handled q e hm).imp_left fun hh => ?_⟩
  cases hh with
  | leftOut hq => exact .leftOut hq
  | gone hk he => exact .gone hk he

namespace Work

/-- What work has done justice to so far, by its phase. -/
def Phase.Fair (k : Command) (xs : List Exchange) : Phase → Prop
  | .unmapping | .unbinding => KernelHub.Fair k xs (.ok .done)
  | .probing _ _ => ∃ now, k.Orders (.restart now)
  | .settling _ res | .releasing res | .ended res => KernelHub.Fair k xs res
  | _ => Quiet xs

/-- How work stands that a command has ordered. -/
structure Clear (k : Command) (xs : List Exchange) (w : Work) : Prop where
  orders : k.Orders w.job
  poses : ∀ side q, w.phase = .calling side q → w.job.Poses q
  fair : w.phase.Fair k xs

variable {w w' : Work} {r : Record}

theorem fair_entry {job : Job} {s : Option KernelState} {p : Phase} (hx : Quiet xs)
    (he : Entry h r job s p) : p.Fair k xs := by
  cases he with
  | began | asked => exact hx
  | homeless | gone => exact fair_of_quiet hx nofun
  | refused he => exact fair_of_quiet hx (by rcases he with ⟨op, rfl⟩ | rfl <;> nofun)

theorem clear_step (hw : Clear k xs w) (hs : w.step? h = some (h', w')) : Clear k xs w' := by
  obtain ⟨r, -, ht⟩ := turn_of_step? hs
  have hposes := (poses_turn ht).2
  obtain ⟨ho, -, hf⟩ := hw
  suffices w'.job = w.job ∧ w'.phase.Fair k xs by
    exact ⟨this.1 ▸ ho, hposes, this.2⟩
  clear hposes
  obtain ⟨job, place, phase⟩ := w
  cases ht with
  | enter hp he => cases hp; exact ⟨rfl, fair_entry hf he⟩
  | take hp | map hp => cases hp; exact ⟨rfl, hf⟩
  | bind hp => cases hp; exact ⟨rfl, fair_of_quiet hf (by simp)⟩
  | unmap hp | unbind hp | settle hp | release hp => cases hp; exact ⟨rfl, hf⟩

/-- What the answer to a job's question leads to is fair. -/
theorem fair_replied {job : Job} {p : Phase} (ho : k.Orders job) (hx : Quiet xs)
    (hr : Replied r side job q a p) : p.Fair k (xs ++ [(side, q, a)]) := by
  have answered {res : Result} (hc : ∀ e, res ≠ .error (.catalog e)) (hr : ∀ e, a ≠ .refused e) :
      KernelHub.Fair k (xs ++ [(side, q, a)]) res := fair_snoc hx hc fun e _ he => absurd he (hr e)
  cases hr with
  | crashed | stopped | interrupted | restarted | described => exact answered nofun nofun
  | started => exact quiet_snoc hx nofun
  | unknown | missing => exact fair_missing hx rfl rfl
  | unstarted | unstopped | uninterrupted | undescribed => exact fair_passed hx rfl nofun
  | gone =>
    refine fair_snoc hx nofun fun e _ he => ?_
    cases he
    exact .gone ho rfl
  | unrestarted => exact ⟨_, ho⟩

theorem fair_probed {e : HostError} {p : Phase} (hk : ∃ now, k.Orders (.restart now))
    (hp : Probed r e a p) : p.Fair k xs := by
  obtain ⟨now, hk⟩ := hk
  cases hp <;> exact fair_restart hk nofun

theorem clear_answered (hw : Clear k xs w) (hq : w.request? = some (side, q))
    (hs : w.answered? h a = some w') : Clear k (xs ++ [(side, q, a)]) w' := by
  obtain ⟨r, p, -, hx, rfl⟩ := reaction_of_answered? hs
  have hposes := (heard_asks_no_more (heard_of_reaction hx)).2
  obtain ⟨ho, -, hf⟩ := hw
  refine ⟨ho, fun side q hp => absurd hp (hposes side q), ?_⟩
  obtain ⟨job, place, phase⟩ := w
  simp only at ho hf hx
  cases hx with
  | replied hr =>
    cases hq
    exact fair_replied ho hf hr
  | probed hp => exact fair_probed hf hp

end Work

namespace Call

/-- Is the merge made for what the command orders? -/
def Goal.Suits (k : Command) : Goal → Prop
  | .types => True
  | .start .. => ∀ o, k.Orders (.start o)

/-- How a call stands that a command has begun, unless the command looks up one type. -/
def Clear (k : Command) (xs : List Exchange) : Call → Prop
  | asked c => c = k ∧ xs = []
  | describing .. => False
  | working w _ => w.Clear k xs
  | dropping _ e => Fair k xs (.error e)
  | retiring _ | leaving _ => Fair k xs (.ok .done)
  | seeking _ job => k.Orders job ∧ Quiet xs
  | checking .. | naming .. | registering .. => (∀ o, k.Orders (.start o)) ∧ Quiet xs
  | mergingHome goal | mergedHome goal _ | mergingRemote goal _ | merged goal _ _ =>
    goal.Suits k ∧ Quiet xs
  | ended res => Fair k xs res
  | _ => Quiet xs

variable {u u' : Hub}

theorem clear_begun (hk : ∀ name, k ≠ .type name) (hb : Begun u k c) : c.Clear k [] := by
  cases hb with
  | typed => exact absurd rfl (hk _)
  | untyped => exact absurd rfl (hk _)
  | types => exact ⟨trivial, quiet_nil⟩
  | named | byDefault | nameless => exact ⟨fun _ => trivial, quiet_nil⟩
  | sought => exact ⟨rfl, quiet_nil⟩
  | record => exact ⟨rfl, nofun, quiet_nil⟩
  | default | gone | closed | inactive | unopened => exact fair_of_quiet quiet_nil nofun
  | defaulting | list | opening | activating | openingRecord => exact quiet_nil

theorem clear_follow {after : After} (hf : Fair k xs res) : (follow res after).Clear k xs := by
  cases after with
  | nothing => exact hf
  | started => cases res <;> exact hf
  | shutDown =>
    cases res with
    | ok => exact hf.done
    | error => exact hf

theorem clear_step (hk : ∀ name, k ≠ .type name) (hc : c.Clear k xs)
    (hs : c.step? u = some (u', c')) : c'.Clear k xs := by
  cases advance_of_step? hs with
  | begun hb =>
    obtain ⟨rfl, rfl⟩ := hc
    exact clear_begun hk hb
  | known | unknown | both | alone | learnt | dropped | retired | left | halfway => exact hc
  | published | held | unfound => exact fair_of_quiet hc.2 nofun
  | registered => exact ⟨hc.1 _, nofun, hc.2⟩
  | found => exact ⟨hc.1, nofun, hc.2⟩
  | worked hw => exact Work.clear_step hc hw
  | followed hp =>
    have hf := hc.fair
    rw [hp] at hf
    exact clear_follow hf
  | listed => exact fair_of_quiet hc nofun

/-- While a call waits, and not for its work, only listings were refused. -/
theorem quiet_of_clear (hc : c.Clear k xs) (hq : c.request?.isSome = true)
    (hw : ∀ w after, c ≠ working w after) : Quiet xs := by
  cases c with
  | working w after => exact absurd rfl (hw w after)
  | naming | mergingHome | mergingRemote => exact hc.2
  | defaulting | listing | activating | opening | connecting => exact hc
  | describing => exact hc.elim
  | _ => cases hq

/-- What the answer to a call's question leads to is fair. -/
theorem clear_answered (hc : c.Clear k xs) (hq : c.request? = some (side, q))
    (hs : c.answered? u a = some c') : c'.Clear k (xs ++ [(side, q, a)]) := by
  -- An answer that is no refusal needs no justice.
  have quiet (hx : Quiet xs) (ha : ∀ e, a ≠ .refused e) : Quiet (xs ++ [(side, q, a)]) :=
    quiet_snoc hx fun _ e he => absurd he (ha e)
  have fair {res : Result} (hx : Quiet xs) (hr : ∀ e, res ≠ .error (.catalog e))
      (ha : ∀ e, a ≠ .refused e) : Fair k (xs ++ [(side, q, a)]) res :=
    fair_snoc hx hr fun e _ he => absurd he (ha e)
  cases reaction_of_answered? hs with
  | crashed hw => exact fair (quiet_of_clear hc (by rw [hq]; rfl) hw) nofun nofun
  | heard hw => exact Work.clear_answered hc hq hw
  | named | home => exact ⟨hc.1, quiet hc.2 nofun⟩
  | nameless => exact fair hc.2 nofun nofun
  | unnamed | homeless =>
    cases hq
    exact fair_home hc.2
  | remote => exact ⟨hc.1, quiet hc.2 nofun⟩
  | leftOut =>
    cases hq
    exact ⟨hc.1, quiet_snoc hc.2 fun _ _ _ => .inl rfl⟩
  | described | missing | undescribed => exact hc.elim
  | default | active | opened | connected => exact fair hc nofun nofun
  | undefaulted | unlisted =>
    cases hq
    exact fair_home hc
  | listed | connecting => exact quiet hc nofun
  | skipped =>
    cases hq
    exact quiet_snoc hc fun _ _ _ => .inr rfl
  | gone => exact fair_missing hc rfl rfl
  | unopened | unconnected => exact fair_passed hc rfl nofun

/-- Every call but those for one type is fair. -/
theorem clear_of_thread (hk : ∀ name, k ≠ .type name) (ht : Thread k xs c) : c.Clear k xs := by
  induction ht with
  | asked => exact ⟨rfl, rfl⟩
  | step _ hs ih => exact clear_step hk ih hs
  | answer _ hq hs ih => exact clear_answered ih hq hs

/-! ## Looking up one type -/

/-- How a call stands that looks up one type: it asks one host at most, and passes on what that
host says. -/
inductive Describes (name : String) : List Exchange → Call → Prop
  | asked : Describes name [] (asked (.type name))
  | unknown : Describes name [] (ended (.error (.specNotFound name)))
  | asking {suffix : String} {side : Side} : Describes name [] (describing name suffix side)
  | crashed {side : Side} : Describes name [(side, .spec name, .crashed)] (ended (.error .crashed))
  | told {side : Side} {s : Spec} {o : Outcome} :
    Describes name [(side, .spec name, .spec s)] (ended (.ok o))
  | refused {side : Side} {e : HostError} : Describes name [(side, .spec name, .refused e)]
    (ended (.error (if e.isNotFound = true then .specNotFound name else .catalog e)))

theorem describes_of_thread {name : String} (ht : Thread (.type name) xs c) :
    Describes name xs c := by
  induction ht with
  | asked => exact .asked
  | step _ hs ih =>
    cases ih with
    | asked =>
      cases advance_of_step? hs with
      | begun hb =>
        cases hb with
        | typed => exact .asking
        | untyped => exact .unknown
    | _ => cases hs
  | answer _ hq hs ih =>
    cases ih with
    | asking =>
      cases hq
      cases reaction_of_answered? hs with
      | described => exact .told
      | missing => exact .refused
      | @undescribed _ _ _ e he =>
        cases e with
        | notFound => cases he
        | _ => exact .refused
      | crashed => exact .crashed
    | _ => cases hq

theorem fair_of_describes {name : String} (hd : Describes name xs (ended res)) :
    Fair (.type name) xs res := by
  cases hd with
  | unknown => exact fair_of_quiet quiet_nil nofun
  | crashed | told => exact fair_snoc quiet_nil nofun nofun
  | @refused side e =>
    by_cases he : e.isNotFound = true
    · rw [if_pos he]
      exact fair_missing quiet_nil he rfl
    · rw [if_neg he]
      cases side with
      | home => exact fair_home quiet_nil
      | remote =>
        have hm : Misblamed (.type name) [(.remote, .spec name, .refused e)] e :=
          ⟨name, rfl, rfl, by simpa using he⟩
        refine ⟨fun x h => ?_, fun q x h => ?_⟩
        · cases h; exact .inr hm
        · cases List.mem_singleton.1 h; exact .inr hm

theorem fair_of_thread (ht : Thread k xs (ended res)) : Fair k xs res := by
  by_cases hk : ∃ name, k = .type name
  · obtain ⟨name, rfl⟩ := hk
    exact fair_of_describes (describes_of_thread ht)
  · exact clear_of_thread (fun name he => hk ⟨name, he⟩) ht

theorem of_misblamed {e : HostError} (ht : Thread k xs c) (hm : Misblamed k xs e) :
    c = ended (.error (.catalog e)) := by
  obtain ⟨name, rfl, rfl, he⟩ := hm
  cases describes_of_thread ht with
  | refused => rw [he]; rfl

/-- Only merges and listings ask the remote host to list what it has. -/
theorem lists_of_thread (ht : Thread k xs c) (hq : c.request? = some (.remote, q))
    (hl : q = .specs ∨ q = .list) :
    (q = .specs ∧ ∃ goal home, c = mergingRemote goal home) ∨
      q = .list ∧ ∃ found, c = listing .remote found := by
  by_cases hk : ∃ name, k = .type name
  · obtain ⟨name, rfl⟩ := hk
    cases describes_of_thread ht with
    | asking => cases hq; rcases hl with hl | hl <;> cases hl
    | _ => cases hq
  · have hs := clear_of_thread (fun name he => hk ⟨name, he⟩) ht
    cases c with
    | working w after =>
      obtain ⟨job, place, phase⟩ := w
      cases phase with
      | calling side q' =>
        cases hq
        have hp := Work.Clear.poses hs .remote q rfl
        rcases hl with rfl | rfl <;> cases job <;> simp [Job.Poses] at hp
      | probing =>
        obtain ⟨-, rfl⟩ := Prod.mk.inj (Option.some.inj hq)
        rcases hl with hl | hl <;> cases hl
      | _ => cases hq
    | mergingRemote goal home => cases hq; exact .inl ⟨rfl, goal, home, rfl⟩
    | listing side found => cases hq; exact .inr ⟨rfl, found, rfl⟩
    | describing => exact hs.elim
    | activating | opening | connecting =>
      obtain ⟨-, rfl⟩ := Prod.mk.inj (Option.some.inj hq)
      rcases hl with hl | hl <;> cases hl
    | _ => cases hq

end Call

namespace Traffic

variable {h : Hub} {es : List Event} {t : Traffic} {i : Nat}

/-- What could have happened to a call instead of a refused listing: the host lists nothing. -/
def unlisted (i : Nat) : Request → Option (List Event)
  | .specs => some [.answer i (.specs [])]
  | .list => some [.answer i (.models []), .step i]
  | _ => none

/-- Who is blamed for failures on a hub. -/
structure Blames (h : Hub) (es : List Event) (t : Traffic) : Prop where
  /-- A catalog error is the last answer of the host at home, unless one type was looked up at
  the remote host. -/
  blamed : ∀ (i : Nat) k e, (commands es)[i]? = some k →
    t.calls[i]? = some (.ended (.error (.catalog e))) →
    (∃ past q, exchanges i ⟨h, []⟩ es = past ++ [(.home, q, .refused e)]) ∨
      Misblamed k (exchanges i ⟨h, []⟩ es) e
  /-- In that one case it is always a catalog error. -/
  misblamed : ∀ (i : Nat) k c e, (commands es)[i]? = some k → t.calls[i]? = some c →
    Misblamed k (exchanges i ⟨h, []⟩ es) e → c = .ended (.error (.catalog e))
  /-- In all others a refusal of the remote host has no consequence or is reported as its own. -/
  handled : ∀ (i : Nat) k res q e, (commands es)[i]? = some k →
    t.calls[i]? = some (.ended res) → (.remote, q, .refused e) ∈ exchanges i ⟨h, []⟩ es →
    Handled k q e res ∨ Misblamed k (exchanges i ⟨h, []⟩ es) e
  /-- A remote host that refuses to list might as well have listed nothing. -/
  leftOut : ∀ (i : Nat) q e fs, t.asked? i = some (.remote, q) → unlisted i q = some fs →
    t.next? (.answer i (.refused e)) = run? t fs

theorem leftOut_of_thread {k : Command} {xs : List Exchange} {c : Call} {e : HostError}
    {fs : List Event} (hc : t.calls[i]? = some c) (ht : Call.Thread k xs c)
    (hq : c.request? = some (.remote, q)) (hf : unlisted i q = some fs) :
    t.next? (.answer i (.refused e)) = run? t fs := by
  have hl : q = .specs ∨ q = .list := by
    cases q with
    | specs => exact .inl rfl
    | list => exact .inr rfl
    | _ => cases hf
  rcases Call.lists_of_thread ht hq hl with ⟨rfl, goal, home, rfl⟩ | ⟨rfl, found, rfl⟩
  · cases hf
    simp [run?, next?, hc, Call.request?, Call.answered?]
  · cases hf
    have hs := set_call_self hc
    simp [run?, next?, hc, hs, Call.request?, Call.answered?, Call.step?, Hub.clientModels]

/-- Whatever is done on a hub, and whatever its hosts answer: failures of the remote host are not
blamed on the host at home, but in the one case that a type is looked up there. -/
theorem blames_of_run (hr : run? ⟨h, []⟩ es = some t) : Blames h es t := by
  refine ⟨fun i k e hk hc => ?_, fun i k c e hk hc hm => ?_, fun i k res q e hk hc hm => ?_,
    fun i q e fs ha hf => ?_⟩
  · exact (Call.fair_of_thread (thread_of_run hr hk hc)).blamed e rfl
  · exact Call.of_misblamed (thread_of_run hr hk hc) hm
  · exact (Call.fair_of_thread (thread_of_run hr hk hc)).handled q e hm
  · obtain ⟨c, hc, hq⟩ := Option.bind_eq_some_iff.1 ha
    obtain ⟨k, hk⟩ := (gathered_of_run hr).command hc
    exact leftOut_of_thread hc (thread_of_run hr hk hc) hq hf

/-- A hub over two hosts. -/
def mixedHub : Hub := { hasRemote := true }

/-- Why a gateway that is down refuses. -/
def gatewayDown : HostError := .unavailable "gateway down"

/-- All kernels are to be listed. The remote host refuses, then the one at home. -/
def bothDown : List Event :=
  [.ask .list, .step 0, .answer 0 (.refused gatewayDown), .answer 0 (.refused (.failed "no disk"))]

/-- The error is the one of the host at home. -/
theorem blames_bothDown : ∃ t, run? ⟨mixedHub, []⟩ bothDown = some t ∧
    Blames mixedHub bothDown t ∧
    t.calls = [.ended (.error (.catalog (.failed "no disk")))] := by
  have hr : run? ⟨mixedHub, []⟩ bothDown =
    some ⟨mixedHub, [.ended (.error (.catalog (.failed "no disk")))]⟩ := rfl
  exact ⟨_, hr, blames_of_run hr, rfl⟩

/-- A merge finds a type at the remote host, which is down when the type is looked up. -/
def lookUp : List Event :=
  [.ask .types, .step 0, .answer 0 (.specs []), .step 0,
    .answer 0 (.specs [⟨"julia", "Julia", "julia", []⟩]), .step 0,
    .ask (.type "julia"), .step 1, .answer 1 (.refused gatewayDown)]

/-- The remote host is down, nobody has asked the host at home, and the error says that the host
at home is unavailable. -/
theorem home_blamed_for_gateway : mixedHub.Unused ∧ ∃ t, run? ⟨mixedHub, []⟩ lookUp = some t ∧
    t.calls[1]? = some (.ended (.error (.catalog gatewayDown))) ∧
    exchanges 1 ⟨mixedHub, []⟩ lookUp = [(.remote, .spec "julia", .refused gatewayDown)] ∧
    (KernelError.catalog gatewayDown).message =
      "local backend unavailable: backend unavailable: gateway down" :=
  ⟨⟨rfl, rfl, rfl, rfl⟩, _, rfl, rfl, rfl, rfl⟩

end Traffic

end KernelHub
