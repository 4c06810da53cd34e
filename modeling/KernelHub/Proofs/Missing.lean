import KernelHub.Proofs.Coherence
import KernelHub.Proofs.Hosted.Arrivals
import KernelHub.Proofs.Traffic.Threads

/-
What callers hear when a host does not know what they ask for. Most commands say that there is no
such kernel or type, by the name that the caller knows; a shutdown takes the kernel for gone, and
succeeds. But an interrupt, a restart and the connection of a channel pass the host's answer on
inside an error that does not say so: which of two ways a caller hears of a kernel that is gone
depends on what it asked for.
-/

namespace KernelHub

/-- Is it the question that the command is there to pass on to a host? Listings for a merge and
the look after a failed restart are the hub's own. -/
inductive Command.Forwards : Command → Request → Prop
  | type {name} : Forwards (.type name) (.spec name)
  | start {asked o fresh name} : Forwards (.start asked o fresh) (.start name o)
  | kernel {id job q} (hq : job.Poses q) : Forwards (.kernel id job) q
  | openChannel {id s d} : Forwards (.openSession id s) (.openChannel d s)
  | connect {id s c b} : Forwards (.openSession id s) (.connect c b)

/-- What a command gives when the host has answered its question, in these words, that there is
none; `xs` is all that the hosts were asked and answered. -/
inductive Missing (what : String) (xs : List Exchange) : Command → Request → Result → Prop
  | type {name} : Missing what xs (.type name) (.spec name) (.error (.specNotFound name))
  | start {asked o fresh name} :
    Missing what xs (.start asked o fresh) (.start name o) (.error (.specNotFound name))
  | model {id q} : Missing what xs (.kernel id .model) q (.error (.kernelNotFound id))
  | shutdown {id now q} : Missing what xs (.kernel id (.shutdown now)) q (.ok .done)
  | interrupt {id q} : Missing what xs (.kernel id .interrupt) q
    (.error (.operationFailed id .interrupt (.notFound what)))
  | restart {id now q} : Missing what xs (.kernel id (.restart now)) q
    (.error (.operationFailed id .restart (.notFound what)))
  /-- The look after a failed restart crashed. -/
  | crashed {id now q side q'} (hc : (side, q', .crashed) ∈ xs) :
    Missing what xs (.kernel id (.restart now)) q (.error .crashed)
  | openChannel {id s d} :
    Missing what xs (.openSession id s) (.openChannel d s) (.error (.kernelNotFound id))
  | connect {id s c b} : Missing what xs (.openSession id s) (.connect c b)
    (.error (.channel s (.notFound what)))

/-- Does the result say that there is none? For a shutdown there is nothing to be said. -/
def Command.Tells (k : Command) (res : Result) : Prop :=
  match k with
  | .kernel _ (.shutdown _) => res = .ok .done
  | _ => ∃ err, res = .error err ∧ err.isNotFound = true

/-- The questions whose answers are passed on as they are. -/
inductive PassedOn : Command → Request → Prop
  | interrupt {id q} : PassedOn (.kernel id .interrupt) q
  | restart {id now q} : PassedOn (.kernel id (.restart now)) q
  | connect {k c b} : PassedOn k (.connect c b)

variable {what : String} {k : Command} {xs : List Exchange} {side : Side} {q : Request}
  {a : Answer} {res : Result}

/-- A result says that there is none unless the host's answer is passed on. -/
theorem Missing.tells_iff (hm : Missing what xs k q res) (hf : k.Forwards q) :
    k.Tells res ↔ ¬ PassedOn k q := by
  have silent {err : KernelError} (hn : err.isNotFound = false) :
      ¬ ∃ x, (.error err : Result) = .error x ∧ x.isNotFound = true := by
    rintro ⟨x, he, hx⟩
    cases he
    cases hn.symm.trans hx
  cases hm with
  | type | start | openChannel => exact iff_of_true ⟨_, rfl, rfl⟩ nofun
  | model =>
    refine iff_of_true ⟨_, rfl, rfl⟩ fun hp => ?_
    cases hp
    cases hf with
    | kernel hq => obtain ⟨d, hd⟩ := hq; cases hd
  | shutdown =>
    refine iff_of_true rfl fun hp => ?_
    cases hp
    cases hf with
    | kernel hq => obtain ⟨d, n, hd⟩ := hq; cases hd
  | interrupt => exact iff_of_false (silent rfl) (not_not_intro .interrupt)
  | restart | crashed => exact iff_of_false (silent rfl) (not_not_intro .restart)
  | connect => exact iff_of_false (silent rfl) (not_not_intro .connect)

/-! ## What a command has been told so far -/

/-- The command has passed this question on, and was told that there is none. -/
def Told (k : Command) (xs : List Exchange) (q : Request) (what : String) : Prop :=
  k.Forwards q ∧ ∃ side, (side, q, .refused (.notFound what)) ∈ xs

/-- The command has not been told so. -/
def Untold (k : Command) (xs : List Exchange) : Prop := ∀ q what, ¬ Told k xs q what

/-- The result is what the command has to give, after what it has been told. -/
def Settled (k : Command) (xs : List Exchange) (res : Result) : Prop :=
  ∀ q what, Told k xs q what → Missing what xs k q res

theorem untold_nil : Untold k [] := fun _ _ ⟨_, _, hm⟩ => nomatch hm

theorem untold_of_forwards (hk : ∀ q, ¬ k.Forwards q) : Untold k xs := fun q _ ht => hk q ht.1

theorem settled_of_untold (hu : Untold k xs) : Settled k xs res :=
  fun q what ht => absurd ht (hu q what)

/-- Only the last answer can tell, if none did before. -/
theorem of_told_snoc {q' : Request} (hu : Untold k xs)
    (ht : Told k (xs ++ [(side, q, a)]) q' what) :
    q' = q ∧ k.Forwards q ∧ a = .refused (.notFound what) := by
  obtain ⟨hf, x, hm⟩ := ht
  rcases List.mem_append.1 hm with hm | hm
  · exact absurd ⟨hf, x, hm⟩ (hu q' what)
  · cases List.mem_singleton.1 hm
    exact ⟨rfl, hf, rfl⟩

theorem untold_snoc (hu : Untold k xs) (ha : k.Forwards q → ∀ what, a ≠ .refused (.notFound what)) :
    Untold k (xs ++ [(side, q, a)]) := fun q' what ht => by
  obtain ⟨rfl, hf, he⟩ := of_told_snoc hu ht
  exact ha hf what he

theorem settled_snoc (hu : Untold k xs) (ha : ∀ what, k.Forwards q → a = .refused (.notFound what) →
    Missing what (xs ++ [(side, q, a)]) k q res) : Settled k (xs ++ [(side, q, a)]) res :=
  fun q' what ht => by
    obtain ⟨rfl, hf, he⟩ := of_told_snoc hu ht
    exact ha what hf he

theorem ne_notFound {e : HostError} (he : e.isNotFound = false) (what : String) :
    Answer.refused e ≠ .refused (.notFound what) := by
  rintro ⟨⟩
  cases he

/-- Questions that are the hub's own. -/
theorem not_forwards_specs : ¬ k.Forwards .specs := by
  rintro ⟨⟩
  next job hq => cases job <;> simp [Job.Poses] at hq

/-! ## Work -/

/-- The command has given a record of this id this job, and what follows it. -/
inductive Command.Assigns : Command → KernelId → Job → Call.After → Prop
  | start {asked o fresh id after} : Assigns (.start asked o fresh) id (.start o) after
  | kernel {id job} (hj : ∀ o, job ≠ .start o) :
    Assigns (.kernel id job) id job (Call.afterJob id job)

namespace Work

variable {h h' : Hub} {w w' : Work} {r : Record} {after : Call.After}

/-- What is settled in a phase. -/
def Phase.Minds (k : Command) (xs : List Exchange) : Phase → Prop
  | .probing _ e => ∀ q what, Told k xs q what → e = .notFound what
  | .unmapping | .unbinding => True
  | .settling _ res | .releasing res | .ended res => Settled k xs res
  | _ => Untold k xs

/-- How work stands that a command has ordered. -/
structure Minds (h : Hub) (k : Command) (xs : List Exchange) (w : Work) (after : Call.After) :
    Prop where
  assigned : ∃ r, h.record? w.place = some r ∧ k.Assigns r.id w.job after
  phase : w.phase.Minds k xs

theorem minds_enter {job : Job} {s : Option KernelState} {p : Phase} (hu : Untold k xs)
    (he : Entry h r job s p) : p.Minds k xs := by
  cases he with
  | began | asked => exact hu
  | refused | homeless | gone => exact settled_of_untold hu

theorem minds_step (hm : w.Minds h k xs after)
    (hty : ∀ r, h.record? w.place = some r → w.phase.Typed r.id w.job)
    (hs : w.step? h = some (h', w')) : w'.Minds h' k xs after := by
  obtain ⟨r, hr, ht⟩ := turn_of_step? hs
  obtain ⟨⟨r₀, hr₀, hk⟩, hp⟩ := hm
  cases hr.symm.trans hr₀
  have hf := frame_turn hr ht
  obtain ⟨r', hr', hid, -⟩ := hf.record
  refine ⟨⟨r', hf.place ▸ hr', hid ▸ hf.job ▸ hk⟩, ?_⟩
  have hty := hty r hr
  cases ht with
  | enter hb he => rw [hb] at hp; exact minds_enter hp he
  | take hb | map hb => rw [hb] at hp; exact hp
  | bind hb => rw [hb] at hp; exact settled_of_untold hp
  | unmap => trivial
  | unbind hb =>
    rw [hb] at hty
    obtain ⟨now, hj⟩ := hty
    rw [hj] at hk
    cases hk
    exact fun _ _ _ => .shutdown
  | settle hb | release hb => rw [hb] at hp; exact hp

/-- What the answer to the job's own question settles. -/
theorem minds_replied {job : Job} {p : Phase} (hk : k.Assigns r.id job after)
    (hq : ∀ o, job = .start o → q = .start r.name o) (hu : Untold k xs)
    (hr : Replied r side job q a p) : p.Minds k (xs ++ [(side, q, a)]) := by
  -- An answer of another kind tells nothing.
  have quiet (hn : ∀ what, a ≠ .refused (.notFound what)) : Untold k (xs ++ [(side, q, a)]) :=
    untold_snoc hu fun _ => hn
  cases hr with
  | crashed | interrupted | restarted | described => exact settled_of_untold (quiet nofun)
  | started => exact quiet nofun
  | unknown =>
    refine settled_snoc hu fun _ _ _ => ?_
    rw [hq _ rfl]
    cases hk with
    | start => exact .start
    | kernel hj => exact absurd rfl (hj _)
  | unstarted he | unstopped he | undescribed he =>
    exact settled_of_untold (quiet (ne_notFound he))
  | stopped | gone => trivial
  | uninterrupted =>
    refine settled_snoc hu fun _ _ he => ?_
    cases he
    cases hk
    exact .interrupt
  | unrestarted =>
    intro q' what ht
    obtain ⟨-, -, he⟩ := of_told_snoc hu ht
    cases he
    rfl
  | missing =>
    cases hk
    exact settled_snoc hu fun _ _ _ => .model

/-- What the look after a failed restart is told changes nothing but by a crash. -/
theorem minds_probed {e : HostError} {d : String} {p : Phase} {now : Bool}
    (hk : k = .kernel r.id (.restart now)) (he : ∀ q what, Told k xs q what → e = .notFound what)
    (hp : Probed r e a p) : p.Minds k (xs ++ [(side, .model d, a)]) := by
  subst hk
  have before {q : Request} {what : String}
      (ht : Told (.kernel r.id (.restart now)) (xs ++ [(side, .model d, a)]) q what) :
      Told (.kernel r.id (.restart now)) xs q what := by
    obtain ⟨hf, x, hm⟩ := ht
    refine ⟨hf, x, (List.mem_append.1 hm).resolve_right fun hm => ?_⟩
    cases List.mem_singleton.1 hm
    cases hf with
    | kernel hq => obtain ⟨d', n, hd⟩ := hq; cases hd
  have failed : Settled (.kernel r.id (.restart now)) (xs ++ [(side, .model d, a)])
      (.error (.operationFailed r.id .restart e)) := by
    intro q what ht
    rw [he q what (before ht)]
    exact .restart
  cases hp with
  | crashed => exact fun _ _ _ => .crashed (List.mem_append_right _ List.mem_cons_self)
  | lost | unseen | seen => exact failed

theorem minds_answered (hm : w.Minds h k xs after)
    (hty : ∀ r, h.record? w.place = some r → w.phase.Typed r.id w.job)
    (hfit : ∀ r, h.record? w.place = some r → w.phase.Fits h r w.job)
    (hq : w.request? = some (side, q)) (hs : w.answered? h a = some w') :
    w'.Minds h k (xs ++ [(side, q, a)]) after := by
  obtain ⟨r, p, hr, hx, rfl⟩ := reaction_of_answered? hs
  obtain ⟨⟨r₀, hr₀, hk⟩, hp⟩ := hm
  cases hr.symm.trans hr₀
  have hty := hty r hr
  have hfit := hfit r hr
  obtain ⟨job, place, phase⟩ := w
  simp only at hk hp hty hfit hx
  refine ⟨⟨r, hr, hk⟩, ?_⟩
  cases hx with
  | replied hx =>
    cases hq
    refine minds_replied hk (fun o hj => ?_) hp hx
    rcases hfit with ⟨o', hj', hq, -⟩ | ⟨b, s, -, -, hask⟩
    · cases hj.symm.trans hj'
      exact hq
    · rw [hj] at hask
      cases hask
  | probed hx =>
    cases hq
    obtain ⟨now, rfl⟩ := hty
    cases hk
    exact minds_probed rfl hp hx

end Work

namespace Call

variable {h h' : Hub} {c c' : Call} {id : KernelId}

/-- Is the merge made for this command? -/
def Goal.For (k : Command) : Goal → Prop
  | .types => k = .types
  | .start _ o fresh => ∃ asked, k = .start asked o fresh

/-- What holds at the end of a command: its result is settled, and the id of a kernel that was
shut down is retired. -/
def Concluded (h : Hub) (k : Command) (xs : List Exchange) (res : Result) : Prop :=
  Settled k xs res ∧
    ∀ id now o, k = .kernel id (.shutdown now) → res = .ok o → id ∈ h.retired

/-- How a call stands that a command has begun. -/
def Minds (h : Hub) (k : Command) (xs : List Exchange) : Call → Prop
  | asked c => c = k ∧ k.offered = true ∧ xs = []
  | naming o fresh | checking _ o fresh | registering _ o fresh =>
    (∃ asked, k = .start asked o fresh) ∧ Untold k xs
  | mergingHome goal | mergedHome goal _ | mergingRemote goal _ | merged goal _ _ =>
    goal.For k ∧ Untold k xs
  | describing name _ _ => k = .type name ∧ Untold k xs
  | defaulting => k = .defaultName
  | seeking id job => k = .kernel id job ∧ (∀ o, job ≠ .start o) ∧ Untold k xs
  | working w after => w.Minds h k xs after
  | dropping _ e => (∃ asked o fresh, k = .start asked o fresh) ∧ Settled k xs (.error e)
  | retiring id => ∃ now, k = .kernel id (.shutdown now)
  | leaving id => (∃ now, k = .kernel id (.shutdown now)) ∧ id ∈ h.retired
  | listing .. | listed .. => k = .list
  | activating _ => False
  | opening s connect => k = .openSession s.kernel s.session ∧ connect = true ∧ Untold k xs
  | connecting s _ => k = .openSession s.kernel s.session ∧ Untold k xs
  | ended res => Concluded h k xs res

theorem concluded_error {e : KernelError} (hs : Settled k xs (.error e)) :
    Concluded h k xs (.error e) := ⟨hs, fun _ _ _ _ he => nomatch he⟩

theorem concluded_other (hs : Settled k xs res) (hk : ∀ id now, k ≠ .kernel id (.shutdown now)) :
    Concluded h k xs res := ⟨hs, fun id now _ he => absurd he (hk id now)⟩

theorem forwards_none (hk : k = .types ∨ k = .defaultName ∨ k = .list) (q : Request) :
    ¬ k.Forwards q := by
  rintro hf
  rcases hk with rfl | rfl | rfl <;> cases hf

theorem minds_begun (hk : k.offered = true) (hb : Begun h k c) : c.Minds h k [] := by
  cases hb with
  | types | typed => exact ⟨rfl, untold_nil⟩
  | untyped | closed => exact concluded_error (settled_of_untold untold_nil)
  | default => exact concluded_other (settled_of_untold untold_nil) (by simp)
  | defaulting | list => exact rfl
  | named | byDefault | nameless => exact ⟨⟨_, rfl⟩, untold_nil⟩
  | gone hi =>
    refine ⟨settled_of_untold untold_nil, fun _ _ _ he _ => ?_⟩
    cases he
    exact hi
  | sought =>
    refine ⟨rfl, ?_, untold_nil⟩
    rintro o rfl
    cases hk
  | opening => exact ⟨rfl, rfl, untold_nil⟩
  | record | inactive | activating | unopened | openingRecord => cases hk

/-- What follows work that is over: a shutdown that succeeds is going to retire its id. -/
theorem minds_follow {after : After} {job : Job} (hk : k.Assigns id job after)
    (ha : Suits id job after) (hs : Settled k xs res) : (follow res after).Minds h k xs := by
  cases hk with
  | @start asked o fresh =>
    cases ha with
    | start =>
      cases res with
      | ok => exact concluded_other hs nofun
      | error => exact ⟨⟨_, _, _, rfl⟩, hs⟩
    | other _ hn => exact absurd rfl (hn o)
  | kernel hj =>
    cases job with
    | start o => exact absurd rfl (hj o)
    | shutdown now =>
      cases res with
      | ok => exact ⟨now, rfl⟩
      | error => exact concluded_error hs
    | interrupt | restart | model => exact concluded_other hs nofun

theorem minds_step (hm : c.Minds h k xs) (hs : c.step? h = some (h', c'))
    (hreg : ∀ id p, Table.find? id h.registry = some p → ∃ r, h.record? p = some r ∧ r.id = id)
    (hsuit : ∀ w after r, c = working w after → h.record? w.place = some r →
      Suits r.id w.job after ∧ w.phase.Typed r.id w.job) : c'.Minds h' k xs := by
  cases advance_of_step? hs with
  | begun hb =>
    obtain ⟨rfl, ho, rfl⟩ := hm
    exact minds_begun ho hb
  | known | unknown | both | alone | learnt | halfway => exact hm
  | published =>
    obtain ⟨hg, hu⟩ := hm
    exact concluded_other (settled_of_untold hu) (by rintro _ _ rfl; cases hg)
  | held => exact concluded_error (settled_of_untold hm.2)
  | registered hr =>
    obtain ⟨⟨asked, rfl⟩, hu⟩ := hm
    obtain ⟨-, -, rfl, rfl⟩ := Hub.register?_eq_some hr
    exact ⟨⟨_, (Hub.record?_enroll ..).trans (if_pos rfl), .start⟩, hu⟩
  | unfound => exact concluded_error (settled_of_untold hm.2.2)
  | found hf =>
    obtain ⟨rfl, hj, hu⟩ := hm
    obtain ⟨r, hr, rfl⟩ := hreg _ _ hf
    exact ⟨⟨r, hr, .kernel hj⟩, hu⟩
  | @worked w after _ _ hw =>
    exact Work.minds_step hm (fun r hr => (hsuit w after r rfl hr).2) hw
  | @followed w after res hp =>
    obtain ⟨⟨r, hr, hk⟩, hph⟩ := hm
    rw [hp] at hph
    exact minds_follow hk (hsuit w after r rfl hr).1 hph
  | dropped => exact concluded_error hm.2
  | retired => exact ⟨hm, Hub.mem_retire_self h _⟩
  | left =>
    obtain ⟨⟨now, rfl⟩, hi⟩ := hm
    refine ⟨fun _ _ _ => .shutdown, fun _ _ _ he _ => ?_⟩
    cases he
    exact hi
  | listed =>
    have hk : k = .list := hm
    exact concluded_other (settled_of_untold (untold_of_forwards
      (forwards_none (.inr (.inr hk))))) (by rintro _ _ rfl; cases hk)

/-- A call that waits, and not for its work, has been told nothing. -/
theorem untold_of_minds (hm : c.Minds h k xs) (hq : c.request?.isSome = true)
    (hw : ∀ w after, c ≠ working w after) : Untold k xs := by
  cases c with
  | working w after => exact absurd rfl (hw w after)
  | naming | mergingHome | mergingRemote | describing | connecting => exact hm.2
  | opening => exact hm.2.2
  | defaulting => exact untold_of_forwards (forwards_none (.inr (.inl hm)))
  | listing => exact untold_of_forwards (forwards_none (.inr (.inr hm)))
  | activating => exact hm.elim
  | _ => cases hq

/-- What the answer to a call's question settles. -/
theorem minds_answered (hm : c.Minds h k xs) (hq : c.request? = some (side, q))
    (hs : c.answered? h a = some c')
    (hwork : ∀ w after r, c = working w after → h.record? w.place = some r →
      w.phase.Typed r.id w.job ∧ w.phase.Fits h r w.job) :
    c'.Minds h k (xs ++ [(side, q, a)]) := by
  -- An answer to a question of the hub's own, or of another kind, tells nothing.
  have own (hu : Untold k xs) (hf : ¬ k.Forwards q) : Untold k (xs ++ [(side, q, a)]) :=
    untold_snoc hu fun h => absurd h hf
  have quiet (hu : Untold k xs) (hn : ∀ what, a ≠ .refused (.notFound what)) :
      Untold k (xs ++ [(side, q, a)]) := untold_snoc hu fun _ => hn
  have failed {e : KernelError} (hu : Untold k (xs ++ [(side, q, a)])) :
      Concluded h k (xs ++ [(side, q, a)]) (.error e) := concluded_error (settled_of_untold hu)
  cases reaction_of_answered? hs with
  | crashed hw => exact failed (quiet (untold_of_minds hm (by rw [hq]; rfl) hw) (by simp))
  | @heard w after _ _ hw =>
    exact Work.minds_answered hm (fun r hr => (hwork w after r rfl hr).1)
      (fun r hr => (hwork w after r rfl hr).2) hq hw
  | named | home | remote | leftOut =>
    cases hq
    exact ⟨hm.1, own hm.2 not_forwards_specs⟩
  | nameless | unnamed | homeless =>
    cases hq
    exact failed (own hm.2 not_forwards_specs)
  | described =>
    obtain ⟨rfl, hu⟩ := hm
    exact concluded_other (settled_of_untold (quiet hu (by simp))) (by simp)
  | missing =>
    obtain ⟨rfl, hu⟩ := hm
    cases hq
    exact concluded_error (settled_snoc hu fun _ _ _ => .type)
  | undescribed he => exact failed (quiet hm.2 (ne_notFound he))
  | default =>
    have hk : k = .defaultName := hm
    exact concluded_other (settled_of_untold (untold_of_forwards
      (forwards_none (.inr (.inl hk))))) (by rintro _ _ rfl; cases hk)
  | undefaulted => exact failed (untold_of_forwards (forwards_none (.inr (.inl hm))))
  | listed | skipped => exact hm
  | unlisted => exact failed (untold_of_forwards (forwards_none (.inr (.inr hm))))
  | active => exact hm.elim
  | opened => cases hm.2.1
  | connecting => exact ⟨hm.1, quiet hm.2.2 (by simp)⟩
  | gone =>
    obtain ⟨rfl, -, hu⟩ := hm
    cases hq
    exact concluded_error (settled_snoc hu fun _ _ _ => .openChannel)
  | unopened he => exact failed (quiet hm.2.2 (ne_notFound he))
  | connected =>
    obtain ⟨rfl, hu⟩ := hm
    exact concluded_other (settled_of_untold (quiet hu (by simp))) (by simp)
  | unconnected =>
    obtain ⟨rfl, hu⟩ := hm
    cases hq
    refine concluded_error (settled_snoc hu fun what _ he => ?_)
    cases he
    exact .connect

/-- Nothing else that happens on the hub changes how a call stands. -/
theorem minds_others (hm : c.Minds h k xs)
    (hrec : ∀ p r, h.record? p = some r → ∃ r', h'.record? p = some r' ∧ r'.id = r.id)
    (hret : ∀ id, id ∈ h.retired → id ∈ h'.retired) : c.Minds h' k xs := by
  cases c with
  | working w after =>
    obtain ⟨⟨r, hr, hk⟩, hp⟩ := hm
    obtain ⟨r', hr', hid⟩ := hrec _ r hr
    exact ⟨⟨r', hr', hid ▸ hk⟩, hp⟩
  | leaving id => exact ⟨hm.1, hret id hm.2⟩
  | ended res => exact ⟨hm.1, fun id now o hk he => hret id (hm.2 id now o hk he)⟩
  | _ => exact hm

end Call

namespace Traffic

variable {h : Hub} {es : List Event} {t : Traffic} {i : Nat} {c : Call}

/-- Each call in a run stands as its command has it. -/
theorem minds_of_run (hu : h.Unused) (hr : run? ⟨h, []⟩ es = some t)
    (hk : (commands es)[i]? = some k) (hc : t.calls[i]? = some c) :
    c.Minds t.hub k (exchanges i ⟨h, []⟩ es) := by
  refine along_run (P := fun u k xs c => c.Minds u k xs) (fun u k ho => ⟨rfl, ho, rfl⟩)
    (fun fs u i c k xs h' c' hr hc hs hm => ?_) (fun fs u i c k xs side q a c' hr hc hq hs hm => ?_)
    (fun fs u e u' k xs c hr hn hm => ?_) hr hk hc
  · have hp := placed_of_reachable ⟨h, fs, hu, hr⟩
    refine Call.minds_step hm hs hp.registered fun w after r he hrec => ?_
    subst he
    exact hp.suits hc hrec
  · have hp := placed_of_reachable ⟨h, fs, hu, hr⟩
    refine Call.minds_answered hm hq hs fun w after r he hrec => ?_
    subst he
    exact ⟨(hp.suits hc hrec).2, (guarded_of_reachable ⟨h, fs, hu, hr⟩).fits i w after r hc hrec⟩
  · have hs := shift_of_reachable ⟨h, fs, hu, hr⟩ hn
    refine Call.minds_others hm (fun p r hrec => ?_) fun id hi => (retired_shift hs hi).1
    obtain ⟨r', hr', hid, -⟩ := record?_shift hs hrec
    exact ⟨r', hr', hid⟩

/-- What a call comes to by itself it also comes to on a busy hub, by events of its own. -/
theorem run_of_leads {c' : Call} {h' : Hub} {xs : List Exchange} (hc : t.calls[i]? = some c)
    (hl : c.Leads t.hub xs h' c') : ∃ fs, run? t fs = some ⟨h', t.calls.set i c'⟩ ∧
      (∀ e ∈ fs, e.Of i) ∧ answers i fs = xs.map (·.2.2) := by
  obtain ⟨hub, calls⟩ := t
  simp only at hc hl
  induction hl generalizing calls with
  | @refl h c =>
    obtain ⟨hi, rfl⟩ := List.getElem?_eq_some_iff.1 hc
    rw [List.set_getElem_self]
    exact ⟨[], rfl, List.forall_mem_nil _, rfl⟩
  | @step h c h₁ c₁ xs h' c' hs _ ih =>
    obtain ⟨fs, hr, ho, ha⟩ := ih (calls.set i c₁) (set_call_self hc _)
    refine ⟨.step i :: fs, ?_, List.forall_mem_cons.2 ⟨rfl, ho⟩, ha⟩
    rw [List.set_set] at hr
    simpa [run?, next?, hc, hs] using hr
  | @answer h c c₁ side q a xs h' c' hq _ hs _ ih =>
    obtain ⟨fs, hr, ho, ha⟩ := ih (calls.set i c₁) (set_call_self hc _)
    refine ⟨.answer i a :: fs, ?_, List.forall_mem_cons.2 ⟨rfl, ho⟩, ?_⟩
    · rw [List.set_set] at hr
      simpa [run?, next?, hc, hq, hs] using hr
    · simpa [answers] using ha

/-- Hosts may always refuse what is passed on to them. -/
theorem fits_refused (hf : k.Forwards q) (e : HostError) : q.Fits (.refused e) = true := by
  cases hf with
  | @kernel id job _ hq =>
    cases job with
    | start => obtain ⟨_, _, rfl⟩ := hq; rfl
    | shutdown | restart => obtain ⟨_, _, rfl⟩ := hq; rfl
    | interrupt | model => obtain ⟨_, rfl⟩ := hq; rfl
  | _ => rfl

/-- A call that is told that there is none has all that it needs to come to its end. -/
theorem ready_of_refused {c' : Call} (ht : t.Reachable) (hc : t.calls[i]? = some c)
    (hm : c.Minds t.hub k xs) (hq : c.request? = some (side, q)) (hf : k.Forwards q)
    (hs : c.answered? t.hub (.refused (.notFound what)) = some c') : c'.Ready t.hub := by
  have hi : c.request?.isSome = true := by rw [hq]; rfl
  cases c with
  | working w after => exact Call.ready_answered (ready_of_request? ht hc hi) hi hs
  | naming | mergingHome | mergingRemote => cases hq; exact absurd hf not_forwards_specs
  | defaulting => exact absurd hf (Call.forwards_none (.inr (.inl hm)) q)
  | listing => exact absurd hf (Call.forwards_none (.inr (.inr hm)) q)
  | activating => exact hm.elim
  | describing | opening | connecting => cases hs; trivial
  | _ => cases hq

/-- What comes of the answer that there is no such kernel or type. -/
structure Misses (h : Hub) (es : List Event) (t : Traffic) : Prop where
  /-- Whoever is told so comes to an end with nothing but steps of its own, and what it is told
  when it looks after a failed restart, -/
  ends : ∀ (i : Nat) k side q what (hosts : Hosts), hosts.Fitting → (commands es)[i]? = some k →
    t.asked? i = some (side, q) → k.Forwards q → ∃ xs fs t' res, hosts.Say [] xs ∧
      run? t (.answer i (.refused (.notFound what)) :: fs) = some t' ∧ (∀ e ∈ fs, e.Of i) ∧
      answers i fs = xs.map (·.2.2) ∧ t'.calls[i]? = some (.ended res)
  /-- and gives this, by the name that its caller knows. -/
  given : ∀ (i : Nat) k res side q what, (commands es)[i]? = some k →
    t.calls[i]? = some (.ended res) → k.Forwards q →
    (side, q, .refused (.notFound what)) ∈ exchanges i ⟨h, []⟩ es →
    Missing what (exchanges i ⟨h, []⟩ es) k q res
  /-- That says that there is none exactly if the answer is not one that is passed on. -/
  tells : ∀ (i : Nat) k res side q what, (commands es)[i]? = some k →
    t.calls[i]? = some (.ended res) → k.Forwards q →
    (side, q, .refused (.notFound what)) ∈ exchanges i ⟨h, []⟩ es →
    (k.Tells res ↔ ¬ PassedOn k q)
  /-- The id of a kernel that was shut down is retired, whatever its host said. -/
  retires : ∀ (i : Nat) id now o, (commands es)[i]? = some (.kernel id (.shutdown now)) →
    t.calls[i]? = some (.ended (.ok o)) → id ∈ t.hub.retired

/-- However busy the hub is, and whichever host it is that does not know the kernel or type. -/
theorem misses_of_run (hu : h.Unused) (hr : run? ⟨h, []⟩ es = some t) : Misses h es t := by
  have given (i : Nat) (k : Command) (res : Result) (side : Side) (q : Request) (what : String)
      (hk : (commands es)[i]? = some k) (hc : t.calls[i]? = some (.ended res)) (hf : k.Forwards q)
      (hx : (side, q, .refused (.notFound what)) ∈ exchanges i ⟨h, []⟩ es) :
      Missing what (exchanges i ⟨h, []⟩ es) k q res :=
    (minds_of_run hu hr hk hc).1 q what ⟨hf, side, hx⟩
  refine ⟨fun i k side q what hosts hh hk ha hf => ?_, given,
    fun i k res side q what hk hc hf hx => (given i k res side q what hk hc hf hx).tells_iff hf,
    fun i id now o hk hc => (minds_of_run hu hr hk hc).2 id now o rfl rfl⟩
  have ht : t.Reachable := ⟨h, es, hu, hr⟩
  obtain ⟨c, hc, hq⟩ := Option.bind_eq_some_iff.1 ha
  obtain ⟨t₁, hn⟩ := Option.isSome_iff_exists.1
    (answer_of_fits ht hc hq (fits_refused hf (.notFound what)))
  obtain ⟨c₀, side₀, q₀, c', hc₀, -, hs, rfl, -⟩ := exchange?_answer hn
  cases hc.symm.trans hc₀
  have hready := ready_of_refused ht hc (minds_of_run hu hr hk hc) hq hf hs
  obtain ⟨xs, h', res, hl, hsay⟩ := Call.comes_to_end hh hready []
  obtain ⟨fs, hfs, ho, has⟩ := run_of_leads (t := { t with calls := t.calls.set i c' })
    (set_call_self hc c') hl
  rw [List.set_set] at hfs
  refine ⟨xs, fs, ⟨h', t.calls.set i (.ended res)⟩, res, hsay, ?_, ho, has, set_call_self hc _⟩
  simp only [run?, hn, Option.bind_some]
  exact hfs

/-- A kernel is started, and its host has lost it when the job asks for it. -/
def askedForLost (job : Job) : List Event :=
  [.ask (.start (some "python3") {} .zero), .step 0, .step 0, .step 0, .step 0, .step 0,
    .answer 0 (.started "k"), .step 0, .step 0, .step 0, .step 0, .step 0,
    .ask (.kernel .zero job), .step 1, .step 1, .step 1, .step 1,
    .answer 1 (.refused (.notFound "kernel k"))]

/-- Whoever wants its model hears that there is no such kernel. -/
theorem misses_askedModel : ∃ t,
    run? ⟨pythonHub, []⟩ (askedForLost .model ++ [.step 1, .step 1]) = some t ∧
      Misses pythonHub (askedForLost .model ++ [.step 1, .step 1]) t ∧
      t.calls[1]? = some (.ended (.error (.kernelNotFound .zero))) := by
  have key {t : Traffic}
      (hr : run? ⟨pythonHub, []⟩ (askedForLost .model ++ [.step 1, .step 1]) = some t) :
      Misses pythonHub (askedForLost .model ++ [.step 1, .step 1]) t :=
    misses_of_run pythonHub_unused hr
  exact ⟨_, rfl, key rfl, rfl⟩

/-- Whoever interrupts it hears of an operation that failed. -/
theorem interrupt_silent_of_lost : pythonHub.Unused ∧ ∃ t,
    run? ⟨pythonHub, []⟩ (askedForLost .interrupt ++ [.step 1, .step 1, .step 1]) = some t ∧
      exchanges 1 ⟨pythonHub, []⟩ (askedForLost .interrupt ++ [.step 1, .step 1, .step 1]) =
        [(.home, .interrupt "k", .refused (.notFound "kernel k"))] ∧
      ∃ e, t.calls[1]? = some (.ended (.error e)) ∧ e.isNotFound = false :=
  ⟨pythonHub_unused, _, rfl, rfl, _, rfl, rfl⟩

end Traffic

end KernelHub
