import KernelHub.Memory.Host
import KernelHub.Proofs.Table
import KernelHub.Proofs.Uuid
import KernelHub.Proofs.Work

/-
Which kernels a host in memory has. Only the end of a start adds one and only the end of a
shutdown takes one away; all else leaves the host's table as it is.
-/

namespace KernelHub.Memory

/-- Is it the flight of a call that asks this? -/
def Flight.Of : Request → Flight → Prop
  | .specs, .specs => True
  | .start name o, .start name' o' => name' = name ∧ o' = o
  | .shutdown d _, .shutdown d' _ => d' = d
  | .interrupt _, .interrupt _ => True
  | .restart .., .restart _ => True
  | _, _ => False

namespace Host

variable {h : Host} {now : Instant} {fresh : Uuid}

/-- The two have the same kernels, and are of one side. -/
def Keeps (h h' : Host) : Prop := h'.live = h.live ∧ h'.side = h.side

theorem keeps_refl (h : Host) : h.Keeps h := ⟨rfl, rfl⟩

theorem enter_spec (h : Host) (op id : String) :
    (∃ e, h.enter op id = .error e ∧ (e.isNotFound = true → Table.find? id h.live = none)) ∨
    ∃ h' k, h.enter op id = .ok (h', k) ∧ h.Keeps h' := by
  cases ha : h.available with
  | false => exact .inl ⟨.unavailable _, by simp [enter, checkAvailable, ha]; rfl, nofun⟩
  | true =>
    cases hf : h.failing with
    | true =>
      exact .inl ⟨.failed _, by simp [enter, checkAvailable, checkWilling, ha, hf]; rfl, nofun⟩
    | false =>
      cases hk : Table.find? id h.live with
      | none =>
        exact .inl ⟨_, by simp [enter, checkAvailable, checkWilling, find, ha, hf, hk]; rfl,
          fun _ => rfl⟩
      | some k =>
        refine .inr ⟨_, _, by simp [enter, checkAvailable, checkWilling, find, ha, hf, hk]; rfl, ?_⟩
        split <;> exact ⟨rfl, rfl⟩

theorem accepted_spec (h : Host) (op id : String) (onKernel : Kernel → Kernel)
    (flight : Nat → Flight) :
    h.Keeps (h.accepted op id onKernel flight).1 ∧
      ((∃ k, (h.accepted op id onKernel flight).2 = .inr (flight k)) ∨
        ∃ e, (h.accepted op id onKernel flight).2 = .inl (.refused e) ∧
          (e.isNotFound = true → Table.find? id h.live = none)) := by
  rcases enter_spec h op id with ⟨e, he, hn⟩ | ⟨h', k, he, hk⟩
  · simp only [accepted, he]
    exact ⟨keeps_refl h, .inr ⟨e, rfl, hn⟩⟩
  · simp only [accepted, he]
    exact ⟨hk, .inl ⟨k, rfl⟩⟩

/-- Taking a call leaves the host with the kernels it has. -/
theorem keeps_accept (h : Host) (now : Instant) (q : Request) : h.Keeps (h.accept now q).1 := by
  cases q with
  | shutdown | interrupt | restart => exact (accepted_spec h ..).1
  | openChannel =>
    simp only [accept]
    split <;> exact keeps_refl h
  | _ => exact keeps_refl h

theorem of_accept {q : Request} {f : Flight} (hf : (h.accept now q).2 = .inr f) : f.Of q := by
  cases q with
  | specs =>
    cases hf
    trivial
  | start =>
    cases hf
    exact ⟨rfl, rfl⟩
  | shutdown | interrupt | restart =>
    rcases (accepted_spec h _ _ _ _).2 with ⟨k, hk⟩ | ⟨e, he, -⟩
    · cases hk.symm.trans hf
      first | rfl | trivial
    · cases he.symm.trans hf
  | openChannel =>
    simp only [accept] at hf
    split at hf <;> cases hf
  | _ => cases hf

/-- A start is never answered at once. -/
theorem not_answered_start {name : String} {o : StartOptions} {a : Answer} :
    (h.accept now (.start name o)).2 ≠ .inl a := nofun

/-- A shutdown is answered at once only to refuse it: because the host has no such kernel, or
because it does not take the call. -/
theorem answered_shutdown {d : String} {n : Bool} {a : Answer}
    (ha : (h.accept now (.shutdown d n)).2 = .inl a) :
    ∃ e, a = .refused e ∧ (e.isNotFound = true → Table.find? d h.live = none) := by
  rcases (accepted_spec h _ _ _ _).2 with ⟨k, hk⟩ | ⟨e, he, hn⟩
  · cases hk.symm.trans ha
  · cases he.symm.trans ha
    exact ⟨e, rfl, hn⟩

/-- What is answered at once is an answer to the question. -/
theorem fits_accept {q : Request} {a : Answer} (ha : (h.accept now q).2 = .inl a)
    (hq : ∀ c b, q ≠ .connect c b) : q.Fits a = true := by
  have looked {α : Type} {f : α → Answer} {x : Except HostError α} (hr : ∀ e, q.Fits (.refused e))
      (hf : ∀ y, q.Fits (f y)) : q.Fits (looked f x) = true := by
    cases x with
    | error e => exact hr e
    | ok y => exact hf y
  cases q with
  | specs | start => cases ha
  | spec | model | list =>
    cases ha
    exact looked (fun _ => rfl) fun _ => rfl
  | has => cases ha; rfl
  | shutdown | interrupt | restart =>
    rcases (accepted_spec h _ _ _ _).2 with ⟨k, hk⟩ | ⟨e, he, -⟩
    · cases hk.symm.trans ha
    · cases he.symm.trans ha
      rfl
  | openChannel =>
    simp only [accept] at ha
    split at ha <;> cases ha <;> rfl
  | connect c b => exact absurd rfl (hq c b)

/-! ## What ends -/

/-- An id of the host's own making. -/
def made (side : Side) (fresh : Uuid) : String :=
  (match side with
    | .home => "local"
    | .remote => "gw") ++ "-" ++ toString fresh

theorem made_injective {side : Side} {u v : Uuid} (h : made side u = made side v) : u = v := by
  have hl : (toString u).toList = (toString v).toList := by
    have := congrArg String.toList h
    simpa [made, String.toList_append] using this
  exact Uuid.toString_injective (String.toList_injective hl)

/-- No id that clients know is one of a host's own making. -/
theorem toString_ne_made (id : KernelId) (side : Side) (u : Uuid) : toString id ≠ made side u := by
  intro h
  have hl := congrArg String.length h
  have h1 : (toString id).length = 36 := Uuid.length_toString id.uuid
  have h2 : (toString u).length = 36 := Uuid.length_toString u
  cases side <;> simp [made, String.length_append, h1, h2] at hl

theorem lead_eq (h : Host) (fresh : Uuid) :
    h.lead ++ "-" ++ toString fresh = made h.side fresh := by
  cases hs : h.side <;> simp [lead, made, hs]

theorem id_add (h : Host) (s : Spec) (o : StartOptions) (fresh : Uuid) (now : Instant) :
    o.id.map toString = some (h.add s o fresh now).2 ∨
      (h.add s o fresh now).2 = made h.side fresh := by
  simp only [add, lead_eq]
  cases hw : (o.id.map toString).filter fun id => !Table.contains id h.live with
  | none => exact .inr rfl
  | some d => exact .inl (Option.filter_eq_some_iff.1 hw).1

/-- The end of a start adds a kernel, under the id asked for or one of the host's own making,
or refuses it. -/
theorem finish_start {name : String} {o : StartOptions} {h' : Host} {a : Answer}
    (hf : h.finish now fresh (.start name o) = (h', a)) :
    (∃ e, a = .refused e ∧ h.Keeps h') ∨
    ∃ d n, a = .started d ∧ h'.live = Table.set d n h.live ∧ h'.side = h.side ∧
      (o.id.map toString = some d ∨ d = made h.side fresh) := by
  simp only [finish] at hf
  split at hf
  · next s _ =>
    cases hf
    exact .inr ⟨_, _, rfl, rfl, rfl, id_add h s o fresh now⟩
  · cases hf
    exact .inl ⟨_, rfl, keeps_refl h⟩

/-- The end of a shutdown takes the kernel away, if the host has it. -/
theorem finish_shutdown {d : String} {k : Nat} {h' : Host} {a : Answer}
    (hf : h.finish now fresh (.shutdown d k) = (h', a)) :
    Table.find? d h.live = none ∨
      a = .done ∧ h'.live = Table.erase d h.live ∧ h'.side = h.side := by
  cases hd : Table.find? d h.live with
  | none => exact .inl rfl
  | some dying =>
    simp only [finish, find, hd] at hf
    cases hf
    exact .inr ⟨rfl, rfl, rfl⟩

/-- The end of any other call leaves the host with the kernels it has. -/
theorem keeps_finish {q : Request} {f : Flight} (hq : f.Of q) (hn : ∀ name o, q ≠ .start name o)
    (hd : ∀ d now, q ≠ .shutdown d now) : h.Keeps (h.finish now fresh f).1 := by
  cases f with
  | start => cases q <;> first | exact absurd rfl (hn _ _) | cases hq
  | shutdown => cases q <;> first | exact absurd rfl (hd _ _) | cases hq
  | _ => exact ⟨rfl, rfl⟩

/-- What a call ends with is an answer to the question. -/
theorem fits_finish {q : Request} {f : Flight} (hf : f.Of q) (h : Host) (now : Instant)
    (fresh : Uuid) : q.Fits (h.finish now fresh f).2 = true := by
  cases f with
  | specs =>
    cases q with
    | specs =>
      simp only [finish]
      cases h.checkAvailable <;> rfl
    | _ => cases hf
  | start =>
    cases q with
    | start =>
      simp only [finish]
      split <;> rfl
    | _ => cases hf
  | shutdown =>
    cases q with
    | shutdown =>
      simp only [finish]
      split <;> rfl
    | _ => cases hf
  | interrupt | restart => cases q <;> first | exact absurd hf not_false | rfl

theorem side_finish (h : Host) (now : Instant) (fresh : Uuid) (f : Flight) :
    (h.finish now fresh f).1.side = h.side := by
  cases f with
  | start | shutdown =>
    simp only [finish]
    split <;> rfl
  | _ => rfl

end Host

/-- What can happen to a host besides the calls of a hub. -/
inductive Control
  | available (is : Bool)
  | failing (is : Bool)
  | delay (millis : Nat)
  | specs (offered : List Spec)
  | gate (isOpen : Bool)
  | connect (st : Kernel.Stamps) (channel lane : Nat) (listening : Bool)
  | send (st : Kernel.Stamps) (channel : Nat) (listening : Bool) (m : Message)
  | disconnect (channel : Nat)

def Control.apply (h : Host) : Control → Host
  | .available is => { h with available := is }
  | .failing is => { h with failing := is }
  | .delay millis => { h with delay := millis }
  | .specs offered => { h with specs := offered }
  | .gate isOpen => { h with gateOpen := isOpen }
  | .connect st channel lane listening => (h.connect st channel lane listening).1
  | .send st channel listening m => (h.send st channel listening m).1
  | .disconnect channel => h.disconnect channel

theorem Control.keeps_apply (h : Host) (c : Control) : h.Keeps (c.apply h) := by
  cases c with
  | connect =>
    simp only [apply, Host.connect]
    split
    · exact Host.keeps_refl h
    · split <;> exact ⟨rfl, rfl⟩
  | send =>
    simp only [apply, Host.send]
    split
    · exact Host.keeps_refl h
    · split <;> exact ⟨rfl, rfl⟩
  | disconnect =>
    simp only [apply, Host.disconnect]
    split
    · exact Host.keeps_refl h
    · split <;> exact ⟨rfl, rfl⟩
  | _ => exact ⟨rfl, rfl⟩

/-- Only one control changes what the host offers. -/
theorem Control.offer_apply (h : Host) {c : Control} (hc : ∀ offered, c ≠ .specs offered) :
    (c.apply h).specs = h.specs := by
  cases c with
  | specs offered => exact absurd rfl (hc offered)
  | connect | disconnect =>
    simp only [apply, Host.connect, Host.disconnect]
    split
    · rfl
    · split <;> rfl
  | send =>
    simp only [apply, Host.send]
    split
    · rfl
    · split <;> rfl
  | _ => rfl

end KernelHub.Memory
