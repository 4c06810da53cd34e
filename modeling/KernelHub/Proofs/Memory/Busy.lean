import KernelHub.Proofs.Memory

/-
Who is at work on the kernels of a host in memory. The host marks a kernel from the moment
it accepts an operation on it until it has ended that operation, and counts the operations
that it accepts on a kernel that is marked already. Nothing else sets or clears a mark, and
no kernel is ever found under another id than its first one.
-/

namespace KernelHub

/-- The kernel that an operation is asked on. -/
def Request.target? : Request → Option String
  | .shutdown d _ => some d
  | .interrupt d => some d
  | .restart d _ => some d
  | _ => none

namespace Memory

/-- The kernel that an accepted call is at work on. -/
def Flight.kernel? : Flight → Option Nat
  | .shutdown _ k => some k
  | .interrupt k => some k
  | .restart k => some k
  | _ => none

namespace Host

variable {h h' : Host} {now : Instant} {fresh : Uuid} {k : Nat}

/-- Is the kernel marked? -/
def busy (h : Host) (k : Nat) : Bool := (h.kernels[k]?.map (·.busy)).getD false

/-- What the host has, it has a place for, under one id. -/
structure Tidy (h : Host) : Prop where
  kept : ∀ d k, Table.find? d h.live = some k → k < h.kernels.length
  single : ∀ d d' k, Table.find? d h.live = some k → Table.find? d' h.live = some k → d' = d

/-- Kernels may have come and gone, but none under another id. -/
structure Renews (h h' : Host) : Prop where
  length : h.kernels.length ≤ h'.kernels.length
  live : ∀ d k, Table.find? d h'.live = some k → Table.find? d h.live = some k ∨
    h.kernels.length ≤ k ∧ k < h'.kernels.length ∧ ∀ d', Table.find? d' h'.live = some k → d' = d

theorem Renews.of_fewer (hl : h'.kernels.length = h.kernels.length)
    (hf : ∀ d k, Table.find? d h'.live = some k → Table.find? d h.live = some k) : h.Renews h' :=
  ⟨Nat.le_of_eq hl.symm, fun d k hd => .inl (hf d k hd)⟩

/-- An id under which a kernel is found that was there before is its id of before. -/
theorem Renews.old {d : String} (hr : h.Renews h') (hk : k < h.kernels.length)
    (hd : Table.find? d h'.live = some k) : Table.find? d h.live = some k := by
  rcases hr.live d k hd with hd | ⟨hle, -⟩
  · exact hd
  · omega

theorem Renews.tidy (hr : h.Renews h') (ht : h.Tidy) : h'.Tidy := by
  refine ⟨fun d k hd => ?_, fun d d' k hd hd' => ?_⟩
  · rcases hr.live d k hd with hd | ⟨-, hlt, -⟩
    · exact Nat.lt_of_lt_of_le (ht.kept d k hd) hr.length
    · exact hlt
  · rcases hr.live d k hd with hd | ⟨-, -, hall⟩
    · exact ht.single d d' k hd (hr.old (ht.kept d k hd) hd')
    · exact hall d' hd'

/-- No operation has been begun or ended. -/
structure Calm (h h' : Host) : Prop where
  renews : h.Renews h'
  busy : ∀ j, h'.busy j = h.busy j
  overlaps : h'.overlaps = h.overlaps

/-- An operation on a kernel has been begun. -/
structure Begins (h : Host) (k : Nat) (h' : Host) : Prop where
  renews : h.Renews h'
  busy : ∀ j, h'.busy j = true ↔ h.busy j = true ∨ j = k ∧ k < h.kernels.length
  overlaps : h'.overlaps = h.overlaps + if h.busy k then 1 else 0

/-- The operations on a kernel have been ended. -/
structure Ends (h : Host) (k : Nat) (h' : Host) : Prop where
  renews : h.Renews h'
  busy : ∀ j, h'.busy j = true ↔ h.busy j = true ∧ j ≠ k
  overlaps : h'.overlaps = h.overlaps

theorem calm_refl (h : Host) : h.Calm h := ⟨.of_fewer rfl fun _ _ hd => hd, fun _ => rfl, rfl⟩

theorem calm_of_kernels (hk : h'.kernels = h.kernels) (hl : h'.live = h.live)
    (ho : h'.overlaps = h.overlaps) : h.Calm h' :=
  ⟨.of_fewer (by rw [hk]) (by simp [hl]), by simp [Host.busy, hk], ho⟩

/-! ## Changing one kernel -/

theorem renews_editKernel (h : Host) (k : Nat) (f : Kernel → Kernel) :
    h.Renews (h.editKernel k f) :=
  .of_fewer (by simp [editKernel]) fun _ _ hd => hd

theorem busy_editKernel (h : Host) (k : Nat) (f : Kernel → Kernel) (j : Nat) :
    (h.editKernel k f).busy j =
      if k = j then ((h.kernels[j]?).map fun x => (f x).busy).getD false else h.busy j := by
  simp only [Host.busy, editKernel, List.getElem?_modify]
  split
  · simp [Option.map_map, Function.comp_def]
  · simp

/-- A change that leaves the mark as it is. -/
theorem calm_editKernel (h : Host) (k : Nat) {f : Kernel → Kernel}
    (hf : ∀ x, h.kernels[k]? = some x → (f x).busy = x.busy) : h.Calm (h.editKernel k f) := by
  refine ⟨renews_editKernel h k f, fun j => ?_, rfl⟩
  rw [busy_editKernel, Host.busy]
  split
  · next hk =>
    subst hk
    cases hx : h.kernels[k]? with
    | none => rfl
    | some x => exact hf x hx
  · rfl

theorem ends_leave (h : Host) (k : Nat) : h.Ends k (h.leave k) := by
  refine ⟨renews_editKernel h k _, fun j => ?_, rfl⟩
  rw [leave, busy_editKernel]
  split
  · next hk => cases h.kernels[j]? <;> simp [hk]
  · next hk => simp [Ne.symm hk]

/-! ## What is accepted, and what ends -/

/-- A kernel is marked; that it was marked already is counted. -/
theorem begins_mark (h : Host) (k : Nat) :
    h.Begins k (if h.busy k then
      { h.editKernel k (fun x => { x with busy := true }) with overlaps := h.overlaps + 1 }
      else h.editKernel k fun x => { x with busy := true }) := by
  have hr := renews_editKernel h k fun x => { x with busy := true }
  have hb (j : Nat) : (h.editKernel k fun x => { x with busy := true }).busy j = true ↔
      h.busy j = true ∨ j = k ∧ k < h.kernels.length := by
    rw [busy_editKernel]
    split
    · next hk =>
      subst hk
      cases hx : h.kernels[k]? with
      | none => simp [Host.busy, List.getElem?_eq_none_iff.1 hx]
      | some x => simp [(List.getElem?_eq_some_iff.1 hx).1]
    · next hk => simp [Ne.symm hk]
  cases hm : h.busy k with
  | true => exact ⟨⟨hr.length, hr.live⟩, hb, by simp [hm]⟩
  | false => exact ⟨hr, hb, by simp [hm, editKernel]⟩

/-- Entering an operation finds its kernel and marks it. -/
theorem begins_enter {op d : String} (he : h.enter op d = .ok (h', k)) :
    Table.find? d h.live = some k ∧ h.Begins k h' := by
  cases ha : h.available <;> cases hf : h.failing <;> cases hd : Table.find? d h.live <;>
    simp only [enter, checkAvailable, checkWilling, find, ha, hf, hd] at he
  case true.false.some k' =>
    cases he
    exact ⟨rfl, begins_mark h k⟩
  all_goals cases he

theorem accepted_begins (h : Host) (op d : String) {onKernel : Kernel → Kernel}
    (flight : Nat → Flight) (hb : ∀ x, (onKernel x).busy = x.busy) :
    ((h.accepted op d onKernel flight).1 = h ∧
        ∃ e, (h.accepted op d onKernel flight).2 = .inl (.refused e)) ∨
      ∃ k, Table.find? d h.live = some k ∧
        (h.accepted op d onKernel flight).2 = .inr (flight k) ∧
          h.Begins k (h.accepted op d onKernel flight).1 := by
  simp only [accepted]
  split
  · next h₁ k he =>
    obtain ⟨hd, hbe⟩ := begins_enter he
    have hc := calm_editKernel h₁ k fun x _ => hb x
    have hlen : h₁.kernels.length = (h₁.editKernel k onKernel).kernels.length := by
      simp [editKernel]
    refine .inr ⟨k, hd, rfl, ⟨hlen ▸ hbe.renews.length, fun d' j hj => ?_⟩, fun j => ?_, ?_⟩
    · rw [← hlen]
      exact hbe.renews.live d' j hj
    · rw [hc.busy]
      exact hbe.busy j
    · exact hc.overlaps.trans hbe.overlaps
  · exact .inl ⟨rfl, _, rfl⟩

/-- Taking a call leaves all marks as they are, or begins an operation on the kernel that the
host has under the id that is asked for. -/
theorem begins_accept (h : Host) (now : Instant) (q : Request) :
    (h.Calm (h.accept now q).1 ∧ ∀ f, (h.accept now q).2 = .inr f → f.kernel? = none) ∨
      ∃ d k f, q.target? = some d ∧ Table.find? d h.live = some k ∧
        (h.accept now q).2 = .inr f ∧ f.kernel? = some k ∧ h.Begins k (h.accept now q).1 := by
  have calm := calm_refl h
  -- An operation is refused, or begun.
  have begun {d op : String} {onKernel : Kernel → Kernel} {flight : Nat → Flight}
      (hq : q.target? = some d) (ha : h.accept now q = h.accepted op d onKernel flight)
      (hb : ∀ x, (onKernel x).busy = x.busy) (hf : ∀ k, (flight k).kernel? = some k) :
      (h.Calm (h.accept now q).1 ∧ ∀ f, (h.accept now q).2 = .inr f → f.kernel? = none) ∨
        ∃ d k f, q.target? = some d ∧ Table.find? d h.live = some k ∧
          (h.accept now q).2 = .inr f ∧ f.kernel? = some k ∧ h.Begins k (h.accept now q).1 := by
    rw [ha]
    rcases accepted_begins h op d flight hb with ⟨hh, e, he⟩ | ⟨k, hd, hi, hbe⟩
    · exact .inl ⟨hh.symm ▸ calm, fun f hf => by cases he.symm.trans hf⟩
    · exact .inr ⟨d, k, flight k, hq, hd, hi, hf k, hbe⟩
  cases q with
  | shutdown | interrupt | restart => exact begun rfl rfl (fun _ => rfl) fun _ => rfl
  | specs | start => exact .inl ⟨calm, fun f hf => by cases hf; rfl⟩
  | openChannel =>
    left
    simp only [accept]
    split
    · exact ⟨calm_of_kernels rfl rfl rfl, fun f hf => by cases hf⟩
    · exact ⟨calm, fun f hf => by cases hf⟩
  | _ => exact .inl ⟨calm, fun f hf => by cases hf⟩

theorem calm_add (ht : h.Tidy) (s : Spec) (o : StartOptions) :
    h.Calm (h.add s o fresh now).1 := by
  simp only [add]
  generalize ((o.id.map toString).filter fun id => !Table.contains id h.live).getD _ = id
  refine ⟨⟨by simp, fun d k hd => ?_⟩, fun j => ?_, rfl⟩
  · rcases (Table.find?_set id d _ h.live).symm.trans hd with hd
    split at hd
    · next hid =>
      cases hd
      refine .inr ⟨Nat.le_refl _, by simp, fun d' hd' => ?_⟩
      rcases (Table.find?_set id d' _ h.live).symm.trans hd' with hd'
      split at hd'
      · next hid' => rw [hid, hid']
      · exact absurd (ht.kept d' _ hd') (Nat.lt_irrefl _)
    · exact .inl hd
  · simp only [Host.busy, List.getElem?_append]
    split
    · rfl
    · next hj =>
      rw [List.getElem?_eq_none (by omega : h.kernels.length ≤ j)]
      cases hx : j - h.kernels.length <;> rfl

/-- The end of a call that is at work on no kernel leaves all marks as they are. -/
theorem calm_finish {f : Flight} (ht : h.Tidy) (hf : f.kernel? = none) :
    h.Calm (h.finish now fresh f).1 := by
  cases f with
  | specs => exact calm_refl h
  | start =>
    simp only [finish]
    split
    · exact calm_add ht _ _
    · exact calm_refl h
  | _ => cases hf

/-- Work on one kernel, then the end of the operation on another. -/
theorem ends_of_calm {h₁ : Host} (hc : h.Calm h₁) (hl : h₁.kernels.length = h.kernels.length)
    (hf : ∀ d k, Table.find? d h₁.live = some k → Table.find? d h.live = some k) :
    h.Ends k (h₁.leave k) := by
  have he := ends_leave h₁ k
  refine ⟨.of_fewer ?_ hf, fun j => ?_, he.overlaps.trans hc.overlaps⟩
  · rw [← hl]
    simp [leave, editKernel]
  · rw [he.busy, hc.busy]

/-- The end of an operation takes its kernel's mark away. -/
theorem ends_finish {f : Flight} (hf : f.kernel? = some k) :
    h.Ends k (h.finish now fresh f).1 := by
  cases f with
  | specs | start => cases hf
  | shutdown d k' =>
    cases hf
    simp only [finish]
    split
    · next dying _ =>
      have hc := calm_editKernel { h with live := Table.erase d h.live } dying
        (f := fun x => x.touch .dead now) fun _ _ => rfl
      exact ends_of_calm ⟨.of_fewer (by simp [editKernel]) fun d' j hd => Table.find?_of_erase hd,
        hc.busy, rfl⟩ (by simp [editKernel]) fun d' j hd => Table.find?_of_erase hd
    · exact ends_leave h k
  | interrupt k' | restart k' =>
    cases hf
    exact ends_of_calm (calm_editKernel h k fun _ _ => rfl) (by simp [editKernel]) fun _ _ hd => hd

/-- The loss of a kernel leaves all marks as they are. -/
theorem calm_kill (h : Host) (d : String) : h.Calm (h.kill d).1 :=
  ⟨.of_fewer rfl fun _ _ hd => Table.find?_of_erase hd, fun _ => rfl, rfl⟩

end Host

theorem Kernel.busy_answer (k : Kernel) (st : Kernel.Stamps) (session : SessionId) (m : Message) :
    (k.answer st session m).1.busy = k.busy := by
  simp only [Kernel.answer]
  split
  · rfl
  · split <;> rfl

theorem Control.calm_apply (h : Host) (c : Control) : h.Calm (c.apply h) := by
  have counted (k c : Nat) (f : Kernel → Kernel) (g : Channel → Channel)
      (hf : ∀ x, (f x).busy = x.busy) : h.Calm ((h.editKernel k f).editChannel c g) := by
    have hc := Host.calm_editKernel h k fun x _ => hf x
    exact ⟨⟨hc.renews.length, hc.renews.live⟩, hc.busy, hc.overlaps⟩
  cases c with
  | connect | disconnect =>
    simp only [apply, Host.connect, Host.disconnect]
    split
    · exact Host.calm_of_kernels rfl rfl rfl
    · split
      · exact counted _ _ _ _ fun _ => rfl
      · exact Host.calm_of_kernels rfl rfl rfl
  | send st c listening m =>
    simp only [apply, Host.send]
    split
    · exact Host.calm_of_kernels rfl rfl rfl
    · split
      · exact Host.calm_of_kernels rfl rfl rfl
      · refine Host.calm_editKernel h _ fun x hx => ?_
        rw [Kernel.busy_answer, hx]
        rfl
  | _ => exact Host.calm_of_kernels rfl rfl rfl

end KernelHub.Memory
