import KernelHub.Proofs.Memory.Bare

/-
Shutting down several kernels of a host in memory, one after the other. In what order that is
done makes no difference, except to the clock.
-/

namespace KernelHub

theorem Table.erase_comm {κ α : Type} [DecidableEq κ] (j k : κ) (t : Table κ α) :
    erase j (erase k t) = erase k (erase j t) := by
  induction t with
  | nil => rfl
  | cons e t ih =>
    obtain ⟨i, a⟩ := e
    by_cases hj : i = j
    · subst hj
      by_cases hk : i = k
      · rw [hk]
      · simp [erase, hk, ih]
    · by_cases hk : i = k
      · subst hk
        simp [erase, hj, ih]
      · simp [erase, hj, hk, ih]

theorem Table.erase_of_find?_none {κ α : Type} [DecidableEq κ] {k : κ} {t : Table κ α}
    (h : find? k t = none) : erase k t = t := by
  induction t with
  | nil => rfl
  | cons e t ih =>
    obtain ⟨j, a⟩ := e
    by_cases hj : j = k
    · simp [find?_cons, hj] at h
    · simp only [find?_cons, if_neg hj] at h
      simp [erase, hj, ih h]

namespace Memory.Host

variable {h h₁ h₂ : Host} {d d' : String} {k : Nat}

/-- The host after it was asked to shut a kernel down, and its answer. -/
def stop (h : Host) (d : String) : Host × Answer := h.reply (.shutdown d true)

/-- The host without one of its kernels. -/
def without (h : Host) (d : String) (k : Nat) : Host :=
  { h.editKernel k fun x => { x with state := .dead, busy := false } with
    live := Table.erase d h.live
    overlaps := h.overlaps + if h.busy k then 1 else 0 }

/-- Whatever the host is asked for when it is to shut a kernel down, it comes to this. -/
theorem Replies.stop {now : Bool} {u : Option Uuid} {a : Answer} {h' : Host}
    (hr : h.Replies (.shutdown d now) u a h') :
    h'.Like (h.stop d).1 ∧ a.bare = (h.stop d).2.bare := by
  obtain ⟨v, hs⟩ := replies_reply h (.shutdown d now)
  exact (like_refl h).replies (by nofun) (by nofun) hr hs

theorem Like.stop (hl : h₁.Like h₂) (d : String) : (h₁.stop d).1.Like (h₂.stop d).1 := by
  obtain ⟨u, h1⟩ := replies_reply h₁ (.shutdown d true)
  obtain ⟨v, h2⟩ := replies_reply h₂ (.shutdown d true)
  exact (hl.replies (by nofun) (by nofun) h1 h2).1

/-- Can the host be reached, and does it do as it is told? -/
def willing (h : Host) : Bool := h.available && !h.failing

/-- An unwilling host shuts nothing down. -/
theorem stop_unwilling (hw : h.willing = false) (d : String) :
    ∃ e, h.stop d = (h, .refused e) ∧ e.isNotFound = false := by
  have he : ∃ e, h.enter "shutdown" d = .error e ∧ e.isNotFound = false := by
    cases ha : h.available with
    | false => exact ⟨.unavailable _, by simp [enter, checkAvailable, ha]; rfl, rfl⟩
    | true =>
      have hf : h.failing = true := by simpa [willing, ha] using hw
      exact ⟨.failed _, by simp [enter, checkAvailable, checkWilling, ha, hf]; rfl, rfl⟩
  obtain ⟨e, he, hn⟩ := he
  exact ⟨e, by simp [stop, reply, accept, accepted, he], hn⟩

/-- A willing host shuts down what it has. -/
theorem stop_none (hw : h.willing = true) (hd : Table.find? d h.live = none) :
    ∃ s, h.stop d = (h, .refused (.notFound s)) := by
  have ha : h.available = true ∧ h.failing = false := by simpa [willing] using hw
  have he : h.enter "shutdown" d = .error (.notFound s!"kernel {d}") := by
    simp [enter, checkAvailable, checkWilling, find, ha.1, ha.2, hd]
    rfl
  exact ⟨_, by simp [stop, reply, accept, accepted, he]; rfl⟩

theorem enter_willing {op : String} (hw : h.willing = true) (hd : Table.find? d h.live = some k) :
    h.enter op d = .ok ({ h.editKernel k fun x => { x with busy := true } with
      overlaps := h.overlaps + if h.busy k then 1 else 0 }, k) := by
  have ha : h.available = true ∧ h.failing = false := by simpa [willing] using hw
  have he : h.enter op d = .ok (if h.busy k then
      { h.editKernel k (fun x => { x with busy := true }) with overlaps := h.overlaps + 1 }
      else h.editKernel k fun x => { x with busy := true }, k) := by
    simp [enter, checkAvailable, checkWilling, find, ha.1, ha.2, hd]
    rfl
  rw [he]
  cases h.busy k <;> rfl

theorem finish_found {fresh : Uuid} {now : Instant} {j : Nat} (hd : Table.find? d h.live = some k) :
    h.finish now fresh (.shutdown d j) = (({ h with live := Table.erase d h.live }.editKernel k
      fun x => x.touch .dead now).leave j, .done) := by
  simp only [finish, find, hd]

theorem stop_some (hw : h.willing = true) (hd : Table.find? d h.live = some k) :
    (h.stop d).1.Like (h.without d k) ∧ (h.stop d).2 = .done := by
  simp only [stop, reply, accept, accepted, enter_willing hw hd]
  generalize hg : Host.editKernel _ k (fun x => x.touch .terminating default) = g
  have hf : Table.find? d g.live = some k := by rw [← hg]; exact hd
  rw [finish_found hf, ← hg]
  refine ⟨{ like_refl h with kernels := ?_, live := rfl, overlaps := rfl }, rfl⟩
  -- What is written to the kernel on the way is written over at the end.
  simp only [editKernel, leave, without]
  refine List.ext_getElem? fun j => ?_
  simp only [List.getElem?_map, List.getElem?_modify]
  cases h.kernels[j]? with
  | none => rfl
  | some x => by_cases hj : k = j <;> simp [hj, Kernel.bare, Kernel.touch]

/-! ## Several kernels -/

theorem willing_stop (h : Host) (d : String) : (h.stop d).1.willing = h.willing := by
  cases hw : h.willing with
  | false =>
    obtain ⟨e, he, -⟩ := stop_unwilling hw d
    rw [he]
    exact hw
  | true =>
    cases hd : Table.find? d h.live with
    | none =>
      obtain ⟨s, hs⟩ := stop_none hw hd
      rw [hs]
      exact hw
    | some k =>
      have hl := (stop_some hw hd).1
      have hk : (h.without d k).willing = h.willing := rfl
      rw [willing, hl.available, hl.failing]
      exact hk.trans hw

theorem live_stop (hw : h.willing = true) (d : String) :
    (h.stop d).1.live = Table.erase d h.live := by
  cases hd : Table.find? d h.live with
  | none =>
    obtain ⟨s, hs⟩ := stop_none hw hd
    rw [hs]
    exact (Table.erase_of_find?_none hd).symm
  | some k => exact (stop_some hw hd).1.live

theorem without_comm (h : Host) (d d' : String) (k k' : Nat) :
    ((h.without d k).without d' k').Like ((h.without d' k').without d k) := by
  refine { like_refl h with kernels := ?_, live := Table.erase_comm .., overlaps := ?_ }
  · congr 1
    refine List.ext_getElem? fun j => ?_
    simp only [without, editKernel, List.getElem?_modify]
    cases h.kernels[j]? with
    | none => rfl
    | some x => by_cases hj : k = j <;> by_cases hj' : k' = j <;> simp [hj, hj']
  · have hb (d : String) (k j : Nat) : (h.without d k).busy j =
        if k = j then false else h.busy j := by
      have he := busy_editKernel h k (fun x => { x with state := .dead, busy := false }) j
      refine Eq.trans (show _ = (h.editKernel k _).busy j from rfl) (he.trans ?_)
      split
      · cases h.kernels[j]? <;> rfl
      · rfl
    show (h.overlaps + _) + _ = (h.overlaps + _) + _
    rw [hb, hb]
    by_cases hk : k = k'
    · simp [hk]
    · simp only [if_neg hk, if_neg (Ne.symm hk)]
      omega

/-- In what order two kernels are shut down makes no difference. -/
theorem stop_comm (h : Host) (d d' : String) :
    ((h.stop d).1.stop d').1.Like ((h.stop d').1.stop d).1 := by
  cases hw : h.willing with
  | false =>
    obtain ⟨e, he, -⟩ := stop_unwilling hw d
    obtain ⟨e', he', -⟩ := stop_unwilling hw d'
    simp only [he, he']
    exact like_refl h
  | true =>
    by_cases hne : d = d'
    · rw [hne]
      exact like_refl _
    · have hw' (d : String) : (h.stop d).1.willing = true := (willing_stop h d).trans hw
      have hl (d : String) := live_stop hw d
      -- What is found under one id is still found once the other one is shut down.
      have none {d d' : String} (hne : d ≠ d') (hd : Table.find? d h.live = none) :
          ((h.stop d).1.stop d').1.Like ((h.stop d').1.stop d).1 := by
        obtain ⟨s, hs⟩ := stop_none hw hd
        have hd' : Table.find? d (h.stop d').1.live = none := by
          rw [hl, Table.find?_erase_of_ne hne, hd]
        obtain ⟨s', hs'⟩ := stop_none (hw' d') hd'
        rw [hs, hs']
        exact like_refl _
      cases hd : Table.find? d h.live with
      | none => exact none hne hd
      | some k =>
        cases hd' : Table.find? d' h.live with
        | none => exact (none (Ne.symm hne) hd').symm
        | some k' =>
          have two {d d' : String} {k k' : Nat} (hne : d ≠ d') (hd : Table.find? d h.live = some k)
              (hd' : Table.find? d' h.live = some k') :
              ((h.stop d).1.stop d').1.Like ((h.without d k).without d' k') := by
            have h1 := (stop_some hw hd).1
            have hf : Table.find? d' (h.without d k).live = some k' := by
              show Table.find? d' (Table.erase d h.live) = _
              rw [Table.find?_erase_of_ne (Ne.symm hne), hd']
            have hw₁ : (h.without d k).willing = true := hw
            exact (h1.stop d').trans (stop_some hw₁ hf).1
          exact (two hne hd hd').trans ((without_comm h d d' k k').trans
            (two (Ne.symm hne) hd' hd).symm)

/-- The host after it was asked to shut down some kernels, one after the other. -/
def stops (h : Host) (ds : List String) : Host := ds.foldl (fun h d => (h.stop d).1) h

theorem Like.stops (hl : h₁.Like h₂) (ds : List String) : (h₁.stops ds).Like (h₂.stops ds) := by
  induction ds generalizing h₁ h₂ with
  | nil => exact hl
  | cons d ds ih => exact ih (hl.stop d)

theorem stops_perm {ds ds' : List String} (hp : ds.Perm ds') (h : Host) :
    (h.stops ds).Like (h.stops ds') := by
  induction hp generalizing h with
  | nil => exact like_refl h
  | cons d _ ih => exact ih (h.stop d).1
  | swap d d' ds => exact (stop_comm h d' d).stops ds
  | trans _ _ ih ih' => exact (ih h).trans (ih' h)

end Memory.Host

end KernelHub
