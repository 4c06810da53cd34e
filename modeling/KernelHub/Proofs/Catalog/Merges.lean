import KernelHub.Proofs.Catalog
import KernelHub.Proofs.Traffic.Shift

/-
Merges on a busy hub. Whoever else calls, a merge gives and publishes what its own listings
call for, in one step, or it fails at home and publishes nothing. What is known about types is
at any time what the hub began with, or the outcome of one completed merge.
-/

namespace KernelHub

namespace Traffic

/-- The commands that were given, in order. -/
def commands (es : List Event) : List Command :=
  es.filterMap fun
    | .ask c => some c
    | _ => none

/-- The answers that one call has got, in order. -/
def answers (i : Nat) (es : List Event) : List Answer :=
  es.filterMap fun
    | .answer j a => if j = i then some a else none
    | _ => none

/-- What the hosts have listed, going by what they answered: the host at home, then the remote
one, if there is one. A remote host that refuses has listed nothing. -/
inductive Listed (hasRemote : Bool) : List Answer → List Spec → List Spec → Prop
  | alone {home} (hr : hasRemote = false) : Listed hasRemote [.specs home] home []
  | both {home remote} (hr : hasRemote = true) :
    Listed hasRemote [.specs home, .specs remote] home remote
  | degraded {home e} (hr : hasRemote = true) :
    Listed hasRemote [.specs home, .refused e] home []

/-- How a call for all types can end, after what it was answered. -/
inductive Concludes (h : Hub) (as : List Answer) : Result → Prop
  | listed {home remote} (hl : Listed h.hasRemote as home remote) :
    Concludes h as (.ok (.types (Catalog.merge h.config home remote)))
  | unlisted {e} (ha : as = [.refused e]) : Concludes h as (.error (.catalog e))
  | crashed (ha : .crashed ∈ as) : Concludes h as (.error .crashed)

end Traffic

namespace Call

open Traffic (Listed Concludes)

/-- What a call was told before it asked for listings: nothing, if it was to give all types. -/
def Goal.Told (k : Command) : Goal → List Answer → Prop
  | .types, as => k = .types ∧ as = []
  | .start .., _ => k ≠ .types

/-- How far a merge has come is told by the command and by the answers so far. -/
def Gathers (h : Hub) (k : Command) (as : List Answer) : Call → Prop
  | asked c => c = k ∧ as = []
  | mergingHome goal => goal.Told k as
  | mergedHome goal home => ∃ pre, goal.Told k pre ∧ as = pre ++ [.specs home]
  | mergingRemote goal home =>
    h.hasRemote = true ∧ ∃ pre, goal.Told k pre ∧ as = pre ++ [.specs home]
  | merged goal home remote =>
    ∃ pre l, goal.Told k pre ∧ Listed h.hasRemote l home remote ∧ as = pre ++ l
  | ended res => k = .types → Concludes h as res
  | _ => k ≠ .types

variable {h u u' : Hub} {k : Command} {as : List Answer} {c c' : Call}

theorem gathers_begun (hk : k ≠ .types) (hb : Begun u k c) : c.Gathers h k as := by
  cases hb with
  | types => exact absurd rfl hk
  | untyped | default | gone | closed | inactive | unopened => exact fun he => absurd he hk
  | _ => exact hk

/-- A step of the call's own needs no answer. -/
theorem gathers_step (hc : u.config = h.config) (hr : u.hasRemote = h.hasRemote)
    (hg : c.Gathers h k as) (hs : c.step? u = some (u', c')) : c'.Gathers h k as := by
  cases advance_of_step? hs with
  | @begun k' c' hb =>
    obtain ⟨rfl, rfl⟩ := hg
    by_cases hk : k' = .types
    · subst hk
      cases hb
      exact ⟨rfl, rfl⟩
    · exact gathers_begun hk hb
  | both hu =>
    obtain ⟨pre, ht, rfl⟩ := hg
    exact ⟨hr ▸ hu, pre, ht, rfl⟩
  | alone hu =>
    obtain ⟨pre, ht, rfl⟩ := hg
    exact ⟨pre, _, ht, .alone (hr ▸ hu), rfl⟩
  | published =>
    obtain ⟨pre, l, ⟨rfl, rfl⟩, hl, rfl⟩ := hg
    exact fun _ => hc ▸ .listed hl
  | learnt =>
    obtain ⟨pre, l, ht, hl, rfl⟩ := hg
    exact ht
  | @followed w after res =>
    cases after <;> cases res <;> first | exact hg | exact fun he => absurd he hg
  | held | unfound | dropped | left | listed => exact fun he => absurd he hg
  | known | unknown | registered | found | worked | retired | halfway => exact hg

/-- An answer is taken down. -/
theorem gathers_answered {a : Answer} (hg : c.Gathers h k as) (hs : c.answered? u a = some c') :
    c'.Gathers h k (as ++ [a]) := by
  cases reaction_of_answered? hs with
  | crashed => exact fun _ => .crashed (by simp)
  | home => exact ⟨as, hg, rfl⟩
  | @homeless goal =>
    rintro rfl
    cases goal with
    | types =>
      obtain ⟨-, rfl⟩ := hg
      exact .unlisted rfl
    | start => exact absurd rfl hg
  | remote =>
    obtain ⟨hr, pre, ht, rfl⟩ := hg
    exact ⟨pre, _, ht, .both hr, by simp⟩
  | @leftOut goal home e =>
    obtain ⟨hr, pre, ht, rfl⟩ := hg
    exact ⟨pre, [.specs home, .refused e], ht, .degraded hr, by simp⟩
  | heard | named | listed | skipped | connecting => exact hg
  | nameless | unnamed | described | missing | undescribed | default | undefaulted | unlisted
  | active | opened | gone | unopened | connected | unconnected => exact fun he => absurd he hg

end Call

namespace Traffic

variable {h : Hub} {es fs : List Event} {t t' : Traffic} {e : Event} {i : Nat}

theorem commands_append (es fs : List Event) :
    commands (es ++ fs) = commands es ++ commands fs := List.filterMap_append

theorem run?_snoc {t₀ : Traffic} (hr : run? t₀ es = some t) (hn : t.next? e = some t') :
    run? t₀ (es ++ [e]) = some t' := by
  rw [run?_append, hr]
  simp [run?, hn]

/-- What the events so far say about each call. -/
structure Gathered (h : Hub) (es : List Event) (t : Traffic) : Prop where
  run : run? ⟨h, []⟩ es = some t
  config : t.hub.config = h.config
  hasRemote : t.hub.hasRemote = h.hasRemote
  length : (commands es).length = t.calls.length
  /-- Nobody answers a call that was not made. -/
  silent : ∀ i, t.calls.length ≤ i → answers i es = []
  gathers : ∀ (i : Nat) (k : Command) (c : Call), (commands es)[i]? = some k →
    t.calls[i]? = some c → c.Gathers h k (answers i es)

theorem Gathered.command (hg : Gathered h es t) {c : Call} (hc : t.calls[i]? = some c) :
    ∃ k, (commands es)[i]? = some k := by
  obtain ⟨hi, -⟩ := List.getElem?_eq_some_iff.1 hc
  exact ⟨_, List.getElem?_eq_getElem (hg.length ▸ hi)⟩

theorem gathered_ask {k : Command} (hg : Gathered h es t) (hn : t.next? (.ask k) = some t') :
    Gathered h (es ++ [.ask k]) t' := by
  have hrun := run?_snoc hg.run hn
  simp only [next?] at hn
  split at hn
  · cases hn
    have hsame (j : Nat) : answers j (es ++ [.ask k]) = answers j es := by
      simp [answers]
    have hcom : commands (es ++ [.ask k]) = commands es ++ [k] := commands_append ..
    refine ⟨hrun, hg.config, hg.hasRemote, by simp [hcom, hg.length], fun j hj => ?_,
      fun j k' c hk hc => ?_⟩
    · rw [hsame]
      exact hg.silent j (by simp at hj; omega)
    · rw [hsame]
      rw [hcom, List.getElem?_append, hg.length] at hk
      rw [List.getElem?_append] at hc
      split at hc
      · next hj => exact hg.gathers j k' c (by simpa [hj] using hk) hc
      · next hj =>
        rw [if_neg hj] at hk
        obtain rfl := List.mem_singleton.1 (List.mem_of_getElem? hc)
        obtain rfl := List.mem_singleton.1 (List.mem_of_getElem? hk)
        exact ⟨rfl, hg.silent j (by omega)⟩
  · cases hn

theorem gathered_step (hg : Gathered h es t) (hn : t.next? (.step i) = some t') :
    Gathered h (es ++ [.step i]) t' := by
  have hrun := run?_snoc hg.run hn
  simp only [next?] at hn
  split at hn
  · cases hn
  · next c hc =>
    obtain ⟨⟨u, c'⟩, hs, he⟩ := Option.map_eq_some_iff.1 hn
    cases he
    obtain ⟨hcf, -, hrm, -⟩ := Call.maker_step hs
    have hsame (x : Nat) : answers x (es ++ [.step i]) = answers x es := by
      simp [answers]
    have hcom : commands (es ++ [.step i]) = commands es := by
      simp [commands]
    refine ⟨hrun, hcf.trans hg.config, hrm.trans hg.hasRemote, by simp [hcom, hg.length],
      fun x hx => ?_, fun x k d hk hd => ?_⟩
    · rw [hsame]
      exact hg.silent x (by simpa using hx)
    · rw [hsame]
      rw [hcom] at hk
      rcases of_set_call hc hd with ⟨rfl, rfl⟩ | ⟨-, hd⟩
      · exact Call.gathers_step hg.config hg.hasRemote (hg.gathers i k c hk hc) hs
      · exact hg.gathers x k d hk hd

theorem gathered_answer {a : Answer} (hg : Gathered h es t)
    (hn : t.next? (.answer i a) = some t') : Gathered h (es ++ [.answer i a]) t' := by
  have hrun := run?_snoc hg.run hn
  simp only [next?] at hn
  split at hn
  · cases hn
  · next c hc =>
    split at hn
    · obtain ⟨c', hs, he⟩ := Option.map_eq_some_iff.1 hn
      cases he
      have hsame {x : Nat} (hx : i ≠ x) : answers x (es ++ [.answer i a]) = answers x es := by
        simp [answers, hx]
      have hcom : commands (es ++ [.answer i a]) = commands es := by
        simp [commands]
      refine ⟨hrun, hg.config, hg.hasRemote, by simp [hcom, hg.length], fun x hx => ?_,
        fun x k d hk hd => ?_⟩
      · obtain ⟨hj, -⟩ := List.getElem?_eq_some_iff.1 hc
        have hx : t.calls.length ≤ x := by simpa using hx
        rw [hsame (by omega)]
        exact hg.silent x hx
      · rw [hcom] at hk
        rcases of_set_call hc hd with ⟨rfl, rfl⟩ | ⟨hx, hd⟩
        · have hmore : answers i (es ++ [.answer i a]) = answers i es ++ [a] := by
            simp [answers]
          rw [hmore]
          exact Call.gathers_answered (hg.gathers i k c hk hc) hs
        · rw [hsame hx]
          exact hg.gathers x k d hk hd
    · cases hn

theorem gathered_shared {p : Provenance} (hg : Gathered h es t)
    (hn : t.next? (.shared p) = some t') : Gathered h (es ++ [.shared p]) t' := by
  have hrun := run?_snoc hg.run hn
  cases hn
  have hsame (x : Nat) : answers x (es ++ [.shared p]) = answers x es := by
    simp [answers]
  have hcom : commands (es ++ [.shared p]) = commands es := by
    simp [commands]
  refine ⟨hrun, hg.config, hg.hasRemote, hcom ▸ hg.length, fun x hx => ?_,
    fun x k c hk hc => ?_⟩
  · rw [hsame]
    exact hg.silent x hx
  · rw [hsame]
    exact hg.gathers x k c (hcom ▸ hk) hc

theorem gathered_next (hg : Gathered h es t) (hn : t.next? e = some t') :
    Gathered h (es ++ [e]) t' := by
  cases e with
  | ask => exact gathered_ask hg hn
  | step => exact gathered_step hg hn
  | answer => exact gathered_answer hg hn
  | shared => exact gathered_shared hg hn

/-- What holds at the beginning, and is kept by every event given all that came before, holds
after every run. -/
theorem history_induct {P : List Event → Traffic → Prop} (base : P [] ⟨h, []⟩)
    (step : ∀ es t e t', Gathered h es t → P es t → t.next? e = some t' → P (es ++ [e]) t')
    (hr : run? ⟨h, []⟩ es = some t) : Gathered h es t ∧ P es t := by
  have go {past es : List Event} {t₀ : Traffic} (hg : Gathered h past t₀) (hp : P past t₀)
      (hr : run? t₀ es = some t) : Gathered h (past ++ es) t ∧ P (past ++ es) t := by
    induction es generalizing past t₀ with
    | nil =>
      cases hr
      simpa using And.intro hg hp
    | cons e es ih =>
      obtain ⟨t₁, hn, hr⟩ := run?_cons hr
      simpa using ih (gathered_next hg hn) (step past t₀ e t₁ hg hp hn) hr
  have hb : Gathered h [] ⟨h, []⟩ :=
    ⟨rfl, rfl, rfl, rfl, fun _ _ => rfl, fun i k c hk => by cases hk⟩
  exact go hb base hr

theorem gathered_of_run (hr : run? ⟨h, []⟩ es = some t) : Gathered h es t :=
  (history_induct (P := fun _ _ => True) trivial (fun _ _ _ _ _ _ _ => trivial) hr).1

/-- Is the event one of this call? -/
def Event.Of (i : Nat) : Event → Prop
  | .step j => j = i
  | .answer j _ => j = i
  | _ => False

/-- Provenance that one completed merge has published: a merge on this hub, out of what its
own listings gave, or a merge on another hub over the same hosts. -/
inductive Completed (h : Hub) (es : List Event) : Provenance → Prop
  | here {es₁ es₂ i t goal home remote pre l} (he : es = es₁ ++ .step i :: es₂)
    (hr : run? ⟨h, []⟩ es₁ = some t) (hc : t.calls[i]? = some (.merged goal home remote))
    (ha : answers i es₁ = pre ++ l) (hl : Listed h.hasRemote l home remote) :
    Completed h es (Catalog.provenance h.config home remote)
  | elsewhere {c home remote} (he : .shared (Catalog.provenance c home remote) ∈ es) :
    Completed h es (Catalog.provenance c home remote)

/-- A call for all types has ended well in one step, which gave these types and published where
they came from, both as the call's own listings call for. -/
def Published (h : Hub) (es : List Event) (i : Nat) (types : Entries Spec) : Prop :=
  ∃ es₁ es₂ t₀ t₁ home remote,
    es = es₁ ++ .step i :: es₂ ∧ run? ⟨h, []⟩ es₁ = some t₀ ∧ t₀.next? (.step i) = some t₁ ∧
    Listed h.hasRemote (answers i es₁) home remote ∧
    t₁.calls[i]? = some (.ended (.ok (.types types))) ∧
    Catalog.Lawful h.config home remote types t₁.hub.provenance

/-- What holds of the merges on a hub after a run, whoever else has called meanwhile. -/
structure Orderly (h : Hub) (es : List Event) (t : Traffic) : Prop where
  /-- How a call for all types ends is told by what it was answered. -/
  concludes : ∀ (i : Nat) (res : Result), (commands es)[i]? = some .types →
    t.calls[i]? = some (.ended res) → Concludes h (answers i es) res
  /-- Once the hosts have listed, the call comes to its end by itself, and ends well. -/
  comes : ∀ (i : Nat) home remote, (commands es)[i]? = some .types →
    Listed h.hasRemote (answers i es) home remote → ∃ n t' types,
      run? t (List.replicate n (.step i)) = some t' ∧
      t'.calls[i]? = some (.ended (.ok (.types types)))
  lawful : ∀ (i : Nat) types, (commands es)[i]? = some .types →
    t.calls[i]? = some (.ended (.ok (.types types))) → Published h es i types
  /-- A call that the host at home refuses a listing fails, and publishes nothing. -/
  failing : ∀ (i : Nat) e, (commands es)[i]? = some .types → answers i es = [.refused e] →
    t.calls[i]? = some (.ended (.error (.catalog e))) ∧ ∀ es₁ ev es₂ t₀ t₁,
      es = es₁ ++ ev :: es₂ → ev.Of i → run? ⟨h, []⟩ es₁ = some t₀ → t₀.next? ev = some t₁ →
      t₁.hub.provenance = t₀.hub.provenance
  snapshot : t.hub.provenance = h.provenance ∨ Completed h es t.hub.provenance
  apart : h.provenance = {} → ∀ n,
    ¬ (t.hub.provenance.isHome n = true ∧ t.hub.provenance.isRemote n = true)

theorem Completed.append {p : Provenance} (hp : Completed h es p) (fs : List Event) :
    Completed h (es ++ fs) p := by
  cases hp with
  | here he hr hc ha hl => exact .here (by rw [he, List.append_assoc]; rfl) hr hc ha hl
  | elsewhere he => exact .elsewhere (List.mem_append_left fs he)

end Traffic

end KernelHub
