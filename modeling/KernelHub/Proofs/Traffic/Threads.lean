import KernelHub.Proofs.Catalog.Merges
import KernelHub.Proofs.Solo

/-
One call in the traffic. What it has asked and was answered is read off the run, and is all
that its own way depends on besides the states that the hub had at its steps.
-/

namespace KernelHub

/-- The ways of a call that begins with a command: what it has asked and was answered, and how
far it has come. At each step the hub may be in any state. -/
inductive Call.Thread (k : Command) : List Exchange → Call → Prop
  | asked : Thread k [] (asked k)
  | step {xs c h h' c'} (ht : Thread k xs c) (hs : c.step? h = some (h', c')) : Thread k xs c'
  | answer {xs c side q h a c'} (ht : Thread k xs c) (hq : c.request? = some (side, q))
    (hs : c.answered? h a = some c') : Thread k (xs ++ [(side, q, a)]) c'

namespace Traffic

variable {h : Hub} {t t' t₀ : Traffic} {es : List Event} {e : Event} {i : Nat}

/-- The question of a call, with the side it is for. -/
def asked? (t : Traffic) (i : Nat) : Option (Side × Request) := t.calls[i]?.bind Call.request?

/-- What an event tells a call. -/
def exchange? (t : Traffic) (i : Nat) : Event → Option Exchange
  | .answer j a => if j = i then (t.asked? i).map fun x => (x.1, x.2, a) else none
  | _ => none

/-- What a call has asked and was answered in a run, in order. -/
def exchanges (i : Nat) : Traffic → List Event → List Exchange
  | _, [] => []
  | t, e :: es => (t.exchange? i e).toList ++ (t.next? e).elim [] fun t => exchanges i t es

theorem exchanges_snoc (hr : run? t₀ es = some t) (e : Event) :
    exchanges i t₀ (es ++ [e]) = exchanges i t₀ es ++ (t.exchange? i e).toList := by
  induction es generalizing t₀ with
  | nil =>
    cases hr
    cases hn : t.next? e <;> simp [exchanges, hn]
  | cons d es ih =>
    obtain ⟨u, hu, hr⟩ := run?_cons hr
    simp [exchanges, hu, ih hr]

/-- An answer is for a call that waits for one. -/
theorem exchange?_answer {a : Answer} (hn : t.next? (.answer i a) = some t') :
    ∃ c side q c', t.calls[i]? = some c ∧ c.request? = some (side, q) ∧
      c.answered? t.hub a = some c' ∧ t' = { t with calls := t.calls.set i c' } ∧
      ∀ j, t.exchange? j (.answer i a) = if i = j then some (side, q, a) else none := by
  simp only [next?] at hn
  split at hn
  · cases hn
  · next c hc =>
    split at hn
    · next hq =>
      obtain ⟨c', hs, rfl⟩ := Option.map_eq_some_iff.1 hn
      obtain ⟨⟨side, q⟩, hq⟩ := Option.isSome_iff_exists.1 hq
      refine ⟨c, side, q, c', hc, hq, hs, rfl, fun j => ?_⟩
      simp only [exchange?]
      split
      · next hj => subst hj; simp [asked?, hc, hq]
      · rfl
    · cases hn

theorem exchange?_of_not_answer (he : ∀ j a, e ≠ .answer j a) : t.exchange? i e = none := by
  cases e with
  | answer j a => exact absurd rfl (he j a)
  | _ => rfl

/-- What holds of a call when it is asked, and is kept by its own steps, by its answers and by all
else that happens on the hub, holds of every call after one more event if it did before. -/
theorem along_next {P : Hub → Command → List Exchange → Call → Prop}
    {old new : Nat → List Exchange} (hnew : ∀ i, new i = old i ++ (t.exchange? i e).toList)
    (hsilent : ∀ i, t.calls.length ≤ i → old i = [])
    (hlength : (commands es).length = t.calls.length) (hn : t.next? e = some t')
    (asks : ∀ k, k.offered = true → P t.hub k [] (.asked k))
    (steps : ∀ (i : Nat) c k xs h' c', t.calls[i]? = some c → c.step? t.hub = some (h', c') →
      P t.hub k xs c → P h' k xs c')
    (answers : ∀ (i : Nat) c k xs side q a c', t.calls[i]? = some c →
      c.request? = some (side, q) → c.answered? t.hub a = some c' → P t.hub k xs c →
      P t.hub k (xs ++ [(side, q, a)]) c')
    (others : ∀ k xs c, P t.hub k xs c → P t'.hub k xs c)
    (ht : ∀ (i : Nat) k c, (commands es)[i]? = some k → t.calls[i]? = some c →
      P t.hub k (old i) c) :
    (∀ i, t'.calls.length ≤ i → new i = []) ∧
      ∀ (i : Nat) k c, (commands (es ++ [e]))[i]? = some k → t'.calls[i]? = some c →
        P t'.hub k (new i) c := by
  rw [commands_append]
  have quiet (he : ∀ j a, e ≠ .answer j a) (i : Nat) : new i = old i := by
    rw [hnew, exchange?_of_not_answer he]
    exact List.append_nil _
  cases e with
  | ask d =>
    simp only [next?] at hn
    split at hn
    · next ho =>
      cases hn
      refine ⟨fun i hi => ?_, fun i k c hk hc => ?_⟩
      · rw [quiet (by simp)]
        exact hsilent i (by simp at hi; omega)
      · rw [quiet (by simp)]
        rw [show commands [.ask d] = [d] from rfl, List.getElem?_append, hlength] at hk
        rw [List.getElem?_append] at hc
        split at hc
        · next hi => exact ht i k c (by simpa [hi] using hk) hc
        · next hi =>
          rw [if_neg hi] at hk
          obtain rfl := List.mem_singleton.1 (List.mem_of_getElem? hc)
          obtain rfl := List.mem_singleton.1 (List.mem_of_getElem? hk)
          rw [hsilent i (by omega)]
          exact asks _ ho
    · cases hn
  | step j =>
    rw [show commands [.step j] = [] from rfl, List.append_nil]
    simp only [next?] at hn
    split at hn
    · cases hn
    · next c₀ hc₀ =>
      obtain ⟨⟨u, c₁⟩, hs, rfl⟩ := Option.map_eq_some_iff.1 hn
      refine ⟨fun i hi => ?_, fun i k c hk hc => ?_⟩
      · rw [quiet (by simp)]
        exact hsilent i (by simpa using hi)
      · rw [quiet (by simp)]
        rcases of_set_call hc₀ hc with ⟨rfl, rfl⟩ | ⟨-, hc⟩
        · exact steps j c₀ k _ u _ hc₀ hs (ht j k c₀ hk hc₀)
        · exact others k _ c (ht i k c hk hc)
  | answer j a =>
    rw [show commands [.answer j a] = [] from rfl, List.append_nil]
    obtain ⟨c₀, side, q, c₁, hc₀, hq, hs, rfl, hx⟩ := exchange?_answer hn
    refine ⟨fun i hi => ?_, fun i k c hk hc => ?_⟩
    · obtain ⟨hj, -⟩ := List.getElem?_eq_some_iff.1 hc₀
      have hi : t.calls.length ≤ i := by simpa using hi
      rw [hnew, hx, if_neg (by omega), hsilent i hi]
      rfl
    · rw [hnew, hx]
      rcases of_set_call hc₀ hc with ⟨rfl, rfl⟩ | ⟨hi, hc⟩
      · rw [if_pos rfl]
        exact answers j c₀ k _ side q a _ hc₀ hq hs (ht j k c₀ hk hc₀)
      · rw [if_neg hi]
        simpa using ht i k c hk hc
  | shared p =>
    cases hn
    rw [show commands [.shared p] = [] from rfl, List.append_nil]
    refine ⟨fun i hi => ?_, fun i k c hk hc => ?_⟩
    · rw [quiet (by simp)]
      exact hsilent i hi
    · rw [quiet (by simp)]
      exact others k _ c (ht i k c hk hc)

/-- And so it holds of every call after every run. -/
theorem along_run {P : Hub → Command → List Exchange → Call → Prop} {k : Command} {c : Call}
    (asks : ∀ u k, k.offered = true → P u k [] (.asked k))
    (steps : ∀ fs u (i : Nat) c k xs h' c', run? ⟨h, []⟩ fs = some u → u.calls[i]? = some c →
      c.step? u.hub = some (h', c') → P u.hub k xs c → P h' k xs c')
    (answers : ∀ fs u (i : Nat) c k xs side q a c', run? ⟨h, []⟩ fs = some u →
      u.calls[i]? = some c → c.request? = some (side, q) → c.answered? u.hub a = some c' →
      P u.hub k xs c → P u.hub k (xs ++ [(side, q, a)]) c')
    (others : ∀ fs u e u' k xs c, run? ⟨h, []⟩ fs = some u → u.next? e = some u' →
      P u.hub k xs c → P u'.hub k xs c)
    (hr : run? ⟨h, []⟩ es = some t) (hk : (commands es)[i]? = some k)
    (hc : t.calls[i]? = some c) : P t.hub k (exchanges i ⟨h, []⟩ es) c := by
  have hall := history_induct (P := fun es t =>
    (∀ i, t.calls.length ≤ i → exchanges i ⟨h, []⟩ es = []) ∧
      ∀ (i : Nat) k c, (commands es)[i]? = some k → t.calls[i]? = some c →
        P t.hub k (exchanges i ⟨h, []⟩ es) c)
    ⟨fun _ _ => rfl, fun _ _ _ hk => by cases hk⟩ (fun es t e t' hg ih hn => ?_) hr
  · exact hall.2.2 i k c hk hc
  · exact along_next (fun i => exchanges_snoc hg.run e) ih.1 hg.length hn (asks t.hub)
      (fun i c k xs h' c' => steps es t i c k xs h' c' hg.run)
      (fun i c k xs side q a c' => answers es t i c k xs side q a c' hg.run)
      (fun k xs c => others es t e t' k xs c hg.run hn) ih.2

/-- Each call in a run is on its way. -/
theorem thread_of_run {k : Command} {c : Call} (hr : run? ⟨h, []⟩ es = some t)
    (hk : (commands es)[i]? = some k) (hc : t.calls[i]? = some c) :
    Call.Thread k (exchanges i ⟨h, []⟩ es) c :=
  along_run (P := fun _ => Call.Thread) (fun _ _ _ => .asked)
    (fun _ _ _ _ _ _ _ _ _ _ hs ht => .step ht hs)
    (fun _ _ _ _ _ _ _ _ _ _ _ _ hq hs ht => .answer ht hq hs)
    (fun _ _ _ _ _ _ _ _ _ ht => ht) hr hk hc

end Traffic

end KernelHub
