import KernelHub.Proofs.Ledger.Simulation
import KernelHub.Proofs.Progress

/-
Whole sequences of commands. A hub that serves one command after the other is accounted
for by a ledger that starts empty; and whatever commands are offered, and whatever the hosts
answer to them, the hub serves them all.
-/

namespace KernelHub

/-- A command, what the hosts were asked and answered for it, and what it gave. -/
structure Served where
  command : Command
  exchanges : List Exchange
  result : Result

/-- The hub serves these commands, each to its end before the next comes. -/
inductive Hub.Serves : Hub → List Served → Hub → Prop
  | nil {h} : Serves h [] h
  | cons {h c es res h₁ ss h'} (hc : c.offered = true)
    (hl : (Call.asked c).Leads h es h₁ (.ended res)) (hs : Serves h₁ ss h') :
    Serves h (⟨c, es, res⟩ :: ss) h'

namespace Ledger

/-- A start that has found out which type it is for, and knows that type, is told that its id
exists exactly when the ledger holds it. -/
def Rejects (h : Hub) (l : Ledger) : Prop :=
  ∀ asked o fresh es h₁ name fs h₂ res,
    (Call.asked (.start asked o fresh)).Leads h es h₁ (.registering name o fresh) →
    (Call.registering name o fresh).Leads h₁ fs h₂ (.ended res) →
    (res = .error (.alreadyExists (o.id.getD fresh)) ↔ l.Holds (o.id.getD fresh))

/-- The ledger accounts for all that the hub serves: each command does to it what the rules
say, and at each point clients see what it says. -/
inductive Accounts (s : Setting) : Hub → Ledger → List Served → Hub → Ledger → Prop
  | nil {h l} (ha : Agrees h l) (hr : Rejects h l) : Accounts s h l [] h l
  | cons {h l c es res h₁ l₁ ss h' l'} (ha : Agrees h l) (hr : Rejects h l)
    (hl : (Call.asked c).Leads h es h₁ (.ended res)) (hs : Step s l c es res l₁)
    (hn : Accounts s h₁ l₁ ss h' l') :
    Accounts s h l (⟨c, es, res⟩ :: ss) h' l'

end Ledger

namespace Call

variable {h h' : Hub} {c c' : Call} {es : List Exchange}

theorem rank_leads (hl : Leads h c es h' c') : c'.rank ≤ c.rank := by
  induction hl with
  | refl => exact Nat.le_refl _
  | step hs _ ih => exact Nat.le_of_lt (Nat.lt_of_le_of_lt ih (rank_step hs))
  | answer _ _ hs _ ih => exact Nat.le_of_lt (Nat.lt_of_le_of_lt ih (rank_answered hs))

/-- Until a call looks up or registers an id, it changes at most what is known about types. -/
theorem early_step (hc : 13 < c.rank) (hs : c.step? h = some (h', c')) :
    ∃ m, h' = { h with provenance := m } := by
  cases c with
  | asked | checking | mergedHome | merged =>
    cases hs
    exact ⟨_, rfl⟩
  | naming | mergingHome | mergingRemote => cases hs
  | working w =>
    have hr : w.phase.rank ≤ 8 := by cases w.phase <;> simp [Work.Phase.rank]
    simp only [rank] at hc
    omega
  | listing side | listed side => cases side <;> simp [rank] at hc
  | _ => simp [rank] at hc

theorem early_leads (hl : Leads h c es h' c') (hc : 13 ≤ c'.rank) :
    ∃ m, h' = { h with provenance := m } := by
  induction hl with
  | refl => exact ⟨_, rfl⟩
  | step hs hl ih =>
    obtain ⟨m, rfl⟩ := early_step
      (Nat.lt_of_le_of_lt (Nat.le_trans hc (rank_leads hl)) (rank_step hs)) hs
    exact ih hc
  | answer _ _ _ _ ih => exact ih hc

/-- No call changes what the hub has from its maker. -/
theorem setting_step (hs : c.step? h = some (h', c')) : h'.setting = h.setting := by
  obtain ⟨hc, he, hr, -⟩ := maker_step hs
  simp only [Hub.setting, hc, he, hr]

theorem setting_leads (hl : Leads h c es h' c') : h'.setting = h.setting := by
  induction hl with
  | refl => rfl
  | step hs _ ih => exact ih.trans (setting_step hs)
  | answer _ _ _ _ ih => exact ih

end Call

namespace Ledger

variable {h h' : Hub} {l : Ledger} {es : List Exchange} {res : Result}

theorem idle_of_mirrors (hm : Mirrors h l) : h.Idle := by
  intro id p hf
  obtain ⟨e, -, hr, -⟩ := hm.known id p hf
  exact ⟨_, hr, rfl⟩

theorem rejects_of_mirrors (hm : Mirrors h l) : Rejects h l := by
  intro asked o fresh es h₁ name fs h₂ res hl hl'
  obtain ⟨m, rfl⟩ := Call.early_leads hl (Nat.le_refl 13)
  obtain ⟨-, -, -, hr⟩ := register_simulates (mirrors_provenance hm m) .given .known hl'
  exact hr

theorem accounts_of_mirrors {ss : List Served} (hm : Mirrors h l) (hs : h.Serves ss h') :
    ∃ l', Accounts h.setting h l ss h' l' := by
  induction hs generalizing l with
  | nil => exact ⟨l, .nil (agrees_of_mirrors hm) (rejects_of_mirrors hm)⟩
  | cons hc hl _ ih =>
    obtain ⟨l₁, hs, hm₁⟩ := command_simulates hc hm hl
    obtain ⟨l', hn⟩ := ih hm₁
    rw [Call.setting_leads hl] at hn
    exact ⟨l', .cons (agrees_of_mirrors hm) (rejects_of_mirrors hm) hl hs hn⟩

theorem mirrors_serves {ss : List Served} (hm : Mirrors h l) (hs : h.Serves ss h') :
    ∃ l', Mirrors h' l' := by
  induction hs generalizing l with
  | nil => exact ⟨l, hm⟩
  | cons hc hl _ ih =>
    obtain ⟨l₁, -, hm₁⟩ := command_simulates hc hm hl
    exact ih hm₁

/-- Whatever commands are offered, and whatever the hosts answer, all are served. -/
theorem serves_all {hosts : Hosts} (hf : hosts.Fitting) (hm : Mirrors h l) (past : List Exchange)
    (cs : List Command) (hc : ∀ c ∈ cs, c.offered = true) :
    ∃ ss h', h.Serves ss h' ∧ ss.map (·.command) = cs ∧
      hosts.Say past (ss.flatMap (·.exchanges)) := by
  induction cs generalizing h l past with
  | nil => exact ⟨[], h, .nil, rfl, trivial⟩
  | cons c cs ih =>
    obtain ⟨ho, hcs⟩ := List.forall_mem_cons.1 hc
    obtain ⟨es, h₁, res, hl, hsay⟩ :=
      Call.comes_to_end (c := .asked c) hf ⟨ho, idle_of_mirrors hm⟩ past
    obtain ⟨l₁, -, hm₁⟩ := command_simulates ho hm hl
    obtain ⟨ss, h', hs, rfl, hsays⟩ := ih hm₁ (past ++ es) hcs
    exact ⟨⟨c, es, res⟩ :: ss, h', .cons ho hl hs, rfl, Hosts.say_append hsay hsays⟩

/-- The hub is a ledger to whoever calls on it one command at a time. -/
theorem served_as_ledger (hu : h.Unused) :
    (∀ ss h', h.Serves ss h' → ∃ l, Accounts h.setting h {} ss h' l) ∧
    ∀ (hosts : Hosts) (cs : List Command), hosts.Fitting → (∀ c ∈ cs, c.offered = true) →
      ∃ ss h', h.Serves ss h' ∧ ss.map (·.command) = cs ∧
        hosts.Say [] (ss.flatMap (·.exchanges)) := by
  have hm := mirrors_unused hu
  exact ⟨fun ss h' hs => accounts_of_mirrors hm hs, fun hosts cs hf hc => serves_all hf hm [] cs hc⟩

/-- A start, a second one with the same id, a restart after which the host has lost the kernel,
and two shutdowns, of which the second does nothing. -/
def fiveServed : List Served :=
  [⟨.start (some "python3") {} .zero, [(.home, .start "python3" {}, .started "k")],
      .ok (.started .zero)⟩,
    ⟨.start (some "python3") { id := some .zero } .zero, [], .error (.alreadyExists .zero)⟩,
    ⟨.kernel .zero (.restart true), [(.home, .restart "k" true, .refused (.failed "no")),
      (.home, .model "k", .refused (.notFound "k"))],
      .error (.operationFailed .zero .restart (.failed "no"))⟩,
    ⟨.kernel .zero (.shutdown false), [(.home, .shutdown "k" false, .done)], .ok .done⟩,
    ⟨.kernel .zero (.shutdown false), [], .ok .done⟩]

/-- Hosts that refuse all they can refuse. -/
def refusing : Hosts := fun _ _ q =>
  match q with
  | .has _ => .has false
  | _ => .refused (.failed "no")

/-- What five commands are served with, and that they are served when the hosts refuse. -/
theorem five_served_as_ledger :
    pythonHub.Unused ∧ (∃ h' l, pythonHub.Serves fiveServed h' ∧
      Accounts pythonHub.setting pythonHub {} fiveServed h' l) ∧
    refusing.Fitting ∧ ∃ ss h', pythonHub.Serves ss h' ∧
      ss.map (·.command) = fiveServed.map (·.command) := by
  have hs : ∃ h', pythonHub.Serves fiveServed h' := by
    exact ⟨_, .cons rfl
      (.step rfl <| .step rfl <| .step rfl <| .step rfl <| .step rfl <| .answer rfl nofun rfl <|
        .step rfl <| .step rfl <| .step rfl <| .step rfl <| .step rfl .refl) <| .cons rfl
      (.step rfl <| .step rfl <| .step rfl .refl) <| .cons rfl
      (.step rfl <| .step rfl <| .step rfl <| .step rfl <| .answer rfl nofun rfl <|
        .answer rfl nofun rfl <| .step rfl <| .step rfl <| .step rfl .refl) <| .cons rfl
      (.step rfl <| .step rfl <| .step rfl <| .step rfl <| .answer rfl nofun rfl <| .step rfl <|
        .step rfl <| .step rfl <| .step rfl <| .step rfl <| .step rfl <| .step rfl .refl) <|
      .cons rfl (.step rfl .refl) .nil⟩
  obtain ⟨h', hs⟩ := hs
  obtain ⟨l, ha⟩ := (served_as_ledger pythonHub_unused).1 fiveServed h' hs
  have hf : refusing.Fitting := by
    intro past side q
    cases q <;> rfl
  obtain ⟨ss, h'', hss, hc, -⟩ := (served_as_ledger pythonHub_unused).2 refusing
    (fiveServed.map (·.command)) hf (by decide)
  exact ⟨pythonHub_unused, ⟨h', l, hs, ha⟩, hf, ss, h'', hss, hc⟩

end Ledger

end KernelHub
