import KernelHub.Proofs.Site

/-
Every sequence of actions on a site can be run to its end, whatever the remote host answers.
-/

namespace KernelHub

/-- A remote host as a whole: what it answers to the next question, after all that the hosts were
asked so far. -/
abbrev Remote := List Exchange → Request → Answer

namespace Remote

def Fitting (remote : Remote) : Prop := ∀ past (q : Request), q.Fits (remote past q) = true

/-- Are these exchanges, as far as the remote host has part in them, what it says after some
others? -/
def Heard (remote : Remote) : List Exchange → List Exchange → Prop
  | _, [] => True
  | past, (side, q, a) :: es =>
    (side = .remote → a = remote past q) ∧ Heard remote (past ++ [(side, q, a)]) es

theorem heard_append {remote : Remote} {past es fs : List Exchange} (h1 : remote.Heard past es)
    (h2 : remote.Heard (past ++ es) fs) : remote.Heard past (es ++ fs) := by
  induction es generalizing past with
  | nil => simpa using h2
  | cons e es ih =>
    obtain ⟨side, q, a⟩ := e
    exact ⟨h1.1, ih h1.2 (by simpa using h2)⟩

end Remote

namespace Site

open Memory (Host)

/-- The host at home after it was asked its part of these questions. -/
def replay (g : Host) : List Exchange → Host
  | [] => g
  | (.home, q, _) :: es => replay (g.reply q).1 es
  | (.remote, _) :: es => replay g es

/-- The host at home and a remote host that was asked some questions before. -/
def both (g : Host) (remote : Remote) (before : List Exchange) : Hosts := fun past side q =>
  match side with
  | .home => ((replay g past).reply q).2
  | .remote => remote (before ++ past) q

variable {g : Host} {remote : Remote} {before past es : List Exchange} {h h' : Hub} {l : Ledger}
  {s : Site} {as : List Action}

theorem replay_append (g : Host) (past es : List Exchange) :
    replay g (past ++ es) = replay (replay g past) es := by
  induction past generalizing g with
  | nil => rfl
  | cons e past ih =>
    obtain ⟨side, q, a⟩ := e
    cases side <;> exact ih _

theorem fitting_both (hr : remote.Fitting) (g : Host) (before : List Exchange) :
    (both g remote before).Fitting := by
  intro past side q
  cases side with
  | home =>
    obtain ⟨u, hrep⟩ := (replay g past).replies_reply q
    exact hrep.fits
  | remote => exact hr _ q

theorem told_of_say (hs : (both g remote before).Say past es) :
    Told (replay g past) es (replay g (past ++ es)) ∧ remote.Heard (before ++ past) es := by
  induction es generalizing past with
  | nil =>
    rw [List.append_nil]
    exact ⟨.nil, trivial⟩
  | cons e es ih =>
    obtain ⟨side, q, a⟩ := e
    obtain ⟨ha, hs⟩ := hs
    obtain ⟨ht, hh⟩ := ih hs
    rw [List.append_assoc, List.singleton_append, replay_append] at ht
    rw [← List.append_assoc] at hh
    cases side with
    | home =>
      obtain ⟨u, hrep⟩ := (replay g past).replies_reply q
      subst ha
      exact ⟨.home hrep ht, nofun, hh⟩
    | remote => exact ⟨.remote ht, fun _ => ha, hh⟩

theorem Action.exists_gives {a : Action} (ha : a.allowed = true) (h : Hub) :
    ∃ cs, a.Gives h cs ∧ ∀ c ∈ cs, c.offered = true := by
  cases a with
  | ask c => exact ⟨[c], .ask, by simpa [allowed] using ha⟩
  | shutDownAll now => exact ⟨_, .shutDownAll (List.Perm.refl _), by simp [Command.offered]⟩
  | control c => exact ⟨[], .control, by simp⟩
  | kill d => exact ⟨[], .kill, by simp⟩

/-- What was asked of the hosts, and answered. -/
def exchanges (ms : List Moment) : List Exchange :=
  ms.flatMap fun m => m.served.flatMap (·.exchanges)

theorem exists_runs (hr : remote.Fitting) (hm : Ledger.Mirrors s.hub l)
    (ha : ∀ a ∈ as, a.allowed = true) (before : List Exchange) :
    ∃ ms s', Runs s ms s' ∧ ms.map (·.action) = as ∧ remote.Heard before (exchanges ms) := by
  induction as generalizing s l before with
  | nil => exact ⟨[], s, .nil, rfl, trivial⟩
  | cons a as ih =>
    obtain ⟨ha, has⟩ := List.forall_mem_cons.1 ha
    obtain ⟨cs, hg, hc⟩ := a.exists_gives ha s.hub
    obtain ⟨ss, h', hs, rfl, hsay⟩ :=
      Ledger.serves_all (fitting_both hr (a.meddle s.home) before) hm [] cs hc
    obtain ⟨l', hm'⟩ := Ledger.mirrors_serves hm hs
    obtain ⟨ht, hh⟩ := told_of_say hsay
    rw [List.append_nil] at hh
    generalize hg' : replay (a.meddle s.home) ([] ++ ss.flatMap (·.exchanges)) = g' at ht
    obtain ⟨ms, s', hrs, rfl, hheard⟩ :=
      @ih l' ⟨h', g'⟩ hm' has (before ++ ss.flatMap (·.exchanges))
    have hp : Moment.Possible ⟨s, a, ss, ⟨h', g'⟩⟩ := ⟨hg, hs, ht⟩
    exact ⟨_ :: ms, s', .cons hp hrs, rfl, Remote.heard_append hh hheard⟩

end Site

end KernelHub
