import KernelHub.Proofs.Hosted
import KernelHub.Proofs.Ledger.Sequence

/-
What a caller does with a hub, one thing after the other. A run is fixed by what is done and by
what the hosts answer: two runs in which the same is done can only part ways at an answer.
-/

namespace KernelHub

/-- What callers do with a hub. -/
inductive Deed
  | ask (c : Command)
  | shutDownAll (now : Bool)

namespace Deed

/-- The commands that a deed comes to. All kernels are shut down in any order. -/
inductive Gives (h : Hub) : Deed → List Command → Prop
  | ask {c} : Gives h (.ask c) [c]
  | shutDownAll {now} {ids : List KernelId} (hp : ids.Perm h.kernelIds) :
    Gives h (.shutDownAll now) (ids.map fun id => .kernel id (.shutdown now))

def offered : Deed → Bool
  | .ask c => c.offered
  | .shutDownAll _ => true

end Deed

/-- A deed, what was served for it, and the hub after it. -/
structure Done where
  deed : Deed
  served : List Served
  hub : Hub

namespace Done

/-- What is done, and in which order. -/
def plan (d : Done) : Deed × List Command := (d.deed, d.served.map (·.command))

def exchanges (d : Done) : List Exchange := d.served.flatMap (·.exchanges)

end Done

/-- Callers do these things with the hub. -/
inductive Hub.Does : Hub → List Done → Prop
  | nil {h} : Does h []
  | cons {h d ss h₁ ds} (hg : Deed.Gives h d (ss.map (·.command))) (hs : h.Serves ss h₁)
    (hd : Does h₁ ds) : Does h (⟨d, ss, h₁⟩ :: ds)

/-! ## One run for the same answers -/

/-- Where these exchanges first differ, if they do, they do not differ in an answer only. -/
def Concur (es fs : List Exchange) : Prop :=
  ∀ past side q a b es' fs', es = past ++ (side, q, a) :: es' → fs = past ++ (side, q, b) :: fs' →
    a = b

variable {h h' h₁ h₂ : Hub} {c : Call} {es fs es' fs' past : List Exchange} {r₁ r₂ : Result}
  {l : Ledger}

theorem Concur.left (hc : Concur (es ++ es') (fs ++ fs')) : Concur es fs := by
  rintro past side q a b es₁ fs₁ rfl rfl
  exact hc past side q a b (es₁ ++ es') (fs₁ ++ fs') (by simp) (by simp)

theorem Concur.right (hc : Concur (past ++ es) (past ++ fs)) : Concur es fs := by
  rintro pre side q a b es₁ fs₁ rfl rfl
  exact hc (past ++ pre) side q a b es₁ fs₁ (by simp) (by simp)

theorem Call.leads_unique (h1 : c.Leads h es h₁ (.ended r₁)) (h2 : c.Leads h fs h₂ (.ended r₂))
    (hc : Concur es fs) : es = fs ∧ h₁ = h₂ ∧ r₁ = r₂ := by
  generalize he : ended r₁ = d at h1
  induction h1 generalizing fs with
  | refl =>
    subst he
    obtain ⟨rfl, rfl, rfl⟩ := of_ended h2
    exact ⟨rfl, rfl, rfl⟩
  | @step h c _ _ _ _ _ hs _ ih =>
    have hq : c.request? = none := by
      cases hq : c.request? with
      | none => rfl
      | some x =>
        have hn : c.step? h = none := step?_of_request? (by rw [hq]; rfl)
        cases hn.symm.trans hs
    exact ih (of_step h2 hq hs) hc he
  | answer hq _ hs _ ih =>
    obtain ⟨b, c', fs', rfl, -, hs', h2⟩ :=
      of_request h2 (step?_of_request? (by rw [hq]; rfl)) hq
    obtain rfl := hc [] _ _ _ _ _ _ rfl rfl
    cases hs.symm.trans hs'
    obtain ⟨rfl, rfl, rfl⟩ := ih h2 (@Concur.right _ _ [_] hc) he
    exact ⟨rfl, rfl, rfl⟩

theorem Hub.serves_unique {ss ts : List Served} (h1 : h.Serves ss h₁) (h2 : h.Serves ts h₂)
    (hp : ss.map (·.command) = ts.map (·.command))
    (hc : Concur (ss.flatMap (·.exchanges)) (ts.flatMap (·.exchanges))) : ss = ts ∧ h₁ = h₂ := by
  induction h1 generalizing ts with
  | nil =>
    cases h2 with
    | nil => exact ⟨rfl, rfl⟩
    | cons => cases hp
  | cons _ hl _ ih =>
    cases h2 with
    | nil => cases hp
    | cons _ hl' hs' =>
      obtain ⟨hcmd, hps⟩ := List.cons.inj hp
      cases hcmd
      obtain ⟨rfl, rfl, rfl⟩ := Call.leads_unique hl hl' (Concur.left hc)
      obtain ⟨rfl, rfl⟩ := ih hs' hps (Concur.right hc)
      exact ⟨rfl, rfl⟩

theorem Hub.does_unique {ds ds' : List Done} (h1 : h.Does ds) (h2 : h.Does ds')
    (hp : ds.map Done.plan = ds'.map Done.plan)
    (hc : Concur (ds.flatMap Done.exchanges) (ds'.flatMap Done.exchanges)) : ds = ds' := by
  induction h1 generalizing ds' with
  | nil =>
    cases h2 with
    | nil => rfl
    | cons => cases hp
  | cons _ hs _ ih =>
    cases h2 with
    | nil => cases hp
    | cons _ hs' hd' =>
      obtain ⟨hplan, hps⟩ := List.cons.inj hp
      obtain ⟨hdeed, hcmds⟩ := Prod.mk.inj hplan
      cases hdeed
      obtain ⟨rfl, rfl⟩ := Hub.serves_unique hs hs' hcmds (Concur.left hc)
      rw [ih hd' hps (Concur.right hc)]

/-! ## Runs that exist -/

theorem Deed.exists_gives {d : Deed} (hd : d.offered = true) (h : Hub) :
    ∃ cs, d.Gives h cs ∧ ∀ c ∈ cs, c.offered = true := by
  cases d with
  | ask c => exact ⟨[c], .ask, by simpa [offered] using hd⟩
  | shutDownAll now => exact ⟨_, .shutDownAll (List.Perm.refl _), by simp [Command.offered]⟩

theorem Hub.Serves.offered {ss : List Served} (hs : h.Serves ss h') :
    ∀ c ∈ ss.map (·.command), c.offered = true := by
  induction hs with
  | nil => simp
  | cons hc _ _ ih => simpa using ⟨hc, by simpa using ih⟩

/-- Whatever is done, and whatever the hosts answer, it is done to the end. -/
theorem Hub.exists_does {hosts : Hosts} {deeds : List Deed} (hf : hosts.Fitting)
    (hm : Ledger.Mirrors h l) (hd : ∀ d ∈ deeds, d.offered = true) (past : List Exchange) :
    ∃ ds, h.Does ds ∧ ds.map (·.deed) = deeds ∧ hosts.Say past (ds.flatMap Done.exchanges) := by
  induction deeds generalizing h l past with
  | nil => exact ⟨[], .nil, rfl, trivial⟩
  | cons d deeds ih =>
    obtain ⟨hd, hds⟩ := List.forall_mem_cons.1 hd
    obtain ⟨cs, hg, hc⟩ := d.exists_gives hd h
    obtain ⟨ss, h₁, hs, rfl, hsay⟩ := Ledger.serves_all hf hm past cs hc
    obtain ⟨l₁, hm₁⟩ := Ledger.mirrors_serves hm hs
    obtain ⟨ds, hd', rfl, hsays⟩ := ih hm₁ hds (past ++ ss.flatMap (·.exchanges))
    exact ⟨⟨d, ss, h₁⟩ :: ds, .cons hg hs hd', rfl, Hosts.say_append hsay hsays⟩

end KernelHub
