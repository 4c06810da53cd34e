import KernelHub.Proofs.Ledger.Jobs
import KernelHub.Proofs.Ledger.Sequence
import KernelHub.Proofs.Looks
import KernelHub.Proofs.Memory.Stop

/-
A hub and its host at home, used by one caller at a time. What the remote host is and what it
answers is left open, so a run of the site is a run with any remote host. Two runs are compared
in what concerns the kernels at home.
-/

namespace KernelHub

/-- A hub and its host at home. -/
structure Site where
  hub : Hub
  home : Memory.Host

namespace Site

/-- A site that nobody has used yet, with or without a remote host. -/
def new (config : Config) (environment : Environment) (hasRemote : Bool) (home : Memory.Host) :
    Site :=
  ⟨{ config, environment, hasRemote }, home⟩

/-- The host at home answers its part of the questions; the answers to the others are any. -/
inductive Told : Memory.Host → List Exchange → Memory.Host → Prop
  | nil {g} : Told g [] g
  | home {g q u a g₁ es g'} (hr : g.Replies q u a g₁) (ht : Told g₁ es g') :
    Told g ((.home, q, a) :: es) g'
  | remote {g q a es g'} (ht : Told g es g') : Told g ((.remote, q, a) :: es) g'

/-- What is done with a site. -/
inductive Action
  | ask (c : Command)
  | shutDownAll (now : Bool)
  /-- Something happens to the host at home. -/
  | control (c : Memory.Control)
  /-- The host at home loses a kernel. -/
  | kill (d : String)

namespace Action

/-- The commands that an action comes to. All kernels are shut down in any order. -/
inductive Gives (h : Hub) : Action → List Command → Prop
  | ask {c} : Gives h (.ask c) [c]
  | shutDownAll {now} {ids : List KernelId} (hp : ids.Perm h.kernelIds) :
    Gives h (.shutDownAll now) (ids.map fun id => .kernel id (.shutdown now))
  | control {c} : Gives h (.control c) []
  | kill {d} : Gives h (.kill d) []

/-- What an action does to the host at home by itself. -/
def meddle : Action → Memory.Host → Memory.Host
  | .control c, g => c.apply g
  | .kill d, g => (g.kill d).1
  | _, g => g

/-- Can callers do that, and is what the host at home offers left as it is? -/
def allowed : Action → Bool
  | .ask c => c.offered
  | .control (.specs _) => false
  | _ => true

/-- The id that a start gives to its kernel. -/
def id? : Action → Option KernelId
  | .ask (.start _ o fresh) => some (o.id.getD fresh)
  | _ => none

/-- The id that the caller of a start supplies. -/
def supplied? : Action → Option KernelId
  | .ask (.start _ o _) => o.id
  | _ => none

/-- The two are the same but for an id that the hub draws. -/
inductive Same : Action → Action → Prop
  | same {a} : Same a a
  | start {asked o fresh fresh'} : Same (.ask (.start asked o fresh)) (.ask (.start asked o fresh'))

end Action

/-- An action, with the site before and after it. -/
structure Moment where
  before : Site
  action : Action
  served : List Served
  after : Site

/-- Can the moment happen? -/
structure Moment.Possible (m : Moment) : Prop where
  gives : m.action.Gives m.before.hub (m.served.map (·.command))
  serves : m.before.hub.Serves m.served m.after.hub
  told : Told (m.action.meddle m.before.home) (m.served.flatMap (·.exchanges)) m.after.home

/-- Moments that follow one another. -/
inductive Runs : Site → List Moment → Site → Prop
  | nil {s} : Runs s [] s
  | cons {m : Moment} {ms s'} (hp : m.Possible) (hr : Runs m.after ms s') :
    Runs m.before (m :: ms) s'

/-! ## What concerns the kernels at home -/

/-- What the remote host has no part in: the type to start when none is named, and the types
offered at home. -/
structure Ground where
  default? : Option String
  specs : List Spec

namespace Ground

def of (config : Config) (environment : Environment) (home : Memory.Host) : Ground :=
  ⟨config.resolvedDefault environment, home.specs⟩

/-- Is the name one of a type that is offered at home? -/
def offers (gr : Ground) (name : String) : Bool := name ∈ gr.specs.map Spec.name

/-- Does a start that names this type, or none, start a type that is offered at home? When there
is no default, the first type at home is started. -/
def starts (gr : Ground) (asked : Option String) : Bool := (asked.or gr.default?).all gr.offers

end Ground

namespace Action

/-- Is it the start of a type that is offered at home? -/
def isLocal (gr : Ground) : Action → Bool
  | .ask (.start asked _ _) => gr.starts asked
  | _ => false

/-- The ids that starts of types offered at home give to their kernels. -/
def locals (gr : Ground) (as : List Action) : List KernelId :=
  (as.filter (·.isLocal gr)).filterMap (·.id?)

/-- Starts of types that are offered at home have ids that their callers supply and no other
start uses. -/
structure Proper (gr : Ground) (as : List Action) : Prop where
  allowed : ∀ a ∈ as, a.allowed = true
  supplied : ∀ a ∈ as, a.isLocal gr = true → a.supplied?.isSome = true
  apart : as.Pairwise fun a b => (a.isLocal gr || b.isLocal gr) = true → a.id?.isSome = true →
    a.id? ≠ b.id?

end Action

end Site

/-- Is the model one of a kernel at home? -/
def Hub.isHome (h : Hub) (m : Model) : Bool :=
  h.kernelIds.any fun id => toString id = m.id ∧ h.kernelSide? id = some .home

/-- The result without the times in it. -/
def Result.bare : Result → Result
  | .ok (.model m) => .ok (.model m.bare)
  | .ok (.models ms) => .ok (.models (ms.map Model.bare))
  | r => r

namespace Site

/-- The results of a command in two runs, with the hubs after it, are the same in what concerns
the types offered at home and the kernels with these ids. -/
def Alike (gr : Ground) (ids : List KernelId) (h₁ h₂ : Hub) : Command → Result → Result → Prop
  | .start asked .., r₁, r₂ => gr.starts asked = true → r₁ = r₂
  | .kernel id _, r₁, r₂ => id ∈ ids → Result.bare r₁ = Result.bare r₂
  | .type name, r₁, r₂ => gr.offers name = true → r₁ = r₂
  | .types, r₁, r₂ => (∃ e, r₁ = .error e ∧ r₂ = .error e) ∨
    ∃ es₁ es₂, r₁ = .ok (.types es₁) ∧ r₂ = .ok (.types es₂) ∧
      ∀ name, gr.offers name = true → Entries.find? name es₁ = Entries.find? name es₂
  | .list, r₁, r₂ => (∃ e, r₁ = .error e ∧ r₂ = .error e) ∨
    ∃ ms₁ ms₂, r₁ = .ok (.models ms₁) ∧ r₂ = .ok (.models ms₂) ∧
      (ms₁.filter h₁.isHome).map Model.bare = (ms₂.filter h₂.isHome).map Model.bare
  | .defaultName, r₁, r₂ => r₁ = r₂
  | _, _, _ => True

/-- Two moments are the same in what concerns the types offered at home and the kernels with
these ids. -/
structure Agree (gr : Ground) (ids : List KernelId) (m₁ m₂ : Moment) : Prop where
  home : m₁.after.home.Like m₂.after.home
  state : ∀ id ∈ ids, m₁.after.hub.kernelState? id = m₂.after.hub.kernelState? id
  side : ∀ id ∈ ids, m₁.after.hub.kernelSide? id = m₂.after.hub.kernelSide? id
  result : ∀ c, m₁.action = .ask c → ∃ c' es₁ es₂ r₁ r₂, m₁.served = [⟨c, es₁, r₁⟩] ∧
    m₂.served = [⟨c', es₂, r₂⟩] ∧ Alike gr ids m₁.after.hub m₂.after.hub c r₁ r₂

end Site

end KernelHub
