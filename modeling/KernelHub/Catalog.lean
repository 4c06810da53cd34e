import KernelHub.Config
import KernelHub.Spec

/-
The catalog of kernel types over two hosts. The types at home come first: a remote
type of the same name is hidden. Each merge records which names came from where,
and that record decides which host starts a kernel.
-/

namespace KernelHub

/-- Which names the latest merge found on which side, in order. -/
structure Provenance where
  home : List String := []
  remote : List String := []
deriving DecidableEq, Repr, Inhabited

namespace Provenance

def isHome (p : Provenance) (name : String) : Bool := name ∈ p.home

def isRemote (p : Provenance) (name : String) : Bool := name ∈ p.remote

/-- Has any merge seen the name? -/
def knows (p : Provenance) (name : String) : Bool := p.isHome name || p.isRemote name

/-- The side that hosts kernels of a type: home, unless the name is known as remote. -/
def route (p : Provenance) (name : String) : Side :=
  if p.isRemote name then .remote else .home

end Provenance

namespace Config

/-- The suffix of a side. -/
def suffix (c : Config) : Side → String
  | .home => c.homeSuffix
  | .remote => c.remoteSuffix

end Config

namespace Catalog

/-- The types by name, marked with a suffix; of several with one name the last counts. -/
def named (suffix : String) (specs : List Spec) : Entries Spec :=
  Entries.ofList (specs.map fun s => (s.name, s.withSuffix suffix))

/-- Adds the entries of a list to keyed entries. -/
def union (es more : Entries Spec) : Entries Spec :=
  more.foldl (fun es e => Entries.insert e.1 e.2 es) es

/-- The types at home by name. -/
def atHome (c : Config) (home : List Spec) : Entries Spec := named (c.suffix .home) home

/-- The remote types that no type at home hides, by name. -/
def atGateway (c : Config) (home remote : List Spec) : Entries Spec :=
  named (c.suffix .remote) (remote.filter fun s => s.name ∉ home.map Spec.name)

/-- The catalog of what the hosts listed. -/
def merge (c : Config) (home remote : List Spec) : Entries Spec :=
  union (atHome c home) (atGateway c home remote)

/-- Where the names of a merge came from. -/
def provenance (c : Config) (home remote : List Spec) : Provenance where
  home := Entries.keys (atHome c home)
  remote := Entries.keys (atGateway c home remote)

/-- The least name of a listing. -/
def firstName? (specs : List Spec) : Option String :=
  (Entries.keys (named "" specs)).head?

end Catalog

end KernelHub
