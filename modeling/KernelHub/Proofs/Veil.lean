import KernelHub.Proofs.Ledger.Sequence

/-
What a hub does when nobody can read the ids that its hosts give to their kernels, nor the texts
of their errors, nor the parts of their models that only they know about. All that is drawn over
them is a veil: other names for the ids, no two the same at one host, and nothing for the rest.
Under any veil a hub does what it does without one.
-/

namespace KernelHub

/-- The error without its text. -/
def HostError.mute : HostError → HostError
  | .notFound _ => .notFound ""
  | .unauthorized _ => .unauthorized ""
  | .unavailable _ => .unavailable ""
  | .timeout _ => .timeout ""
  | .failed _ => .failed ""
  | .protocol _ => .protocol ""
  | .transport _ => .transport ""

def KernelError.mute : KernelError → KernelError
  | .operationFailed id op e => .operationFailed id op e.mute
  | .catalog e => .catalog e.mute
  | .channel session e => .channel session e.mute
  | e => e

/-- The model without the content of its additional part. -/
def Model.mute (m : Model) : Model := { m with additional := m.additional.map fun _ => .null }

/-- Names for the ids that hosts give to their kernels, no two the same at one host. -/
structure Veil where
  name : Side → String → String
  injective : ∀ side, Function.Injective (name side)

namespace Veil

/-! ## What is drawn over a hub and its hosts -/

variable (v : Veil)

def binding (b : Binding) : Binding := ⟨b.side, v.name b.side b.delegate⟩

def session (s : SessionBinding) : SessionBinding := { s with binding := v.binding s.binding }

def model (side : Side) (m : Model) : Model := { m.mute with id := v.name side m.id }

def request (side : Side) : Request → Request
  | .shutdown d now => .shutdown (v.name side d) now
  | .interrupt d => .interrupt (v.name side d)
  | .restart d now => .restart (v.name side d) now
  | .model d => .model (v.name side d)
  | .has d => .has (v.name side d)
  | .openChannel d session => .openChannel (v.name side d) session
  | .connect channel session => .connect channel (v.session session)
  | q => q

def answer (side : Side) : Answer → Answer
  | .started d => .started (v.name side d)
  | .model m => .model (v.model side m)
  | .models ms => .models (ms.map (v.model side))
  | .refused e => .refused e.mute
  | a => a

def exchange (x : Exchange) : Exchange := (x.1, v.request x.1 x.2.1, v.answer x.1 x.2.2)

def record (r : Record) : Record := { r with binding := r.binding.map v.binding }

def hub (h : Hub) : Hub :=
  { h with
    records := h.records.map v.record
    idMap := h.idMap.map fun e => (e.1, v.binding e.2) }

def outcome : Outcome → Outcome
  | .model m => .model m.mute
  | .models ms => .models (ms.map Model.mute)
  | .opened session channel => .opened (v.session session) channel
  | x => x

def result : Result → Result
  | .ok x => .ok (v.outcome x)
  | .error e => .error e.mute

def phase : Work.Phase → Work.Phase
  | .calling side q => .calling side (v.request side q)
  | .probing b e => .probing (v.binding b) e.mute
  | .mapping b => .mapping (v.binding b)
  | .binding b => .binding (v.binding b)
  | .settling state r => .settling state (v.result r)
  | .releasing r => .releasing (v.result r)
  | .ended r => .ended (v.result r)
  | p => p

def work (w : Work) : Work := { w with phase := v.phase w.phase }

def call : Call → Call
  | .working w after => .working (v.work w) after
  | .dropping id e => .dropping id e.mute
  | .listing side found => .listing side (found.map Model.mute)
  | .listed side ms found => .listed side (ms.map (v.model side)) (found.map Model.mute)
  | .activating b => .activating (v.binding b)
  | .opening session connect => .opening (v.session session) connect
  | .connecting session channel => .connecting (v.session session) channel
  | .ended r => .ended (v.result r)
  | c => c

/-- What was served, under the veil. -/
def served (s : Served) : Served := ⟨s.command, s.exchanges.map v.exchange, v.result s.result⟩

/-! ## The hub -/

variable {v} {h h' : Hub} {r : Record} {p : Nat} {side : Side} {id : KernelId}

/-! Proofs that are `rfl` alone would have `simp` rewrite conditions without the instances that
decide them. -/

@[simp] theorem config_hub (h : Hub) : (v.hub h).config = h.config := by cases h; rfl

@[simp] theorem environment_hub (h : Hub) : (v.hub h).environment = h.environment := by
  cases h; rfl

@[simp] theorem hasRemote_hub (h : Hub) : (v.hub h).hasRemote = h.hasRemote := by cases h; rfl

@[simp] theorem provenance_hub (h : Hub) : (v.hub h).provenance = h.provenance := by
  cases h; rfl

@[simp] theorem registry_hub (h : Hub) : (v.hub h).registry = h.registry := by cases h; rfl

@[simp] theorem retired_hub (h : Hub) : (v.hub h).retired = h.retired := by cases h; rfl

@[simp] theorem name_record (r : Record) : (v.record r).name = r.name := by cases r; rfl

@[simp] theorem state_record (r : Record) : (v.record r).state = r.state := by cases r; rfl

@[simp] theorem record?_hub (h : Hub) (p : Nat) :
    (v.hub h).record? p = (h.record? p).map v.record := by
  simp [Hub.record?, hub]

@[simp] theorem hasSide_hub (h : Hub) (side : Side) : (v.hub h).hasSide side = h.hasSide side := by
  cases side <;> rfl

@[simp] theorem bound?_hub (h : Hub) (r : Record) :
    (v.hub h).bound? (v.record r) = (h.bound? r).map v.binding := by
  cases hb : r.binding with
  | none => simp [Hub.bound?, record, hb]
  | some b =>
    have hs : (v.hub h).hasSide (v.binding b).side = h.hasSide b.side := hasSide_hub h b.side
    cases hc : h.hasSide b.side <;> simp [Hub.bound?, record, hb, Option.filter, hs, hc]

theorem edit_hub (h : Hub) (p : Nat) {f f' : Record → Record}
    (hf : ∀ r, f' (v.record r) = v.record (f r)) : (v.hub h).edit p f' = v.hub (h.edit p f) := by
  have hm : (h.records.map v.record).modify p f' = (h.records.modify p f).map v.record := by
    refine List.ext_getElem? fun j => ?_
    simp only [List.getElem?_map, List.getElem?_modify]
    cases h.records[j]? with
    | none => rfl
    | some r => by_cases hj : p = j <;> simp [hj, hf]
  simp only [Hub.edit, hub, hm]

@[simp] theorem setState_hub (h : Hub) (p : Nat) (s : KernelState) :
    (v.hub h).setState p s = v.hub (h.setState p s) := edit_hub h p fun _ => rfl

theorem setBinding_hub (h : Hub) (p : Nat) (b : Option Binding) :
    (v.hub h).setBinding p (b.map v.binding) = v.hub (h.setBinding p b) :=
  edit_hub h p fun _ => rfl

@[simp] theorem setGuard_hub (h : Hub) (p : Nat) (g : Bool) :
    (v.hub h).setGuard p g = v.hub (h.setGuard p g) := edit_hub h p fun _ => rfl

@[simp] theorem writeState_hub (h : Hub) (p : Nat) (s : Option KernelState) :
    Work.writeState (v.hub h) p s = v.hub (Work.writeState h p s) := by
  cases s with
  | none => rfl
  | some s => exact setState_hub h p s

@[simp] theorem map_hub (h : Hub) (id : KernelId) (b : Binding) :
    (v.hub h).map id (v.binding b) = v.hub (h.map id b) := by
  simp [Hub.map, hub, Table.set, Table.erase_map]

@[simp] theorem unmap_hub (h : Hub) (id : KernelId) :
    (v.hub h).unmap id = v.hub (h.unmap id) := by
  simp [Hub.unmap, hub, Table.erase_map]

@[simp] theorem register?_hub (h : Hub) (id : KernelId) (name : String) :
    (v.hub h).register? id name = (h.register? id name).map fun x => (v.hub x.1, x.2) := by
  simp only [Hub.register?, registry_hub, retired_hub]
  split
  · rfl
  · simp [Hub.adopt, hub, record]

@[simp] theorem kernel?_hub (h : Hub) (id : KernelId) :
    (v.hub h).kernel? id = (h.kernel? id).map v.record := by
  simp only [Hub.kernel?, registry_hub]
  cases Table.find? id h.registry with
  | none => rfl
  | some p => exact record?_hub h p

/-! What clients can see of a hub, they see under a veil too. -/

theorem kernelIds_hub (h : Hub) : (v.hub h).kernelIds = h.kernelIds := rfl

theorem hasKernel_hub (h : Hub) (id : KernelId) : (v.hub h).hasKernel id = h.hasKernel id := rfl

theorem kernelState?_hub (h : Hub) (id : KernelId) :
    (v.hub h).kernelState? id = h.kernelState? id := by
  simp only [Hub.kernelState?, kernel?_hub, Option.map_map]
  rfl

theorem kernelSide?_hub (h : Hub) (id : KernelId) :
    (v.hub h).kernelSide? id = h.kernelSide? id := by
  simp only [Hub.kernelSide?, kernel?_hub]
  cases h.kernel? id with
  | none => rfl
  | some r =>
    simp only [Option.map_some, Option.bind_some, record, Option.map_map]
    rfl

/-- The id map reads the same backwards under a veil, as long as it tells all ids apart. -/
@[simp] theorem externalId?_hub (h : Hub) (side : Side) (d : String) :
    (v.hub h).externalId? side (v.name side d) = h.externalId? side d := by
  have hp : (fun e : KernelId × Binding =>
        decide (e.2.side = side ∧ e.2.delegate = v.name side d)) ∘
      (fun e : KernelId × Binding => (e.1, v.binding e.2)) =
      fun e : KernelId × Binding => decide (e.2.side = side ∧ e.2.delegate = d) := by
    funext e
    simp only [Function.comp_apply, binding, decide_eq_decide]
    refine and_congr_right fun hs => ?_
    rw [hs]
    exact (v.injective side).eq_iff
  simp only [Hub.externalId?, hub, List.find?_map, Option.map_map]
  rw [hp]
  rfl

theorem clientModel_model (id : KernelId) (side : Side) (m : Model) :
    Hub.clientModel id side (v.model side m) = (Hub.clientModel id side m).mute := by
  cases side <;> rfl

@[simp] theorem clientModels_hub (h : Hub) (side : Side) (ms : List Model) :
    (v.hub h).clientModels side (ms.map (v.model side)) =
      (h.clientModels side ms).map Model.mute := by
  simp only [Hub.clientModels, List.filterMap_map, List.map_filterMap]
  congr 1
  funext m
  have hi : (v.hub h).externalId? side (v.model side m).id = h.externalId? side m.id :=
    externalId?_hub h side m.id
  simp only [Function.comp_apply, hi, clientModel_model, Option.map_map]
  rfl

end Veil

end KernelHub
