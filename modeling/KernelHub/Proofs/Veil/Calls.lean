import KernelHub.Proofs.Veil

/-
A call under a veil. Each step of a call and each answer that it takes commutes with the veil,
so a run of the hub, veiled, is a run of the veiled hub.
-/

namespace KernelHub.Veil

variable {v : Veil} {h h' : Hub} {r : Record} {c c' : Call} {side : Side} {q : Request}
  {a : Answer} {es : List Exchange}

/-! ## Work -/

theorem enter_hub (h : Hub) (r : Record) (job : Job) :
    Work.enter (v.hub h) (v.record r) job =
      ((Work.enter h r job).1, v.phase (Work.enter h r job).2) := by
  cases job with
  | start o =>
    simp only [Work.enter, state_record, name_record, provenance_hub, hasSide_hub]
    split
    · rfl
    · split <;> rfl
  | shutdown =>
    simp only [Work.enter, bound?_hub, state_record]
    cases h.bound? r with
    | none =>
      simp only [Option.map_none]
      split <;> rfl
    | some => rfl
  | interrupt | restart =>
    simp only [Work.enter, bound?_hub, state_record]
    split
    · rfl
    · cases h.bound? r <;> rfl
  | model =>
    simp only [Work.enter, bound?_hub]
    cases h.bound? r <;> rfl

theorem step?_work (h : Hub) (w : Work) :
    (v.work w).step? (v.hub h) = (w.step? h).map fun x => (v.hub x.1, v.work x.2) := by
  obtain ⟨job, place, phase⟩ := w
  cases hr : h.record? place with
  | none => simp [Work.step?, work, hr]
  | some r =>
    cases phase with
    | waiting => cases hg : r.guarded <;> simp [Work.step?, work, phase, record, hr, hg]
    | entered => simp [Work.step?, work, phase, hr, enter_hub]
    | binding b =>
      have hb := @setBinding_hub v h place (some b)
      simp only [Option.map_some] at hb
      simp [Work.step?, work, phase, record, hr, hb, result, outcome]
    | unbinding =>
      have hb := @setBinding_hub v h place none
      simp only [Option.map_none] at hb
      simp [Work.step?, work, phase, hr, hb, result, outcome]
    | _ => simp [Work.step?, work, phase, record, hr]

theorem request?_work (w : Work) :
    (v.work w).request? = w.request?.map fun x => (x.1, v.request x.1 x.2) := by
  obtain ⟨job, place, phase⟩ := w
  cases phase <;> rfl

theorem afterCall_record (r : Record) (side : Side) (job : Job) (q : Request) (a : Answer) :
    Work.afterCall (v.record r) side job (v.request side q) (v.answer side a) =
      (Work.afterCall r side job q a).map v.phase := by
  cases a with
  | crashed => rfl
  | refused e =>
    cases job with
    | restart => cases e <;> cases q <;> rfl
    | _ => cases e <;> rfl
  | model m =>
    cases job with
    | model => cases side <;> rfl
    | _ => rfl
  | _ => cases job <;> rfl

theorem afterProbe_record (r : Record) (e : HostError) (side : Side) (a : Answer) :
    Work.afterProbe (v.record r) e.mute (v.answer side a) =
      (Work.afterProbe r e a).map v.phase := by
  cases a with
  | refused e' => cases e' <;> rfl
  | _ => rfl

theorem answered?_work {w : Work} (hq : w.request? = some (side, q)) (a : Answer) :
    (v.work w).answered? (v.hub h) (v.answer side a) = (w.answered? h a).map v.work := by
  obtain ⟨job, place, phase⟩ := w
  cases hr : h.record? place with
  | none => simp [Work.answered?, work, hr]
  | some r =>
    cases phase with
    | calling side q =>
      cases hq
      simp only [Work.answered?, work, phase, record?_hub, hr, Option.map_some,
        Option.bind_eq_bind, Option.bind_some, afterCall_record]
      cases Work.afterCall r side job q a <;> rfl
    | probing b e =>
      cases hq
      simp only [Work.answered?, work, phase, record?_hub, hr, Option.map_some,
        Option.bind_eq_bind, Option.bind_some, afterProbe_record]
      cases Work.afterProbe r e a <;> rfl
    | _ => cases hq

/-! ## Calls -/

@[simp] theorem call_begin (h : Hub) (d : Command) :
    v.call (Call.begin h d) = Call.begin (v.hub h) d := by
  cases d with
  | type name =>
    simp only [Call.begin, provenance_hub, config_hub, hasSide_hub]
    split <;> rfl
  | defaultName =>
    simp only [Call.begin, config_hub, environment_hub]
    split <;> rfl
  | start name =>
    cases name with
    | some => rfl
    | none =>
      simp only [Call.begin, config_hub, environment_hub]
      split <;> rfl
  | kernel id job =>
    cases job with
    | shutdown now =>
      simp only [Call.begin, retired_hub]
      split <;> rfl
    | _ => rfl
  | list =>
    simp only [Call.begin, hasRemote_hub]
    split <;> rfl
  | openSession id s =>
    simp only [Call.begin, registry_hub]
    cases Table.find? id h.registry with
    | none => rfl
    | some p =>
      cases hr : h.record? p with
      | none => simp [hr, call, result, KernelError.mute]
      | some r =>
        simp only [record?_hub, hr, Option.map_some, Option.bind_some, bound?_hub]
        cases h.bound? r <;> rfl
  | active p =>
    cases hr : h.record? p with
    | none => simp [Call.begin, hr, call, result, outcome]
    | some r =>
      simp only [Call.begin, record?_hub, hr, Option.map_some, Option.bind_some, bound?_hub]
      cases h.bound? r <;> rfl
  | openRecord p s =>
    cases hr : h.record? p with
    | none => simp [Call.begin, hr, call, result, KernelError.mute]
    | some r =>
      simp only [Call.begin, record?_hub, hr, Option.map_some, bound?_hub]
      cases h.bound? r <;> rfl
  | _ => rfl

@[simp] theorem call_follow (res : Result) (after : Call.After) :
    v.call (Call.follow res after) = Call.follow (v.result res) after := by
  cases after <;> cases res <;> rfl

theorem step?_call (h : Hub) (c : Call) :
    (v.call c).step? (v.hub h) = (c.step? h).map fun x => (v.hub x.1, v.call x.2) := by
  cases c with
  | asked d =>
    change some (v.hub h, Call.begin (v.hub h) d) = some (v.hub h, v.call (Call.begin h d))
    rw [call_begin]
  | checking name =>
    simp only [Call.step?, call, provenance_hub, Option.map_some]
    split <;> rfl
  | mergedHome =>
    simp only [Call.step?, call, hasRemote_hub, Option.map_some]
    split <;> rfl
  | merged goal => cases goal <;> rfl
  | registering name o fresh =>
    simp only [Call.step?, call, register?_hub]
    cases h.register? (o.id.getD fresh) name <;> rfl
  | seeking id job =>
    simp only [Call.step?, call, registry_hub, Option.map_some]
    cases Table.find? id h.registry <;> rfl
  | working w after =>
    have hw := step?_work (v := v) h w
    obtain ⟨job, place, phase⟩ := w
    cases phase with
    | ended res =>
      change some (v.hub h, Call.follow (v.result res) after) =
        some (v.hub h, v.call (Call.follow res after))
      rw [call_follow]
    | _ =>
      simp only [Call.step?, Option.map_map, Function.comp_def]
      exact (congrArg (Option.map fun x => (x.1, Call.working x.2 after)) hw).trans
        (Option.map_map ..)
  | listed side ms found =>
    simp only [Call.step?, call, clientModels_hub, ← List.map_append, Option.map_some]
    split <;> rfl
  | _ => rfl

theorem request?_call (c : Call) :
    (v.call c).request? = c.request?.map fun x => (x.1, v.request x.1 x.2) := by
  cases c with
  | working w => exact request?_work w
  | _ => rfl

theorem answered?_call (hq : c.request? = some (side, q)) (a : Answer) :
    (v.call c).answered? (v.hub h) (v.answer side a) = (c.answered? h a).map v.call := by
  cases c with
  | working w after =>
    have hw := answered?_work (v := v) (h := h) (w := w) hq a
    simp only [Call.answered?, call, hw, Option.map_map]
    rfl
  | naming =>
    cases a with
    | specs specs =>
      simp only [Call.answered?, call, answer]
      split <;> rfl
    | _ => rfl
  | describing =>
    cases a with
    | refused e => cases e <;> rfl
    | _ => rfl
  | listing side =>
    cases a with
    | refused e => cases side <;> rfl
    | models ms => cases hq; rfl
    | _ => rfl
  | opening s connect =>
    cases a with
    | refused e => cases e <;> rfl
    | opened => cases connect <;> rfl
    | _ => rfl
  | mergingHome | mergingRemote | defaulting | activating | connecting => cases a <;> rfl
  | _ => cases hq

/-! ## Runs -/

theorem not_crashed_answer (ha : a ≠ .crashed) : v.answer side a ≠ .crashed := by
  cases a with
  | crashed => exact absurd rfl ha
  | _ => nofun

/-- A run, veiled, is a run of the veiled hub. -/
theorem leads_hub (hl : c.Leads h es h' c') :
    (v.call c).Leads (v.hub h) (es.map v.exchange) (v.hub h') (v.call c') := by
  induction hl with
  | refl => exact .refl
  | step hs _ ih => exact .step (by rw [step?_call, hs]; rfl) ih
  | answer hq ha hs _ ih =>
    exact .answer (by rw [request?_call, hq]; rfl) (not_crashed_answer ha)
      (by rw [answered?_call hq, hs]; rfl) ih

theorem serves_hub {ss : List Served} (hs : h.Serves ss h') :
    (v.hub h).Serves (ss.map v.served) (v.hub h') := by
  induction hs with
  | nil => exact .nil
  | cons hc hl _ ih => exact .cons hc (leads_hub hl) ih

end KernelHub.Veil
