import KernelHub.Proofs.Ledger

/-
Jobs on a kernel that the ledger has, as functions of what its host answers: whether the host
is asked, what the caller is given, and what becomes of the kernel's entry.
-/

namespace KernelHub

namespace Ledger

/-- What a job asks the host of a kernel, unless the kernel is in no state for it. -/
def Entry.question? (e : Entry) : Job → Option Request
  | .start _ => none
  | .shutdown now => some (.shutdown e.binding.delegate now)
  | .interrupt => if e.status = .running then some (.interrupt e.binding.delegate) else none
  | .restart now => if e.status = .running then some (.restart e.binding.delegate now) else none
  | .model => some (.model e.binding.delegate)

/-- No job connects a channel, and none on a kernel that is there starts another. -/
theorem Entry.question?_known {e : Entry} {job : Job} {q : Request}
    (hq : e.question? job = some q) :
    (∀ c x, q ≠ .connect c x) ∧ ∀ name o, q ≠ .start name o := by
  constructor <;> (rintro x y rfl; cases job <;> simp [question?] at hq)

/-- What a job gives on a kernel that is in no state for it. -/
def forbidden (id : KernelId) : Job → Result
  | .restart _ => .error (.invalidState id .restart .dead)
  | _ => .error (.invalidState id .interrupt .dead)

/-- What a job gives once its question is answered. -/
def given (id : KernelId) (side : Side) : Job → Answer → Result
  | .shutdown _, .refused x =>
    if x.isNotFound = true then .ok .done else .error (.operationFailed id .shutdown x)
  | .interrupt, .refused x => .error (.operationFailed id .interrupt x)
  | .restart _, .refused x => .error (.operationFailed id .restart x)
  | .model, .refused x =>
    .error (if x.isNotFound = true then .kernelNotFound id else .operationFailed id .model x)
  | .model, .model m => .ok (.model (Hub.clientModel id side m))
  | _, _ => .ok .done

end Ledger

/-- Does the host say that it has no such kernel? -/
def Answer.isGone : Answer → Bool
  | .refused e => e.isNotFound
  | _ => false

namespace Ledger

/-- Is the kernel's id retired after this answer? -/
def retires : Job → Answer → Bool
  | .shutdown _, .done => true
  | .shutdown _, a => a.isGone
  | _, _ => false

/-- Is the host asked again, whether it still has the kernel? -/
def probes : Job → Answer → Bool
  | .restart _, .refused _ => true
  | _, _ => false

/-- What becomes of the ledger in a job whose host was asked one or two questions. -/
inductive Ends (l : Ledger) (id : KernelId) (e : Entry) (job : Job) (a : Answer) :
    List Exchange → Ledger → Prop
  | retired (hp : probes job a = false) (hr : retires job a = true) :
    Ends l id e job a [] (l.retire id)
  | kept (hp : probes job a = false) (hr : retires job a = false) : Ends l id e job a [] l
  | lost {b} (hp : probes job a = true) (hb : b.isGone = true) :
    Ends l id e job a [(e.binding.side, .model e.binding.delegate, b)]
      (l.add id { e with status := .dead })
  | live {b} (hp : probes job a = true) (hb : b.isGone = false) :
    Ends l id e job a [(e.binding.side, .model e.binding.delegate, b)] l

variable {s : Setting} {l l' : Ledger} {id : KernelId} {e : Entry} {job : Job}
  {es : List Exchange} {res : Result}

theorem isGone_of_isNotFound {x : HostError} (hx : x.isNotFound = true) :
    ∃ w, x = .notFound w := by
  cases x <;> first | exact ⟨_, rfl⟩ | cases hx

/-- A job on a kernel that the ledger has. -/
theorem Step.of_job (hf : Table.find? id l.live = some e) (hr : id ∉ l.retired)
    (hs : Step s l (.kernel id job) es res l') :
    (e.question? job = none ∧ es = [] ∧ res = forbidden id job ∧ l' = l) ∨
    ∃ q a fs, e.question? job = some q ∧ es = (e.binding.side, q, a) :: fs ∧
      res = given id e.binding.side job a ∧ Ends l id e job a fs l' := by
  cases hs with
  | again hr' => exact absurd hr' hr
  | unknown hf' => cases hf.symm.trans hf'
  | shutDown hf' ha =>
    cases hf.symm.trans hf'
    rcases ha with rfl | ⟨w, rfl⟩
    · exact .inr ⟨_, _, _, rfl, rfl, rfl, .retired rfl rfl⟩
    · exact .inr ⟨_, _, _, rfl, rfl, rfl, .retired rfl rfl⟩
  | notShutDown hf' hx =>
    cases hf.symm.trans hf'
    exact .inr ⟨_, _, _, rfl, rfl, by simp [given, hx], .kept rfl hx⟩
  | interruptDead hf' hd | restartDead hf' hd =>
    cases hf.symm.trans hf'
    exact .inl ⟨by simp [Entry.question?, hd], rfl, rfl, rfl⟩
  | interrupted hf' hd | notInterrupted hf' hd | restarted hf' hd =>
    cases hf.symm.trans hf'
    exact .inr ⟨_, _, _, by simp [Entry.question?, hd], rfl, rfl, .kept rfl rfl⟩
  | lost hf' hd =>
    cases hf.symm.trans hf'
    exact .inr ⟨_, _, _, by simp [Entry.question?, hd], rfl, rfl, .lost rfl rfl⟩
  | @notRestarted id now e' x b hf' hd ha =>
    cases hf.symm.trans hf'
    refine .inr ⟨_, _, _, by simp [Entry.question?, hd], rfl, rfl, .live rfl ?_⟩
    cases b with
    | refused y =>
      refine Bool.eq_false_iff.2 fun hy => ?_
      obtain ⟨w, rfl⟩ := isGone_of_isNotFound hy
      exact ha w rfl
    | _ => rfl
  | modelled hf' | notModelled hf' =>
    cases hf.symm.trans hf'
    exact .inr ⟨_, _, _, rfl, rfl, rfl, .kept rfl rfl⟩
  | looked hc => cases hc

/-- A job on an id that the ledger does not have. -/
theorem Step.of_no_job (hf : Table.find? id l.live = none)
    (hs : Step s l (.kernel id job) es res l') : es = [] ∧ l' = l ∧
      ((∃ now, job = .shutdown now) ∧ id ∈ l.retired ∧ res = .ok .done ∨
        (∀ now, job = .shutdown now → id ∉ l.retired) ∧ res = .error (.kernelNotFound id)) := by
  cases hs with
  | again hr => exact ⟨rfl, rfl, .inl ⟨⟨_, rfl⟩, hr, rfl⟩⟩
  | unknown _ hr => exact ⟨rfl, rfl, .inr ⟨hr, rfl⟩⟩
  | looked hc => cases hc
  | shutDown hf' | notShutDown hf' | interruptDead hf' | interrupted hf' | notInterrupted hf'
  | restartDead hf' | restarted hf' | lost hf' | notRestarted hf' | modelled hf'
  | notModelled hf' => cases hf.symm.trans hf'

/-! ## What a job leaves as it is -/

/-- A job asks the host of its kernel. -/
theorem Step.job_sides (hs : Step s l (.kernel id job) es res l') :
    ∀ x ∈ es, ∃ e, Table.find? id l.live = some e ∧ x.1 = e.binding.side := by
  cases hs with
  | again | unknown | interruptDead | restartDead => simp
  | looked hc => cases hc
  | shutDown hf | notShutDown hf | interrupted hf | notInterrupted hf | restarted hf | lost hf
  | notRestarted hf | modelled hf | notModelled hf => simp [hf]

/-- A job starts no kernel. -/
theorem Step.job_asks (hs : Step s l (.kernel id job) es res l') :
    ∀ x ∈ es, ∀ name o, x.2.1 ≠ .start name o := by
  cases hs with
  | looked hc => cases hc
  | _ => simp

/-- A job concerns one kernel. -/
theorem Step.job_frame (hs : Step s l (.kernel id job) es res l') {x : KernelId} (hx : x ≠ id) :
    Table.find? x l'.live = Table.find? x l.live ∧ (x ∈ l'.retired ↔ x ∈ l.retired) := by
  cases hs with
  | shutDown => exact ⟨Table.find?_erase_of_ne hx l.live, by simp [retire, hx]⟩
  | lost => exact ⟨Table.find?_set_of_ne hx _ l.live, Iff.rfl⟩
  | _ => exact ⟨rfl, Iff.rfl⟩

/-- A job uses up no id. -/
theorem Step.job_holds (hs : Step s l (.kernel id job) es res l') {x : KernelId}
    (hx : l'.Holds x) : l.Holds x := by
  by_cases he : x = id
  · subst he
    cases hs with
    | shutDown hf => exact .inl (Table.contains_of_find? hf)
    | lost hf => exact .inl (Table.contains_of_find? hf)
    | _ => exact hx
  · obtain ⟨h1, h2⟩ := hs.job_frame he
    exact hx.imp (fun hc => by rwa [Table.contains, h1] at hc) h2.1

/-- All kernels after a command were there before and are bound as they were, but for the one
that a start has added. -/
theorem Step.bindings {c : Command} (hs : Step s l c es res l') :
    (∀ id e', Table.find? id l'.live = some e' →
        ∃ e, Table.find? id l.live = some e ∧ e.binding = e'.binding) ∨
      ∃ asked o fresh fs name side d, c = .start asked o fresh ∧
        es = fs ++ [(side, .start name o, .started d)] ∧ ¬ l.Holds (o.id.getD fresh) ∧
        l' = l.add (o.id.getD fresh) ⟨name, ⟨side, d⟩, .running⟩ := by
  cases hs with
  | started hn hr hh hs => exact .inr ⟨_, _, _, _, _, _, _, rfl, rfl, hh, rfl⟩
  | @shutDown id now e a =>
    left
    intro id' e' he
    simp only [retire, Table.find?_erase] at he
    split at he
    · cases he
    · exact ⟨e', he, rfl⟩
  | @lost id now e x v hf hd =>
    left
    intro id' e' he
    simp only [add, Table.find?_set] at he
    split at he
    · next hid =>
      cases he
      exact ⟨e, hid ▸ hf, rfl⟩
    · exact ⟨e', he, rfl⟩
  | _ => exact .inl fun id e he => ⟨e, he, rfl⟩

end Ledger

end KernelHub
