import KernelHub.Proofs.Catalog
import KernelHub.Proofs.Looks
import KernelHub.Proofs.Progress

/-
Where a kernel is started. A start that runs alone finds the type it is for, merges the catalogs
if nobody has seen that type yet, and then asks one host for the kernel, or none. Which host that
is depends on nothing but what is known about types by then, and is where the kernel is found
afterwards. The hub may be in any state, whether calls can bring it about or not, and the hosts
may refuse whatever they are asked, or crash.
-/

namespace KernelHub

/-- How far a command has come alone on a hub, and what it has asked and was answered. -/
inductive Call.Alone (h₀ : Hub) (k : Command) : List Exchange → Hub → Call → Prop
  | asked : Alone h₀ k [] h₀ (asked k)
  | step {xs h c h' c'} (ha : Alone h₀ k xs h c) (hs : c.step? h = some (h', c')) :
    Alone h₀ k xs h' c'
  | answer {xs h c side q a c'} (ha : Alone h₀ k xs h c) (hq : c.request? = some (side, q))
    (hs : c.answered? h a = some c') : Alone h₀ k (xs ++ [(side, q, a)]) h c'

theorem Call.Alone.append {h₀ h h' : Hub} {k : Command} {c c' : Call} {xs es : List Exchange}
    (hl : c.Leads h es h' c') (ha : Alone h₀ k xs h c) : Alone h₀ k (xs ++ es) h' c' := by
  induction hl generalizing xs with
  | refl => rwa [List.append_nil]
  | step hs _ ih => exact ih (ha.step hs)
  | answer hq _ hs _ ih => simpa using ih (ha.answer hq hs)

/-- What the hosts were asked. -/
def questions (xs : List Exchange) : List (Side × Request) := xs.map fun x => (x.1, x.2.1)

@[simp] theorem questions_append (xs ys : List Exchange) :
    questions (xs ++ ys) = questions xs ++ questions ys := List.map_append

/-- Is a kernel to be started? -/
def Request.starts : Request → Bool
  | .start .. => true
  | _ => false

/-- The first by name of the types that are listed. -/
def Answer.firstName? : Answer → Option String
  | .specs listed => Catalog.firstName? listed
  | _ => none

namespace Hub

/-- Which type is to be started, if any: the one that is named, else the default, else the first
by name of the types at home. -/
inductive Picks (h : Hub) : Option String → List Exchange → Option String → Prop
  | given {name} : Picks h (some name) [] (some name)
  | default {name} (hd : h.config.resolvedDefault h.environment = some name) :
    Picks h none [] (some name)
  | first {a} (hd : h.config.resolvedDefault h.environment = none) :
    Picks h none [(.home, .specs, a)] a.firstName?

/-- What is known about types when one is to be started: what was known before if that has the
type, else what one merge of the catalogs has found, unless that failed. -/
inductive Learns (h : Hub) (name : String) : List Exchange → Option Provenance → Prop
  | known (hk : h.provenance.knows name = true) : Learns h name [] (some h.provenance)
  | merged {es home remote} (hk : h.provenance.knows name = false)
    (hg : Gathering h.hasRemote es home remote) :
    Learns h name es (some (Catalog.provenance h.config home remote))
  | unlisted {a} (hk : h.provenance.knows name = false) (ha : ∀ specs, a ≠ .specs specs) :
    Learns h name [(.home, .specs, a)] none
  | crashed {home} (hk : h.provenance.knows name = false) (hr : h.hasRemote = true) :
    Learns h name [(.home, .specs, .specs home), (.remote, .specs, .crashed)] none

/-- The one start that a host is to be asked for. There is none if the types could not be
listed, the id is registered or retired, or the type has no host. -/
def due? (h : Hub) (name : String) (o : StartOptions) (id : KernelId) :
    Option Provenance → Option (Side × Request)
  | none => none
  | some p =>
    if h.hasKernel id = true ∨ id ∈ h.retired then none
    else if h.hasSide (p.route name) then some (p.route name, .start name o) else none

/-- What becomes of the start of a type: `ms` is what the hosts are asked and answer to learn of
the types, and `ls` what they are asked and answer from there on. -/
structure Launched (h : Hub) (name : String) (o : StartOptions) (id : KernelId)
    (ms : List Exchange) (p? : Option Provenance) (ls : List Exchange) (res : Result) (h' : Hub) :
    Prop where
  learns : h.Learns name ms p?
  /-- The catalogs are merged once if no merge before has seen the type, and else not at all. -/
  merges : (questions ms).countP (·.1 = .home) =
    if name ∈ h.provenance.home ∨ name ∈ h.provenance.remote then 0 else 1
  published : h'.provenance = p?.getD h.provenance
  /-- The start that is due is asked for, and nothing else. -/
  asks : questions ls = (h.due? name o id p?).toList
  /-- The remote host is asked exactly if the type is known as remote; -/
  remote_iff : ∀ x ∈ ls, ∀ p, p? = some p → (x.1 = .remote ↔ name ∈ p.remote)
  /-- a type that home offered at the latest merge is started there, whatever the remote host
  offered, -/
  hidden : ∀ x ∈ ls, ∀ c home remote, p? = some (Catalog.provenance c home remote) →
    name ∈ home.map Spec.name → x.1 = .home
  /-- and so is one that nobody offers. -/
  unknown : ∀ x ∈ ls, ∀ p, p? = some p → p.knows name = false → x.1 = .home
  /-- A kernel that has started runs where it was asked for. -/
  succeeds : ∀ out, res = .ok out → out = .started id ∧
    ∃ x d, ls = [x] ∧ x.2.2 = .started d ∧ h'.kernelSide? id = some x.1

variable {h h' : Hub} {name : String} {o : StartOptions} {id : KernelId} {p : Provenance}
  {p? : Option Provenance} {ls : List Exchange} {res : Result} {side : Side} {q : Request}

/-- An id that is refused is not due to be started. -/
theorem due?_of_unregistered (hr : ({ h with provenance := p } : Hub).register? id name = none) :
    h.due? name o id (some p) = none := if_pos (register?_eq_none.1 hr)

theorem of_due? (hd : h.due? name o id p? = some (side, q)) :
    ∃ p, p? = some p ∧ side = p.route name ∧ q = .start name o := by
  cases p? with
  | none => cases hd
  | some p =>
    simp only [due?] at hd
    split at hd
    · cases hd
    · split at hd <;> cases hd
      exact ⟨p, rfl, rfl, rfl⟩

end Hub

namespace Provenance

variable {p : Provenance} {name : String}

theorem route_eq_remote : p.route name = .remote ↔ name ∈ p.remote := by
  simp [route, isRemote]

theorem route_of_unknown (hk : p.knows name = false) : p.route name = .home := by
  simp only [knows, Bool.or_eq_false_iff] at hk
  simp [route, hk.2]

/-- The types at home come first. -/
theorem route_of_merge {c : Config} {home remote : List Spec} (hn : name ∈ home.map Spec.name) :
    (Catalog.provenance c home remote).route name = .home := by
  have hl := Catalog.lawful_merge c home remote
  rw [route, if_neg]
  intro hr
  exact hl.apart name ⟨decide_eq_true ((hl.fromHome name).2 hn), hr⟩

end Provenance

namespace Hub

variable {h h' : Hub} {name : String} {o : StartOptions} {id : KernelId}
  {p? : Option Provenance} {ls : List Exchange} {res : Result}

theorem Learns.merges {ms : List Exchange} (hm : h.Learns name ms p?) :
    (questions ms).countP (·.1 = .home) =
      if name ∈ h.provenance.home ∨ name ∈ h.provenance.remote then 0 else 1 := by
  have hk : h.provenance.knows name = decide (name ∈ h.provenance.home ∨
      name ∈ h.provenance.remote) := by
    simp [Provenance.knows, Provenance.isHome, Provenance.isRemote]
  cases hm with
  | known hn => rw [if_pos (of_decide_eq_true (hk ▸ hn))]; rfl
  | merged hn hg =>
    rw [if_neg (of_decide_eq_false (hk ▸ hn))]
    cases hg <;> rfl
  | unlisted hn | crashed hn => rw [if_neg (of_decide_eq_false (hk ▸ hn))]; rfl

/-- Whoever asks for the start that is due asks the side of the type. -/
theorem launched {ms : List Exchange} (hm : h.Learns name ms p?)
    (hp : h'.provenance = p?.getD h.provenance)
    (ha : questions ls = (h.due? name o id p?).toList)
    (hs : ∀ out, res = .ok out → out = .started id ∧
      ∃ x d, ls = [x] ∧ x.2.2 = .started d ∧ h'.kernelSide? id = some x.1) :
    h.Launched name o id ms p? ls res h' := by
  have hside (x : Exchange) (hx : x ∈ ls) : ∃ p, p? = some p ∧ x.1 = p.route name := by
    have hm : (x.1, x.2.1) ∈ questions ls := List.mem_map_of_mem hx
    rw [ha, Option.mem_toList] at hm
    obtain ⟨p, hp, hr, -⟩ := of_due? hm
    exact ⟨p, hp, hr⟩
  refine ⟨hm, hm.merges, hp, ha, fun x hx p hp => ?_, fun x hx c home remote hp hn => ?_,
    fun x hx p hp hk => ?_, hs⟩ <;>
    obtain ⟨p', hp', hr⟩ := hside x hx <;> cases hp.symm.trans hp' <;> rw [hr]
  · exact Provenance.route_eq_remote
  · exact Provenance.route_of_merge hn
  · exact Provenance.route_of_unknown hk

/-- A start that fails has nothing to show. -/
theorem launched_error {ms : List Exchange} {e : KernelError} (hm : h.Learns name ms p?)
    (hp : h'.provenance = p?.getD h.provenance)
    (ha : questions ls = (h.due? name o id p?).toList) :
    h.Launched name o id ms p? ls (.error e) h' := launched hm hp ha fun _ he => nomatch he

/-- The questions for a kernel to be started. -/
def startsOf (qs : List (Side × Request)) : List (Side × Request) := qs.filter (·.2.starts)

theorem startsOf_append (ps qs : List (Side × Request)) :
    startsOf (ps ++ qs) = startsOf ps ++ startsOf qs := List.filter_append ..

theorem startsOf_picks {n? r : Option String} {ns : List Exchange} (hn : h.Picks n? ns r) :
    startsOf (questions ns) = [] := by
  cases hn <;> rfl

theorem startsOf_learns {ms : List Exchange} (hm : h.Learns name ms p?) :
    startsOf (questions ms) = [] := by
  cases hm with
  | merged _ hg => cases hg <;> rfl
  | known | unlisted | crashed => rfl

theorem startsOf_due (ha : questions ls = (h.due? name o id p?).toList) :
    (startsOf (questions ls)).length ≤ 1 := by
  rw [ha]
  refine Nat.le_trans (List.length_filter_le ..) ?_
  cases h.due? name o id p? with
  | none => exact Nat.zero_le 1
  | some => exact Nat.le_refl 1

end Hub

/-! ## Work -/

/-- How the work of a start stands that asks, and has asked, for the start that is due. -/
def Work.Phase.Launches (h : Hub) (name : String) (o : StartOptions) (p : Provenance)
    (ls : List Exchange) (r : Record) : Phase → Prop
  | .waiting => ls = [] ∧ r.state = .unborn ∧ r.guarded = false
  | .entered => ls = [] ∧ r.state = .unborn
  | .calling side q => ls = [] ∧ h.due? name o r.id (some p) = some (side, q)
  | .mapping b | .binding b => questions ls = (h.due? name o r.id (some p)).toList ∧
    ∃ x, ls = [x] ∧ x.2.2 = .started b.delegate ∧ x.1 = b.side
  | .settling _ res | .releasing res | .ended res =>
    questions ls = (h.due? name o r.id (some p)).toList ∧ ∀ out, res = .ok out →
      out = .started r.id ∧ ∃ x d, ls = [x] ∧ x.2.2 = .started d ∧ r.binding = some ⟨x.1, d⟩
  | _ => False

/-- The work of a start, on the record that the start has made. -/
structure Work.Launching (h : Hub) (name : String) (o : StartOptions) (id : KernelId)
    (p : Provenance) (ls : List Exchange) (u : Hub) (w : Work) : Prop where
  free : ¬ (h.hasKernel id = true ∨ id ∈ h.retired)
  job : w.job = .start o
  registered : Table.find? id u.registry = some w.place
  provenance : u.provenance = p
  hasRemote : u.hasRemote = h.hasRemote
  record : ∃ r, u.record? w.place = some r ∧ r.id = id ∧ r.name = name ∧
    w.phase.Launches h name o p ls r

namespace Work

variable {h u u' : Hub} {name : String} {o : StartOptions} {id : KernelId} {p : Provenance}
  {ls : List Exchange} {w w' : Work} {a : Answer}

theorem launching_begin {place : Nat}
    (hr : ({ h with provenance := p } : Hub).register? id name = some (u, place)) :
    Launching h name o id p [] u { job := .start o, place } := by
  obtain ⟨hc, hret, rfl, rfl⟩ := Hub.register?_eq_some hr
  refine ⟨?_, rfl, (Table.find?_set ..).trans (if_pos rfl), rfl, rfl, _,
    (Hub.record?_enroll ..).trans (if_pos rfl), rfl, rfl, rfl, rfl, rfl⟩
  rintro (hh | hh)
  · cases hc.symm.trans hh
  · exact hret hh

theorem launching_step (hw : w.Launching h name o id p ls u) (hs : w.step? u = some (u', w')) :
    w'.Launching h name o id p ls u' := by
  obtain ⟨job, place, phase⟩ := w
  obtain ⟨hf, hj, hreg, rfl, hrem, r, hr, rfl, rfl, hp⟩ := hw
  simp only at hj hr hp
  subst hj
  have edit (f : Record → Record) : (u.edit place f).record? place = some (f r) := by
    simp [Hub.record?_edit, hr]
  simp only [step?, hr, Option.bind_eq_bind, Option.bind_some] at hs
  cases phase with
  | waiting =>
    obtain ⟨hl, hb, hg⟩ := hp
    simp only [hg, Bool.false_eq_true, if_false] at hs
    cases hs
    exact ⟨hf, rfl, hreg, rfl, hrem, _, edit _, rfl, rfl, hl, hb⟩
  | entered =>
    obtain ⟨rfl, hb⟩ := hp
    have hside (side : Side) : u.hasSide side = h.hasSide side := by
      cases side with
      | home => rfl
      | remote => exact hrem
    simp only [enter, hb, ne_eq, not_true_eq_false, if_false] at hs
    split at hs
    · next hh =>
      cases hs
      refine ⟨hf, rfl, hreg, rfl, hrem, _, edit _, rfl, rfl, rfl, ?_⟩
      simp only [Hub.due?, if_neg hf, if_pos (hside _ ▸ hh)]
    · next hh =>
      cases hs
      refine ⟨hf, rfl, hreg, rfl, hrem, _, edit _, rfl, rfl, ?_, fun _ he => by cases he⟩
      simp only [Hub.due?, if_neg hf, if_neg (hside _ ▸ hh)]
      rfl
  | mapping => cases hs; exact ⟨hf, rfl, hreg, rfl, hrem, r, hr, rfl, rfl, hp⟩
  | binding b =>
    cases hs
    obtain ⟨ha, x, rfl, hd, hb⟩ := hp
    refine ⟨hf, rfl, hreg, rfl, hrem, _, edit _, rfl, rfl, ha, fun out he => ?_⟩
    cases he
    exact ⟨rfl, x, b.delegate, rfl, hd, by rw [hb]⟩
  | settling | releasing => cases hs; exact ⟨hf, rfl, hreg, rfl, hrem, _, edit _, rfl, rfl, hp⟩
  | calling | ended => cases hs
  | _ => exact hp.elim

theorem launching_answered {side : Side} {q : Request} (hw : w.Launching h name o id p ls u)
    (hq : w.request? = some (side, q)) (hs : w.answered? u a = some w') :
    w'.Launching h name o id p (ls ++ [(side, q, a)]) u := by
  obtain ⟨r, ph, hr, hx, rfl⟩ := reaction_of_answered? hs
  obtain ⟨job, place, phase⟩ := w
  obtain ⟨hf, hj, hreg, rfl, hrem, r', hr', rfl, rfl, hp⟩ := hw
  cases hr.symm.trans hr'
  simp only at hj hp hx
  subst hj
  refine ⟨hf, rfl, hreg, rfl, hrem, r, hr, rfl, rfl, ?_⟩
  cases hx with
  | probed => exact hp.elim
  | replied hx =>
    cases hq
    obtain ⟨rfl, hd⟩ := hp
    have ha : questions [(side, q, a)] = (h.due? r.name o r.id (some u.provenance)).toList := by
      rw [hd]
      rfl
    cases hx with
    | started => exact ⟨ha, _, rfl, rfl, rfl⟩
    | crashed | unknown | unstarted => exact ⟨ha, fun _ he => by cases he⟩

/-- Work that has asked for the start that is due asks for no other. -/
theorem launching_once (hw : w.Launching h name o id p ls u) :
    (Hub.startsOf (questions ls ++ w.request?.toList)).length ≤ 1 := by
  obtain ⟨-, -, -, -, -, r, -, -, -, hp⟩ := hw
  obtain ⟨job, place, phase⟩ := w
  cases phase with
  | calling =>
    obtain ⟨rfl, -⟩ := hp
    exact List.length_filter_le ..
  | waiting | entered =>
    obtain ⟨rfl, -⟩ := hp
    exact Nat.zero_le 1
  | mapping | binding | settling | releasing | ended =>
    rw [show Work.request? _ = none from rfl, Option.toList_none, List.append_nil]
    exact Hub.startsOf_due hp.1
  | _ => exact hp.elim

/-- The work is never stuck. -/
theorem launching_ready {after : Call.After} (hw : w.Launching h name o id p ls u) :
    Call.Ready u (.working w after) := by
  obtain ⟨-, hj, -, -, -, r, hr, -, -, hp⟩ := hw
  refine ⟨r, hr, fun hph => ?_, fun side q hph => ?_⟩ <;> rw [hph] at hp
  · exact hp.2.2
  · obtain ⟨_, -, -, hq⟩ := Hub.of_due? hp.2
    rw [hj]
    exact ⟨_, _, hq⟩

/-- The kernel of a record that its id leads to is on the side that the record is bound to. -/
theorem kernelSide?_of_record {r : Record} {b : Binding} {place : Nat}
    (hf : Table.find? id u.registry = some place) (hr : u.record? place = some r)
    (hb : r.binding = some b) : u.kernelSide? id = some b.side := by
  simp [Hub.kernelSide?, Hub.kernel?, hf, hr, hb]

end Work

/-! ## The whole start -/

namespace Call

/-- Where a start can be that runs alone, and what it has asked by then. -/
inductive Way (h : Hub) (n? : Option String) (o : StartOptions) (fresh : KernelId) :
    List Exchange → Hub → Call → Prop
  | asked : Way h n? o fresh [] h (asked (.start n? o fresh))
  | naming (hn : n? = none) (hd : h.config.resolvedDefault h.environment = none) :
    Way h n? o fresh [] h (naming o fresh)
  | unnamed {ns e} (hn : h.Picks n? ns none) : Way h n? o fresh ns h (ended (.error e))
  | checking {ns name} (hn : h.Picks n? ns (some name)) :
    Way h n? o fresh ns h (checking name o fresh)
  | mergingHome {ns name} (hn : h.Picks n? ns (some name))
    (hk : h.provenance.knows name = false) :
    Way h n? o fresh ns h (mergingHome (.start name o fresh))
  | mergedHome {ns name home} (hn : h.Picks n? ns (some name))
    (hk : h.provenance.knows name = false) :
    Way h n? o fresh (ns ++ [(.home, .specs, .specs home)]) h
      (mergedHome (.start name o fresh) home)
  | mergingRemote {ns name home} (hn : h.Picks n? ns (some name))
    (hk : h.provenance.knows name = false) (hr : h.hasRemote = true) :
    Way h n? o fresh (ns ++ [(.home, .specs, .specs home)]) h
      (mergingRemote (.start name o fresh) home)
  | merged {ns ms name home remote} (hn : h.Picks n? ns (some name))
    (hk : h.provenance.knows name = false) (hg : Gathering h.hasRemote ms home remote) :
    Way h n? o fresh (ns ++ ms) h (merged (.start name o fresh) home remote)
  | registering {ns ms name p} (hn : h.Picks n? ns (some name))
    (hm : h.Learns name ms (some p)) :
    Way h n? o fresh (ns ++ ms) { h with provenance := p } (registering name o fresh)
  | working {ns ms ls name p u w} (hn : h.Picks n? ns (some name))
    (hm : h.Learns name ms (some p)) (hw : w.Launching h name o (o.id.getD fresh) p ls u) :
    Way h n? o fresh (ns ++ ms ++ ls) u (working w (.started (o.id.getD fresh)))
  | dropping {ns ms ls name p u e} (hn : h.Picks n? ns (some name))
    (hm : h.Learns name ms (some p)) (hp : u.provenance = p)
    (ha : questions ls = (h.due? name o (o.id.getD fresh) (some p)).toList) :
    Way h n? o fresh (ns ++ ms ++ ls) u (dropping (o.id.getD fresh) e)
  | ended {ns ms ls name p? u res} (hn : h.Picks n? ns (some name))
    (hl : h.Launched name o (o.id.getD fresh) ms p? ls res u) :
    Way h n? o fresh (ns ++ ms ++ ls) u (ended res)

variable {h u u' : Hub} {n? : Option String} {o : StartOptions} {fresh : KernelId}
  {xs : List Exchange} {c c' : Call}

theorem way_step (hw : Way h n? o fresh xs u c) (hs : c.step? u = some (u', c')) :
    Way h n? o fresh xs u' c' := by
  cases hw with
  | asked =>
    cases advance_of_step? hs with
    | begun hb =>
      cases hb with
      | named => exact .checking .given
      | byDefault hd => exact .checking (.default hd)
      | nameless hd => exact .naming rfl hd
  | checking hn =>
    cases advance_of_step? hs with
    | known hk => simpa using Way.registering hn (.known hk)
    | unknown hk => exact .mergingHome hn hk
  | mergedHome hn hk =>
    cases advance_of_step? hs with
    | both hr => exact .mergingRemote hn hk hr
    | alone hr => exact .merged hn hk (.alone hr)
  | merged hn hk hg =>
    cases advance_of_step? hs with
    | learnt => exact .registering hn (.merged hk hg)
  | @registering ns ms name p hn hm =>
    cases advance_of_step? hs with
    | held hr =>
      have ha : questions [] = (h.due? name o (o.id.getD fresh) (some p)).toList := by
        rw [Hub.due?_of_unregistered hr]
        rfl
      simpa using Way.ended hn (Hub.launched_error hm rfl ha)
    | registered hr => simpa using Way.working hn hm (Work.launching_begin hr)
  | working hn hm hw =>
    cases advance_of_step? hs with
    | worked hw₁ => exact .working hn hm (Work.launching_step hw hw₁)
    | @followed _ _ res hp =>
      obtain ⟨-, -, hreg, hprov, -, r, hr, hid, -, hph⟩ := hw
      rw [hp] at hph
      obtain ⟨ha, hout⟩ := hph
      rw [hid] at ha hout
      cases res with
      | error e => exact .dropping hn hm hprov ha
      | ok out =>
        obtain ⟨rfl, x, d, rfl, hd, hb⟩ := hout out rfl
        refine .ended hn (Hub.launched hm hprov ha fun out he => ?_)
        cases he
        exact ⟨rfl, x, d, rfl, hd, Work.kernelSide?_of_record hreg hr hb⟩
  | dropping hn hm hp ha =>
    cases advance_of_step? hs with
    | dropped => exact .ended hn (Hub.launched_error hm hp ha)
  | naming | unnamed | mergingHome | mergingRemote | ended => cases hs

theorem way_answered {side : Side} {q : Request} {a : Answer} (hw : Way h n? o fresh xs u c)
    (hq : c.request? = some (side, q)) (hs : c.answered? u a = some c') :
    Way h n? o fresh (xs ++ [(side, q, a)]) u c' := by
  -- A merge that fails leaves nothing to be launched.
  have fail {ns ms name e} (hn : h.Picks n? ns (some name)) (hm : h.Learns name ms none) :
      Way h n? o fresh (ns ++ ms) h (ended (.error e)) := by
    have ha : questions [] = (h.due? name o (o.id.getD fresh) none).toList := rfl
    simpa using Way.ended hn (Hub.launched_error hm rfl ha)
  cases hw with
  | naming hn hd =>
    subst hn
    cases hq
    have hp : h.Picks none [(.home, .specs, a)] a.firstName? := .first hd
    cases reaction_of_answered? hs with
    | named hf => exact .checking (hf ▸ hp)
    | nameless hf => exact .unnamed (hf ▸ hp)
    | unnamed | crashed => exact .unnamed hp
  | mergingHome hn hk =>
    cases hq
    cases reaction_of_answered? hs with
    | home => exact .mergedHome hn hk
    | homeless | crashed => exact fail hn (.unlisted hk (by simp))
  | mergingRemote hn hk hr =>
    cases hq
    rw [List.append_assoc]
    cases reaction_of_answered? hs with
    | remote => exact .merged hn hk (.both hr)
    | leftOut => exact .merged hn hk (.degraded hr)
    | crashed => exact fail hn (.crashed hk hr)
  | working hn hm hw =>
    rw [List.append_assoc]
    cases reaction_of_answered? hs with
    | heard hw' => exact .working hn hm (Work.launching_answered hw hq hw')
    | crashed hw' => exact absurd rfl (hw' _ _)
  | asked | unnamed | checking | mergedHome | merged | registering | dropping | ended => cases hq

theorem way_of_alone (ha : Alone h (.start n? o fresh) xs u c) : Way h n? o fresh xs u c := by
  induction ha with
  | asked => exact .asked
  | step _ hs ih => exact way_step ih hs
  | answer _ hq hs ih => exact way_answered ih hq hs

/-- At each point of the way one start has been asked for at most. -/
theorem once_of_way (hw : Way h n? o fresh xs u c) :
    (Hub.startsOf (questions xs ++ c.request?.toList)).length ≤ 1 := by
  have early {ns ms : List Exchange} {name : String} {p? : Option Provenance}
      (hn : h.Picks n? ns (some name)) (hm : h.Learns name ms p?) (ls : List Exchange) :
      Hub.startsOf (questions (ns ++ ms ++ ls)) = Hub.startsOf (questions ls) := by
    simp only [questions_append, Hub.startsOf_append, Hub.startsOf_picks hn,
      Hub.startsOf_learns hm, List.nil_append]
  rw [Hub.startsOf_append]
  cases hw with
  | working hn hm hw =>
    rw [early hn hm, ← Hub.startsOf_append]
    exact Work.launching_once hw
  | dropping hn hm _ ha =>
    rw [early hn hm]
    simpa [request?, Hub.startsOf] using Hub.startsOf_due ha
  | ended hn hl =>
    rw [early hn hl.learns]
    simpa [request?, Hub.startsOf] using Hub.startsOf_due hl.asks
  | asked | naming => exact Nat.zero_le 1
  | unnamed hn | checking hn | mergingHome hn =>
    rw [Hub.startsOf_picks hn]
    exact Nat.zero_le 1
  | mergedHome hn | mergingRemote hn =>
    rw [questions_append, Hub.startsOf_append, Hub.startsOf_picks hn]
    exact Nat.zero_le 1
  | merged hn hk hg =>
    rw [questions_append, Hub.startsOf_append, Hub.startsOf_picks hn,
      Hub.startsOf_learns (.merged hk hg)]
    exact Nat.zero_le 1
  | registering hn hm =>
    rw [questions_append, Hub.startsOf_append, Hub.startsOf_picks hn, Hub.startsOf_learns hm]
    exact Nat.zero_le 1

theorem goes_on_of_way (hw : Way h n? o fresh xs u c) (he : ∀ res, c ≠ ended res) :
    c.GoesOn u := by
  by_cases hc : ∃ w after, c = working w after
  · obtain ⟨w, after, rfl⟩ := hc
    cases hw with
    | working _ _ hw => exact goes_on (Work.launching_ready hw) he
  · exact goes_on_light (fun w after hw => hc ⟨w, after, hw⟩) he

end Call

/-- How a start is routed that runs alone, from any state of the hub. -/
structure Hub.Routes (h : Hub) (n? : Option String) (o : StartOptions) (fresh : KernelId) :
    Prop where
  /-- It comes to its end, whatever fitting answers the hosts give. -/
  ends : ∀ hosts : Hosts, hosts.Fitting → ∃ xs h' res,
    Call.Alone h (.start n? o fresh) xs h' (.ended res) ∧ hosts.Say [] xs
  /-- At no point have the hosts been asked for more than one start, the one counted that they
  have not answered yet. -/
  once : ∀ xs h' c, Call.Alone h (.start n? o fresh) xs h' c →
    (startsOf (questions xs ++ c.request?.toList)).length ≤ 1
  /-- At its end, either no type was found to start, or this has become of the one found. -/
  outcome : ∀ xs h' res, Call.Alone h (.start n? o fresh) xs h' (.ended res) →
    (h.Picks n? xs none ∧ ∃ e, res = .error e) ∨
    ∃ ns name ms p? ls, xs = ns ++ ms ++ ls ∧ h.Picks n? ns (some name) ∧
      h.Launched name o (o.id.getD fresh) ms p? ls res h'

/-- Every start is routed so. -/
theorem Hub.routes_start (h : Hub) (n? : Option String) (o : StartOptions) (fresh : KernelId) :
    h.Routes n? o fresh := by
  refine ⟨fun hosts hf => ?_, fun xs h' c ha => Call.once_of_way (Call.way_of_alone ha),
    fun xs h' res ha => ?_⟩
  · obtain ⟨xs, h', res, hl, hsay⟩ := Call.comes_to_end_of
      (P := fun u c => ∃ xs, Call.Way h n? o fresh xs u c) hf
      (fun _ _ ⟨_, hw⟩ he => Call.goes_on_of_way hw he)
      (fun _ _ _ _ ⟨_, hw⟩ _ hs => ⟨_, Call.way_step hw hs⟩)
      (fun _ _ _ _ ⟨_, hw⟩ hq hs =>
        ⟨_, Call.way_answered hw (Option.isSome_iff_exists.1 hq).choose_spec hs⟩)
      ⟨[], .asked⟩ []
    exact ⟨xs, h', res, .append hl .asked, hsay⟩
  · cases Call.way_of_alone ha with
    | unnamed hn => exact .inl ⟨hn, _, rfl⟩
    | ended hn hl => exact .inr ⟨_, _, _, _, _, rfl, hn, hl⟩

end KernelHub
