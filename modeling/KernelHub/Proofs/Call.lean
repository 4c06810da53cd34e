import KernelHub.Hub.Call

/-
What a step of a call can be. What a command begins as is told by `Begun`, the call's own steps
are those of `Advance`, and its reactions to a host's answer those of `Reaction`. Everything that
is kept by calls is proved by cases on these.
-/

namespace KernelHub.Call

/-- What a command begins as. -/
inductive Begun (h : Hub) : Command → Call → Prop
  | types : Begun h .types (mergingHome .types)
  | typed {name} (hs : h.hasSide (h.provenance.route name) = true) :
    Begun h (.type name) (describing name (h.config.suffix (h.provenance.route name))
      (h.provenance.route name))
  | untyped {name} (hs : h.hasSide (h.provenance.route name) = false) :
    Begun h (.type name) (ended (.error (.specNotFound name)))
  | default {name} (hd : h.config.resolvedDefault h.environment = some name) :
    Begun h .defaultName (ended (.ok (.defaultName (some name))))
  | defaulting (hd : h.config.resolvedDefault h.environment = none) :
    Begun h .defaultName defaulting
  | named {name o fresh} : Begun h (.start (some name) o fresh) (checking name o fresh)
  | byDefault {name o fresh} (hd : h.config.resolvedDefault h.environment = some name) :
    Begun h (.start none o fresh) (checking name o fresh)
  | nameless {o fresh} (hd : h.config.resolvedDefault h.environment = none) :
    Begun h (.start none o fresh) (naming o fresh)
  | gone {id now} (hi : id ∈ h.retired) : Begun h (.kernel id (.shutdown now)) (ended (.ok .done))
  | sought {id job} : Begun h (.kernel id job) (seeking id job)
  | list {side} : Begun h .list (listing side [])
  | closed {id session} : Begun h (.openSession id session) (ended (.error (.kernelNotFound id)))
  | opening {id session b} : Begun h (.openSession id session) (opening ⟨id, session, b⟩ true)
  | record {place job} : Begun h (.record place job) (working { job, place } .nothing)
  | inactive {place} : Begun h (.active place) (ended (.ok (.active false)))
  | activating {place b} : Begun h (.active place) (activating b)
  | unopened {place session id} :
    Begun h (.openRecord place session) (ended (.error (.kernelNotFound id)))
  | openingRecord {place session id b} :
    Begun h (.openRecord place session) (opening ⟨id, session, b⟩ false)

theorem begun_begin (h : Hub) (k : Command) : Begun h k (begin h k) := by
  cases k with
  | types => exact .types
  | type name =>
    simp only [begin]
    split
    · next hs => exact .typed hs
    · next hs => exact .untyped (by simpa using hs)
  | defaultName =>
    simp only [begin]
    split
    · next hd => exact .default hd
    · next hd => exact .defaulting hd
  | start asked o fresh =>
    cases asked with
    | some name => exact .named
    | none =>
      simp only [begin]
      split
      · next hd => exact .byDefault hd
      · next hd => exact .nameless hd
  | kernel id job =>
    cases job with
    | shutdown now =>
      simp only [begin]
      split
      · next hi => exact .gone hi
      · exact .sought
    | start | interrupt | restart | model => exact .sought
  | list =>
    simp only [begin]
    split <;> exact .list
  | openSession id session =>
    simp only [begin]
    split
    · exact .closed
    · split
      · exact .closed
      · exact .opening
  | record place job => exact .record
  | active place =>
    simp only [begin]
    split
    · exact .inactive
    · exact .activating
  | openRecord place session =>
    simp only [begin]
    split
    · exact .unopened
    · split
      · exact .unopened
      · exact .openingRecord

/-- A step that a call takes of its own. -/
inductive Advance (h : Hub) : Call → Hub → Call → Prop
  | begun {k c} (hb : Begun h k c) : Advance h (asked k) h c
  | known {name o fresh} (hk : h.provenance.knows name = true) :
    Advance h (checking name o fresh) h (registering name o fresh)
  | unknown {name o fresh} (hk : h.provenance.knows name = false) :
    Advance h (checking name o fresh) h (mergingHome (.start name o fresh))
  | both {goal home} (hr : h.hasRemote = true) :
    Advance h (mergedHome goal home) h (mergingRemote goal home)
  | alone {goal home} (hr : h.hasRemote = false) :
    Advance h (mergedHome goal home) h (merged goal home [])
  | published {home remote} :
    Advance h (merged .types home remote)
      { h with provenance := Catalog.provenance h.config home remote }
      (ended (.ok (.types (Catalog.merge h.config home remote))))
  | learnt {name o fresh home remote} :
    Advance h (merged (.start name o fresh) home remote)
      { h with provenance := Catalog.provenance h.config home remote }
      (registering name o fresh)
  | held {name o fresh} (hr : h.register? (o.id.getD fresh) name = none) :
    Advance h (registering name o fresh) h (ended (.error (.alreadyExists (o.id.getD fresh))))
  | registered {name o fresh h' place}
    (hr : h.register? (o.id.getD fresh) name = some (h', place)) :
    Advance h (registering name o fresh) h'
      (working { job := .start o, place } (.started (o.id.getD fresh)))
  | unfound {id job} (hf : Table.find? id h.registry = none) :
    Advance h (seeking id job) h (ended (.error (.kernelNotFound id)))
  | found {id job place} (hf : Table.find? id h.registry = some place) :
    Advance h (seeking id job) h (working { job, place } (afterJob id job))
  | worked {w after h' w'} (hw : w.step? h = some (h', w')) :
    Advance h (working w after) h' (working w' after)
  | followed {w after res} (hp : w.phase = .ended res) :
    Advance h (working w after) h (follow res after)
  | dropped {id e} : Advance h (dropping id e) (h.unregister id) (ended (.error e))
  | retired {id} : Advance h (retiring id) (h.retire id) (leaving id)
  | left {id} : Advance h (leaving id) (h.unregister id) (ended (.ok .done))
  | halfway {models found} :
    Advance h (listed .remote models found) h
      (listing .home (found ++ h.clientModels .remote models))
  | listed {models found} :
    Advance h (listed .home models found) h
      (ended (.ok (.models (found ++ h.clientModels .home models))))

theorem advance_of_step? {h h' : Hub} {c c' : Call} (hs : c.step? h = some (h', c')) :
    Advance h c h' c' := by
  cases c with
  | asked k => cases hs; exact .begun (begun_begin h k)
  | checking name o fresh =>
    cases hs
    split
    · next hk => exact .known hk
    · next hk => exact .unknown (by simpa using hk)
  | mergedHome goal home =>
    cases hs
    split
    · next hr => exact .both hr
    · next hr => exact .alone (by simpa using hr)
  | merged goal home remote =>
    cases hs
    cases goal with
    | types => exact .published
    | start => exact .learnt
  | registering name o fresh =>
    simp only [step?] at hs
    split at hs <;> cases hs
    · next hr => exact .held hr
    · next hr => exact .registered hr
  | seeking id job =>
    cases hs
    split
    · next hf => exact .unfound hf
    · next hf => exact .found hf
  | working w after =>
    simp only [step?] at hs
    split at hs
    · next hp => cases hs; exact .followed hp
    · obtain ⟨⟨u, w'⟩, hw, he⟩ := Option.map_eq_some_iff.1 hs
      cases he
      exact .worked hw
  | dropping => cases hs; exact .dropped
  | retiring => cases hs; exact .retired
  | leaving => cases hs; exact .left
  | listed side models found =>
    cases hs
    cases side with
    | home => exact .listed
    | remote => exact .halfway
  | naming | mergingHome | mergingRemote | describing | defaulting | listing | activating
  | opening | connecting | ended => cases hs

/-- What becomes of a call that gets the answer it waited for. -/
inductive Reaction (h : Hub) : Call → Answer → Call → Prop
  | crashed {c} (hw : ∀ w after, c ≠ working w after) (ha : ∀ k, c ≠ asked k)
    (he : ∀ res, c ≠ ended res) : Reaction h c .crashed (ended (.error .crashed))
  | heard {w after a w'} (hw : w.answered? h a = some w') :
    Reaction h (working w after) a (working w' after)
  | named {o fresh specs name} (hn : Catalog.firstName? specs = some name) :
    Reaction h (naming o fresh) (.specs specs) (checking name o fresh)
  | nameless {o fresh specs} (hn : Catalog.firstName? specs = none) :
    Reaction h (naming o fresh) (.specs specs) (ended (.error (.specNotFound "<default>")))
  | unnamed {o fresh e} : Reaction h (naming o fresh) (.refused e) (ended (.error (.catalog e)))
  | home {goal specs} : Reaction h (mergingHome goal) (.specs specs) (mergedHome goal specs)
  | homeless {goal e} : Reaction h (mergingHome goal) (.refused e) (ended (.error (.catalog e)))
  | remote {goal home specs} :
    Reaction h (mergingRemote goal home) (.specs specs) (merged goal home specs)
  | leftOut {goal home e} :
    Reaction h (mergingRemote goal home) (.refused e) (merged goal home [])
  | described {name suffix side s} :
    Reaction h (describing name suffix side) (.spec s) (ended (.ok (.type (s.withSuffix suffix))))
  | missing {name suffix side what} :
    Reaction h (describing name suffix side) (.refused (.notFound what))
      (ended (.error (.specNotFound name)))
  | undescribed {name suffix side e} (he : e.isNotFound = false) :
    Reaction h (describing name suffix side) (.refused e) (ended (.error (.catalog e)))
  | default {specs} :
    Reaction h defaulting (.specs specs) (ended (.ok (.defaultName (Catalog.firstName? specs))))
  | undefaulted {e} : Reaction h defaulting (.refused e) (ended (.error (.catalog e)))
  | listed {side found models} :
    Reaction h (listing side found) (.models models) (listed side models found)
  | skipped {found e} : Reaction h (listing .remote found) (.refused e) (listing .home found)
  | unlisted {found e} :
    Reaction h (listing .home found) (.refused e) (ended (.error (.catalog e)))
  | active {b held} : Reaction h (activating b) (.has held) (ended (.ok (.active held)))
  | opened {s channel} :
    Reaction h (opening s false) (.opened channel) (ended (.ok (.opened s channel)))
  | connecting {s channel} :
    Reaction h (opening s true) (.opened channel) (connecting s channel)
  | gone {s connect what} :
    Reaction h (opening s connect) (.refused (.notFound what))
      (ended (.error (.kernelNotFound s.kernel)))
  | unopened {s connect e} (he : e.isNotFound = false) :
    Reaction h (opening s connect) (.refused e) (ended (.error (.channel s.session e)))
  | connected {s channel} :
    Reaction h (connecting s channel) .done (ended (.ok (.opened s channel)))
  | unconnected {s channel e} :
    Reaction h (connecting s channel) (.refused e) (ended (.error (.channel s.session e)))

theorem answered?_working (h : Hub) (w : Work) (after : After) (a : Answer) :
    (working w after).answered? h a = (w.answered? h a).map (working · after) := by
  cases a <;> rfl

theorem reaction_of_crash {h : Hub} {c c' : Call} (hs : c.answered? h .crashed = some c') :
    Reaction h c .crashed c' := by
  cases c with
  | working w after =>
    obtain ⟨w', hw, rfl⟩ := Option.map_eq_some_iff.1 hs
    exact .heard hw
  | asked | ended => cases hs
  | _ => cases hs; exact .crashed (by simp) (by simp) (by simp)

theorem reaction_of_answered? {h : Hub} {c c' : Call} {a : Answer}
    (hs : c.answered? h a = some c') : Reaction h c a c' := by
  cases c with
  | working w after =>
    rw [answered?_working] at hs
    obtain ⟨w', hw, rfl⟩ := Option.map_eq_some_iff.1 hs
    exact .heard hw
  | naming o fresh =>
    cases a with
    | specs specs =>
      simp only [answered?] at hs
      split at hs <;> cases hs
      · next hn => exact .named hn
      · next hn => exact .nameless hn
    | refused => cases hs; exact .unnamed
    | crashed => exact reaction_of_crash hs
    | _ => cases hs
  | mergingHome goal =>
    cases a with
    | specs => cases hs; exact .home
    | refused => cases hs; exact .homeless
    | crashed => exact reaction_of_crash hs
    | _ => cases hs
  | mergingRemote goal home =>
    cases a with
    | specs => cases hs; exact .remote
    | refused => cases hs; exact .leftOut
    | crashed => exact reaction_of_crash hs
    | _ => cases hs
  | describing name suffix side =>
    cases a with
    | spec => cases hs; exact .described
    | refused e =>
      cases e with
      | notFound => cases hs; exact .missing
      | _ => cases hs; exact .undescribed rfl
    | crashed => exact reaction_of_crash hs
    | _ => cases hs
  | defaulting =>
    cases a with
    | specs => cases hs; exact .default
    | refused => cases hs; exact .undefaulted
    | crashed => exact reaction_of_crash hs
    | _ => cases hs
  | listing side found =>
    cases a with
    | models => cases hs; exact .listed
    | refused =>
      cases side with
      | home => cases hs; exact .unlisted
      | remote => cases hs; exact .skipped
    | crashed => exact reaction_of_crash hs
    | _ => cases hs
  | activating b =>
    cases a with
    | has => cases hs; exact .active
    | crashed => exact reaction_of_crash hs
    | _ => cases hs
  | opening s connect =>
    cases a with
    | opened channel =>
      cases hs
      cases connect with
      | false => exact .opened
      | true => exact .connecting
    | refused e =>
      cases e with
      | notFound => cases hs; exact .gone
      | _ => cases hs; exact .unopened rfl
    | crashed => exact reaction_of_crash hs
    | _ => cases hs
  | connecting s channel =>
    cases a with
    | done => cases hs; exact .connected
    | refused => cases hs; exact .unconnected
    | crashed => exact reaction_of_crash hs
    | _ => cases hs
  | asked | ended => cases a <;> cases hs
  | checking | mergedHome | merged | registering | seeking | dropping | retiring | leaving
  | listed =>
    cases a with
    | crashed => exact reaction_of_crash hs
    | _ => cases hs

end KernelHub.Call
