import KernelHub.Proofs.Solo

/-
Calls that leave all kernels alone, run alone. Each comes down to one rule: what the hosts
were asked and answered, what the caller is given, and what is known about types afterwards.
-/

namespace KernelHub

/-- What the hosts list for a merge. What the remote host cannot list is left out. -/
inductive Gathering (hasRemote : Bool) : List Exchange → List Spec → List Spec → Prop
  | alone {home} (hr : hasRemote = false) :
    Gathering hasRemote [(.home, .specs, .specs home)] home []
  | both {home remote} (hr : hasRemote = true) :
    Gathering hasRemote [(.home, .specs, .specs home), (.remote, .specs, .specs remote)] home remote
  | degraded {home e} (hr : hasRemote = true) :
    Gathering hasRemote [(.home, .specs, .specs home), (.remote, .specs, .refused e)] home []

namespace Hub

/-- The models that the remote host contributes to a listing. -/
inductive Found (h : Hub) : List Exchange → List Model → Prop
  | alone (hr : h.hasRemote = false) : Found h [] []
  | listed {ms} (hr : h.hasRemote = true) :
    Found h [(.remote, .list, .models ms)] (h.clientModels .remote ms)
  | unlisted {e} (hr : h.hasRemote = true) : Found h [(.remote, .list, .refused e)] []

/-- The binding of the kernel that an id has. -/
def target? (h : Hub) (id : KernelId) : Option Binding := (h.kernel? id).bind h.bound?

/-- What a command that leaves all kernels alone is told, gives, and leaves behind. -/
inductive Look (h : Hub) : Command → List Exchange → Result → Provenance → Prop
  | merged {es home remote} (hg : Gathering h.hasRemote es home remote) :
    Look h .types es (.ok (.types (Catalog.merge h.config home remote)))
      (Catalog.provenance h.config home remote)
  | unmerged {e} :
    Look h .types [(.home, .specs, .refused e)] (.error (.catalog e)) h.provenance
  | described {name s} (hs : h.hasSide (h.provenance.route name) = true) :
    Look h (.type name) [(h.provenance.route name, .spec name, .spec s)]
      (.ok (.type (s.withSuffix (h.config.suffix (h.provenance.route name))))) h.provenance
  | undescribed {name e} (hs : h.hasSide (h.provenance.route name) = true) :
    Look h (.type name) [(h.provenance.route name, .spec name, .refused e)]
      (.error (if e.isNotFound = true then .specNotFound name else .catalog e)) h.provenance
  | homeless {name} (hs : h.hasSide (h.provenance.route name) = false) :
    Look h (.type name) [] (.error (.specNotFound name)) h.provenance
  | given {name} (hd : h.config.resolvedDefault h.environment = some name) :
    Look h .defaultName [] (.ok (.defaultName (some name))) h.provenance
  | first {specs} (hd : h.config.resolvedDefault h.environment = none) :
    Look h .defaultName [(.home, .specs, .specs specs)]
      (.ok (.defaultName (Catalog.firstName? specs))) h.provenance
  | unnamed {e} (hd : h.config.resolvedDefault h.environment = none) :
    Look h .defaultName [(.home, .specs, .refused e)] (.error (.catalog e)) h.provenance
  | listed {es found ms} (hf : h.Found es found) :
    Look h .list (es ++ [(.home, .list, .models ms)])
      (.ok (.models (found ++ h.clientModels .home ms))) h.provenance
  | unlisted {es found e} (hf : h.Found es found) :
    Look h .list (es ++ [(.home, .list, .refused e)]) (.error (.catalog e)) h.provenance
  | unbound {id s} (ht : h.target? id = none) :
    Look h (.openSession id s) [] (.error (.kernelNotFound id)) h.provenance
  | unopened {id s b e} (ht : h.target? id = some b) :
    Look h (.openSession id s) [(b.side, .openChannel b.delegate s, .refused e)]
      (.error (if e.isNotFound = true then .kernelNotFound id else .channel s e)) h.provenance
  | unconnected {id s b c e} (ht : h.target? id = some b) :
    Look h (.openSession id s) [(b.side, .openChannel b.delegate s, .opened c),
      (b.side, .connect c ⟨id, s, b⟩, .refused e)] (.error (.channel s e)) h.provenance
  | opened {id s b c} (ht : h.target? id = some b) :
    Look h (.openSession id s) [(b.side, .openChannel b.delegate s, .opened c),
      (b.side, .connect c ⟨id, s, b⟩, .done)] (.ok (.opened ⟨id, s, b⟩ c)) h.provenance

end Hub

namespace Call

variable {h h' : Hub} {es : List Exchange} {res : Result}

/-- What a call does once its merge is published. -/
def Goal.next (h : Hub) (home remote : List Spec) : Goal → Call
  | .types => ended (.ok (.types (Catalog.merge h.config home remote)))
  | .start name options fresh => registering name options fresh

/-- A merge fails at home, or is published and goes on. -/
theorem merge_spec {goal : Goal} (hl : Leads h (mergingHome goal) es h' (ended res)) :
    (∃ e, es = [(.home, .specs, .refused e)] ∧ res = .error (.catalog e) ∧ h' = h) ∨
    ∃ home remote fs gs, es = fs ++ gs ∧ Gathering h.hasRemote fs home remote ∧
      Leads { h with provenance := Catalog.provenance h.config home remote }
        (goal.next h home remote) gs h' (ended res) := by
  have publish {home remote : List Spec} {gs : List Exchange}
      (hl : Leads h (merged goal home remote) gs h' (ended res)) :
      Leads { h with provenance := Catalog.provenance h.config home remote }
        (goal.next h home remote) gs h' (ended res) := by
    cases goal <;> exact of_step hl rfl rfl
  obtain ⟨a, c, fs, rfl, ha, hs, h1⟩ := of_request hl rfl rfl
  cases reaction_of_answered? hs with
  | @homeless _ e =>
    obtain ⟨rfl, rfl, rfl⟩ := of_ended h1
    exact .inl ⟨e, rfl, rfl, rfl⟩
  | @home _ home =>
    have h2 := of_step h1 rfl rfl
    split at h2
    · next hr =>
      obtain ⟨a, c, fs, rfl, ha, hs, h3⟩ := of_request h2 rfl rfl
      cases reaction_of_answered? hs with
      | @remote _ _ remote =>
        exact .inr ⟨home, remote, [_, _], fs, rfl, .both hr, publish h3⟩
      | leftOut => exact .inr ⟨home, [], [_, _], fs, rfl, .degraded hr, publish h3⟩
      | crashed => exact absurd rfl ha
    · next hr =>
      exact .inr ⟨home, [], [_], fs, rfl, .alone (Bool.eq_false_iff.2 hr), publish h2⟩
  | crashed => exact absurd rfl ha

theorem types_look (hl : Leads h (asked .types) es h' (ended res)) :
    ∃ p, h' = { h with provenance := p } ∧ h.Look .types es res p := by
  rcases merge_spec (of_step hl rfl rfl) with ⟨e, rfl, rfl, rfl⟩ |
    ⟨home, remote, fs, gs, rfl, hg, h1⟩
  · exact ⟨_, rfl, .unmerged⟩
  · obtain ⟨rfl, rfl, rfl⟩ := of_ended h1
    rw [List.append_nil]
    exact ⟨_, rfl, .merged hg⟩

theorem type_look {name : String} (hl : Leads h (asked (.type name)) es h' (ended res)) :
    ∃ p, h' = { h with provenance := p } ∧ h.Look (.type name) es res p := by
  have h1 := of_step hl rfl rfl
  simp only [begin] at h1
  split at h1
  · next hs =>
    obtain ⟨a, c, fs, rfl, ha, hs', h2⟩ := of_request h1 rfl rfl
    cases reaction_of_answered? hs' with
    | described =>
      obtain ⟨rfl, rfl, rfl⟩ := of_ended h2
      exact ⟨_, rfl, .described hs⟩
    | missing =>
      obtain ⟨rfl, rfl, rfl⟩ := of_ended h2
      exact ⟨_, rfl, .undescribed hs⟩
    | @undescribed _ _ _ e he =>
      obtain ⟨rfl, rfl, rfl⟩ := of_ended h2
      have hlook := Hub.Look.undescribed (e := e) hs
      rw [he] at hlook
      exact ⟨_, rfl, hlook⟩
    | crashed => exact absurd rfl ha
  · next hs =>
    obtain ⟨rfl, rfl, rfl⟩ := of_ended h1
    exact ⟨_, rfl, .homeless (Bool.eq_false_iff.2 hs)⟩

theorem defaultName_look (hl : Leads h (asked .defaultName) es h' (ended res)) :
    ∃ p, h' = { h with provenance := p } ∧ h.Look .defaultName es res p := by
  have h1 := of_step hl rfl rfl
  simp only [begin] at h1
  split at h1
  · next name hd =>
    obtain ⟨rfl, rfl, rfl⟩ := of_ended h1
    exact ⟨_, rfl, .given hd⟩
  · next hd =>
    obtain ⟨a, c, fs, rfl, ha, hs, h2⟩ := of_request h1 rfl rfl
    cases reaction_of_answered? hs with
    | default =>
      obtain ⟨rfl, rfl, rfl⟩ := of_ended h2
      exact ⟨_, rfl, .first hd⟩
    | undefaulted =>
      obtain ⟨rfl, rfl, rfl⟩ := of_ended h2
      exact ⟨_, rfl, .unnamed hd⟩
    | crashed => exact absurd rfl ha

/-- The second half of a listing, at home. -/
theorem listing_home_look {fs : List Exchange} {found : List Model} (hf : h.Found fs found)
    (hl : Leads h (listing .home found) es h' (ended res)) :
    ∃ p, h' = { h with provenance := p } ∧ h.Look .list (fs ++ es) res p := by
  obtain ⟨a, c, gs, rfl, ha, hs, h1⟩ := of_request hl rfl rfl
  cases reaction_of_answered? hs with
  | listed =>
    obtain ⟨rfl, rfl, rfl⟩ := of_ended (of_step h1 rfl rfl)
    exact ⟨_, rfl, .listed hf⟩
  | unlisted =>
    obtain ⟨rfl, rfl, rfl⟩ := of_ended h1
    exact ⟨_, rfl, .unlisted hf⟩
  | crashed => exact absurd rfl ha

theorem list_look (hl : Leads h (asked .list) es h' (ended res)) :
    ∃ p, h' = { h with provenance := p } ∧ h.Look .list es res p := by
  have h1 := of_step hl rfl rfl
  simp only [begin] at h1
  split at h1
  · next hr =>
    obtain ⟨a, c, fs, rfl, ha, hs, h2⟩ := of_request h1 rfl rfl
    cases reaction_of_answered? hs with
    | listed => exact listing_home_look (.listed hr) (of_step h2 rfl rfl)
    | skipped => exact listing_home_look (.unlisted hr) h2
    | crashed => exact absurd rfl ha
  · next hr => exact listing_home_look (.alone (Bool.eq_false_iff.2 hr)) h1

theorem openSession_look {id : KernelId} {s : SessionId}
    (hl : Leads h (asked (.openSession id s)) es h' (ended res)) :
    ∃ p, h' = { h with provenance := p } ∧ h.Look (.openSession id s) es res p := by
  have h1 := of_step hl rfl rfl
  have hb : begin h (.openSession id s) = (h.target? id).elim
      (ended (.error (.kernelNotFound id))) fun b => opening ⟨id, s, b⟩ true := by
    simp only [begin, Hub.target?, Hub.kernel?]
    cases Table.find? id h.registry with
    | none => rfl
    | some p => cases hp : (h.record? p).bind h.bound? <;> simp [hp]
  rw [hb] at h1
  cases ht : h.target? id with
  | none =>
    rw [ht] at h1
    obtain ⟨rfl, rfl, rfl⟩ := of_ended h1
    exact ⟨_, rfl, .unbound ht⟩
  | some b =>
    rw [ht] at h1
    obtain ⟨a, c, fs, rfl, ha, hs, h2⟩ := of_request h1 rfl rfl
    cases reaction_of_answered? hs with
    | connecting =>
      obtain ⟨a, c, fs, rfl, ha, hs, h3⟩ := of_request h2 rfl rfl
      cases reaction_of_answered? hs with
      | connected =>
        obtain ⟨rfl, rfl, rfl⟩ := of_ended h3
        exact ⟨_, rfl, .opened ht⟩
      | unconnected =>
        obtain ⟨rfl, rfl, rfl⟩ := of_ended h3
        exact ⟨_, rfl, .unconnected ht⟩
      | crashed => exact absurd rfl ha
    | gone =>
      obtain ⟨rfl, rfl, rfl⟩ := of_ended h2
      exact ⟨_, rfl, .unopened ht⟩
    | @unopened _ _ e he =>
      obtain ⟨rfl, rfl, rfl⟩ := of_ended h2
      have hlook := @Hub.Look.unopened _ id s b e ht
      rw [he] at hlook
      exact ⟨_, rfl, hlook⟩
    | crashed => exact absurd rfl ha

end Call

end KernelHub
