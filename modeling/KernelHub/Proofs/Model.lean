import KernelHub.Model
import KernelHub.Proofs.Instant
import KernelHub.Proofs.Json.Records

/-
Descriptions of kernels as text. Each comes back from its text, but for two things: that the part
only the host knows about is `null` is not told from there being none, and a leap second that is
not at the end of a minute is not told from the second after it. The time of the last activity is
written as short as it can be.
-/

namespace KernelHub

open Json (Document)

namespace Json

theorem document_ne_null {v : Json} (hv : v ≠ .null) : v.document ≠ .null := by
  cases v with
  | null => exact absurd rfl hv
  | double x =>
    obtain ⟨n, hn, -⟩ := document_double x
    rw [hn]
    simp
  | _ =>
    rw [document]
    simp

theorem Document.nullable_of_ne {α : Type} {read : Document → Option α} {d : Document}
    (h : d ≠ .null) : nullable read d = (read d).map some := by
  cases d with
  | null => exact absurd rfl h
  | _ => rfl

end Json

namespace Model

/-- What a description comes back as. -/
def settled (m : Model) : Model where
  id := m.id
  name := m.name
  lastActivity := m.lastActivity.map Instant.carried
  executionState := m.executionState
  connections := m.connections
  additional := match m.additional with
    | some .null => none
    | a => a

/-- What decoding takes from each field. -/
theorem decode?_eq_some {m : Model} {d : Document} {room : Nat} :
    decode? (room + 1) d = some m ↔
      ∃ id name lastActivity executionState connections additional,
      d.slots? fields = some [id, name, lastActivity, executionState, connections, additional] ∧
      Document.required Document.string? id = some m.id ∧
      Document.required Document.string? name = some m.name ∧
      Document.defaulted none (Document.nullable instant?) lastActivity = some m.lastActivity ∧
      Document.defaulted none (Document.nullable (Document.word? ExecutionState.ofWord?))
        executionState = some m.executionState ∧
      Document.defaulted 0 word32? connections = some m.connections ∧
      Document.defaulted none (Document.nullable (Document.value? room)) additional =
        some m.additional := by
  rw [decode?]
  simp only [Nat.add_one_sub_one, Nat.add_one_ne_zero, if_false, Option.bind_eq_bind]
  rw [Option.bind_eq_some_iff]
  constructor
  · rintro ⟨slots, hs, h⟩
    split at h
    · simp only [Option.bind_eq_some_iff, Option.pure_def, Option.some.injEq] at h
      obtain ⟨_, h1, _, h2, _, h3, _, h4, _, h5, _, h6, rfl⟩ := h
      exact ⟨_, _, _, _, _, _, hs, h1, h2, h3, h4, h5, h6⟩
    · cases h
  · rintro ⟨_, _, _, _, _, _, hs, h1, h2, h3, h4, h5, h6⟩
    exact ⟨_, hs, by simp [h1, h2, h3, h4, h5, h6]⟩

/-- What is written for the time of the last activity. -/
def activity (m : Model) : Json :=
  (m.lastActivity.map fun t => Json.string (toString t)).getD .null

theorem slots?_toJson (m : Model) : m.toJson.document.slots? fields =
    some [some (.string (some m.id)), some (.string (some m.name)), some m.activity.document,
      m.executionState.map fun s => .string (some s.word),
      some (.number (Document.intNumeral m.connections.toNat)),
      m.additional.map Json.document] := by
  rw [toJson, Json.slots?_document]
  · rcases he : m.executionState with _ | s <;> rcases ha : m.additional with _ | v <;>
      simp [fields, member, Entries.find?, Json.document, activity]
  · rcases he : m.executionState with _ | s <;> rcases ha : m.additional with _ | v <;>
      simp [member]

/-! ## Fields -/

theorem activity_back (m : Model) :
    Document.nullable instant? m.activity.document =
      some (m.lastActivity.map Instant.carried) := by
  rw [activity]
  cases m.lastActivity with
  | none => rfl
  | some t =>
    have ht : instant? (.string (some (toString t))) = some t.carried := by
      rw [instant?, Document.string?, Option.bind_some, Instant.ofRelaxed?_toString]
    have hne : Document.string (some (toString t)) ≠ .null := nofun
    rw [Option.map_some, Option.getD_some, Json.document, Json.Document.nullable_of_ne hne, ht,
      Option.map_some, Option.map_some]

theorem ofWord?_word (s : ExecutionState) : ExecutionState.ofWord? s.word = some s := by
  cases s <;> rfl

theorem state_back (s : Option ExecutionState) :
    Document.defaulted none (Document.nullable (Document.word? ExecutionState.ofWord?))
      (s.map fun s => .string (some s.word)) = some s := by
  cases s with
  | none => rfl
  | some s =>
    change (ExecutionState.ofWord? s.word).map some = _
    rw [ofWord?_word]
    rfl

theorem connections_back (n : UInt32) :
    word32? (.number (Document.intNumeral n.toNat)) = some n := by
  have hn : n.toNat < UInt32.size := n.toNat_lt_size
  have hv : (Document.intNumeral n.toNat).value? = some (.int n.toNat) := by
    refine Json.value?_int ⟨?_, ?_⟩
    · omega
    · exact Int.ofNat_lt.2 (Nat.lt_trans hn (by decide))
  have hb : Document.natBelow? UInt32.size (.number (Document.intNumeral n.toNat)) =
      some n.toNat := by
    rw [Document.natBelow?, hv]
    exact if_pos ⟨Int.natCast_nonneg _, hn⟩
  rw [word32?, hb, Option.map_some, UInt32.ofNat_toNat]

theorem additional_back {m : Model} {room : Nat} (hn : ∀ v ∈ m.additional, v.Normal)
    (hb : ∀ v ∈ m.additional, v.ReadsBack) (hd : ∀ v ∈ m.additional, v.depth ≤ room) :
    Document.defaulted none (Document.nullable (Document.value? room))
      (m.additional.map Json.document) = some m.settled.additional := by
  rw [settled]
  cases ha : m.additional with
  | none => rfl
  | some v =>
    by_cases hv : v = .null
    · rw [hv]
      rfl
    · have hne := Json.document_ne_null hv
      have he := Json.value?_document (hb v ha) (hn v ha) (hd v ha)
      change Document.nullable (Document.value? room) v.document = _
      rw [Json.Document.nullable_of_ne hne, he]
      cases v with
      | null => exact absurd rfl hv
      | _ => rfl

/-! ## Texts -/

theorem decode?_toJson {m : Model} {room : Nat} (hn : ∀ v ∈ m.additional, v.Normal)
    (hb : ∀ v ∈ m.additional, v.ReadsBack) (hd : ∀ v ∈ m.additional, v.depth ≤ room) :
    decode? (room + 1) m.toJson.document = some m.settled :=
  decode?_eq_some.2 ⟨_, _, _, _, _, _, slots?_toJson m, rfl, rfl, activity_back m,
    state_back _, connections_back _, additional_back hn hb hd⟩

theorem read?_text {m : Model} (hn : ∀ v ∈ m.additional, v.Normal)
    (hb : ∀ v ∈ m.additional, v.ReadsBack) (hd : ∀ v ∈ m.additional, v.depth ≤ 126) :
    read? m.text = some m.settled := by
  rw [read?, text, Json.read?_text]
  exact decode?_toJson hn hb hd

/-- A description comes back from its text, and the time of the last activity stands there with
the fewest digits. -/
theorem read?_settled (m : Model) (hn : ∀ v ∈ m.additional, v.Normal)
    (hb : ∀ v ∈ m.additional, v.ReadsBack) (hd : ∀ v ∈ m.additional, v.depth ≤ 126) :
    read? m.text = some m.settled ∧
      ∀ t ∈ m.lastActivity, ∃ ds, Instant.Fewest ds (t.nanos % Instant.billion) ∧
        m.toJson.get? "last_activity" =
          some (.string (String.ofList (t.wholeChars ++ Instant.pointed ds ++ ['Z']))) := by
  refine ⟨read?_text hn hb hd, fun t ht => ?_⟩
  obtain ⟨ds, he, hf⟩ := Instant.exists_fewest (Nat.mod_lt t.nanos (by decide))
  refine ⟨ds, hf, ?_⟩
  have hg : m.toJson.get? "last_activity" = some m.activity := by
    simp [toJson, Json.get?, Entries.find?, activity]
  rw [hg, activity, Option.mem_def.1 ht, ← he]
  rfl

/-- A kernel last active in the leap second at the end of 1998, with a part that is `null`. -/
def leapModel : Model where
  id := "1"
  name := "python3"
  lastActivity := some ⟨915148799, 1500000000, by decide⟩
  executionState := some .idle
  connections := 2
  additional := some .null

/-- It comes back without that part, and its time has three digits of fraction. -/
theorem read?_leapModel : read? leapModel.text = some { leapModel with additional := none } ∧
    leapModel.toJson.get? "last_activity" = some (.string "1998-12-31T23:59:60.500Z") := by
  have hv : ∀ v ∈ leapModel.additional, v = .null := fun v hv => (Option.some.inj hv).symm
  exact ⟨(read?_settled leapModel (fun v h => hv v h ▸ trivial) (fun v h => hv v h ▸ trivial)
    (fun v h => hv v h ▸ Nat.zero_le _)).1, rfl⟩

/-- A kernel last active a third of a second into a leap second early in a minute. -/
def straddling : Model where
  id := "1"
  name := "python3"
  lastActivity := some ⟨4, 1333333333, by decide⟩
  executionState := none
  connections := 0
  additional := none

/-- Its text tells of the fifth second, and so it comes back. -/
theorem leap_carried : (∀ v ∈ straddling.additional, v.Normal ∧ v.ReadsBack ∧ v.depth ≤ 126) ∧
    straddling.toJson.get? "last_activity" = some (.string "1970-01-01T00:00:05.333333333Z") ∧
    read? straddling.text =
      some { straddling with lastActivity := some ⟨5, 333333333, by decide⟩ } ∧
    read? straddling.text ≠ some straddling := by
  have hnone {P : Json → Prop} : ∀ v ∈ straddling.additional, P v := fun _ hv => nomatch hv
  have hback : read? straddling.text =
      some { straddling with lastActivity := some ⟨5, 333333333, by decide⟩ } :=
    read?_text hnone hnone hnone
  refine ⟨hnone, rfl, hback, fun he => ?_⟩
  have hm := Option.some.inj (hback.symm.trans he)
  have ht : some (5 : Int) = some 4 := congrArg (fun m => m.lastActivity.map Instant.seconds) hm
  cases ht

end Model

end KernelHub
