import KernelHub.Gateway.Client
import KernelHub.Proofs.Entries
import KernelHub.Proofs.Model

/-
Descriptions of kernels as gateways send them. A gateway that describes a kernel with the record
of this library is understood in every field, though of the time of the last activity only the
written form is known, and nothing but the id has to be there: a member of another shape counts
as none.
-/

namespace KernelHub

namespace Json

theorem sortedMembers_eq (ms : List (String × Json)) :
    sortedMembers ms = ms.map fun m => (m.1, m.2.sorted) := by
  induction ms with
  | nil => rfl
  | cons m ms ih => rw [sortedMembers, ih, List.map_cons]

/-- Putting members in order loses none of them. -/
theorem get?_sorted {ms : List (String × Json)} (hn : (ms.map (·.1)).Nodup) (k : String) :
    (object ms).sorted.get? k = ((object ms).get? k).map sorted := by
  have hmap : Entries.find? k (ms.map fun m => (m.1, m.2.sorted)) =
      (Entries.find? k ms).map sorted := by
    clear hn
    induction ms with
    | nil => rfl
    | cons m ms ih =>
      rw [List.map_cons, Entries.find?, Entries.find?, ih]
      split <;> rfl
  have hkeys : (Entries.keys (ms.map fun m => (m.1, m.2.sorted))).Nodup := by
    rw [Entries.keys, List.map_map]
    exact hn
  rw [sorted, sortedMembers_eq, get?, Entries.find?_ofList_of_nodup hkeys, hmap]
  rfl

end Json

namespace Gateway.Client

/-! ## Any value -/

/-- What a number of connections is taken for: a whole number of 64 bits is cut off at the largest
word, and everything else counts as none. -/
def counted : Option Json → Nat
  | some (.int n) => if 0 ≤ n ∧ n < UInt64.size then min n.toNat (UInt32.size - 1) else 0
  | _ => 0

theorem toNat_connections (v : Json) : (connections v).toNat = counted (v.get? "connections") := by
  have hcut (n : Nat) : (UInt32.ofNat (min n (UInt32.size - 1))).toNat = min n (UInt32.size - 1) :=
    UInt32.toNat_ofNat_of_lt' (Nat.lt_of_le_of_lt (Nat.min_le_right _ _) (by decide))
  rw [connections, hcut]
  cases v.get? "connections" with
  | none => rfl
  | some w =>
    cases w with
    | int n =>
      rw [Option.bind_some, Json.word?, counted]
      split <;> rfl
    | _ => rfl

/-- An object with a string for its id describes a kernel, whatever else it holds, and nothing else
does. -/
structure Lenient (v : Json) : Prop where
  accepted : (∃ m, readModel v = .ok m) ↔ ∃ ms id, v = .object ms ∧ v.get? "id" = some (.string id)
  connections : ∀ m, readModel v = .ok m → m.connections.toNat = counted (v.get? "connections")

theorem string?_eq_some {w : Option Json} {s : String} :
    w.bind Json.string? = some s ↔ w = some (.string s) := by
  rcases w with _ | v
  · simp
  · cases v <;> simp [Json.string?]

/-- What each field is read from. -/
theorem readModel_eq_ok {v : Json} {m : Model} : readModel v = .ok m ↔
    (∃ ms, v = .object ms) ∧ v.get? "id" = some (.string m.id) ∧
      ((v.get? "name").bind Json.string?).getD "" = m.name ∧
      ((v.get? "last_activity").bind Json.string?).bind Instant.ofStrict? = m.lastActivity ∧
      ((v.get? "execution_state").bind Json.string?).map ExecutionState.ofWord =
        m.executionState ∧
      connections v = m.connections ∧ some v = m.additional := by
  cases v with
  | object ms =>
    simp only [readModel, ← string?_eq_some]
    cases ((Json.object ms).get? "id").bind Json.string? with
    | none => simp only [reduceCtorEq, false_and, and_false]
    | some id =>
      cases m
      simp only [Except.ok.injEq, Model.mk.injEq, Option.some.injEq, Json.object.injEq,
        exists_eq', true_and]
  | _ =>
    constructor
    · exact fun h => nomatch h
    · rintro ⟨⟨_, ⟨⟩⟩, -⟩

theorem lenient (v : Json) : Lenient v where
  accepted := by
    constructor
    · rintro ⟨m, h⟩
      obtain ⟨⟨ms, hv⟩, hid, -⟩ := readModel_eq_ok.1 h
      exact ⟨ms, m.id, hv, hid⟩
    · rintro ⟨ms, id, hv, hid⟩
      exact ⟨⟨id, _, _, _, _, _⟩, readModel_eq_ok.2 ⟨⟨ms, hv⟩, hid, rfl, rfl, rfl, rfl, rfl⟩⟩
  connections m h := by
    obtain ⟨-, -, -, -, -, hc, -⟩ := readModel_eq_ok.1 h
    rw [← hc, toNat_connections]

/-! ## What is written -/

/-- The members of a description that was written, in whatever order they stand. -/
theorem get?_toJson (m : Model) (k : String) :
    m.toJson.sorted.get? k = (m.toJson.get? k).map Json.sorted := by
  refine Json.get?_sorted ?_ k
  rcases m.executionState with _ | s <;> rcases m.additional with _ | v <;> simp [Model.member]

theorem connections_toJson (m : Model) : connections m.toJson.sorted = m.connections := by
  have hlt : m.connections.toNat < 4294967296 := m.connections.toNat_lt_size
  have hget : m.toJson.sorted.get? "connections" = some (.int m.connections.toNat) := by
    rw [get?_toJson, Model.toJson, Json.get?]
    rcases m.executionState with _ | s <;> simp [Model.member, Entries.find?, Json.sorted]
  have hword : (0 : Int) ≤ m.connections.toNat ∧ (m.connections.toNat : Int) < UInt64.size := by
    rw [show UInt64.size = 18446744073709551616 from rfl]
    omega
  have hsmall : m.connections.toNat ≤ UInt32.size - 1 := Nat.le_sub_one_of_lt hlt
  rw [← UInt32.toNat_inj, toNat_connections, hget, counted, if_pos hword, Int.toNat_natCast,
    Nat.min_eq_left hsmall]

/-- What a description that was written is read as: every field it had, and itself as what only
the host knows about. -/
def understood (m : Model) : Model :=
  { m with
    lastActivity := m.lastActivity.map Instant.carried
    additional := some m.toJson.sorted }

theorem readModel_toJson (m : Model)
    (h : ∀ t ∈ m.lastActivity, 0 ≤ t.date.year ∧ t.date.year ≤ 9999) :
    readModel m.toJson.sorted = .ok (understood m) := by
  have hid : m.toJson.sorted.get? "id" = some (.string m.id) := get?_toJson m "id"
  have hname : m.toJson.sorted.get? "name" = some (.string m.name) := get?_toJson m "name"
  have hactivity : m.toJson.sorted.get? "last_activity" = some m.activity.sorted :=
    get?_toJson m "last_activity"
  have hstate : m.toJson.sorted.get? "execution_state" =
      m.executionState.map fun s => .string s.word := by
    rw [get?_toJson, Model.toJson, Json.get?]
    rcases m.executionState with _ | s <;> rcases m.additional with _ | v <;>
      simp [Model.member, Entries.find?, Json.sorted]
  refine readModel_eq_ok.2 ⟨⟨_, rfl⟩, hid, ?_, ?_, ?_, connections_toJson m, rfl⟩
  · rw [hname]
    rfl
  · rw [hactivity, Model.activity, understood]
    cases ht : m.lastActivity with
    | none => rfl
    | some t =>
      simp only [Option.map_some, Option.getD_some, Json.sorted, Option.bind_some, Json.string?]
      exact Instant.ofStrict?_toString t (h t ht)
  · rw [hstate, understood]
    cases m.executionState with
    | none => rfl
    | some s => exact congrArg (fun w => some (w.getD .unknown)) (Model.ofWord?_word s)

/-- Gateways that describe kernels the way they are described here are understood, and those that
do not are understood as far as they can be. -/
theorem models_understood (m : Model)
    (h : ∀ t ∈ m.lastActivity, 0 ≤ t.date.year ∧ t.date.year ≤ 9999) (v : Json) :
    readModel m.toJson.sorted = .ok (understood m) ∧ Lenient v :=
  ⟨readModel_toJson m h, lenient v⟩

/-- A description with too many connections, and a name that is none. -/
def crowdedKernel : Json := .object [("connections", .int 5000000000), ("id", .string "7"),
  ("name", .null)]

/-- The leap second survives, and the connections are cut off. -/
theorem models_understood_leap :
    readModel Model.leapModel.toJson.sorted =
      .ok { Model.leapModel with additional := some Model.leapModel.toJson.sorted } ∧
    ∃ m, readModel crowdedKernel = .ok m ∧ m.connections.toNat = 4294967295 := by
  have hyear : ∀ t ∈ Model.leapModel.lastActivity, 0 ≤ t.date.year ∧ t.date.year ≤ 9999 :=
    fun t ht => Option.some.inj ht ▸ by decide
  obtain ⟨hleap, hcrowded⟩ := models_understood Model.leapModel hyear crowdedKernel
  obtain ⟨m, hm⟩ := hcrowded.accepted.2 ⟨_, _, rfl, rfl⟩
  exact ⟨hleap, m, hm, hcrowded.connections m hm⟩

/-- The time in the middle of a leap second early in a minute is read as one in the next second. -/
theorem leap_misread : (∀ t ∈ Model.straddling.lastActivity, 0 ≤ t.date.year ∧
      t.date.year ≤ 9999) ∧ Model.straddling.lastActivity.map Instant.seconds = some 4 ∧
    ∃ m, readModel Model.straddling.toJson.sorted = .ok m ∧
      m.lastActivity.map Instant.seconds = some 5 := by
  have hyear : ∀ t ∈ Model.straddling.lastActivity, 0 ≤ t.date.year ∧ t.date.year ≤ 9999 :=
    fun t ht => Option.some.inj ht ▸ by decide
  exact ⟨hyear, rfl, _, readModel_toJson Model.straddling hyear, by decide⟩

end Gateway.Client

end KernelHub
