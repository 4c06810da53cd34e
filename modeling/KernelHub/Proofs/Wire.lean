import KernelHub.Message
import KernelHub.Proofs.Json.Records
import KernelHub.Spec

/-
Messages and kernel types as text. What is written is read back as it was, field by field: what
an encoder leaves out is what the decoder has as its default. What is read, from whatever text,
is a value that is written and read back from then on.
-/

namespace KernelHub

open Json (Document)

/-- A type whose values go over the wire. `Sound` are the values of the type; those can be written
whose doubles read back and whose text nests no deeper than texts may. -/
structure Faithful {α : Type} (Sound : α → Prop) (toJson : α → Json)
    (read? : String → Option α) : Prop where
  /-- What is written is read back. -/
  written : ∀ a, Sound a → (toJson a).ReadsBack → (toJson a).depth ≤ Document.maxDepth →
    read? (toJson a).text = some a
  /-- What is read is a value of the type, and no text for it is too deep. -/
  sound : ∀ t a, read? t = some a → Sound a ∧ (toJson a).depth ≤ Document.maxDepth
  /-- What is read from the new text of what was read is the same, and is written the same. -/
  settled : ∀ t a, read? t = some a → (toJson a).ReadsBack →
    read? (toJson a).text = some a ∧
      (read? (toJson a).text).map (fun b => (toJson b).text) = some (toJson a).text

/-- Decoders that give back what a document was made from, and no more than can be written. -/
theorem faithful_of {α : Type} {Sound : α → Prop} {toJson : α → Json}
    {decode? : Document → Option α}
    (back : ∀ a, Sound a → (toJson a).ReadsBack → (toJson a).depth ≤ Document.maxDepth →
      decode? (toJson a).document = some a)
    (sound : ∀ d a, decode? d = some a → Sound a ∧ (toJson a).depth ≤ Document.maxDepth) :
    Faithful Sound toJson fun t => (Document.read? t).bind decode? := by
  have written : ∀ a, Sound a → (toJson a).ReadsBack → (toJson a).depth ≤ Document.maxDepth →
      (Document.read? (toJson a).text).bind decode? = some a := fun a hs hb hd => by
    rw [Json.read?_text]
    exact back a hs hb hd
  have readable : ∀ t a, (Document.read? t).bind decode? = some a →
      Sound a ∧ (toJson a).depth ≤ Document.maxDepth := fun t a h => by
    obtain ⟨d, -, hd⟩ := Option.bind_eq_some_iff.1 h
    exact sound d a hd
  refine ⟨written, readable, fun t a h hb => ?_⟩
  have hs := readable t a h
  have hr := written a hs.1 hb hs.2
  exact ⟨hr, by rw [hr]; rfl⟩

/-! ## Kernel types -/

namespace Spec

/-- The free part of a kernel type is JSON. -/
def Sound (s : Spec) : Prop := (Json.object s.metadata).Normal

/-- What decoding takes from each field. -/
theorem decode?_eq_some {s : Spec} {d : Document} {room : Nat} :
    decode? (room + 1) d = some s ↔ ∃ name displayName language metadata,
      d.slots? fields = some [name, displayName, language, metadata] ∧
      Document.required Document.string? name = some s.name ∧
      Document.required Document.string? displayName = some s.displayName ∧
      Document.required Document.string? language = some s.language ∧
      Document.defaulted [] (Document.membersAt? room) metadata = some s.metadata := by
  rw [decode?]
  simp only [Nat.add_one_sub_one, Nat.add_one_ne_zero, if_false, Option.bind_eq_bind]
  rw [Option.bind_eq_some_iff]
  constructor
  · rintro ⟨slots, hs, h⟩
    split at h
    · simp only [Option.bind_eq_some_iff, Option.pure_def, Option.some.injEq] at h
      obtain ⟨_, h1, _, h2, _, h3, _, h4, rfl⟩ := h
      exact ⟨_, _, _, _, hs, h1, h2, h3, h4⟩
    · cases h
  · rintro ⟨_, _, _, _, hs, h1, h2, h3, h4⟩
    exact ⟨_, hs, by simp [h1, h2, h3, h4]⟩

/-- The members that are written. -/
def members (s : Spec) : List (String × Json) :=
  [("name", .string s.name), ("display_name", .string s.displayName),
    ("language", .string s.language)] ++
    if s.metadata = [] then [] else [("metadata", .object s.metadata)]

theorem slots?_toJson (s : Spec) : s.toJson.document.slots? fields =
    some [some (.string (some s.name)), some (.string (some s.displayName)),
      some (.string (some s.language)),
      if s.metadata = [] then none else some (Json.object s.metadata).document] := by
  rw [toJson, Json.slots?_document]
  · by_cases h : s.metadata = [] <;> simp [fields, Entries.find?, h, Json.document]
  · by_cases h : s.metadata = [] <;> simp [h]

theorem decode?_toJson {s : Spec} (hs : s.Sound) (hb : s.toJson.ReadsBack) {room : Nat}
    (hd : s.toJson.depth ≤ room + 1) : decode? (room + 1) s.toJson.document = some s := by
  refine decode?_eq_some.2 ⟨_, _, _, _, slots?_toJson s, rfl, rfl, rfl, ?_⟩
  split
  · next h => rw [h]; rfl
  · next h =>
    have hm : ("metadata", Json.object s.metadata) ∈ s.members := by simp [members, h]
    exact Json.membersAt?_document (hb.member hm) hs (Json.depth_member hd hm)

theorem sound_of_decode? {s : Spec} {d : Document} {room : Nat}
    (h : decode? (room + 1) d = some s) : s.Sound ∧ s.toJson.depth ≤ room + 1 := by
  obtain ⟨_, _, _, _, -, -, -, -, hm⟩ := decode?_eq_some.1 h
  have hf : s.metadata = [] ∨ (Json.object s.metadata).Fits room :=
    Json.of_defaulted (P := fun ms => ms = [] ∨ (Json.object ms).Fits room) hm (.inl rfl)
      fun _ _ h => .inr (Json.fits_membersAt? h)
  have hd : s.toJson.depth ≤ room + 1 := by
    change (Json.object s.members).depth ≤ room + 1
    refine Json.depth_object_le ?_
    simp only [members, List.forall_mem_append, List.forall_mem_cons]
    refine ⟨⟨Nat.zero_le _, Nat.zero_le _, Nat.zero_le _, nofun⟩, ?_⟩
    split
    · exact nofun
    · next hne => exact List.forall_mem_singleton.2 (hf.resolve_left hne).depth
  refine ⟨?_, hd⟩
  rcases hf with he | hf
  · rw [Sound, he]
    exact ⟨List.Pairwise.nil, trivial⟩
  · exact hf.normal

theorem faithful : Faithful Sound toJson read? :=
  faithful_of (fun _ hs hb hd => decode?_toJson hs hb hd) fun _ _ h => sound_of_decode? h

end Spec

/-! ## Messages -/

namespace Header

/-- What decoding takes from each field. -/
theorem decode?_eq_some {h : Header} {d : Document} {room : Nat} :
    decode? room d = some h ↔ room ≠ 0 ∧ ∃ id type session username date version,
      d.slots? fields = some [id, type, session, username, date, version] ∧
      Document.required Document.string? id = some h.id ∧
      Document.required Document.string? type = some h.type ∧
      Document.defaulted "" Document.string? session = some h.session ∧
      Document.defaulted "" Document.string? username = some h.username ∧
      Document.defaulted "" Document.string? date = some h.date ∧
      Document.defaulted "" Document.string? version = some h.version := by
  rw [decode?]
  split
  · next h0 => simp [h0]
  · next h0 =>
    simp only [Option.bind_eq_bind, Option.bind_eq_some_iff]
    constructor
    · rintro ⟨slots, hs, h⟩
      split at h
      · simp only [Option.bind_eq_some_iff, Option.pure_def, Option.some.injEq] at h
        obtain ⟨_, h1, _, h2, _, h3, _, h4, _, h5, _, h6, rfl⟩ := h
        exact ⟨h0, _, _, _, _, _, _, hs, h1, h2, h3, h4, h5, h6⟩
      · cases h
    · rintro ⟨-, _, _, _, _, _, _, hs, h1, h2, h3, h4, h5, h6⟩
      exact ⟨_, hs, by simp [h1, h2, h3, h4, h5, h6]⟩

theorem decode?_toJson (h : Header) {room : Nat} (hr : room ≠ 0) :
    decode? room h.toJson.document = some h :=
  decode?_eq_some.2 ⟨hr, _, _, _, _, _, _, rfl, rfl, rfl, rfl, rfl, rfl, rfl⟩

end Header

namespace Message

/-- The free parts of a message are JSON. -/
structure Sound (m : Message) : Prop where
  parent : m.parent.Normal
  metadata : (Json.object m.metadata).Normal
  content : m.content.Normal
  buffers : (Json.array m.buffers).Normal

/-- What decoding takes from each field. -/
theorem decode?_eq_some {m : Message} {d : Document} {room : Nat} :
    decode? (room + 1) d = some m ↔ ∃ channel header parent metadata content buffers,
      d.slots? fields = some [channel, header, parent, metadata, content, buffers] ∧
      Document.defaulted "" Document.string? channel = some m.channel ∧
      Document.required (Header.decode? room) header = some m.header ∧
      Document.defaulted .empty (Document.value? room) parent = some m.parent ∧
      Document.defaulted [] (Document.membersAt? room) metadata = some m.metadata ∧
      Document.defaulted .null (Document.value? room) content = some m.content ∧
      Document.defaulted [] (Document.itemsAt? room) buffers = some m.buffers := by
  rw [decode?]
  simp only [Nat.add_one_sub_one, Nat.add_one_ne_zero, if_false, Option.bind_eq_bind]
  rw [Option.bind_eq_some_iff]
  constructor
  · rintro ⟨slots, hs, h⟩
    split at h
    · simp only [Option.bind_eq_some_iff, Option.pure_def, Option.some.injEq] at h
      obtain ⟨_, h1, _, h2, _, h3, _, h4, _, h5, _, h6, rfl⟩ := h
      exact ⟨_, _, _, _, _, _, hs, h1, h2, h3, h4, h5, h6⟩
    · cases h
  · rintro ⟨_, _, _, _, _, _, hs, h1, h2, h3, h4, h5, h6⟩
    exact ⟨_, hs, by simp [h1, h2, h3, h4, h5, h6]⟩

/-- The members that are written. -/
def members (m : Message) : List (String × Json) :=
  [("channel", .string m.channel), ("header", m.header.toJson), ("parent_header", m.parent),
    ("metadata", .object m.metadata), ("content", m.content)] ++
    if m.buffers = [] then [] else [("buffers", .array m.buffers)]

theorem slots?_toJson (m : Message) : m.toJson.document.slots? fields =
    some [some (.string (some m.channel)), some m.header.toJson.document,
      some m.parent.document, some (Json.object m.metadata).document, some m.content.document,
      if m.buffers = [] then none else some (Json.array m.buffers).document] := by
  rw [toJson, Json.slots?_document]
  · by_cases h : m.buffers = [] <;> simp [fields, Entries.find?, h, Json.document]
  · by_cases h : m.buffers = [] <;> simp [h]

theorem decode?_toJson {m : Message} (hs : m.Sound) (hb : m.toJson.ReadsBack) {room : Nat}
    (hd : m.toJson.depth ≤ room + 1) : decode? (room + 1) m.toJson.document = some m := by
  have hm : ∀ e ∈ m.members, e.2.ReadsBack ∧ e.2.depth ≤ room := fun e he =>
    ⟨hb.member he, Json.depth_member hd he⟩
  simp only [members, List.forall_mem_append, List.forall_mem_cons] at hm
  obtain ⟨⟨-, hheader, hparent, hmetadata, hcontent, -⟩, hbuffers⟩ := hm
  have hr : room ≠ 0 := Nat.ne_of_gt hheader.2
  refine decode?_eq_some.2 ⟨_, _, _, _, _, _, slots?_toJson m, rfl,
    m.header.decode?_toJson hr, Json.value?_document hparent.1 hs.parent hparent.2,
    Json.membersAt?_document hmetadata.1 hs.metadata hmetadata.2,
    Json.value?_document hcontent.1 hs.content hcontent.2, ?_⟩
  split
  · next h => rw [h]; rfl
  · next h =>
    rw [if_neg h, List.forall_mem_singleton] at hbuffers
    exact Json.itemsAt?_document hbuffers.1 hs.buffers hbuffers.2

theorem sound_of_decode? {m : Message} {d : Document} {room : Nat}
    (h : decode? (room + 1) d = some m) : m.Sound ∧ m.toJson.depth ≤ room + 1 := by
  obtain ⟨_, header, _, _, _, _, -, -, hh, hp, hm, hc, hb⟩ := decode?_eq_some.1 h
  have hr : 1 ≤ room := by
    cases header with
    | none => cases hh
    | some d => exact Nat.one_le_iff_ne_zero.2 (Header.decode?_eq_some.1 hh).1
  have hempty : (Json.object []).Fits room := ⟨⟨List.Pairwise.nil, trivial⟩, hr⟩
  have fp : m.parent.Fits room :=
    Json.of_defaulted hp hempty fun _ _ h => Json.Document.fits_of_value? h
  have fm : (Json.object m.metadata).Fits room :=
    Json.of_defaulted (P := fun ms => (Json.object ms).Fits room) hm hempty
      fun _ _ h => Json.fits_membersAt? h
  have fc : m.content.Fits room :=
    Json.of_defaulted hc ⟨trivial, Nat.zero_le _⟩ fun _ _ h => Json.Document.fits_of_value? h
  have fb : (Json.array m.buffers).Fits room :=
    Json.of_defaulted (P := fun vs => (Json.array vs).Fits room) hb ⟨trivial, hr⟩
      fun _ _ h => Json.fits_itemsAt? h
  refine ⟨⟨fp.normal, fm.normal, fc.normal, fb.normal⟩, ?_⟩
  change (Json.object m.members).depth ≤ room + 1
  refine Json.depth_object_le ?_
  simp only [members, List.forall_mem_append, List.forall_mem_cons]
  refine ⟨⟨Nat.zero_le _, hr, fp.depth, fm.depth, fc.depth, nofun⟩, ?_⟩
  split
  · exact nofun
  · exact List.forall_mem_singleton.2 fb.depth

theorem faithful : Faithful Sound toJson read? :=
  faithful_of (fun _ hs hb hd => decode?_toJson hs hb hd) fun _ _ h => sound_of_decode? h

end Message

/-! ## Both -/

/-- Messages and kernel types go over the wire and come back as they were. -/
theorem wire_faithful : Faithful Message.Sound Message.toJson Message.read? ∧
    Faithful Spec.Sound Spec.toJson Spec.read? := ⟨Message.faithful, Spec.faithful⟩

/-- A half. -/
def half : Double := ⟨false, Nat.pow 2 52, 1021⟩

/-- A message with free parts of all kinds. -/
def motley : Message where
  channel := "shell"
  header := { id := "1", type := "execute_request" }
  metadata := [("a", .int (-1)), ("é", .bool true)]
  content := .object [("code", .string "\"\\\n\x01𝄞"), ("weight", .double half)]
  buffers := [.null, .array []]

/-- A kernel type without metadata. -/
def bareType : Spec := ⟨"a", "b", "c", []⟩

/-- The same as an array of its fields, the last one missing. -/
def bareItems : Json := .array [.string "a", .string "b", .string "c"]

/-- The message comes back from its text, and so does what was read from the array. -/
theorem wire_motley : Message.read? motley.toJson.text = some motley ∧
    Spec.read? bareItems.text = some bareType ∧
    Spec.read? bareType.toJson.text = some bareType := by
  have hi : (Json.int (-1)).Normal := by
    change -0x8000000000000000 ≤ (-1 : Int) ∧ (-1 : Int) < UInt64.size
    decide
  have hx : (Json.double half).Normal := by
    change half.Valid
    decide
  have hs : motley.Sound :=
    ⟨⟨List.Pairwise.nil, trivial⟩, ⟨by unfold Entries.Ordered; decide, hi, trivial, trivial⟩,
      ⟨by unfold Entries.Ordered; decide, trivial, hx, trivial⟩, trivial, trivial, trivial⟩
  have hh : half.ReadsBack := by decide +kernel
  have hb : motley.toJson.ReadsBack := by simp [motley, Message.toJson, Header.toJson, Json.empty,
    Json.ReadsBack, Json.MembersReadBack, Json.ItemsReadBack, hh]
  have hr : Spec.read? bareItems.text = some bareType := by
    rw [Spec.read?, Json.read?_text]
    rfl
  have hn : bareType.toJson.ReadsBack := ⟨trivial, trivial, trivial, trivial⟩
  exact ⟨wire_faithful.1.written motley hs hb (by decide), hr,
    (wire_faithful.2.settled _ _ hr hn).1⟩

end KernelHub
