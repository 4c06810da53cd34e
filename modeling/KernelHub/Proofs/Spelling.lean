import KernelHub.Gateway.Config
import KernelHub.Proofs.Json.Spelling
import KernelHub.Proofs.Model
import KernelHub.Proofs.Wire

/-
Kernel types, descriptions of kernels, messages and gateway settings are decoded alike however
their texts are put: as objects with members in any order and strangers among them, or as arrays
of their fields. So are the headers inside messages.
-/

namespace KernelHub

open Json (Document)

/-! ## Kernel types -/

namespace Spec

/-- The values of all fields, in their order. -/
def values (s : Spec) : List Json :=
  [.string s.name, .string s.displayName, .string s.language, .object s.metadata]

def defaults : List (Option Json) := [none, none, none, some .empty]

theorem takes (room : Nat) : Document.Takes fields defaults (decode? (room + 2)) where
  length := rfl
  given d d' s h hd := by
    obtain ⟨name, displayName, language, metadata, hs, h1, h2, h3, h4⟩ := decode?_eq_some.1 hd
    obtain ⟨ss, hl, hs', hf⟩ := Document.exists_slots h hs
    match ss, hl with
    | [name', displayName', language', metadata'], _ =>
      obtain ⟨e1, e2, e3, e4, -⟩ := by
        simpa only [Document.filled, defaults, List.zipWith, List.cons.injEq] using hf
      exact decode?_eq_some.2 ⟨_, _, _, _, hs', Document.required_of_or e1 h1,
        Document.required_of_or e2 h2, Document.required_of_or e3 h3,
        Document.defaulted_of_or e4 h4 rfl⟩
  refuses d h := by
    rw [decode?, h]
    rfl

theorem free (room : Nat) :
    Document.Free fields defaults values toJson (decode? (room + 2)) := by
  refine (takes room).free (fun _ => rfl) fun s => ?_
  rw [Document.given?, slots?_toJson]
  by_cases h : s.metadata = []
  · rw [if_pos h, values, h]
    rfl
  · rw [if_neg h]
    rfl

theorem freelyRead : Document.FreelyRead fields defaults values toJson Sound id read? :=
  (free 125).read fun _ hs hb hd => decode?_toJson hs hb hd

end Spec

/-! ## Descriptions of kernels -/

namespace Model

/-- The values of all fields, in their order. -/
def values (m : Model) : List Json :=
  [.string m.id, .string m.name, m.activity,
    (m.executionState.map fun s => Json.string s.word).getD .null, .int m.connections.toNat,
    m.additional.getD .null]

def defaults : List (Option Json) :=
  [none, none, some .null, some .null, some (.int 0), some .null]

theorem takes (room : Nat) : Document.Takes fields defaults (decode? (room + 1)) where
  length := rfl
  given d d' m h hd := by
    obtain ⟨id, name, lastActivity, executionState, connections, additional, hs, h1, h2, h3, h4, h5,
      h6⟩ := decode?_eq_some.1 hd
    obtain ⟨ss, hl, hs', hf⟩ := Document.exists_slots h hs
    match ss, hl with
    | [id', name', lastActivity', executionState', connections', additional'], _ =>
      obtain ⟨e1, e2, e3, e4, e5, e6, -⟩ := by
        simpa only [Document.filled, defaults, List.zipWith, List.cons.injEq] using hf
      exact decode?_eq_some.2 ⟨_, _, _, _, _, _, hs', Document.required_of_or e1 h1,
        Document.required_of_or e2 h2, Document.defaulted_of_or e3 h3 rfl,
        Document.defaulted_of_or e4 h4 rfl, Document.defaulted_of_or e5 h5 (connections_back 0),
        Document.defaulted_of_or e6 h6 rfl⟩
  refuses d h := by
    rw [decode?, h]
    rfl

theorem free (room : Nat) :
    Document.Free fields defaults values toJson (decode? (room + 1)) := by
  refine (takes room).free (fun _ => rfl) fun m => ?_
  rw [Document.given?, slots?_toJson, values]
  rcases m.executionState with _ | s <;> rcases m.additional with _ | v <;> rfl

/-- The part only the host knows about is JSON. -/
def Sound (m : Model) : Prop := ∀ v ∈ m.additional, v.Normal

theorem freelyRead : Document.FreelyRead fields defaults values toJson Sound settled read? := by
  refine (free 126).read fun m hs hb hd => ?_
  have hm : ∀ v ∈ m.additional, ("additional", v) ∈ member "additional" m.additional :=
    fun v hv => by
      rw [Option.mem_def.1 hv]
      exact List.mem_singleton_self _
  exact decode?_toJson hs (fun v hv => hb.member (List.mem_append_right _ (hm v hv)))
    fun v hv => Json.depth_member hd (List.mem_append_right _ (hm v hv))

end Model

/-! ## Messages -/

namespace Header

/-- The values of all fields, in their order. -/
def values (h : Header) : List Json :=
  [.string h.id, .string h.type, .string h.session, .string h.username, .string h.date,
    .string h.version]

def defaults : List (Option Json) :=
  [none, none, some (.string ""), some (.string ""), some (.string ""), some (.string "")]

theorem takes (room : Nat) : Document.Takes fields defaults (decode? room) where
  length := rfl
  given d d' a h hd := by
    obtain ⟨hr, id, type, session, username, date, version, hs, h1, h2, h3, h4, h5, h6⟩ :=
      decode?_eq_some.1 hd
    obtain ⟨ss, hl, hs', hf⟩ := Document.exists_slots h hs
    match ss, hl with
    | [id', type', session', username', date', version'], _ =>
      obtain ⟨e1, e2, e3, e4, e5, e6, -⟩ := by
        simpa only [Document.filled, defaults, List.zipWith, List.cons.injEq] using hf
      exact decode?_eq_some.2 ⟨hr, _, _, _, _, _, _, hs', Document.required_of_or e1 h1,
        Document.required_of_or e2 h2, Document.defaulted_of_or e3 h3 rfl,
        Document.defaulted_of_or e4 h4 rfl, Document.defaulted_of_or e5 h5 rfl,
        Document.defaulted_of_or e6 h6 rfl⟩
  refuses d h := by
    rw [decode?, h]
    cases room <;> rfl

theorem free (room : Nat) : Document.Free fields defaults values toJson (decode? room) :=
  (takes room).free (fun _ => rfl) fun _ => rfl

end Header

namespace Message

/-- The values of all fields, in their order. -/
def values (m : Message) : List Json :=
  [.string m.channel, m.header.toJson, m.parent, .object m.metadata, m.content, .array m.buffers]

def defaults : List (Option Json) :=
  [some (.string ""), none, some .empty, some .empty, some .null, some (.array [])]

theorem takes (room : Nat) : Document.Takes fields defaults (decode? (room + 2)) where
  length := rfl
  given d d' m h hd := by
    obtain ⟨channel, header, parent, metadata, content, buffers, hs, h1, h2, h3, h4, h5, h6⟩ :=
      decode?_eq_some.1 hd
    obtain ⟨ss, hl, hs', hf⟩ := Document.exists_slots h hs
    match ss, hl with
    | [channel', header', parent', metadata', content', buffers'], _ =>
      obtain ⟨e1, e2, e3, e4, e5, e6, -⟩ := by
        simpa only [Document.filled, defaults, List.zipWith, List.cons.injEq] using hf
      exact decode?_eq_some.2 ⟨_, _, _, _, _, _, hs', Document.defaulted_of_or e1 h1 rfl,
        Document.required_of_or e2 h2, Document.defaulted_of_or e3 h3 rfl,
        Document.defaulted_of_or e4 h4 rfl, Document.defaulted_of_or e5 h5 rfl,
        Document.defaulted_of_or e6 h6 rfl⟩
  refuses d h := by
    rw [decode?, h]
    rfl

theorem free (room : Nat) : Document.Free fields defaults values toJson (decode? (room + 2)) := by
  refine (takes room).free (fun _ => rfl) fun m => ?_
  rw [Document.given?, slots?_toJson, values]
  by_cases h : m.buffers = []
  · rw [if_pos h, h]
    rfl
  · rw [if_neg h]
    rfl

theorem freelyRead : Document.FreelyRead fields defaults values toJson Sound id read? :=
  (free 125).read fun _ hs hb hd => decode?_toJson hs hb hd

/-! ### The header in its place -/

/-- A message around its header, which is a member of an object or the second item of an array. -/
inductive Place : (Document → Document) → Prop
  | member (ms ms' : List (Option String × Document)) :
    Place fun h => .object (ms ++ (some "header", h) :: ms')
  | item (channel : Document) (rest : List Document) : Place fun h => .array (channel :: h :: rest)

variable {room : Nat} {p : Document → Document} {h h' : Document}

/-- Around a header there is either nothing to decode, or everything but the header. -/
theorem Place.slots? (hp : Place p) : (∀ h, (p h).slots? fields = none) ∨
    ∃ channel rest, ∀ h, (p h).slots? fields = some (channel :: some h :: rest) := by
  cases hp with
  | member ms ms' =>
    have hm (h : Document) := @Document.slots?_member fields "header" ms ms' h
    by_cases hc : (ms ++ ms').all (·.1.isSome) ∧
        ∀ j ∈ fields, Document.times j (ms ++ ms') + (if j = "header" then 1 else 0) ≤ 1
    · simp only [if_pos hc] at hm
      simp only [fields, List.map_cons, List.map_nil, String.reduceEq, if_true, if_false] at hm
      exact .inr ⟨_, _, hm⟩
    · simp only [if_neg hc] at hm
      exact .inl hm
  | item channel rest =>
    have hi (h : Document) := Document.slots?_array fields (channel :: h :: rest)
    by_cases hl : rest.length + 2 ≤ fields.length
    · exact .inr ⟨some channel,
        rest.map some ++ List.replicate (fields.length - (rest.length + 2)) none,
        fun h => (hi h).trans (if_pos hl)⟩
    · exact .inl fun h => (hi h).trans (if_neg hl)

theorem decode?_place (hp : Place p)
    (hh : Header.decode? (room + 1) h = Header.decode? (room + 1) h') :
    decode? (room + 2) (p h) = decode? (room + 2) (p h') := by
  rcases hp.slots? with hn | ⟨channel, rest, hs⟩
  · rw [(takes room).refuses _ (hn h), (takes room).refuses _ (hn h')]
  · have step {h h' : Document} (hh : Header.decode? (room + 1) h = Header.decode? (room + 1) h')
        {m : Message} (hm : decode? (room + 2) (p h) = some m) :
        decode? (room + 2) (p h') = some m := by
      obtain ⟨_, _, _, _, _, _, he, h1, h2, h3, h4, h5, h6⟩ := decode?_eq_some.1 hm
      rw [hs h] at he
      cases he
      exact decode?_eq_some.2 ⟨_, _, _, _, _, _, hs h', h1, hh.symm.trans h2, h3, h4, h5, h6⟩
    exact Option.ext fun m => ⟨step hh, step hh.symm⟩

/-- A message is not decoded without its header. -/
theorem decode?_place_none (hp : Place p) (hh : Header.decode? (room + 1) h = none) :
    decode? (room + 2) (p h) = none := by
  rcases hp.slots? with hn | ⟨channel, rest, hs⟩
  · exact (takes room).refuses _ (hn h)
  · refine Option.eq_none_iff_forall_ne_some.2 fun m hm => ?_
    obtain ⟨_, _, _, _, _, _, he, -, h2, -⟩ := decode?_eq_some.1 hm
    rw [hs h] at he
    cases he
    cases hh.symm.trans h2

end Message

/-! ## Gateway settings -/

namespace Gateway.Config

/-- What decoding takes from each field. -/
theorem decode?_eq_some {c : Config} {d : Document} : decode? d = some c ↔
    ∃ url channelUrl token tokenVariable headers requestTimeout connectTimeout,
      d.slots? fields = some [url, channelUrl, token, tokenVariable, headers, requestTimeout,
        connectTimeout] ∧
      Document.required Document.string? url = some c.url ∧
      Document.defaulted none (Document.nullable Document.string?) channelUrl =
        some c.channelUrl ∧
      Document.defaulted none (Document.nullable Document.string?) token = some c.token ∧
      Document.defaulted defaultTokenVariable Document.string? tokenVariable =
        some c.tokenVariable ∧
      Document.defaulted [] Document.stringsAt? headers = some c.headers ∧
      Document.defaulted 42 (Document.natBelow? UInt64.size) requestTimeout =
        some c.requestTimeout ∧
      Document.defaulted 40 (Document.natBelow? UInt64.size) connectTimeout =
        some c.connectTimeout := by
  rw [decode?]
  simp only [Option.bind_eq_bind]
  rw [Option.bind_eq_some_iff]
  constructor
  · rintro ⟨slots, hs, h⟩
    split at h
    · simp only [Option.bind_eq_some_iff, Option.pure_def, Option.some.injEq] at h
      obtain ⟨_, h1, _, h2, _, h3, _, h4, _, h5, _, h6, _, h7, rfl⟩ := h
      exact ⟨_, _, _, _, _, _, _, hs, h1, h2, h3, h4, h5, h6, h7⟩
    · cases h
  · rintro ⟨_, _, _, _, _, _, _, hs, h1, h2, h3, h4, h5, h6, h7⟩
    exact ⟨_, hs, by simp [h1, h2, h3, h4, h5, h6, h7]⟩

/-- What is written for the headers. -/
def headersJson (c : Config) : Json := .object (c.headers.map fun h => (h.1, .string h.2))

theorem slots?_toJson (c : Config) : c.toJson.document.slots? fields =
    some [some (.string (some c.url)), c.channelUrl.map fun s => .string (some s),
      c.token.map fun s => .string (some s), some (.string (some c.tokenVariable)),
      if c.headers = [] then none else some c.headersJson.document,
      some (.number (Document.intNumeral c.requestTimeout)),
      some (.number (Document.intNumeral c.connectTimeout))] := by
  rw [toJson, Json.slots?_document]
  · rcases c.channelUrl with _ | u <;> rcases c.token with _ | t <;> by_cases h : c.headers = [] <;>
      simp [fields, optionalString, Entries.find?, h, Json.document, headersJson]
  · rcases c.channelUrl with _ | u <;> rcases c.token with _ | t <;> by_cases h : c.headers = [] <;>
      simp [optionalString, h]

/-- The values of all fields, in their order. -/
def values (c : Config) : List Json :=
  [.string c.url, (c.channelUrl.map Json.string).getD .null, (c.token.map Json.string).getD .null,
    .string c.tokenVariable, c.headersJson, .int c.requestTimeout, .int c.connectTimeout]

def defaults : List (Option Json) :=
  [none, some .null, some .null, some (.string defaultTokenVariable), some .empty, some (.int 42),
    some (.int 40)]

theorem natBelow?_document {n : Nat} (hn : n < UInt64.size) :
    Document.natBelow? UInt64.size (Json.int n).document = some n := by
  rw [Json.document, Document.natBelow?, Json.value?_int ⟨by omega, Int.ofNat_lt.2 hn⟩]
  exact if_pos ⟨Int.natCast_nonneg n, hn⟩

theorem takes : Document.Takes fields defaults decode? where
  length := rfl
  given d d' c h hd := by
    obtain ⟨url, channelUrl, token, tokenVariable, headers, requestTimeout, connectTimeout, hs, h1,
      h2, h3, h4, h5, h6, h7⟩ := decode?_eq_some.1 hd
    obtain ⟨ss, hl, hs', hf⟩ := Document.exists_slots h hs
    match ss, hl with
    | [url', channelUrl', token', tokenVariable', headers', requestTimeout', connectTimeout'], _ =>
      obtain ⟨e1, e2, e3, e4, e5, e6, e7, -⟩ := by
        simpa only [Document.filled, defaults, List.zipWith, List.cons.injEq] using hf
      exact decode?_eq_some.2 ⟨_, _, _, _, _, _, _, hs', Document.required_of_or e1 h1,
        Document.defaulted_of_or e2 h2 rfl, Document.defaulted_of_or e3 h3 rfl,
        Document.defaulted_of_or e4 h4 rfl, Document.defaulted_of_or e5 h5 rfl,
        Document.defaulted_of_or e6 h6 (natBelow?_document (by decide)),
        Document.defaulted_of_or e7 h7 (natBelow?_document (by decide))⟩
  refuses d h := by
    rw [decode?, h]
    rfl

theorem free : Document.Free fields defaults values toJson decode? := by
  refine takes.free (fun _ => rfl) fun c => ?_
  rw [Document.given?, slots?_toJson, values, headersJson]
  rcases c.channelUrl with _ | u <;> rcases c.token with _ | t <;> by_cases h : c.headers = [] <;>
    simp only [h, if_true, if_false] <;> rfl

/-- Headers stand in order, and timeouts are whole numbers of 64 bits. -/
structure Sound (c : Config) : Prop where
  headers : c.headers.Ordered
  requestTimeout : c.requestTimeout < UInt64.size
  connectTimeout : c.connectTimeout < UInt64.size

theorem stringsAt?_document {es : Entries String} (h : es.Ordered) :
    Document.stringsAt? (Json.object (es.map fun e => (e.1, .string e.2))).document = some es := by
  have hm (es : Entries String) :
      (Json.documentMembers (es.map fun e => (e.1, .string e.2))).mapM
        (fun m => do return (← m.1, ← m.2.string?)) = some es := by
    induction es with
    | nil => rfl
    | cons e es ih =>
      rw [List.map_cons, Json.documentMembers, List.mapM_cons, ih]
      rfl
  rw [Json.document, Document.stringsAt?]
  change ((Json.documentMembers _).mapM _ >>= _) = _
  rw [hm]
  exact congrArg some (Entries.ofList_of_ordered h)

theorem optional_back (s : Option String) :
    Document.defaulted none (Document.nullable Document.string?)
      (s.map fun s => .string (some s)) = some s := by
  cases s <;> rfl

theorem decode?_toJson {c : Config} (hs : c.Sound) : decode? c.toJson.document = some c := by
  refine decode?_eq_some.2 ⟨_, _, _, _, _, _, _, slots?_toJson c, rfl, optional_back _,
    optional_back _, rfl, ?_, natBelow?_document hs.requestTimeout,
    natBelow?_document hs.connectTimeout⟩
  split
  · next h => rw [h]; rfl
  · exact stringsAt?_document hs.headers

theorem freelyRead : Document.FreelyRead fields defaults values toJson Sound id read? :=
  free.read fun _ hs _ _ => decode?_toJson hs

end Gateway.Config

/-! ## Texts -/

/-- However the text of a record is written, and that of a header inside a message, it is read
alike. -/
theorem texts_free :
    Document.FreelyRead Spec.fields Spec.defaults Spec.values Spec.toJson Spec.Sound id
      Spec.read? ∧
    Document.FreelyRead Model.fields Model.defaults Model.values Model.toJson Model.Sound
      Model.settled Model.read? ∧
    Document.FreelyRead Message.fields Message.defaults Message.values Message.toJson
      Message.Sound id Message.read? ∧
    (∀ place, Message.Place place → Document.FreeText place Header.fields Header.defaults
      Header.values Header.toJson Message.read?) ∧
    Document.FreelyRead Gateway.Config.fields Gateway.Config.defaults Gateway.Config.values
      Gateway.Config.toJson Gateway.Config.Sound id Gateway.Config.read? :=
  ⟨Spec.freelyRead, Model.freelyRead, Message.freelyRead,
    fun _ hp => (Header.free 126).text (fun _ _ => Message.decode?_place hp)
      fun _ => Message.decode?_place_none hp,
    Gateway.Config.freelyRead⟩

/-- A kernel type with its members in another order and strangers among them. -/
def shuffledType : Json := .object [("language", .string "c"), ("x", .array []),
  ("name", .string "a"), ("x", .null), ("display_name", .string "b")]

/-- A message with nothing but a header, and that as an array of the fields that must be there. -/
def briefRequest : Message := { header := { id := "1", type := "kernel_info_request" } }

def briefItems : Json := .object [("channel", .string ""),
  ("header", .array [.string "1", .string "kernel_info_request"]), ("parent_header", .empty),
  ("metadata", .empty), ("content", .null)]

/-- The kernel type is read from the shuffled object, and from the array without the last field;
so is the message with an array for its header. -/
theorem texts_free_shuffled : Spec.read? shuffledType.text = some bareType ∧
    Spec.read? bareItems.text = some bareType ∧
    Message.read? briefItems.text = some briefRequest := by
  obtain ⟨hspec, -, hmessage, hplace, -⟩ := texts_free
  have hw (v : Json) : Document.Written v.document v.text.toList :=
    Document.read?_eq_some.1 (Json.read?_text v)
  have htype : Spec.read? bareType.toJson.text = some bareType :=
    hspec.written bareType ⟨List.Pairwise.nil, trivial⟩ ⟨trivial, trivial, trivial, trivial⟩
      (by decide) _ (hw _)
  have hrequest : Message.read? briefRequest.toJson.text = some briefRequest := by
    have hempty : (Json.object []).Normal := ⟨List.Pairwise.nil, trivial⟩
    refine hmessage.written briefRequest ⟨hempty, hempty, trivial, trivial⟩ ?_ (by decide) _ (hw _)
    simp [briefRequest, Message.toJson, Header.toJson, Json.empty, Json.ReadsBack,
      Json.MembersReadBack]
  let field (k v : String) : Option String × Document := (some k, .string (some v))
  have hfirst : Document.Respelled Spec.fields
      (.object [field "language" "c", field "name" "a", (some "x", .null),
        field "display_name" "b"])
      shuffledType.document := .foreign [_] [_, _, _] "x" (.array []) (by decide)
  have hsecond : Document.Respelled Spec.fields
      (.object [field "language" "c", field "name" "a", field "display_name" "b"])
      (.object [field "language" "c", field "name" "a", (some "x", .null),
        field "display_name" "b"]) := .foreign [_, _] [_] "x" .null (by decide)
  have horder : Document.Respelled Spec.fields bareType.toJson.document
      (.object [field "language" "c", field "name" "a", field "display_name" "b"]) :=
    .order [_, _, _] [_, _, _] (List.Perm.trans (.cons _ (.swap ..)) (.swap ..))
  refine ⟨?_, ?_, ?_⟩
  · have hs := Document.Respelled.trans _ _ _ horder (.trans _ _ _ hsecond hfirst)
    exact (hspec.respelled _ _ hs bareType.toJson.text _ (hw _) (hw _)).symm.trans htype
  · exact (hspec.listed bareType 3 rfl bareItems.text _ (hw _) (hw _)).trans htype
  · have hheader := hplace _ (.member [field "channel" ""] [(some "parent_header", .object []),
      (some "metadata", .object []), (some "content", .null)])
    exact (hheader.listed briefRequest.header 2 rfl _ _ (hw briefItems)
      (hw briefRequest.toJson)).trans hrequest

end KernelHub
