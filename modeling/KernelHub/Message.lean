import KernelHub.Ids
import KernelHub.Model

/-
Messages between clients and kernels. Of a message this library reads only the
type in its header and the execution state in its content; the rest passes
through as it is.
-/

namespace KernelHub

open Json (Document)

/-- What makes a new message unlike all others: a fresh id and the time. -/
structure Stamp where
  id : Uuid
  time : Instant
deriving Inhabited

/-- The header of a message. The date is text, so that foreign forms survive. -/
structure Header where
  id : String
  type : String
  session : String := ""
  username : String := ""
  date : String := ""
  version : String := ""
deriving DecidableEq, Repr, Inhabited

namespace Header

/-- The protocol version on messages made here. -/
def protocolVersion : String := "5.3"

/-- A new header. -/
def make (st : Stamp) (type session : String) : Header where
  id := toString st.id
  type := type
  session := session
  date := st.time.stamp
  version := protocolVersion

def toJson (h : Header) : Json :=
  .object [("msg_id", .string h.id), ("msg_type", .string h.type), ("session", .string h.session),
    ("username", .string h.username), ("date", .string h.date), ("version", .string h.version)]

def fields : List String := ["msg_id", "msg_type", "session", "username", "date", "version"]

/-- Decodes a document that may nest `room` deep. -/
def decode? (room : Nat) (d : Document) : Option Header := do
  if room = 0 then none
  match ← d.slots? fields with
  | [id, type, session, username, date, version] =>
    return {
      id := ← Document.required Document.string? id
      type := ← Document.required Document.string? type
      session := ← Document.defaulted "" Document.string? session
      username := ← Document.defaulted "" Document.string? username
      date := ← Document.defaulted "" Document.string? date
      version := ← Document.defaulted "" Document.string? version }
  | _ => none

end Header

/-- A message on one of a kernel's channels. -/
structure Message where
  channel : String := ""
  header : Header
  /-- The header of the request that is answered; empty if there is none. -/
  parent : Json := .empty
  metadata : Entries Json := []
  content : Json := .null
  buffers : List Json := []

namespace Message

instance : Inhabited Message := ⟨{ header := default }⟩

/-- The channel of status broadcasts. -/
def broadcast : String := "iopub"

/-- A new message that answers nothing. -/
def make (st : Stamp) (channel type : String) (session : SessionId) (content : Json) : Message where
  channel := channel
  header := .make st type (toString session)
  content := content

/-- A status broadcast. -/
def status (st : Stamp) (session : SessionId) (state : ExecutionState) : Message :=
  make st broadcast "status" session (.object [("execution_state", .string state.word)])

/-- The header as the parent of an answer. -/
def asParent (m : Message) : Json := m.header.toJson.sorted

/-- An answer on the channel of the request, in its session and to its user. -/
def reply (st : Stamp) (request : Message) (type : String) (content : Json) : Message where
  channel := request.channel
  header := { Header.make st type request.header.session with username := request.header.username }
  parent := request.asParent
  content := content

/-- The execution state that the content reports, if it reports one. -/
def executionState? (m : Message) : Option ExecutionState :=
  ((m.content.get? "execution_state").bind Json.string?).map ExecutionState.ofWord

/-- Does the content announce that the kernel is starting? -/
def reportsStarting (m : Message) : Bool := m.executionState? = some .starting

/-! ## JSON -/

def toJson (m : Message) : Json :=
  .object ([("channel", .string m.channel), ("header", m.header.toJson),
    ("parent_header", m.parent), ("metadata", .object m.metadata), ("content", m.content)] ++
    if m.buffers = [] then [] else [("buffers", .array m.buffers)])

def fields : List String :=
  ["channel", "header", "parent_header", "metadata", "content", "buffers"]

/-- Decodes a document that may nest `room` deep. -/
def decode? (room : Nat) (d : Document) : Option Message := do
  if room = 0 then none
  match ← d.slots? fields with
  | [channel, header, parent, metadata, content, buffers] =>
    return {
      channel := ← Document.defaulted "" Document.string? channel
      header := ← Document.required (Header.decode? (room - 1)) header
      parent := ← Document.defaulted .empty (Document.value? (room - 1)) parent
      metadata := ← Document.defaulted [] (Document.membersAt? (room - 1)) metadata
      content := ← Document.defaulted .null (Document.value? (room - 1)) content
      buffers := ← Document.defaulted [] (Document.itemsAt? (room - 1)) buffers }
  | _ => none

/-- Decodes a text. -/
def read? (text : String) : Option Message := do
  decode? Document.maxDepth (← Document.read? text)

def text (m : Message) : String := m.toJson.text

end Message

end KernelHub
