import KernelHub.Message
import KernelHub.Spec

/-
A kernel that lives in memory. It runs no code: it answers every request with a
fixed reply, and counts what it is asked to execute.
-/

namespace KernelHub.Memory

/-- A kernel in memory. -/
structure Kernel where
  name : String
  language : String
  process : UInt32
  state : ExecutionState := .idle
  lastActivity : Instant
  connections : UInt32 := 0
  executions : UInt32 := 0
  /-- Is a shutdown, interrupt or restart under way? -/
  busy : Bool := false
  received : List Message := []
deriving Inhabited

namespace Kernel

/-- Notes a new state and the time. -/
def touch (k : Kernel) (state : ExecutionState) (now : Instant) : Kernel :=
  { k with state, lastActivity := now }

/-- What a request asks for: its type without the ending that marks requests. -/
def requestBase? (type : String) : Option String :=
  let ending := "_request".toList
  let cs := type.toList
  if ending.isSuffixOf cs then some (String.ofList (cs.take (cs.length - ending.length))) else none

/-- What makes up to three messages new. -/
structure Stamps where
  first : Stamp
  second : Stamp
  third : Stamp
deriving Inhabited

/-- The content of a reply. -/
def replyContent (k : Kernel) (base : String) : Json :=
  if base = "kernel_info" then
    .object [("implementation", .string "memory"),
      ("language_info", .object [("name", .string k.language)]),
      ("protocol_version", .string Header.protocolVersion), ("status", .string "ok")]
  else .object [("status", .string "ok")]

/-- A broadcast that a request has led to. -/
def statusFor (st : Stamp) (session : SessionId) (state : ExecutionState) (request : Message) :
    Message :=
  { Message.status st session state with parent := request.asParent }

/-- What the kernel answers to a message on a channel of a session, and the kernel
after it. Only requests are answered; an execution is counted and framed by two
broadcasts. -/
def answer (k : Kernel) (st : Stamps) (session : SessionId) (m : Message) : Kernel × List Message :=
  match requestBase? m.header.type with
  | none => (k, [])
  | some base =>
    if base = "execute" then
      let count := k.executions + 1
      let content := .object [("execution_count", .int count.toNat), ("status", .string "ok")]
      ({ k with executions := count }.touch .idle st.third.time,
        [statusFor st.first session .busy m, Message.reply st.second m (base ++ "_reply") content,
          statusFor st.third session .idle m])
    else (k, [Message.reply st.first m (base ++ "_reply") (k.replyContent base)])

/-- What the kernel says to a new connection. -/
def greeting (st : Stamps) (session : SessionId) : List Message :=
  [Message.status st.first session .starting, Message.status st.second session .idle]

/-- The kernel as its host reports it. Only the gateway repeats itself in the
additional part; the host at home tells the process. -/
def model (k : Kernel) (side : Side) (id : String) : Model where
  id := id
  name := k.name
  lastActivity := some k.lastActivity
  executionState := some k.state
  connections := k.connections
  additional := some <|
    match side with
    | .home => .object [("pid", .int k.process.toNat)]
    | .remote =>
      .object [("connections", .int k.connections.toNat), ("execution_state", .string k.state.word),
        ("id", .string id), ("name", .string k.name)]

end Kernel

end KernelHub.Memory
