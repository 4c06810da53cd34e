import KernelHub.Config
import KernelHub.Gateway.Headers
import KernelHub.Json.Printer
import KernelHub.Json.Record
import KernelHub.Toml.Reader

/-
How to reach a gateway: where it is, who asks, and how long to wait.
-/

namespace KernelHub.Gateway

open Json (Document)

/-- The variable that holds the token unless another one is named. -/
def defaultTokenVariable : String := "KERNELMIX_GATEWAY_AUTH_TOKEN"

/-- How to reach a gateway. Timeouts are in seconds. -/
structure Config where
  url : String
  /-- Where channels connect, if not at the same place. -/
  channelUrl : Option String := none
  token : Option String := none
  /-- The variable that holds the token when none is set here. -/
  tokenVariable : String := defaultTokenVariable
  headers : Entries String := []
  requestTimeout : Nat := 42
  connectTimeout : Nat := 40
deriving DecidableEq, Repr, Inhabited

namespace Config

/-- Without the slashes at the end. -/
def trimSlashes (s : String) : String :=
  String.ofList ((s.toList.reverse.dropWhile (· = '/')).reverse)

/-- The text after a lead, if it starts so. -/
def after? (lead s : String) : Option String :=
  if lead.toList.isPrefixOf s.toList then some (String.ofList (s.toList.drop lead.length)) else none

/-- The address of the gateway. -/
def httpBase (c : Config) : String := trimSlashes c.url

/-- The address that channels start from: the one that is set, or that of the gateway
with the scheme for channels. -/
def channelBase (c : Config) : String :=
  match c.channelUrl with
  | some u => trimSlashes u
  | none =>
    match after? "https://" c.httpBase, after? "http://" c.httpBase with
    | some rest, _ => "wss://" ++ rest
    | none, some rest => "ws://" ++ rest
    | none, none => c.httpBase

/-- The token: the one that is set, or that of the environment unless it is empty. -/
def resolvedToken (c : Config) (env : Environment) : Option String :=
  match c.token with
  | some t => some t
  | none => Environment.value? env c.tokenVariable

/-- The headers of every request: who asks first, then the configured ones. -/
def requestHeaders (c : Config) (env : Environment) : Headers :=
  match c.resolvedToken env with
  | some t => ("authorization", "token " ++ t) :: c.headers
  | none => c.headers

def withHeader (c : Config) (name value : String) : Config :=
  { c with headers := Entries.insert name value c.headers }

/-! ## JSON -/

def optionalString (k : String) : Option String → List (String × Json)
  | some s => [(k, .string s)]
  | none => []

def toJson (c : Config) : Json :=
  .object ([("url", .string c.url)] ++ optionalString "ws_url" c.channelUrl ++
    optionalString "auth_token" c.token ++ [("auth_token_env", .string c.tokenVariable)] ++
    (if c.headers = [] then []
      else [("headers", .object (c.headers.map fun h => (h.1, .string h.2)))]) ++
    [("request_timeout_secs", .int c.requestTimeout),
      ("connect_timeout_secs", .int c.connectTimeout)])

def fields : List String :=
  ["url", "ws_url", "auth_token", "auth_token_env", "headers", "request_timeout_secs",
    "connect_timeout_secs"]

/-- Decodes a document. -/
def decode? (d : Document) : Option Config := do
  let optional := Document.defaulted none (Document.nullable Document.string?)
  match ← d.slots? fields with
  | [url, channelUrl, token, tokenVariable, headers, requestTimeout, connectTimeout] =>
    return {
      url := ← Document.required Document.string? url
      channelUrl := ← optional channelUrl
      token := ← optional token
      tokenVariable := ← Document.defaulted defaultTokenVariable Document.string? tokenVariable
      headers := ← Document.defaulted [] Document.stringsAt? headers
      requestTimeout := ← Document.defaulted 42 (Document.natBelow? UInt64.size) requestTimeout
      connectTimeout := ← Document.defaulted 40 (Document.natBelow? UInt64.size) connectTimeout }
  | _ => none

/-- Decodes a text. -/
def read? (text : String) : Option Config := (Document.read? text).bind decode?

def text (c : Config) : String := c.toJson.text

/-! ## TOML -/

/-- The settings in a table. -/
def ofTable? (t : Toml.Table) : Option Config := do
  let optional := t.defaulted none fun v => (Toml.Value.string? v).map some
  return {
    url := ← t.required Toml.Value.string? "url"
    channelUrl := ← optional "ws_url"
    token := ← optional "auth_token"
    tokenVariable := ← t.defaulted defaultTokenVariable Toml.Value.string? "auth_token_env"
    headers := ← t.defaulted [] Toml.Value.strings? "headers"
    requestTimeout := ← t.defaulted 42 Toml.Value.nat? "request_timeout_secs"
    connectTimeout := ← t.defaulted 40 Toml.Value.nat? "connect_timeout_secs" }

/-- Decodes a TOML text. -/
def readToml? (text : String) : Option Config := (Toml.read? text).bind ofTable?

end Config

end KernelHub.Gateway
