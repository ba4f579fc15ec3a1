import Urp.AiGateway
import Urp.Authorization

/-!
# The servers of the AI gateway

The service runtime and the FastAPI application each authorize a request for
the tenant that it names, and then run a handler under the tenant that its
options or its principal give.
-/

namespace Python.Value

/-- `left or right`. -/
def orElse (left right : Value) : Value :=
  if left.isTruthy then left else right

/-- An optional string as a value. -/
def ofText : Option String → Value
  | Option.none => .none
  | some text => .str text

end Python.Value

namespace Urp

open Python

structure HttpRequest where
  method : String
  path : String
  /-- The decoded pairs of the query string. -/
  query : List (String × String)
  headers : List (String × String)
  /-- What the connection gives after the headers. -/
  body : Bytes

/-- `headers.get(name)` for a name in lower case. -/
def HttpRequest.header (request : HttpRequest) (name : String) :
    Option String :=
  (request.headers.find? fun row => row.1.toLower = name).map Prod.snd

/-- What both servers are created with. -/
structure ServerConfig where
  host : Host
  authenticator : ApiKeyAuthenticator
  authorizer : LocalAuthorizer := .create
  /-- The environment variable `URP_MAX_REQUEST_BYTES`. -/
  maxRequestBytes : Option String := none
  /-- The text of a JSON body, in the encoding that its first bytes show. -/
  decodeBody : Bytes → Option (List Char)

namespace ServerConfig

variable (config : ServerConfig)

def maximum : Except PyException Int :=
  match config.maxRequestBytes with
  | none => .ok (16 * 1024 * 1024)
  | some text => intOf config.host (.str text)

def requestTooLarge (maximum : Int) : PyException :=
  .urp {
    code := "request_too_large"
    message := "request exceeds " ++ String.ofList (intText maximum) ++
      " bytes" }

/-- The principal of a request's key. -/
def principal (request : HttpRequest) : Except PyException Principal := do
  let token ← bearerToken (request.header "authorization")
    (request.header "x-api-key")
  config.authenticator.authenticate token

/-- `json.loads` of a body. -/
def loads (body : Bytes) : Except PyException Value :=
  match (config.decodeBody body).bind Json.loads with
  | none => .error .libraryValueError
  | some value => .ok value

end ServerConfig

/-- `payload.get("urp")` where it is a dictionary. -/
def urpOptions (payload : Object) : Object :=
  match payload.get "urp" with
  | .dict entries => .ofList entries
  | _ => ∅

/-- `payload.get("tenant") or urp.get("tenant") or tenant`. -/
def namedTenant (payload : Object) (tenant : Option String) : Value :=
  (payload.get "tenant").orElse
    (((urpOptions payload).get "tenant").orElse (Value.ofText tenant))

/-- `str(tenant) if tenant else None`. -/
def requiredTenant (host : Host) (tenant : Value) : Option String :=
  if tenant.isTruthy then some (host.str tenant) else none

/-! ## The endpoints -/

inductive Handler where
  | handleChatCompletion
  | handleCompletion
  | handleEmbeddings
  deriving DecidableEq

/-- A call of a handler, with the values of its arguments. -/
structure HandlerCall where
  handler : Handler
  session : Session
  request : Object
  tenant : Value
  nameSpace : Value
  mode : Value

/-- The call of the chat gateway, where the arguments have the types that it
declares. -/
def HandlerCall.chatCall? (call : HandlerCall) : Option ChatCall :=
  match call.tenant, call.nameSpace with
  | .str tenant, .str nameSpace =>
      some {
        session := call.session
        request := call.request
        tenant, nameSpace
        requestedMode := call.mode.string? }
  | _, _ => none

/-- The body of each of the three endpoints. -/
def endpoint (handler : Handler) (session : Session) (payload : Object) :
    Except PyException HandlerCall :=
  match payload.getD "urp" (.dict []) with
  | .dict entries =>
      let urp := Object.ofList entries
      .ok {
        handler, session
        request := payload
        tenant := (urp.get "tenant").orElse
          ((Value.ofText session.currentTenant).orElse (.str "local"))
        nameSpace := urp.getD "namespace" (.str "default")
        mode := urp.get "mode" }
  | _ => .error .attributeError

def chat := endpoint .handleChatCompletion

def completions := endpoint .handleCompletion

def embeddings := endpoint .handleEmbeddings

/-- The endpoint of a path. -/
def endpointAt (path : String) :
    Option (Session → Object → Except PyException HandlerCall) :=
  if path = "/v1/chat/completions" then some chat
  else if path = "/v1/completions" then some completions
  else if path = "/v1/embeddings" then some embeddings
  else none

/-- A handler that ran, and the tenant that was passed to
`authorizer.require` before. -/
structure Handled where
  required : Option String
  call : HandlerCall

/-- The endpoint of the path, if it has one, under the principal's session. -/
def runEndpoint (path : String) (session : Session)
    (required : Option String) (payload : Value) :
    Except PyException (Option Handled) :=
  match endpointAt path with
  | none => .ok none
  | some run =>
      match payload with
      | .dict entries => do
          let call ← run session (.ofList entries)
          .ok (some { required, call })
      | _ => .error .attributeError

/-! ## The service runtime -/

structure ServiceServer where
  name : String
  config : ServerConfig

namespace ServiceServer

variable (server : ServiceServer)

/-- `_payload`. -/
def payload (request : HttpRequest) : Except PyException Value := do
  let length ← intOf server.config.host
    (.str ((request.header "content-length").getD "0"))
  let maximum ← server.config.maximum
  if length < 0 ∨ maximum < length then
    .error (ServerConfig.requestTooLarge maximum)
  else
    let raw := if length = 0 then utf8 "\x7b\x7d".toList
      else request.body.take length.toNat
    server.config.loads (if raw = [] then utf8 "\x7b\x7d".toList else raw)

/-- The tenant that a payload leads `_authenticate` to require. -/
def payloadTenant (payload : Value) (tenant : Option String) :
    Except PyException Value :=
  if payload.isTruthy then
    match payload with
    | .dict entries => .ok (namedTenant (.ofList entries) tenant)
    | _ => .error .attributeError
  else .ok (Value.ofText tenant)

/-- `_authenticate`, with the tenant that it passes to `require`. -/
def authenticate (path method : String) (request : HttpRequest)
    (payload : Value := .none)
    (query : Dict String (List String) := ∅) :
    Except PyException (Principal × Option String) :=
  if path ∈ ["/healthz", "/readyz"] then
    .ok (⟨"health-check", "*", []⟩, none)
  else do
    let principal ← server.config.principal request
    let header := request.header "x-urp-tenant"
    let first := ((query.lookup "tenant").bind List.head?).filter (· ≠ "")
    let named ← payloadTenant payload (first.or header)
    let required := requiredTenant server.config.host named
    server.config.authorizer.require principal (actionForRequest method path)
      required
    .ok (principal, required)

/-- `do_POST`, as far as it runs a handler of the gateway. -/
def doPost (request : HttpRequest) : Except PyException (Option Handled) := do
  let payload ← server.payload request
  let (principal, required) ←
    server.authenticate request.path "POST" request payload
  if server.name = "gateway-ai" then
    runEndpoint request.path principal.session required payload
  else .ok none

def serve (request : HttpRequest) : Except PyException (Option Handled) :=
  if request.method = "POST" then server.doPost request else .ok none

end ServiceServer

/-! ## The FastAPI application -/

structure ApiServer where
  config : ServerConfig
  /-- Whether FastAPI takes a request's JSON body for its route's payload. -/
  accepts : HttpRequest → Bool

namespace ApiServer

variable (server : ApiServer)

/-- `call_next`: FastAPI gives a JSON object to the route of a path. -/
def callNext (request : HttpRequest) (session : Session)
    (required : Option String) : Except PyException (Option Handled) :=
  if request.method = "POST" ∧ request.body ≠ [] ∧ server.accepts request then
    match server.config.loads request.body with
    | .ok (.dict entries) =>
        runEndpoint request.path session required (.dict entries)
    | _ => .ok none
  else .ok none

/-- The tenant that the request's body leads the middleware to require. -/
def bodyTenant (request : HttpRequest) (maximum : Int)
    (tenant : Option String) : Except PyException Value :=
  if request.method.toUpper ∈ ["POST", "PUT", "PATCH", "DELETE"] then
    if maximum < request.body.length then
      .error (ServerConfig.requestTooLarge maximum)
    else if request.body = [] then .ok (Value.ofText tenant)
    else
      -- A body in no known encoding raises before it is parsed.
      match server.config.decodeBody request.body with
      | none => .error .libraryValueError
      | some text =>
          match Json.loads text with
          | some (.dict entries) => .ok (namedTenant (.ofList entries) tenant)
          | _ => .ok (Value.ofText tenant)
  else .ok (Value.ofText tenant)

/-- `request.query_params.get("tenant") or request.headers.get(...)`; the last
of several values counts. -/
def outerTenant (request : HttpRequest) : Option String :=
  let last := (request.query.reverse.find? fun row => row.1 = "tenant").map
    Prod.snd
  (last.filter (· ≠ "")).or (request.header "x-urp-tenant")

/-- `authentication_middleware`. -/
def serve (request : HttpRequest) : Except PyException (Option Handled) :=
  if request.path ∈ ["/healthz", "/readyz"] then
    server.callNext request {} none
  else if request.path = "/metrics" ∨ hasStart "/v1/" request.path then do
    let maximum ← server.config.maximum
    let header := (request.header "content-length").filter (· ≠ "")
    let length ← intOf server.config.host (.str (header.getD "0"))
    if maximum < length then .error (ServerConfig.requestTooLarge maximum)
    else
      let principal ← server.config.principal request
      let named ← server.bodyTenant request maximum (outerTenant request)
      let required := requiredTenant server.config.host named
      server.config.authorizer.require principal
        (actionForRequest request.method request.path) required
      server.callNext request principal.session required
  else server.callNext request {} none

end ApiServer

end Urp
