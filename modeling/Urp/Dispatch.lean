import Urp.Embeddings
import Urp.Executor

/-!
# Dispatch of work units

`execute_work_unit`, which sends prompt requests to the gateway and every
other kind to an object execution, and the object store adapter on top of it.
-/

namespace Urp

open Python

/-! ## The mock provider -/

/-- The dictionaries of a request's messages. -/
def requestMessages (request : Object) : List Object :=
  match request.get "messages" with
  | .list items => items.filterMap fun item => item.entries?.map Object.ofList
  | _ => []

/-- `MockProvider.chat`. -/
def mockProvider (host : Host) : ChatProvider := fun _ request route =>
  let content := strip
    ("[mock:" ++ route ++ "] " ++ lastUserText host (requestMessages request))
  let promptTokens := approximateTokens
    (host.str (request.getD "messages" (.str "")))
  let completionTokens := approximateTokens content
  .ok (.dict [("id", .str "chatcmpl_mock"),
    ("object", .str "chat.completion"), ("model", .str route),
    ("choices", .list [.dict [("index", .int 0),
      ("message", .dict [("role", .str "assistant"),
        ("content", .str content)]),
      ("finish_reason", .str "stop")]]),
    ("usage", .dict [("prompt_tokens", .int promptTokens),
      ("completion_tokens", .int completionTokens),
      ("total_tokens", .int (promptTokens + completionTokens))])])

/-! ## Work units -/

/-- The arguments of `execute_work_unit`. -/
structure WorkUnitCall where
  session : Session := {}
  workUnit : WorkUnit
  requestedMode : Option String := none

namespace WorkUnitCall

variable (call : WorkUnitCall)

/-- The chat request of a prompt request's payload. -/
def chatRequest (host : Host) : Object :=
  match call.workUnit.payload with
  | .dict entries => .ofList entries
  | payload =>
      let content := if payload.isTruthy then host.str payload else ""
      .ofList [("messages", .list
          [.dict [("role", .str "user"), ("content", .str content)]]),
        ("model", .str "auto")]

def chatCall (host : Host) (mode : Mode) (bundle : Option PolicyBundle) :
    ChatCall where
  session := call.session
  request := call.chatRequest host
  tenant := call.workUnit.tenant
  nameSpace := call.workUnit.nameSpace
  bundle := bundle
  requestedMode := some mode.value

def execution (mode : Mode) (bundle : Option PolicyBundle) : Execution where
  session := call.session
  workUnit := call.workUnit
  requestedMode := some mode.value
  bundle := bundle

end WorkUnitCall

/-- `response["urp"][key]` of a gateway's reply, where a string stands. -/
def replyText (reply : Value) (key : String) : Option String :=
  match Value.get (reply.entries?.getD []) "urp" with
  | .dict entries => (Value.get entries key).string?
  | _ => none

def exactKinds : List WorkUnitKind :=
  [.byteObject, .file, .structuredFile, .logBatch]

section Execute

variable (host : Host)

/-- What `execute_work_unit` checks before it looks for a bundle. -/
def WorkUnitCall.checked (call : WorkUnitCall) : Except PyException Mode := do
  let mode ← executionMode call.session call.requestedMode
  requireExecutionEnabled call.session (some call.workUnit.id)
  validateWorkUnit host call.workUnit
  .ok mode

def executePrompt (call : WorkUnitCall) (mode : Mode)
    (bundle : Option PolicyBundle) :
    Program Gateway PyException ExecutionResult := do
  let reply ← handleChatCompletion host (mockProvider host)
    (call.chatCall host mode bundle)
  return {
    workUnitId := call.workUnit.id
    manifestId := (replyText reply "manifest_id").getD ""
    accepted := true
    mode
    output := reply
    details := ∅ }

def executeObject (execution : Execution) :
    Program World PyException ExecutionResult :=
  if execution.workUnit.kind ∈ exactKinds then executeExactObject host execution
  else executeMockAdapter host execution

def executeWorkUnit (call : WorkUnitCall) :
    Program Gateway PyException ExecutionResult := do
  let mode ← Program.lift (call.checked host)
  let bundle ← Program.focus Gateway.worldLens
    (Program.focus World.policiesLens (resolveActivePolicyBundle call.session
      (policyName host call.workUnit)))
  if call.workUnit.kind = .promptRequest then
    executePrompt host call mode bundle
  else
    Program.focus Gateway.worldLens
      (executeObject host (call.execution mode bundle))

end Execute

/-! ## The object store adapter -/

/-- `lineage.get("policy_context", {}).get("legal_hold") is True`. -/
def Manifest.legalHold (manifest : Manifest) : Except PyException Bool :=
  match manifest.lineage.getD "policy_context" (.dict []) with
  | .dict entries => .ok (Value.get entries "legal_hold").isTrue
  | _ => .error .attributeError

/-- `_truthy_tag`. -/
def truthyTag (value : Value) : Bool :=
  match value with
  | .bool b => b
  | .str text => (strip text).toLower ∈ ["1", "true", "yes", "on"]
  | _ => false

structure StoredObject where
  bucket : String
  key : String
  workUnitId : String
  manifestId : String
  etag : Value

structure DeletedObject where
  deleted : Bool
  manifestId : String
  reason : Option String := none

structure ObjectPut where
  bucket : String
  key : String
  body : Bytes
  nameSpace : String := "s3"
  metadata : Object := ∅
  tags : Object := ∅

namespace LocalS3Adapter

section Operations

variable (host : Host) (session : Session) (tenant : String)

/-- The policy context of a put: a tag asks for a legal hold. -/
def policyContext (tags : Object) : Object :=
  .ofList (("tags", tags.toValue) ::
    if truthyTag (tags.get "legal_hold") then [("legal_hold", .bool true)]
    else [])

def putWorkUnit (put : ObjectPut) : Program Supply PyException WorkUnit := do
  let traceId ← host.newId "tr"
  let id ← host.newId "wu"
  let createdAt ← host.utcNow
  return {
    kind := .byteObject
    tenant
    logicalRef := "s3://" ++ put.bucket ++ "/" ++ put.key
    payload := .bytes put.body
    nameSpace := put.nameSpace
    metadata := .ofList [("bucket", .str put.bucket), ("key", .str put.key),
      ("object_metadata", put.metadata.toValue), ("tags", put.tags.toValue)]
    policyContext := policyContext put.tags
    traceId, id, createdAt }

def putObject (put : ObjectPut) : Program Gateway PyException StoredObject := do
  let workUnit ← Program.focus Gateway.worldLens
    (Program.focus World.supplyLens (putWorkUnit host tenant put))
  let result ← executeWorkUnit host
    { session, workUnit, requestedMode := some "enforce" }
  return {
    bucket := put.bucket
    key := put.key
    workUnitId := result.workUnitId
    manifestId := result.manifestId
    etag := Value.get (result.output.entries?.getD []) "sha256" }

/-- An event about a manifest of the store. -/
def deleteEvent (manifest : Manifest) (actor eventType decision : String)
    (details : Object) : LedgerEvent where
  eventType := eventType
  tenant := manifest.tenant
  workUnitId := some manifest.workUnitId
  manifestId := some manifest.manifestId
  actor := some actor
  decision := some decision
  details := details
  traceId := some manifest.traceId

def deleteObject (manifestId actor : String) (allowDelete : Bool) :
    Program World PyException DeletedObject := do
  let manifest ← Program.focus World.manifestsLens
    (FileManifestStore.getForTenant session manifestId tenant)
  let held ← Program.lift manifest.legalHold
  if held || !allowDelete then do
    let reason := if held then "legal_hold" else "delete_disabled_by_default"
    record host session (deleteEvent manifest actor "s3.delete.denied" "denied"
      (.ofList [("reason", .str reason)]))
    return { deleted := false, manifestId, reason := some reason }
  else do
    Program.focus World.manifestsLens (FileManifestStore.put host session
      { manifest with state := .tombstoned })
    record host session (deleteEvent manifest actor "s3.delete.tombstoned"
      "tombstoned" (.ofList [("raw_chunks_retained", .bool true)]))
    return { deleted := true, manifestId }

end Operations

end LocalS3Adapter

end Urp
