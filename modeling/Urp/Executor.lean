import Urp.ChunkPuts
import Urp.Encoding
import Urp.Planner
import Urp.World

/-!
# Exact execution

`execute_exact_object` and `rehydrate_manifest`.  What an execution computes
from its arguments alone comes first: the mode, the payload, the decision, the
plan and the puts.  The chunks are stored, read back and verified before the
manifest is written.
-/

namespace Urp

open Python

/-! ## Verification -/

/-- `verify_sha256`. -/
def verifySha256 (data : Bytes) (expected : String) : VerificationResult where
  accepted := sha256 data == expected
  verifierId := "sha256_restore@0"
  reason := if sha256 data == expected then "match" else "mismatch"
  details := .ofList
    [("expected", .str expected), ("actual", .str (sha256 data))]

def requireExactVerifiers (required : List String) (accepted : Bool)
    (workUnitId : String) : Except PyException Unit :=
  let unsupported := required.filter fun name =>
    name ∉ ["sha256_restore", "sha256_restore@0"]
  if unsupported ≠ [] then
    .error (verifierFailed
      "required verifier is not implemented for exact execution" workUnitId
      (.ofList [("unsupported", texts unsupported)]))
  else if required ≠ [] ∧ !accepted then
    .error (verifierFailed "required exact verifier failed" workUnitId)
  else .ok ()

/-! ## Before the first event -/

/-- The arguments of one `execute_exact_object`. -/
structure Execution where
  session : Session
  workUnit : WorkUnit
  requestedMode : Option String := none
  bundle : Option PolicyBundle := none
  adapterName : Option String := none

structure Prepared where
  mode : Mode
  payload : Bytes
  classification : Classification
  policy : PolicyDecision
  plan : Plan

/-- The namespace that the chunks are stored under. -/
def storageNamespace (workUnit : WorkUnit) (mode : Mode) : String :=
  if mode = .enforce then workUnit.nameSpace
  else "shadow-" ++ workUnit.nameSpace

/-- The chunks that a plan cuts a payload into, with the default sizes of
`content_defined_chunks` and `fixed_chunks`. -/
def planChunks (plan : Plan) (payload : Bytes) :
    Except PyException (List Chunk) :=
  if "content_defined_chunk" ∈ plan.actionNames then
    contentDefinedChunks payload 2048 12 8192
  else if "fixed_chunk" ∈ plan.actionNames then
    fixedChunks payload (1024 * 1024)
  else fixedChunks payload (max 1 payload.length)

namespace Execution

variable (host : Host) (execution : Execution)

/-- What the arguments alone determine. -/
def prepare : Except PyException Prepared := do
  let mode ← executionMode execution.session execution.requestedMode
  let payload ← payloadToBytes host execution.workUnit.payload
  let policy ← evaluatePolicy execution.workUnit execution.bundle
  let plan ← planWorkUnit host execution.workUnit mode execution.bundle
    (some policy)
  .ok { mode, payload, policy, plan,
        classification := classify host execution.workUnit }

/-- An empty adapter name counts as none. -/
def adapter : Option String := execution.adapterName.filter (· ≠ "")

end Execution

section Execute

variable (host : Host) (execution : Execution) (prepared : Prepared)

/-- An event of the execution under its decision. -/
def executionEvent (eventType : String) (details : Object := ∅) :
    LedgerEvent where
  eventType := eventType
  tenant := execution.workUnit.tenant
  workUnitId := some execution.workUnit.id
  policyBundleId := some prepared.policy.policyBundleId
  details := details
  traceId := some execution.workUnit.traceId

def recordExecution (event : LedgerEvent) : Program World PyException Unit :=
  record host execution.session event

/-- `_require_policy_approval`. -/
def requirePolicyApproval : Program World PyException Unit :=
  let workUnit := execution.workUnit
  let policy := prepared.policy
  let approvalId := workUnit.policyContext.get "approval_id"
  if !policy.requireApproval then return ()
  else if approvalId.isTruthy then
    verifyApproval host (host.str approvalId) workUnit policy
  else do
    recordExecution host execution
      { executionEvent execution prepared "policy.denied" with
        decision := some "approval_required" }
    Program.raise (policyDenied "policy requires an approved approval_id"
      (some workUnit.id) (some policy.policyBundleId))

/-- The approval, the events and the plan before anything is stored. -/
def admitPrepared : Program World PyException Unit := do
  requirePolicyApproval host execution prepared
  recordExecution host execution
    (executionEvent execution prepared "work_unit.received")
  recordExecution host execution
    { executionEvent execution prepared "policy.evaluated"
        prepared.policy.toDict with
      decision := some prepared.policy.contract.value }
  storePlanWithAudit host execution.session prepared.plan execution.workUnit

/-! ## Manifests -/

/-- A manifest of the execution with this identifier and time. -/
def manifestOf (state : ManifestState) (physical : Physical)
    (verification : VerificationResult) (lineage telemetry : Object)
    (manifestId createdAt : String) : Manifest where
  workUnitId := execution.workUnit.id
  tenant := execution.workUnit.tenant
  kind := execution.workUnit.kind
  contract := prepared.policy.contract
  logicalRef := execution.workUnit.logicalRef
  state := state
  nameSpace := execution.workUnit.nameSpace
  traceId := execution.workUnit.traceId
  policy := prepared.policy
  classification := prepared.classification.toDict
  physical := physical
  plan := prepared.plan
  verification := verification
  lineage := lineage
  telemetry := telemetry
  manifestId := manifestId
  createdAt := createdAt

/-- A manifest of the execution with a new identifier and time. -/
def newManifest (state : ManifestState) (physical : Physical)
    (verification : VerificationResult) (lineage telemetry : Object) :
    Program Supply PyException Manifest := do
  let manifestId ← host.newId "mf"
  let createdAt ← host.utcNow
  return manifestOf execution prepared state physical verification lineage
    telemetry manifestId createdAt

/-- Make a manifest, put it and record that it was written. -/
def writeManifest (state : ManifestState) (physical : Physical)
    (verification : VerificationResult) (lineage telemetry details : Object) :
    Program World PyException Manifest := do
  let manifest ← Program.focus World.supplyLens
    (newManifest host execution prepared state physical verification lineage
      telemetry)
  Program.focus World.manifestsLens
    (FileManifestStore.put host execution.session manifest)
  recordExecution host execution
    { executionEvent execution prepared "manifest.written" details with
      manifestId := some manifest.manifestId }
  return manifest

structure ExecutionResult where
  workUnitId : String
  manifestId : String
  accepted : Bool
  mode : Mode
  output : Value
  details : Object

def executionTelemetry (mode : Mode) (bytesIn bytesStored bytesAvoided
    chunkCount dedupeHits : Nat) : Object :=
  .ofList [("mode", .str mode.value), ("bytes_in", .int bytesIn),
    ("bytes_stored", .int bytesStored), ("bytes_avoided", .int bytesAvoided),
    ("chunk_count", .int chunkCount), ("dedupe_hits", .int dedupeHits)]

/-- The result of an execution that wrote the manifest. -/
def executionResult (manifest : Manifest) (output : List (String × Value))
    (bytesStored : Nat) : ExecutionResult where
  workUnitId := execution.workUnit.id
  manifestId := manifest.manifestId
  accepted := true
  mode := prepared.mode
  output := .dict (("sha256", .str (sha256 prepared.payload)) :: output)
  details := .ofList [("bytes_in", .int prepared.payload.length),
    ("bytes_stored", .int bytesStored)]

def observation : VerificationResult where
  accepted := true
  verifierId := "observe_only@1"
  reason := "no_transform_executed"

/-- `_record_observation`. -/
def recordObservation : Program World PyException ExecutionResult := do
  let size := prepared.payload.length
  let manifest ← writeManifest host execution prepared .planned
    (.observed execution.adapter (sha256 prepared.payload) size) observation ∅
    (executionTelemetry .observe size 0 0 0 0)
    (.ofList [("logical_ref", .str execution.workUnit.logicalRef),
      ("mode", .str Mode.observe.value)])
  return executionResult execution prepared manifest
    [("passthrough", .bool true), ("rehydratable", .bool false)] 0

/-! ## Storing -/

/-- The puts of the execution's chunks. -/
def chunkPuts (chunks : List Chunk) : List Put :=
  chunks.map fun chunk =>
    { tenant := execution.workUnit.tenant
      nameSpace := storageNamespace execution.workUnit prepared.mode
      chunk
      compress := "zstd" ∈ prepared.plan.actionNames }

/-- The manifest's row for a stored chunk. -/
def segmentOf (chunk : Chunk) (stored : StoredChunk) : Segment where
  stored := stored
  logicalStart := chunk.start
  logicalEnd := chunk.stop
  sha256 := chunk.sha256

/-- Put the chunks and record each. -/
def storeChunks (chunks : List Chunk) :
    Program World PyException (List Segment) := do
  let stored ← Program.focus World.chunksLens
    (Program.forEach (chunkPuts execution prepared chunks) (Put.run host))
  let segments := List.zipWith segmentOf chunks stored
  let _ ← Program.forEach segments fun segment =>
    recordExecution host execution
      (executionEvent execution prepared "action.executed"
        (.ofList [("action", .str "store_chunk"),
          ("digest", .str segment.sha256),
          ("dedupe_hit", .bool segment.stored.dedupeHit)]))
  return segments

/-- Read the segments back and compare with the payload. -/
def verifyRestore (segments : List Segment) :
    Program World PyException VerificationResult := do
  let restored ← Program.focus World.chunksLens
    (LocalChunkStore.rehydrate host segments)
  let verification := verifySha256 restored (sha256 prepared.payload)
  if verification.accepted then do
    Program.lift (requireExactVerifiers prepared.policy.requiredVerifiers
      verification.accepted execution.workUnit.id)
    return verification
  else do
    recordExecution host execution
      (executionEvent execution prepared "verifier.failed" verification.toDict)
    Program.raise (verifierFailed "exact rehydration verifier failed"
      execution.workUnit.id verification.toDict)

def storedSize (segments : List Segment) : Nat :=
  (segments.map fun segment => segment.stored.storedSize).sum

/-- Write the manifest of stored segments. -/
def writeStored (segments : List Segment) (verification : VerificationResult) :
    Program World PyException Manifest :=
  let size := prepared.payload.length
  writeManifest host execution prepared
    (if prepared.mode = .enforce then .active else .superseded)
    (.exact execution.adapter (sha256 prepared.payload) size
      (storedSize segments) segments)
    verification
    (.ofList [("work_unit_metadata", execution.workUnit.metadata.toValue),
      ("policy_context", execution.workUnit.policyContext.toValue)])
    (executionTelemetry prepared.mode size (storedSize segments)
      (size - storedSize segments) segments.length
      (segments.filter fun segment => segment.stored.dedupeHit).length)
    (.ofList [("logical_ref", .str execution.workUnit.logicalRef)])

/-- The adapter's own event. -/
def recordAdapter (manifest : Manifest) : Program World PyException Unit :=
  match execution.adapter with
  | none => return ()
  | some name =>
      recordExecution host execution
        { executionEvent execution prepared "adapter.mock.executed"
            (.ofList [("kind", .str execution.workUnit.kind.value),
              ("adapter", .str name)]) with
          manifestId := some manifest.manifestId }

/-- Store, verify and write the manifest. -/
def storeObject : Program World PyException ExecutionResult := do
  let chunks ← Program.lift (planChunks prepared.plan prepared.payload)
  let segments ← storeChunks host execution prepared chunks
  let verification ← verifyRestore host execution prepared segments
  let manifest ← writeStored host execution prepared segments verification
  recordAdapter host execution prepared manifest
  return executionResult execution prepared manifest [] (storedSize segments)

end Execute

def executeExactObject (host : Host) (execution : Execution) :
    Program World PyException ExecutionResult := do
  let prepared ← Program.lift (execution.prepare host)
  admitPrepared host execution prepared
  if prepared.mode = .observe then
    recordObservation host execution prepared
  else storeObject host execution prepared

/-- `execute_mock_adapter`. -/
def executeMockAdapter (host : Host) (execution : Execution) :
    Program World PyException ExecutionResult :=
  let adapter := execution.workUnit.metadata.get "adapter"
  executeExactObject host { execution with
    adapterName := some
      (host.str (if adapter.isTruthy then adapter else .str "local_mock")) }

/-! ## Rehydration -/

def rehydrateManifest (host : Host) (session : Session) (manifestId : String) :
    Program World PyException Bytes := do
  let manifest ← Program.focus World.manifestsLens
    (FileManifestStore.get session manifestId)
  let unreadable := fun error : PyException =>
    if error.isLookupFailure then
      rehydrationFailed "rehydration failed segment verification"
        manifest.workUnitId (.ofList [("reason", .str error.text)])
    else error
  let data ← Program.rethrow (Program.focus World.chunksLens
    (LocalChunkStore.rehydrate host manifest.physical.segments)) unreadable
  let verification := verifySha256 data manifest.physical.wholeSha256
  if verification.accepted then return data
  else
    Program.raise (rehydrationFailed
      "rehydration failed checksum verification" manifest.workUnitId
      verification.toDict)

end Urp
