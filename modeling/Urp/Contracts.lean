import Urp.Python.Json
import Urp.Python.Sha256

/-!
# Contracts, work units and ledger events

The records that the other modules pass around, with the dictionaries that
the program writes for them.  Dictionary-valued fields are `Object`s, whose
keys are distinct by construction.
-/

namespace Urp

open Python

/-- A Python dictionary with string keys. -/
abbrev Object := Dict String Value

namespace Object

/-- `data.get(key, default)`. -/
def getD (data : Object) (key : String) (default : Value) : Value :=
  (data.lookup key).getD default

/-- `data.get(key)`. -/
def get (data : Object) (key : String) : Value := data.getD key .none

def toValue (data : Object) : Value := .dict data.entries

def ofList (pairs : List (String × Value)) : Object := Dict.ofList pairs

end Object

inductive Contract where
  | exactBytes
  | exactLogical
  | boundedApprox
  | semantic
  | derived
  | tombstone
  deriving DecidableEq, Repr

namespace Contract

def value : Contract → String
  | exactBytes => "exact_bytes"
  | exactLogical => "exact_logical"
  | boundedApprox => "bounded_approx"
  | semantic => "semantic"
  | derived => "derived"
  | tombstone => "tombstone"

def all : List Contract :=
  [exactBytes, exactLogical, boundedApprox, semantic, derived, tombstone]

/-- `Contract(name)`; `none` is its `ValueError`. -/
def ofValue? (name : String) : Option Contract :=
  all.find? fun contract => contract.value == name

@[simp] theorem ofValue?_value (contract : Contract) :
    ofValue? contract.value = some contract := by
  cases contract <;> decide

end Contract

inductive WorkUnitKind where
  | byteObject
  | file
  | directorySnapshot
  | blockExtent
  | backupSnapshot
  | containerLayer
  | structuredFile
  | tableSnapshot
  | tableRowGroup
  | streamSegment
  | eventBatch
  | metricSeries
  | traceBatch
  | logBatch
  | mediaAsset
  | imageAsset
  | videoAsset
  | audioAsset
  | documentAsset
  | vectorIndexSegment
  | embeddingRequest
  | embeddingBatch
  | promptRequest
  | completionResponse
  | chatSession
  | agentStep
  | toolCall
  | ragContextPack
  | trainingDataset
  | evaluationJob
  | modelCheckpoint
  | adapterArtifact
  | fineTuneJob
  | inferenceBatch
  | kvCacheSegment
  | syntheticDataJob
  | batchComputeJob
  | lifecycleTransition
  | deletionCandidate
  | rehydrationRequest
  | policyOverride
  | pluginAction
  deriving DecidableEq, Repr

namespace WorkUnitKind

def value : WorkUnitKind → String
  | byteObject => "byte_object"
  | file => "file"
  | directorySnapshot => "directory_snapshot"
  | blockExtent => "block_extent"
  | backupSnapshot => "backup_snapshot"
  | containerLayer => "container_layer"
  | structuredFile => "structured_file"
  | tableSnapshot => "table_snapshot"
  | tableRowGroup => "table_row_group"
  | streamSegment => "stream_segment"
  | eventBatch => "event_batch"
  | metricSeries => "metric_series"
  | traceBatch => "trace_batch"
  | logBatch => "log_batch"
  | mediaAsset => "media_asset"
  | imageAsset => "image_asset"
  | videoAsset => "video_asset"
  | audioAsset => "audio_asset"
  | documentAsset => "document_asset"
  | vectorIndexSegment => "vector_index_segment"
  | embeddingRequest => "embedding_request"
  | embeddingBatch => "embedding_batch"
  | promptRequest => "prompt_request"
  | completionResponse => "completion_response"
  | chatSession => "chat_session"
  | agentStep => "agent_step"
  | toolCall => "tool_call"
  | ragContextPack => "rag_context_pack"
  | trainingDataset => "training_dataset"
  | evaluationJob => "evaluation_job"
  | modelCheckpoint => "model_checkpoint"
  | adapterArtifact => "adapter_artifact"
  | fineTuneJob => "fine_tune_job"
  | inferenceBatch => "inference_batch"
  | kvCacheSegment => "kv_cache_segment"
  | syntheticDataJob => "synthetic_data_job"
  | batchComputeJob => "batch_compute_job"
  | lifecycleTransition => "lifecycle_transition"
  | deletionCandidate => "deletion_candidate"
  | rehydrationRequest => "rehydration_request"
  | policyOverride => "policy_override"
  | pluginAction => "plugin_action"

/-- The kinds whose default contract is semantic. -/
def isAi (kind : WorkUnitKind) : Bool :=
  kind = promptRequest || kind = completionResponse || kind = embeddingRequest

end WorkUnitKind

/-- The three modes of `execution_mode`. -/
inductive Mode where
  | observe
  | shadow
  | enforce
  deriving DecidableEq, Repr

namespace Mode

def value : Mode → String
  | observe => "observe"
  | shadow => "shadow"
  | enforce => "enforce"

end Mode

structure WorkUnit where
  kind : WorkUnitKind
  tenant : String
  logicalRef : String
  payload : Value := .none
  requestedContract : Option Contract := none
  nameSpace : String := "default"
  metadata : Object := ∅
  policyContext : Object := ∅
  traceId : String
  id : String
  createdAt : String
  payloadRef : Value := .none
  deadline : Option String := none
  latencyBudgetMs : Option Int := none

structure Classification where
  entropyBitsPerByte : Option PyFloat
  likelyCompressed : Bool
  likelyEncrypted : Bool
  schemaHint : Option String
  notes : List String

inductive Risk where
  | low
  | medium
  | high
  deriving DecidableEq, Repr

namespace Risk

def value : Risk → String
  | low => "low"
  | medium => "medium"
  | high => "high"

end Risk

structure PlanAction where
  type : String
  required : Bool := true
  risk : Risk := .low
  reason : String := ""
  deriving DecidableEq

structure Plan where
  workUnitId : String
  contract : Contract
  actions : List PlanAction
  tenant : String
  planId : String
  traceId : String
  mode : Mode
  policyBundleId : String
  risk : Risk
  expected : Object
  fallback : String

structure VerificationResult where
  accepted : Bool
  verifierId : String
  reason : String
  details : Object := ∅

/-- An event is written without its identifier and time where the program
leaves them to their defaults; `stamp` draws these. -/
structure LedgerEvent where
  eventType : String
  tenant : String
  workUnitId : Option String := none
  manifestId : Option String := none
  policyBundleId : Option String := none
  actor : Option String := none
  decision : Option String := none
  details : Object := ∅
  traceId : Option String := none
  prevHash : Option String := none
  eventId : String := ""
  createdAt : String := ""
  eventHash : Option String := none

/-- `null` or a string. -/
def optionalText : Option String → Value
  | some text => .str text
  | none => .none

def texts (items : List String) : Value := .list (items.map .str)

namespace PlanAction

/-- `asdict(action)`; no action of the program carries parameters. -/
def toDict (action : PlanAction) : Value :=
  .dict [("type", .str action.type), ("required", .bool action.required),
    ("risk", .str action.risk.value), ("params", .dict []),
    ("reason", .str action.reason)]

end PlanAction

namespace Plan

def toDict (plan : Plan) : Value :=
  .dict [("plan_id", .str plan.planId), ("work_unit_id", .str plan.workUnitId),
    ("tenant", .str plan.tenant), ("trace_id", .str plan.traceId),
    ("contract", .str plan.contract.value),
    ("actions", .list (plan.actions.map PlanAction.toDict)),
    ("mode", .str plan.mode.value),
    ("policy_bundle_id", .str plan.policyBundleId),
    ("risk", .str plan.risk.value), ("expected", plan.expected.toValue),
    ("fallback", .str plan.fallback)]

def actionNames (plan : Plan) : List String :=
  plan.actions.map PlanAction.type

end Plan

namespace VerificationResult

def toDict (result : VerificationResult) : Object :=
  .ofList [("accepted", .bool result.accepted),
    ("verifier_id", .str result.verifierId), ("reason", .str result.reason),
    ("details", result.details.toValue)]

end VerificationResult

/-- `stable_json_hash(value)`. -/
def stableJsonHash (value : Value) : String :=
  sha256 (utf8 (Json.dumps .compact value))

namespace LedgerEvent

/-- The items of `to_dict()`. -/
def fields (event : LedgerEvent) : List (String × Value) :=
  [("event_id", .str event.eventId), ("event_type", .str event.eventType),
    ("tenant", .str event.tenant),
    ("work_unit_id", optionalText event.workUnitId),
    ("manifest_id", optionalText event.manifestId),
    ("policy_bundle_id", optionalText event.policyBundleId),
    ("actor", optionalText event.actor),
    ("decision", optionalText event.decision),
    ("details", event.details.toValue),
    ("trace_id", optionalText event.traceId),
    ("created_at", .str event.createdAt),
    ("prev_hash", optionalText event.prevHash),
    ("event_hash", optionalText event.eventHash)]

def toDict (event : LedgerEvent) : Value := .dict event.fields

theorem distinct_fields (event : LedgerEvent) :
    (event.fields.map Prod.fst).Nodup := by
  simp only [fields, List.map_cons, List.map_nil]
  decide

/-- The event with its place in the chain: the hash covers every field but
itself. -/
def withChainHash (event : LedgerEvent) (prevHash : Option String) :
    LedgerEvent :=
  let payload := { event with prevHash := prevHash, eventHash := none }
  { event with
    prevHash := prevHash
    eventHash := some (stableJsonHash payload.toDict) }

end LedgerEvent

end Urp
