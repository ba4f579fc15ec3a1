import Urp.LedgerRuns
import Urp.ManifestStores

/-!
# Records with JSON fields

Work units, plans and manifests whose fields hold any JSON value, as the
schemas and the readers see them.  A record is written as a dictionary, checked
by its store and built again from a dictionary by `from_dict`.
-/

namespace Urp

open Python

namespace WorkUnitKind

def all : List WorkUnitKind :=
  [.byteObject, .file, .directorySnapshot, .blockExtent, .backupSnapshot,
    .containerLayer, .structuredFile, .tableSnapshot, .tableRowGroup,
    .streamSegment, .eventBatch, .metricSeries, .traceBatch, .logBatch,
    .mediaAsset, .imageAsset, .videoAsset, .audioAsset, .documentAsset,
    .vectorIndexSegment, .embeddingRequest, .embeddingBatch, .promptRequest,
    .completionResponse, .chatSession, .agentStep, .toolCall, .ragContextPack,
    .trainingDataset, .evaluationJob, .modelCheckpoint, .adapterArtifact,
    .fineTuneJob, .inferenceBatch, .kvCacheSegment, .syntheticDataJob,
    .batchComputeJob, .lifecycleTransition, .deletionCandidate,
    .rehydrationRequest, .policyOverride, .pluginAction]

def ofValue? (name : String) : Option WorkUnitKind :=
  all.find? fun kind => kind.value = name

end WorkUnitKind

namespace JsonRecords

/-! ## Field readers -/

/-- `data[key]`. -/
def required (data : List (String × Value)) (key : String) :
    Except PyException Value :=
  match Entries.lookup data key with
  | some value => .ok value
  | none => .error (.keyError key)

/-- `value or draw()`. -/
def orDraw (value : Value) (draw : Program Supply PyException String) :
    Program Supply PyException Value :=
  if value.isTruthy then Program.ret value
  else do
    let text ← draw
    return .str text

/-- `dict(value or {})`; only dictionaries are written where it reads. -/
def dictOf (value : Value) : Except PyException Value :=
  if value.isTruthy then
    match value with
    | .dict entries => .ok (.dict entries)
    | _ => .error .typeError
  else .ok (.dict [])

/-- `list(value or [])`; only lists are written where it reads. -/
def listOf (value : Value) : Except PyException Value :=
  if value.isTruthy then
    match value with
    | .list items => .ok (.list items)
    | _ => .error .typeError
  else .ok (.list [])

/-- `int(value) if value is not None else None`; only numbers are written
where it reads.  A float is cut to its whole part. -/
def intOf : Value → Except PyException Value
  | .none => .ok .none
  | .int n => .ok (.int n)
  | .bool b => .ok (.int (if b then 1 else 0))
  | .float (.finite text) =>
      .ok (.int (text.toRat.num.tdiv text.toRat.den))
  | _ => .error .typeError

/-- `WorkUnitKind(value)`. -/
def kindOf (value : Value) : Except PyException WorkUnitKind :=
  match value.string?.bind WorkUnitKind.ofValue? with
  | some kind => .ok kind
  | none => .error .libraryValueError

/-- `Contract(value)`. -/
def contractOf (value : Value) : Except PyException Contract :=
  match value.string?.bind Contract.ofValue? with
  | some contract => .ok contract
  | none => .error .libraryValueError

/-- `Contract(value) if value else None`. -/
def contractOrNone (value : Value) : Except PyException (Option Contract) :=
  if value.isTruthy then do
    let contract ← contractOf value
    return some contract
  else .ok none

/-- `contract.value if contract else None`. -/
def contractValue (contract : Option Contract) : Value :=
  optionalText (contract.map Contract.value)

/-! ## Work units -/

structure WorkUnit where
  kind : WorkUnitKind
  tenant : Value
  logicalRef : Value
  payload : Value := .none
  requestedContract : Option Contract := none
  nameSpace : Value := .str "default"
  metadata : Value := .dict []
  policyContext : Value := .dict []
  traceId : Value
  id : Value
  createdAt : Value
  payloadRef : Value := .none
  effectiveContract : Option Contract := none
  deadline : Value := .none
  latencyBudgetMs : Value := .none
  qualityTarget : Value := .dict []

namespace WorkUnit

def toDict (workUnit : WorkUnit) : List (String × Value) :=
  [("kind", .str workUnit.kind.value), ("tenant", workUnit.tenant),
    ("logical_ref", workUnit.logicalRef), ("payload", workUnit.payload),
    ("requested_contract", contractValue workUnit.requestedContract),
    ("namespace", workUnit.nameSpace), ("metadata", workUnit.metadata),
    ("policy_context", workUnit.policyContext),
    ("trace_id", workUnit.traceId), ("id", workUnit.id),
    ("created_at", workUnit.createdAt), ("payload_ref", workUnit.payloadRef),
    ("effective_contract", contractValue workUnit.effectiveContract),
    ("deadline", workUnit.deadline),
    ("latency_budget_ms", workUnit.latencyBudgetMs),
    ("quality_target", workUnit.qualityTarget)]

def fromDict (host : Host) (data : List (String × Value)) :
    Program Supply PyException WorkUnit := do
  let kind ← Program.lift (required data "kind")
  let kind ← Program.lift (kindOf kind)
  let tenant ← Program.lift (required data "tenant")
  let logicalRef ← Program.lift (required data "logical_ref")
  let requestedContract ← Program.lift
    (contractOrNone (Value.get data "requested_contract"))
  let metadata ← Program.lift (dictOf (Value.get data "metadata"))
  let policyContext ← Program.lift (dictOf (Value.get data "policy_context"))
  let traceId ← orDraw (Value.get data "trace_id") (host.newId "tr")
  let id ← orDraw (Value.get data "id") (host.newId "wu")
  let createdAt ← orDraw (Value.get data "created_at") host.utcNow
  let effectiveContract ← Program.lift
    (contractOrNone (Value.get data "effective_contract"))
  let latencyBudgetMs ← Program.lift
    (intOf (Value.get data "latency_budget_ms"))
  let qualityTarget ← Program.lift (dictOf (Value.get data "quality_target"))
  return {
    kind, tenant, logicalRef
    payload := Value.get data "payload"
    requestedContract
    nameSpace := Value.getD data "namespace" (.str "default")
    metadata, policyContext, traceId, id, createdAt
    payloadRef := Value.get data "payload_ref"
    effectiveContract
    deadline := Value.get data "deadline"
    latencyBudgetMs, qualityTarget }

/-- Python's `==` of two work units. -/
def pyEq (workUnit other : WorkUnit) : Bool :=
  workUnit.kind == other.kind && Value.pyEq workUnit.tenant other.tenant &&
    Value.pyEq workUnit.logicalRef other.logicalRef &&
    Value.pyEq workUnit.payload other.payload &&
    workUnit.requestedContract == other.requestedContract &&
    Value.pyEq workUnit.nameSpace other.nameSpace &&
    Value.pyEq workUnit.metadata other.metadata &&
    Value.pyEq workUnit.policyContext other.policyContext &&
    Value.pyEq workUnit.traceId other.traceId &&
    Value.pyEq workUnit.id other.id &&
    Value.pyEq workUnit.createdAt other.createdAt &&
    Value.pyEq workUnit.payloadRef other.payloadRef &&
    workUnit.effectiveContract == other.effectiveContract &&
    Value.pyEq workUnit.deadline other.deadline &&
    Value.pyEq workUnit.latencyBudgetMs other.latencyBudgetMs &&
    Value.pyEq workUnit.qualityTarget other.qualityTarget

end WorkUnit

/-! ## Plans -/

structure PlanAction where
  type : Value
  required : Value := .bool true
  risk : Value := .str "low"
  params : Value := .dict []
  reason : Value := .str ""

namespace PlanAction

def toDict (action : PlanAction) : List (String × Value) :=
  [("type", action.type), ("required", action.required),
    ("risk", action.risk), ("params", action.params),
    ("reason", action.reason)]

def fromDict (data : List (String × Value)) :
    Except PyException PlanAction := do
  let type ← JsonRecords.required data "type"
  let params ← dictOf (Value.get data "params")
  return {
    type
    required := .bool (Value.getD data "required" (.bool true)).isTruthy
    risk := Value.getD data "risk" (.str "low")
    params
    reason := Value.getD data "reason" (.str "") }

/-- `PlanAction.from_dict(row)`. -/
def fromRow : Value → Except PyException PlanAction
  | .dict data => fromDict data
  | _ => .error .typeError

def pyEq (action other : PlanAction) : Bool :=
  Value.pyEq action.type other.type &&
    Value.pyEq action.required other.required &&
    Value.pyEq action.risk other.risk &&
    Value.pyEq action.params other.params &&
    Value.pyEq action.reason other.reason

/-- `==` of two lists of actions. -/
def pyEqList : List PlanAction → List PlanAction → Bool
  | [], [] => true
  | action :: rest, other :: others => action.pyEq other && pyEqList rest others
  | _, _ => false

end PlanAction

structure Plan where
  workUnitId : Value
  contract : Contract
  actions : List PlanAction
  tenant : Value := .none
  planId : Value
  traceId : Value := .none
  mode : Value := .str "observe"
  policyBundleId : Value := .str "default"
  risk : Value := .str "low"
  expected : Value := .dict []
  fallback : Value := .str "store_exact_or_call_baseline"

namespace Plan

def toDict (plan : Plan) : List (String × Value) :=
  [("plan_id", plan.planId), ("work_unit_id", plan.workUnitId),
    ("tenant", plan.tenant), ("trace_id", plan.traceId),
    ("contract", .str plan.contract.value),
    ("actions", .list (plan.actions.map fun action => .dict action.toDict)),
    ("mode", plan.mode), ("policy_bundle_id", plan.policyBundleId),
    ("risk", plan.risk), ("expected", plan.expected),
    ("fallback", plan.fallback)]

/-- `[PlanAction.from_dict(row) for row in data.get("actions", [])]`. -/
def actionsOf : Value → Except PyException (List PlanAction)
  | .list rows => rows.mapM PlanAction.fromRow
  | _ => .error .typeError

def fromDict (host : Host) (data : List (String × Value)) :
    Program Supply PyException Plan := do
  let workUnitId ← Program.lift (required data "work_unit_id")
  let contract ← Program.lift (required data "contract")
  let contract ← Program.lift (contractOf contract)
  let actions ← Program.lift
    (actionsOf (Value.getD data "actions" (.list [])))
  let planId ← orDraw (Value.get data "plan_id") (host.newId "pl")
  let expected ← Program.lift (dictOf (Value.get data "expected"))
  return {
    workUnitId, contract, actions
    tenant := Value.get data "tenant"
    planId
    traceId := Value.get data "trace_id"
    mode := Value.getD data "mode" (.str "observe")
    policyBundleId := Value.getD data "policy_bundle_id" (.str "default")
    risk := Value.getD data "risk" (.str "low")
    expected
    fallback :=
      Value.getD data "fallback" (.str "store_exact_or_call_baseline") }

def pyEq (plan other : Plan) : Bool :=
  Value.pyEq plan.workUnitId other.workUnitId &&
    plan.contract == other.contract &&
    PlanAction.pyEqList plan.actions other.actions &&
    Value.pyEq plan.tenant other.tenant &&
    Value.pyEq plan.planId other.planId &&
    Value.pyEq plan.traceId other.traceId &&
    Value.pyEq plan.mode other.mode &&
    Value.pyEq plan.policyBundleId other.policyBundleId &&
    Value.pyEq plan.risk other.risk &&
    Value.pyEq plan.expected other.expected &&
    Value.pyEq plan.fallback other.fallback

end Plan

/-! ## Manifests -/

structure Manifest where
  workUnitId : Value
  tenant : Value
  kind : WorkUnitKind
  contract : Contract
  logicalRef : Value
  state : Value := .str "active"
  nameSpace : Value := .str "default"
  traceId : Value := .none
  policy : Value := .dict []
  classification : Value := .dict []
  physical : Value := .dict []
  plan : Value := .dict []
  verification : Value := .dict []
  lineage : Value := .dict []
  telemetry : Value := .dict []
  signatures : Value := .list []
  manifestVersion : Value := .str "urp.manifest.v1"
  manifestId : Value
  createdAt : Value

namespace Manifest

def toDict (manifest : Manifest) : List (String × Value) :=
  [("manifest_version", manifest.manifestVersion),
    ("manifest_id", manifest.manifestId),
    ("work_unit_id", manifest.workUnitId), ("tenant", manifest.tenant),
    ("kind", .str manifest.kind.value),
    ("contract", .str manifest.contract.value),
    ("logical_ref", manifest.logicalRef), ("namespace", manifest.nameSpace),
    ("trace_id", manifest.traceId), ("state", manifest.state),
    ("created_at", manifest.createdAt), ("policy", manifest.policy),
    ("classification", manifest.classification),
    ("physical", manifest.physical), ("plan", manifest.plan),
    ("verification", manifest.verification), ("lineage", manifest.lineage),
    ("telemetry", manifest.telemetry), ("signatures", manifest.signatures)]

def fromDict (host : Host) (data : List (String × Value)) :
    Program Supply PyException Manifest := do
  let workUnitId ← Program.lift (required data "work_unit_id")
  let tenant ← Program.lift (required data "tenant")
  let kind ← Program.lift (required data "kind")
  let kind ← Program.lift (kindOf kind)
  let contract ← Program.lift (required data "contract")
  let contract ← Program.lift (contractOf contract)
  let nameSpace ← orDraw (Value.get data "namespace") (Program.ret "default")
  let policy ← Program.lift (dictOf (Value.get data "policy"))
  let classification ← Program.lift (dictOf (Value.get data "classification"))
  let physical ← Program.lift (dictOf (Value.get data "physical"))
  let plan ← Program.lift (dictOf (Value.get data "plan"))
  let verification ← Program.lift (dictOf (Value.get data "verification"))
  let lineage ← Program.lift (dictOf (Value.get data "lineage"))
  let telemetry ← Program.lift (dictOf (Value.get data "telemetry"))
  let signatures ← Program.lift (listOf (Value.get data "signatures"))
  let manifestId ← orDraw (Value.get data "manifest_id") (host.newId "mf")
  let createdAt ← orDraw (Value.get data "created_at") host.utcNow
  return {
    workUnitId, tenant, kind, contract
    logicalRef := Value.getD data "logical_ref" (.str "")
    state := Value.getD data "state" (.str "active")
    nameSpace
    traceId := Value.get data "trace_id"
    policy, classification, physical, plan, verification, lineage, telemetry
    signatures
    manifestVersion :=
      Value.getD data "manifest_version" (.str "urp.manifest.v1")
    manifestId, createdAt }

def pyEq (manifest other : Manifest) : Bool :=
  Value.pyEq manifest.workUnitId other.workUnitId &&
    Value.pyEq manifest.tenant other.tenant &&
    manifest.kind == other.kind && manifest.contract == other.contract &&
    Value.pyEq manifest.logicalRef other.logicalRef &&
    Value.pyEq manifest.state other.state &&
    Value.pyEq manifest.nameSpace other.nameSpace &&
    Value.pyEq manifest.traceId other.traceId &&
    Value.pyEq manifest.policy other.policy &&
    Value.pyEq manifest.classification other.classification &&
    Value.pyEq manifest.physical other.physical &&
    Value.pyEq manifest.plan other.plan &&
    Value.pyEq manifest.verification other.verification &&
    Value.pyEq manifest.lineage other.lineage &&
    Value.pyEq manifest.telemetry other.telemetry &&
    Value.pyEq manifest.signatures other.signatures &&
    Value.pyEq manifest.manifestVersion other.manifestVersion &&
    Value.pyEq manifest.manifestId other.manifestId &&
    Value.pyEq manifest.createdAt other.createdAt

end Manifest

/-! ## Schemas -/

def isId (start : String) : Value → Bool
  | .str text => matchesIdPattern start text
  | _ => false

def isFilled : Value → Bool
  | .str text => text != ""
  | _ => false

def isObject : Value → Bool
  | .dict _ => true
  | _ => false

def isObjectOrNull : Value → Bool
  | .dict _ | .none => true
  | _ => false

def isObjectArray : Value → Bool
  | .list items => items.all isObject
  | _ => false

def isDateTimeText (host : Host) : Value → Bool
  | .str text => passesDateTime host text
  | _ => false

def isDateTimeOrNull (host : Host) : Value → Bool
  | .str text => passesDateTime host text
  | .none => true
  | _ => false

/-- An integer that is not negative, or `null`. -/
def isBudget : Value → Bool
  | .none => true
  | .int n => 0 ≤ n
  | .float (.finite text) => isInteger (.float (.finite text)) && 0 ≤ text.toRat
  | _ => false

def isOneOfTexts (texts : List String) : Value → Bool
  | .str text => text ∈ texts
  | _ => false

def contractNames : List String :=
  ["exact_bytes", "exact_logical", "bounded_approx", "semantic", "derived",
    "tombstone"]

def isContractOrNull : Value → Bool
  | .none => true
  | value => isOneOfTexts contractNames value

/-- The types of a payload; a byte string is none of them. -/
def isPayload : Value → Bool
  | .bytes _ => false
  | _ => true

/-- The properties of the schema `work_unit`. -/
def workUnitProperties (host : Host) : List Records.Property :=
  [⟨"id", true, isId "wu_"⟩,
    ⟨"kind", true, isOneOfTexts (WorkUnitKind.all.map WorkUnitKind.value)⟩,
    ⟨"tenant", true, isFilled⟩, ⟨"namespace", false, isString⟩,
    ⟨"logical_ref", true, isFilled⟩,
    ⟨"payload_ref", false, isPayloadRefType⟩, ⟨"payload", false, isPayload⟩,
    ⟨"requested_contract", false, isContractOrNull⟩,
    ⟨"effective_contract", false, isContractOrNull⟩,
    ⟨"metadata", false, isObject⟩, ⟨"policy_context", false, isObject⟩,
    ⟨"deadline", false, isDateTimeOrNull host⟩,
    ⟨"latency_budget_ms", false, isBudget⟩,
    ⟨"quality_target", false, isObjectOrNull⟩,
    ⟨"trace_id", false, Records.isStringOrNull⟩,
    ⟨"created_at", true, isDateTimeText host⟩]

def isWorkUnitRecord (host : Host) : Value → Bool :=
  Records.isObjectOf (workUnitProperties host)

/-- The properties of the schema `manifest`. -/
def manifestProperties (host : Host) : List Records.Property :=
  [⟨"manifest_version", true, isOneOfTexts ["urp.manifest.v1"]⟩,
    ⟨"manifest_id", true, isId "mf_"⟩, ⟨"work_unit_id", true, isString⟩,
    ⟨"logical_ref", false, isString⟩, ⟨"tenant", true, isString⟩,
    ⟨"namespace", false, Records.isStringOrNull⟩,
    ⟨"trace_id", false, Records.isStringOrNull⟩, ⟨"kind", true, isString⟩,
    ⟨"contract", true, isOneOfTexts contractNames⟩,
    ⟨"state", true, isOneOfTexts ["planned", "executing", "active",
      "superseded", "rehydrating", "failed", "quarantined", "expired",
      "tombstoned"]⟩,
    ⟨"created_at", true, isDateTimeText host⟩, ⟨"policy", false, isObject⟩,
    ⟨"classification", false, isObject⟩, ⟨"plan", false, isObject⟩,
    ⟨"physical", false, isObject⟩, ⟨"verification", false, isObject⟩,
    ⟨"lineage", false, isObject⟩, ⟨"telemetry", false, isObject⟩,
    ⟨"signatures", false, isObjectArray⟩]

def isManifestRecord (host : Host) : Value → Bool :=
  Records.isObjectOf (manifestProperties host)

/-! ## Stores -/

section Stores

variable (host : Host) (session : Session)

/-- `if tenant and record.tenant != tenant: raise tenant_mismatch(...)`. -/
def enforceTenant (tenant : Value) : Except PyException Unit :=
  match session.currentTenant with
  | none | some "" => .ok ()
  | some principal =>
      if Value.pyEq tenant (.str principal) then .ok ()
      else .error (tenantMismatch principal (host.str tenant))

/-- `validate_identifier` of a value that may be no string. -/
def checkIdentifier (value : Value) (label start : String) :
    Except PyException Unit :=
  match value with
  | .str text => do
      let _ ← validateIdentifier text label start
      .ok ()
  | _ => .error (.valueError ("invalid " ++ label ++
      ": expected 1-128 safe identifier characters"))

/-- The checks of `FileWorkUnitStore.put`. -/
def WorkUnit.accept (workUnit : WorkUnit) : Except PyException Unit := do
  enforceTenant host session workUnit.tenant
  let data := { workUnit with payload := encodeJsonValue workUnit.payload }
  validateNamedSchema "work_unit" (isWorkUnitRecord host (.dict data.toDict))
  checkIdentifier workUnit.id "work unit id" "wu_"

/-- The checks of `FilePlanStore.put`. -/
def Plan.accept (plan : Plan) : Except PyException Unit := do
  enforceTenant host session plan.tenant
  checkIdentifier plan.planId "plan id" "pl_"

/-- The checks of `FileManifestStore.put`. -/
def Manifest.accept (manifest : Manifest) : Except PyException Unit := do
  enforceTenant host session manifest.tenant
  validateNamedSchema "manifest" (isManifestRecord host (.dict manifest.toDict))
  match manifest.physical with
  | .dict entries =>
      match Value.get entries "compute_manifest" with
      | .none => .ok ()
      | compute =>
          validateNamedSchema "compute_manifest"
            (Records.isComputeManifest compute)
  | _ => .error .attributeError
  checkIdentifier manifest.manifestId "manifest id" "mf_"

/-- The checks of `JSONLLedger.append` after an event with this hash. -/
def acceptEvent (previous : Option String) (event : LedgerEvent) :
    Except PyException Unit := do
  requireTenant session event.tenant
  validateLedgerEvent host (event.withChainHash previous)

end Stores

end JsonRecords

end Urp
