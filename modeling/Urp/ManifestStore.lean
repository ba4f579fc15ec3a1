import Urp.ChunkStore
import Urp.Objects
import Urp.Schema

/-!
# Manifests

What a manifest records about an execution, and `FileManifestStore`, which
keeps one file for each identifier.
-/

namespace Urp

open Python

/-- The states that the modelled code gives to a manifest. -/
inductive ManifestState where
  | planned
  | active
  | superseded
  | tombstoned
  deriving DecidableEq, Repr

namespace ManifestState

def value : ManifestState → String
  | planned => "planned"
  | active => "active"
  | superseded => "superseded"
  | tombstoned => "tombstoned"

end ManifestState

/-- The compute manifest of a chat request.  The request's options and the
reply give the untyped fields. -/
structure ComputeManifest where
  requestHash : String
  tenant : String
  taskType : String := "prompt_request"
  inputTokens : Nat
  qualityRequired : Value
  latencyBudgetMs : Value
  freshnessRequiredSeconds : Value
  privacyScope : String := "tenant_namespace"
  cacheChecked : Bool := true
  toolsChecked : List String := []
  contextTokensBefore : Nat
  contextTokensAfter : Nat
  contextApplied : Bool
  selectedModel : Value
  fallbackModel : String := "frontier"
  mode : Mode
  acceptedByVerifier : Bool
  fallbackUsed : Bool
  fallbackReason : String
  largeModelCalled : Bool
  cacheableUntil : Option String
  estimatedJoulesAvoided : ℚ

/-- The compute manifest of an embedding request. -/
structure EmbeddingManifest where
  requestHash : String
  inputHash : String
  tenant : String
  taskType : String := "embedding_request"
  inputCount : Nat
  inputTokens : Nat
  qualityRequired : Value
  privacyScope : String := "tenant_namespace"
  cacheChecked : Bool := true
  selectedModel : Value
  vectorDimensions : Nat
  acceptedByVerifier : Bool
  fallbackUsed : Bool
  fallbackReason : String
  largeModelCalled : Bool
  cacheableUntil : Option String
  estimatedJoulesAvoided : ℚ

/-- The `physical` entry: of an execution, of an observation, of a chat
request, or of an embedding request. -/
inductive Physical where
  | exact (adapter : Option String) (wholeSha256 : String)
      (logicalSize storedSize : Nat) (segments : List Segment)
  | observed (adapter : Option String) (wholeSha256 : String)
      (logicalSize : Nat)
  | compute (record : ComputeManifest) (requestHash cacheKey : String)
      (cacheResult : String) (semanticHitScore : Option ℚ)
  | embedding (record : EmbeddingManifest) (requestHash cacheKey : String)
      (cacheResult : String)

namespace Physical

/-- `physical.get("segments", [])`. -/
def segments : Physical → List Segment
  | exact _ _ _ _ segments => segments
  | _ => []

/-- `str(physical.get("whole_sha256", ""))`. -/
def wholeSha256 : Physical → String
  | exact _ hash _ _ _ | observed _ hash _ => hash
  | compute .. | embedding .. => ""

/-- `int(physical.get("logical_size", 0))`. -/
def logicalSize : Physical → Nat
  | exact _ _ size _ _ | observed _ _ size => size
  | compute .. | embedding .. => 0

end Physical

structure Manifest where
  workUnitId : String
  tenant : String
  kind : WorkUnitKind
  contract : Contract
  logicalRef : String
  state : ManifestState
  nameSpace : String
  traceId : String
  policy : PolicyDecision
  classification : Object
  physical : Physical
  plan : Plan
  verification : VerificationResult
  lineage : Object := ∅
  telemetry : Object
  manifestId : String
  createdAt : String

namespace Manifest

/-- The manifest as it reads back from its file. -/
def reloaded (manifest : Manifest) : Manifest :=
  { manifest with
    nameSpace := textOr (some manifest.nameSpace) "default"
    classification := manifest.classification.reloaded
    plan := { manifest.plan with expected := manifest.plan.expected.reloaded }
    verification := { manifest.verification with
      details := manifest.verification.details.reloaded }
    lineage := manifest.lineage.reloaded
    telemetry := manifest.telemetry.reloaded }

@[simp] theorem physical_reloaded (manifest : Manifest) :
    manifest.reloaded.physical = manifest.physical := rfl

end Manifest

/-! ## Validation -/

/-- The types give the schema's other conditions. -/
def validateComputeManifest (record : ComputeManifest) :
    Except PyException Unit :=
  validateNamedSchema "compute_manifest" <|
    isString record.qualityRequired && isInteger record.latencyBudgetMs &&
      isInteger record.freshnessRequiredSeconds && isString record.selectedModel

def validateEmbeddingManifest (record : EmbeddingManifest) :
    Except PyException Unit :=
  validateNamedSchema "compute_manifest" <|
    isString record.qualityRequired && isString record.selectedModel

/-- The check of `physical.get("compute_manifest")`. -/
def Physical.validate : Physical → Except PyException Unit
  | compute record .. => validateComputeManifest record
  | embedding record .. => validateEmbeddingManifest record
  | _ => .ok ()

/-- `_validate_manifest`. -/
def validateManifest (host : Host) (manifest : Manifest) :
    Except PyException Unit := do
  validateNamedSchema "manifest" <|
    matchesIdPattern "mf_" manifest.manifestId &&
      passesDateTime host manifest.createdAt
  manifest.physical.validate

def enforceRequestTenant (session : Session) (manifest : Manifest) :
    Except PyException Unit :=
  requireTenant session manifest.tenant

/-- `_require_manifest_tenant`. -/
def requireManifestTenant (manifest : Manifest) (tenant : String) :
    Except PyException Unit :=
  if manifest.tenant = tenant then .ok ()
  else .error (tenantMismatch tenant manifest.tenant)

/-! ## The store -/

/-- The manifest files by identifier, as they read back. -/
abbrev ManifestFiles : Type := Dict String Manifest

namespace FileManifestStore

def missingManifest (manifestId : String) : PyException :=
  .fileNotFound ("manifests/" ++ manifestId ++ ".json")

section Operations

variable (host : Host) (session : Session)

def put (manifest : Manifest) : Program ManifestFiles PyException Unit := do
  Program.lift (enforceRequestTenant session manifest)
  Program.lift (validateManifest host manifest)
  let manifestId ← Program.lift
    (validateIdentifier manifest.manifestId "manifest id" "mf_")
  Program.modify fun files => files.insert manifestId manifest.reloaded

def get (manifestId : String) :
    Program ManifestFiles PyException Manifest := do
  let manifestId ← Program.lift
    (validateIdentifier manifestId "manifest id" "mf_")
  let files ← Program.get
  match files.lookup manifestId with
  | none => Program.raise (missingManifest manifestId)
  | some manifest => do
      Program.lift (enforceRequestTenant session manifest)
      return manifest

def getForTenant (manifestId tenant : String) :
    Program ManifestFiles PyException Manifest := do
  let manifest ← get session manifestId
  Program.lift (requireManifestTenant manifest tenant)
  return manifest

end Operations

end FileManifestStore

end Urp
