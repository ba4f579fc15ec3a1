import Urp.AiGateway

/-!
# Embeddings

`handle_embeddings`, which computes its vectors itself and shares the exact
cache with the chat requests.
-/

namespace Urp

open Python

/-! ## Requests -/

inductive EncodingFormat where
  | float
  | base64
  deriving DecidableEq, Repr

def EncodingFormat.value : EncodingFormat → String
  | float => "float"
  | base64 => "base64"

structure NormalizedEmbedding where
  model : Value
  input : Value
  encodingFormat : EncodingFormat
  dimensions : Option Int
  urp : Value

def NormalizedEmbedding.toDict (normalized : NormalizedEmbedding) : Value :=
  .dict [("model", normalized.model), ("input", normalized.input),
    ("encoding_format", .str normalized.encodingFormat.value),
    ("dimensions", (normalized.dimensions.map Value.int).getD .none),
    ("urp", normalized.urp)]

def encodingFormat (name : String) : Except PyException EncodingFormat :=
  match name with
  | "float" => .ok .float
  | "base64" => .ok .base64
  | _ => .error (.valueError "encoding_format must be float or base64")

def embeddingDimensions (host : Host) (dimensions : Value) :
    Except PyException (Option Int) :=
  match dimensions with
  | .none => .ok none
  | dimensions => do
      let size ← intOf host dimensions
      if size < 1 ∨ 4096 < size then
        .error (.valueError "dimensions must be between 1 and 4096")
      else .ok (some size)

def normalizeEmbeddingRequest (host : Host) (request : Object) :
    Except PyException NormalizedEmbedding := do
  let encodingFormat ← encodingFormat
    (host.str (request.getD "encoding_format" (.str "float")))
  let dimensions ← embeddingDimensions host (request.get "dimensions")
  .ok {
    model := request.getD "model" (.str "mock-embedding")
    input := request.getD "input" (.str "")
    encodingFormat, dimensions
    urp := request.getD "urp" (.dict []) }

/-- `normalized.get("urp", {})`, of which items are read. -/
def embeddingOptions (urp : Value) : Except PyException Object :=
  match urp with
  | .dict entries => .ok (.ofList entries)
  | _ => .error .attributeError

/-- `_embedding_source_fingerprints`. -/
def embeddingSourceFingerprints (host : Host) (options : Object) :
    Except PyException (Finset String) := do
  let explicit := options.get "source_fingerprints"
  let items ← iterTexts host
    (if explicit.isTruthy then explicit else .list [])
  .ok items.toFinset

/-- `_embedding_inputs`. -/
def embeddingInputs (host : Host) (input : Value) : List String :=
  match input with
  | .list items => items.map host.str
  | input => [host.str input]

/-! ## Vectors -/

def extendDigest : Nat → Nat → String → String
  | 0, _, digest => digest
  | fuel + 1, length, digest =>
      if digest.length < length then
        extendDigest fuel length
          (digest ++ stableJsonHash (.dict [("seed", .str digest)]))
      else digest

/-- `int(text, 16)` of hexadecimal digits. -/
def hexValue (text : List Char) : Nat :=
  text.foldl (fun sofar c => 16 * sofar + (Json.hexDigit? c).getD 0) 0

/-- `_embedding_vector`; every extension adds 64 digits, so that one for each
number of the vector is enough. -/
def embeddingVector (host : Host) (tenant : String) (model : Value)
    (text : String) (dimensions : Option Int) : List Value :=
  let size := (max 1 (min (dimensions.getD 8) 4096)).toNat
  let digest := extendDigest size (size * 2) (stableJsonHash (.dict
    [("tenant", .str tenant), ("input", .str text), ("model", model)]))
  (List.range size).map fun index =>
    .float (.finite (host.byteRatio
      (hexValue ((digest.toList.drop (2 * index)).take 2))))

/-- The bytes of a number in the format `<f`. -/
def packNumber (host : Host) (number : Value) : Bytes :=
  match number with
  | .float f => host.packFloat f
  | _ => []

def encodeEmbedding (host : Host) (vector : List Value)
    (format : EncodingFormat) : Value :=
  match format with
  | .float => .list vector
  | .base64 =>
      .str (String.ofList (Base64.encode (vector.flatMap (packNumber host))))

/-- `struct.unpack` of whole numbers of four bytes. -/
def unpackFloats (host : Host) : Bytes → List Value
  | a :: b :: c :: d :: rest =>
      .float (host.unpackFloat [a, b, c, d]) :: unpackFloats host rest
  | _ => []

def decodeEmbedding (host : Host) (value : Value) (format : EncodingFormat) :
    List Value :=
  match format, value with
  | .float, .list items => items
  | .base64, .str text =>
      match Base64.decode text.toList with
      | some raw => if raw.length % 4 = 0 then unpackFloats host raw else []
      | none => []
  | _, _ => []

def isNumber : Value → Bool
  | .bool _ | .int _ | .float _ => true
  | _ => false

def verifyEmbeddingVector (vectors : List (List Value)) :
    VerificationResult :=
  let accepted := !vectors.isEmpty && vectors.all fun vector =>
    !vector.isEmpty && vector.all isNumber
  { accepted
    verifierId := "embedding_shape@0"
    reason := if accepted then "vector_shape_ok" else "invalid_embedding_shape"
    details := .ofList [("vectors", .int vectors.length)] }

def verifyRequiredEmbeddingVerifiers (required : List String)
    (primary : VerificationResult) (workUnitId : String) :
    Except PyException Unit :=
  let unsupported := unsupportedVerifiers ["embedding_shape",
    "fallback_available", "freshness_check", "source_fingerprint_match",
    "source_consistency"] required
  if unsupported ≠ [] then
    .error (verifierFailed "required embedding verifier is not implemented"
      workUnitId (.ofList [("unsupported", texts unsupported)]))
  else if "embedding_shape" ∈ verifierNames required ∧
      primary.accepted = false then
    .error (verifierFailed "required embedding shape verifier failed"
      workUnitId primary.toDict)
  else .ok ()

/-- The `embedding` entry of each row of `response.get("data", [])`. -/
def responseEmbeddings (response : Value) : Except PyException (List Value) :=
  match response with
  | .dict entries =>
      match Value.getD entries "data" (.list []) with
      | .list rows => rows.mapM fun row =>
          match row with
          | .dict row =>
              match Entries.lookup row "embedding" with
              | some value => .ok value
              | none => .error (.keyError "embedding")
          | _ => .error .typeError
      | .dict [] | .str "" | .bytes [] => .ok []
      | _ => .error .typeError
  | _ => .error .attributeError

/-! ## The handler -/

/-- The arguments of `handle_embeddings`. -/
structure EmbeddingCall where
  session : Session := {}
  request : Object
  tenant : String := "local"
  nameSpace : String := "default"
  bundle : Option PolicyBundle := none
  requestedMode : Option String := none

structure EmbeddingSetup where
  mode : Mode
  normalized : NormalizedEmbedding
  options : Object
  fingerprints : Finset String
  inputs : List String

/-- An admitted embedding request. -/
structure Embedding where
  call : EmbeddingCall
  setup : EmbeddingSetup
  admission : Admission
  ttl : Option ℚ

namespace EmbeddingCall

variable (host : Host) (call : EmbeddingCall)

def setup : Except PyException EmbeddingSetup := do
  let mode ← executionMode call.session call.requestedMode
  requireExecutionEnabled call.session none
  let normalized ← normalizeEmbeddingRequest host call.request
  let options ← embeddingOptions normalized.urp
  let fingerprints ← embeddingSourceFingerprints host options
  .ok { mode, normalized, options, fingerprints,
        inputs := embeddingInputs host normalized.input }

/-- `stable_json_hash` of the input and the model. -/
def inputHash (setup : EmbeddingSetup) : String :=
  stableJsonHash (.dict [("input", setup.normalized.input),
    ("model", setup.normalized.model)])

def aiRequest (setup : EmbeddingSetup) : AiRequest where
  session := call.session
  mode := setup.mode
  tenant := call.tenant
  nameSpace := call.nameSpace
  kind := .embeddingRequest
  logicalRef := "openai://embeddings"
  payload := .dict
    [("request_hash", .str (stableJsonHash setup.normalized.toDict)),
      ("input_hash", .str (inputHash setup)),
      ("input_count", .int setup.inputs.length),
      ("routing_text", .str (String.intercalate "\n" setup.inputs))]
  contract := .semantic
  metadata := .ofList
    [("source_fingerprints", fingerprintsValue setup.fingerprints),
      ("model", setup.normalized.model)]
  bundle := call.bundle
  bundleName := setup.options.get "policy_bundle_id"

end EmbeddingCall

namespace Embedding

variable (host : Host) (embedding : Embedding)

def policy : PolicyDecision := embedding.admission.policy

def performs (action : String) : Bool :=
  embedding.setup.mode = .enforce &&
    action ∈ embedding.admission.plan.actionNames

def cacheKey : String :=
  URPCache.exactKey embedding.call.tenant embedding.call.nameSpace
    embedding.setup.normalized.toDict embedding.setup.fingerprints

def positiveTtl : Option ℚ := embedding.ttl.filter (0 < ·)

def routingText : String := String.intercalate "\n" embedding.setup.inputs

def inputTokens : Nat := (embedding.setup.inputs.map approximateTokens).sum

/-- The vectors of the inputs under a model. -/
def vectors (model : Value) : List (List Value) :=
  embedding.setup.inputs.map fun text =>
    embeddingVector host embedding.call.tenant model text
      embedding.setup.normalized.dimensions

def response (model : Value) (vectors : List (List Value)) : Value :=
  let format := embedding.setup.normalized.encodingFormat
  .dict [("object", .str "list"),
    ("data", .list (vectors.zipIdx.map fun row =>
      .dict [("object", .str "embedding"),
        ("embedding", encodeEmbedding host row.1 format),
        ("index", .int row.2)])),
    ("model", model),
    ("usage", .dict [("prompt_tokens", .int embedding.inputTokens),
      ("total_tokens", .int embedding.inputTokens)])]

def verifyRequired (verification : VerificationResult) :
    Except PyException Unit :=
  verifyRequiredEmbeddingVerifiers embedding.policy.requiredVerifiers
    verification embedding.admission.workUnit.id

def event (eventType : String) (details : Object := ∅) : LedgerEvent :=
  aiEvent embedding.admission eventType details

def keyDetails : Object := .ofList [("cache_key", .str embedding.cacheKey)]

end Embedding

section Handle

variable (host : Host) (embedding : Embedding)

def recordEmbedding (event : LedgerEvent) : Program Gateway PyException Unit :=
  Program.focus Gateway.worldLens (record host embedding.call.session event)

def embeddingLookup : Program Gateway PyException (Option Value) :=
  if embedding.positiveTtl.isSome &&
      embedding.performs "exact_cache_lookup" then do
    let cached ← Program.focus Gateway.exactLens
      (URPCache.get host embedding.cacheKey embedding.call.tenant
        embedding.call.nameSpace (some embedding.setup.fingerprints))
    match cached with
    | .none => return none
    | response => return some response
  else return none

def storeEmbedding (response : Value) : Program Gateway PyException Unit :=
  match embedding.positiveTtl with
  | some ttl =>
      if embedding.performs "cache_store" then
        Program.focus Gateway.exactLens (putExpiring host ttl {
          key := embedding.cacheKey
          tenant := embedding.call.tenant
          nameSpace := embedding.call.nameSpace
          value := response
          sourceFingerprints := embedding.setup.fingerprints
          verifierPassed := true })
      else return ()
  | none => return ()

/-- The vectors of the requested model, or those of the fallback. -/
def computeVectors :
    Program Gateway PyException
      (Value × List (List Value) × Option String) := do
  let model := embedding.setup.normalized.model
  let vectors := embedding.vectors host model
  let verification := verifyEmbeddingVector vectors
  if verification.accepted then
    return (embedding.response host model vectors, vectors, none)
  else do
    recordEmbedding host embedding
      (embedding.event "ai.fallback.invoked" verification.toDict)
    let vectors := embedding.vectors host (.str "frontier")
    return (embedding.response host (.str "frontier") vectors, vectors,
      some verification.reason)

def answerEmbedding : Program Gateway PyException Served := do
  let route ← Program.lift (routeModel host embedding.policy.modelAllowlist
    embedding.routingText)
  let (response, vectors, fallback) ← computeVectors host embedding
  let verification := verifyEmbeddingVector vectors
  if verification.accepted then do
    Program.lift (embedding.verifyRequired verification)
    storeEmbedding host embedding response
  else do
    recordEmbedding host embedding
      (embedding.event "verifier.failed" verification.toDict)
    Program.raise (verifierFailed "embedding verifier failed after fallback"
      embedding.admission.workUnit.id verification.toDict)
  let served : Served := { response, cacheResult := .miss, fallback }
  recordEmbedding host embedding
    (embedding.event "cache.exact.miss" embedding.keyDetails)
  recordEmbedding host embedding (embedding.event "ai.model.routed"
    (.ofList [("route", .str route.model),
      ("final_model", served.getD "model" .none),
      ("fallback_used", .bool fallback.isSome),
      ("reason", .str route.reason)]))
  recordFeedback host embedding.admission.workUnit route true
  return served

def serveEmbedding : Program Gateway PyException Served := do
  match ← embeddingLookup host embedding with
  | some response => do
      recordEmbedding host embedding
        (embedding.event "cache.exact.hit" embedding.keyDetails)
      return { response, cacheResult := .exactHit }
  | none => answerEmbedding host embedding

def embeddingManifestOf (served : Served) (vectors : List (List Value))
    (cacheableUntil : Option String) : EmbeddingManifest where
  requestHash := stableJsonHash embedding.setup.normalized.toDict
  inputHash := EmbeddingCall.inputHash embedding.setup
  tenant := embedding.call.tenant
  inputCount := embedding.setup.inputs.length
  inputTokens := embedding.inputTokens
  qualityRequired := embedding.setup.options.getD "quality" (.str "standard")
  selectedModel := served.getD "model" embedding.setup.normalized.model
  vectorDimensions := (vectors.head?.map List.length).getD 0
  acceptedByVerifier := (verifyEmbeddingVector vectors).accepted
  fallbackUsed := served.fallback.isSome
  fallbackReason := served.fallback.getD ""
  largeModelCalled := served.largeModelCalled
  cacheableUntil
  estimatedJoulesAvoided := if served.providerCalled then 0 else 1 / 4

def embeddingManifest (served : Served) (vectors : List (List Value))
    (record : EmbeddingManifest) (manifestId createdAt : String) :
    Manifest where
  workUnitId := embedding.admission.workUnit.id
  tenant := embedding.call.tenant
  kind := .embeddingRequest
  contract := embedding.policy.contract
  logicalRef := embedding.admission.workUnit.logicalRef
  state := embedding.setup.mode.manifestState
  nameSpace := embedding.call.nameSpace
  traceId := embedding.admission.workUnit.traceId
  policy := embedding.policy
  classification := .ofList
    [("ai_task_hint", .str "embedding"), ("raw_prompt_logged", .bool false)]
  physical := .embedding record
    (stableJsonHash embedding.setup.normalized.toDict) embedding.cacheKey
    served.cacheResult.value
  plan := embedding.admission.plan
  verification := verifyEmbeddingVector vectors
  telemetry := .ofList [("mode", .str embedding.setup.mode.value),
    ("provider_called", .bool served.providerCalled),
    ("vector_count", .int vectors.length),
    ("vector_dimensions", .int record.vectorDimensions)]
  manifestId := manifestId
  createdAt := createdAt

def writeEmbeddingManifest (served : Served) (vectors : List (List Value)) :
    Program World PyException Manifest := do
  let cacheable ← Program.focus World.supplyLens
    (cacheableUntil host embedding.setup.mode embedding.ttl)
  let record := embeddingManifestOf embedding served vectors cacheable
  Program.lift (validateEmbeddingManifest record)
  let manifestId ← Program.focus World.supplyLens (host.newId "mf")
  let createdAt ← Program.focus World.supplyLens host.utcNow
  let manifest :=
    embeddingManifest embedding served vectors record manifestId createdAt
  putManifest host embedding.call.session embedding.admission manifest
  return manifest

def embeddingReply (served : Served) (verification : VerificationResult)
    (manifest : Manifest) : Value :=
  served.withUrp
    [("work_unit_id", .str embedding.admission.workUnit.id),
      ("manifest_id", .str manifest.manifestId),
      ("cache", .str served.cacheResult.value),
      ("route", served.getD "model" embedding.setup.normalized.model),
      ("fallback_used", .bool served.fallback.isSome),
      ("verifier", .str verification.verifierId),
      ("mode", .str embedding.setup.mode.value),
      ("trace_id", .str embedding.admission.workUnit.traceId)]

/-- Verify the vectors that are served, and write the manifest. -/
def finishEmbedding (served : Served) : Program Gateway PyException Value := do
  let embeddings ← Program.lift (responseEmbeddings served.response)
  let vectors := embeddings.map fun value =>
    decodeEmbedding host value embedding.setup.normalized.encodingFormat
  let verification := verifyEmbeddingVector vectors
  Program.lift (embedding.verifyRequired verification)
  let manifest ← Program.focus Gateway.worldLens
    (writeEmbeddingManifest host embedding served vectors)
  return embeddingReply embedding served verification manifest

end Handle

/-- What happens before the vectors are looked for. -/
def prepareEmbedding (host : Host) (call : EmbeddingCall) :
    Program Gateway PyException Embedding := do
  let setup ← Program.lift (call.setup host)
  let admission ← Program.focus Gateway.worldLens
    (intake host (call.aiRequest setup))
  let ttl ← Program.lift (cacheTtlSeconds host setup.options)
  return { call, setup, admission, ttl }

def handleEmbeddings (host : Host) (call : EmbeddingCall) :
    Program Gateway PyException Value := do
  let embedding ← prepareEmbedding host call
  let served ← serveEmbedding host embedding
  finishEmbedding host embedding served

end Urp
