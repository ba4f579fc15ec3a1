import Urp.Host

/-!
# Classification and planning

A plan lists the actions that the decision leaves of a fixed list for the
work unit's kind.  The framework's own actions cannot be denied.
-/

namespace Urp

open Python

/-! ## Classification -/

/-- `_payload_bytes`. -/
def classifiedBytes (host : Host) : Value → Bytes
  | .none => []
  | .bytes bytes => bytes
  | .str text => utf8 text.toList
  | value => utf8 (repr host.isPrintable value)

/-- gzip, zstd, zip, png and jpeg. -/
def compressedMagic : List Bytes :=
  [[0x1f, 0x8b], [0x28, 0xb5, 0x2f, 0xfd], [0x50, 0x4b, 0x03, 0x04],
    [0x89, 0x50, 0x4e, 0x47], [0xff, 0xd8, 0xff]]

/-- `left >= right` of a float and a number. -/
def isAtLeast (left : PyFloat) (bound : ℚ) : Bool :=
  match left.number? with
  | some value => !(value.lt (.finite bound))
  | none => false

def isBelow (left : PyFloat) (bound : ℚ) : Bool :=
  match left.number? with
  | some value => value.lt (.finite bound)
  | none => false

def looksRandomOrEncrypted (host : Host) (data : Bytes) : Bool :=
  256 ≤ data.length && isAtLeast (host.byteEntropy (data.take 65536)) (157 / 20)

/-- `bytes.isspace` of one byte. -/
def isSpaceByte (byte : UInt8) : Bool :=
  (9 ≤ byte && byte ≤ 13) || byte = 32

def schemaHint (data : Bytes) : Option String :=
  if (data.dropWhile isSpaceByte).head?.any fun byte =>
      byte = 0x7b || byte = 0x5b then
    some "json"
  else if 0x2c ∈ data.take 1024 ∧ 0x0a ∈ data.take 4096 then
    some "delimited_text"
  else none

def classify (host : Host) (workUnit : WorkUnit) : Classification :=
  let data := classifiedBytes host workUnit.payload
  let likelyCompressed := compressedMagic.any fun magic => magic.isPrefixOf data
  let likelyEncrypted :=
    looksRandomOrEncrypted host data && !likelyCompressed
  { entropyBitsPerByte :=
      if data.isEmpty then none else some (host.byteEntropy (data.take 65536))
    likelyCompressed
    likelyEncrypted
    schemaHint := schemaHint data
    notes :=
      (if workUnit.kind = .promptRequest then
          ["prompt_request_classified_for_routing"] else []) ++
        (if likelyCompressed then ["payload_has_compressed_magic"] else []) ++
        (if likelyEncrypted then ["payload_high_entropy"] else []) }

namespace Classification

/-- The classification that a manifest records. -/
def toDict (classification : Classification) : Object :=
  .ofList [("entropy_bits_per_byte",
      match classification.entropyBitsPerByte with
      | some entropy => .float entropy
      | none => .none),
    ("likely_compressed", .bool classification.likelyCompressed),
    ("likely_encrypted", .bool classification.likelyEncrypted),
    ("schema_hint", optionalText classification.schemaHint),
    ("notes", texts classification.notes)]

end Classification

/-! ## The action registry -/

def exactActions : List String :=
  ["hash", "content_defined_chunk", "fixed_chunk", "dedupe_same_tenant",
    "zstd", "dedupe_only_or_exact_store", "store_exact_ciphertext",
    "store_exact_bytes", "manifest", "verify_restore", "rehydrate"]

def gatewayActions : List String :=
  ["normalize_prompt", "exact_cache_lookup", "context_compile",
    "tool_first_attempt", "model_route", "verify", "cache_store",
    "compute_manifest"]

/-- The contracts that a registered action supports. -/
def supportedContracts (action : String) : Option (List Contract) :=
  if action ∈ exactActions then
    some [.exactBytes, .exactLogical, .boundedApprox, .semantic]
  else if action ∈ gatewayActions then
    some [.semantic, .exactBytes, .exactLogical]
  else if action = "semantic_cache_lookup" ∨ action = "semantic_summary" then
    some [.semantic]
  else if action = "approximate_quantization" then some [.boundedApprox]
  else if action = "delete" then some [.tombstone]
  else none

def validatePlanActions (contract : Contract) (denied : List String) :
    List PlanAction → Except PyException Unit
  | [] => .ok ()
  | action :: rest =>
      if action.type ∈ denied then
        .error (.valueError ("action denied by policy: " ++ action.type))
      else
        match supportedContracts action.type with
        | none => .error (.valueError ("unknown action: " ++ action.type))
        | some contracts =>
            if contract ∈ contracts then
              validatePlanActions contract denied rest
            else
              .error (.valueError ("action " ++ action.type ++
                " does not support contract " ++ contract.value))

/-! ## Filtering -/

def frameworkActions : List String :=
  ["hash", "manifest", "verify", "verify_restore", "compute_manifest"]

/-- `_filter_actions`. -/
def filterActions (decision : PolicyDecision) (mode : Mode) :
    List PlanAction → Except PyException (List PlanAction)
  | [] => .ok []
  | action :: rest =>
      if action.type ∈ decision.deniedActions then
        if action.type ∈ frameworkActions then
          .error (.valueError
            ("policy cannot deny mandatory safety action: " ++ action.type))
        else filterActions decision mode rest
      else do
        let kept ← filterActions decision mode rest
        if action.type ∈ frameworkActions ∨
            action.type ∈ decision.allowedActions ∨
            (mode = .shadow ∧
              action.type ++ "_shadow" ∈ decision.allowedActions) then
          .ok (action :: kept)
        else .ok kept

/-! ## Plans -/

def embeddingActions : List PlanAction :=
  [⟨"normalize_prompt", true, .low, "stable embedding cache key"⟩,
    ⟨"exact_cache_lookup", false, .low,
      "avoid repeated identical embedding computation"⟩,
    ⟨"model_route", true, .medium, "choose embedding model path"⟩,
    ⟨"verify", true, .medium, "embedding vector shape before acceptance"⟩,
    ⟨"cache_store", false, .low, "reuse verified embedding vector"⟩,
    ⟨"compute_manifest", true, .low, "record AI compute path"⟩]

def promptActions : List PlanAction :=
  [⟨"normalize_prompt", true, .low,
      "stable cache key and context separation"⟩,
    ⟨"exact_cache_lookup", false, .low,
      "avoid repeated identical model calls"⟩,
    ⟨"semantic_cache_lookup", false, .medium, "policy-gated meaning reuse"⟩,
    ⟨"context_compile", false, .medium,
      "remove duplicate or irrelevant context"⟩,
    ⟨"tool_first_attempt", false, .low,
      "deterministic tools are cheaper and verifiable"⟩,
    ⟨"model_route", true, .medium, "choose smallest verified model path"⟩,
    ⟨"verify", true, .medium, "contract satisfaction before acceptance"⟩,
    ⟨"cache_store", false, .low, "reuse verified answer"⟩,
    ⟨"compute_manifest", true, .low, "record AI compute path"⟩]

def objectActions (classification : Classification) : List PlanAction :=
  [⟨"hash", true, .low, "identity and exact duplicate detection"⟩,
    if classification.likelyEncrypted then
      ⟨"store_exact_ciphertext", true, .low,
        "payload high entropy; exact fallback"⟩
    else ⟨"content_defined_chunk", true, .low, "partial duplicate detection"⟩,
    if (classification.entropyBitsPerByte.any fun entropy =>
          isBelow entropy (157 / 20)) && !classification.likelyCompressed then
      ⟨"zstd", false, .low, "sample entropy suggests compressibility"⟩
    else
      ⟨"dedupe_only_or_exact_store", true, .low,
        "compression unlikely or unsafe"⟩,
    ⟨"manifest", true, .low, "record restoration and audit path"⟩,
    ⟨"verify_restore", true, .low, "exact contract requires restore proof"⟩]

/-- A plan that stores nothing gets an exact store as its second action. -/
def withExactFallback (actions : List PlanAction) : List PlanAction :=
  let fallback : PlanAction :=
    ⟨"store_exact_bytes", true, .low, "policy-safe exact fallback"⟩
  if actions.any fun action => action.type ∈ ["content_defined_chunk",
      "fixed_chunk", "store_exact_ciphertext", "store_exact_bytes"] then actions
  else
    match actions with
    | [] => [fallback]
    | first :: rest => first :: fallback :: rest

/-- `_plan_id`. -/
def planId (workUnit : WorkUnit) (actions : List PlanAction) (mode : Mode) :
    String :=
  let hash := stableJsonHash (.dict [("work_unit_id", .str workUnit.id),
    ("kind", .str workUnit.kind.value),
    ("actions", texts (actions.map PlanAction.type)),
    ("mode", .str mode.value)])
  "pl_" ++ String.ofList (hash.toList.take 24)

/-- The plan of these actions; `expectation` names what it may reduce. -/
def planOf (host : Host) (workUnit : WorkUnit) (mode : Mode)
    (classification : Classification) (decision : PolicyDecision)
    (actions : List PlanAction) (risk : Risk)
    (expectation : List (String × Value)) (fallback : String) : Plan where
  workUnitId := workUnit.id
  contract := decision.contract
  actions := actions
  tenant := workUnit.tenant
  planId := planId workUnit actions mode
  traceId := workUnit.traceId
  mode := mode
  policyBundleId := decision.policyBundleId
  risk := risk
  expected := .ofList (expectation ++
    [("denied_actions", texts decision.deniedActions),
      ("matched_rules", texts decision.matchedRules),
      ("required_verifiers", texts decision.requiredVerifiers)] ++
    host.scorePlan workUnit actions classification decision)
  fallback := fallback

/-- The plan of an AI request. -/
def planRequest (host : Host) (workUnit : WorkUnit) (mode : Mode)
    (classification : Classification) (decision : PolicyDecision)
    (actions : List PlanAction) (expectation : List (String × Value))
    (fallback : String) : Except PyException Plan := do
  let filtered ← filterActions decision mode actions
  validatePlanActions decision.contract
    (decision.deniedActions.filter (· ∈ filtered.map PlanAction.type)) filtered
  .ok (planOf host workUnit mode classification decision filtered .medium
    expectation fallback)

def planWorkUnit (host : Host) (workUnit : WorkUnit) (mode : Mode)
    (bundle : Option PolicyBundle) (given : Option PolicyDecision) :
    Except PyException Plan := do
  let classification := classify host workUnit
  let decision ← match given with
    | some decision => .ok decision
    | none => evaluatePolicy workUnit bundle
  match workUnit.kind with
  | .embeddingRequest =>
      planRequest host workUnit mode classification decision embeddingActions
        [("embedding_recompute_avoided_possible", .bool true)]
        "call_baseline_embedding_provider"
  | .promptRequest =>
      planRequest host workUnit mode classification decision promptActions
        [("tokens_avoided_possible", .bool true),
          ("large_model_calls_avoided_possible", .bool true)]
        "call_baseline_model_provider"
  | _ => do
      let filtered ← filterActions decision mode (objectActions classification)
      let actions := withExactFallback filtered
      validatePlanActions decision.contract [] actions
      .ok (planOf host workUnit mode classification decision actions .low
        [("stored_bytes_reduction_possible",
          .bool !classification.likelyEncrypted)]
        "store_exact_bytes")

end Urp
