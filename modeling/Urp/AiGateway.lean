import Urp.AiRequests
import Urp.Planner
import Urp.World

/-!
# The AI gateway

`handle_chat_completion`: a request is admitted by its policy, answered from
one of the two caches or by the provider, and its answer is verified before a
manifest is written.
-/

namespace Urp

open Python

/-! ## State -/

structure ProviderCall where
  request : Object
  model : String
  reply : Except PyException Value

/-- What a provider replies may depend on all that it was asked before. -/
abbrev ChatProvider : Type :=
  List ProviderCall → Object → String → Except PyException Value

/-- The two caches that requests share. -/
structure Caches where
  exact : CacheBackend := .memory ∅
  semantic : SemanticCache := {}

/-- The state directory, the caches, and the calls that the provider got. -/
structure Gateway where
  world : World := {}
  caches : Caches := {}
  feedback : List RouteFeedback := []
  calls : List ProviderCall := []

namespace Gateway

def supply (gateway : Gateway) : Supply := gateway.world.supply

def worldLens : Lens Gateway World where
  get gateway := gateway.world
  set gateway world := { gateway with world }
  get_set _ _ := rfl

def exactLens : Lens Gateway CacheState where
  get gateway := ⟨gateway.caches.exact, gateway.world.ledger.supply⟩
  set gateway state := { gateway with
    caches := { gateway.caches with exact := state.backend }
    world := World.supplyLens.set gateway.world state.supply }
  get_set _ _ := rfl

def semanticLens : Lens Gateway SemanticState where
  get gateway := ⟨gateway.caches.semantic, gateway.world.ledger.supply⟩
  set gateway state := { gateway with
    caches := { gateway.caches with semantic := state.cache }
    world := World.supplyLens.set gateway.world state.supply }
  get_set _ _ := rfl

end Gateway

/-! ## Admission -/

/-- What a handler makes its work unit of. -/
structure AiRequest where
  session : Session
  mode : Mode
  tenant : String
  nameSpace : String
  kind : WorkUnitKind
  logicalRef : String
  payload : Value
  contract : Contract
  metadata : Object
  policyContext : Object := ∅
  /-- The caller's bundle, and the name that a client asks for otherwise. -/
  bundle : Option PolicyBundle
  bundleName : Value

/-- The work unit with these identifiers and time. -/
def AiRequest.workUnit (request : AiRequest)
    (traceId id createdAt : String) : WorkUnit where
  kind := request.kind
  tenant := request.tenant
  logicalRef := request.logicalRef
  payload := request.payload
  requestedContract := some request.contract
  nameSpace := request.nameSpace
  metadata := request.metadata
  policyContext := request.policyContext
  traceId := traceId
  id := id
  createdAt := createdAt

/-- A work unit with the bundle that governs it, its decision and its plan. -/
structure Admission where
  workUnit : WorkUnit
  bundle : Option PolicyBundle
  policy : PolicyDecision
  plan : Plan

/-- `resolve_active_policy_bundle` of an untyped name. -/
def resolveNamedBundle (session : Session) (name : Value) :
    Program PolicyFiles PyException (Option PolicyBundle) :=
  match name with
  | .str text => resolveActivePolicyBundle session (some text)
  | name =>
      if name.isTruthy then do
        let _ ← PolicyBundleStore.readActive
        match name with
        | .list _ | .dict _ => Program.raise .typeError
        | _ => return none
      else resolveActivePolicyBundle session none

section Admission

variable (host : Host)

def newWorkUnit (request : AiRequest) :
    Program Supply PyException WorkUnit := do
  let traceId ← host.newId "tr"
  let id ← host.newId "wu"
  let createdAt ← host.utcNow
  return request.workUnit traceId id createdAt

/-- The bundle that governs the request. -/
def governingBundle (request : AiRequest) :
    Program PolicyFiles PyException (Option PolicyBundle) :=
  match request.bundle with
  | some bundle => return some bundle
  | none => resolveNamedBundle request.session request.bundleName

/-- An event of the admitted work unit. -/
def aiEvent (admission : Admission) (eventType : String)
    (details : Object := ∅) : LedgerEvent where
  eventType := eventType
  tenant := admission.workUnit.tenant
  workUnitId := some admission.workUnit.id
  policyBundleId := some admission.policy.policyBundleId
  details := details
  traceId := some admission.workUnit.traceId

/-- `_require_ai_approval`. -/
def requireAiApproval (admission : Admission) :
    Program World PyException Unit :=
  let workUnit := admission.workUnit
  let policy := admission.policy
  let approvalId := workUnit.policyContext.get "approval_id"
  if !policy.requireApproval then return ()
  else if approvalId.isTruthy then
    verifyApproval host (host.str approvalId) workUnit policy
  else
    Program.raise (policyDenied "policy requires an approved approval_id"
      (some workUnit.id) (some policy.policyBundleId))

/-- The decision and the plan of a new work unit. -/
def decideAi (request : AiRequest) : Program World PyException Admission := do
  let workUnit ← Program.focus World.supplyLens (newWorkUnit host request)
  let bundle ← Program.focus World.policiesLens (governingBundle request)
  let policy ← Program.lift (evaluatePolicy workUnit bundle)
  let plan ← Program.lift
    (planWorkUnit host workUnit request.mode bundle (some policy))
  return { workUnit, bundle, policy, plan }

/-- The approval, the events and the plan. -/
def admitAi (session : Session) (admission : Admission) :
    Program World PyException Unit := do
  requireAiApproval host admission
  record host session (aiEvent admission "work_unit.received")
  record host session
    { aiEvent admission "policy.evaluated" admission.policy.toDict with
      decision := some admission.policy.contract.value }
  storePlanWithAudit host session admission.plan admission.workUnit

/-- What both handlers do before they look for an answer. -/
def intake (request : AiRequest) : Program World PyException Admission := do
  let admission ← decideAi host request
  admitAi host request.session admission
  return admission

/-- Put the manifest and record that it was written. -/
def putManifest (session : Session) (admission : Admission)
    (manifest : Manifest) : Program World PyException Unit := do
  Program.focus World.manifestsLens
    (FileManifestStore.put host session manifest)
  record host session
    { aiEvent admission "manifest.written" with
      manifestId := some manifest.manifestId }

/-- `_cacheable_until` with the seconds that the options give. -/
def cacheableUntil (mode : Mode) (ttl : Option ℚ) :
    Program Supply PyException (Option String) :=
  match ttl.filter (0 < ·) with
  | some seconds =>
      if mode = .enforce then do
        let now ← host.now
        return some (host.isoformat (now + seconds))
      else return none
  | none => return none

end Admission

section Records

variable (host : Host)

/-- `cache.put` of an entry that expires after `ttl` seconds. -/
def putExpiring (ttl : ℚ) (entry : CacheEntry) :
    Program CacheState PyException Unit := do
  let now ← Program.focus CacheState.supplyLens host.now
  URPCache.put host { entry with expiresAt := some (now + ttl) }

/-- `RouteFeedbackStore.record`. -/
def recordFeedback (workUnit : WorkUnit) (route : ModelRoute)
    (verifierPassed : Bool) : Program Gateway PyException Unit := do
  let createdAt ← Program.focus Gateway.worldLens
    (Program.focus World.supplyLens host.utcNow)
  let row : RouteFeedback :=
    { createdAt
      workUnitId := workUnit.id
      tenant := workUnit.tenant
      nameSpace := workUnit.nameSpace
      model := route.model
      reason := route.reason
      score := route.score
      verifierPassed }
  Program.modify fun g => { g with feedback := g.feedback ++ [row] }

end Records

/-- The manifest state for each mode. -/
def Mode.manifestState : Mode → ManifestState
  | .enforce => .active
  | .observe => .planned
  | .shadow => .superseded

/-! ## Chat requests -/

/-- The arguments of `handle_chat_completion`. -/
structure ChatCall where
  session : Session := {}
  request : Object
  tenant : String := "local"
  nameSpace : String := "default"
  bundle : Option PolicyBundle := none
  requestedMode : Option String := none

/-- What the arguments alone determine. -/
structure ChatSetup where
  mode : Mode
  normalized : NormalizedRequest
  fingerprints : Finset String
  contract : Contract

/-- A request that its policy admitted, with its compiled context and its time
to live. -/
structure Chat where
  call : ChatCall
  setup : ChatSetup
  admission : Admission
  compiled : CompiledContext
  compiledMessages : List Object
  ttl : Option ℚ

inductive CacheResult where
  | exactHit
  | semanticHit
  | miss
  deriving DecidableEq, Repr

def CacheResult.value : CacheResult → String
  | exactHit => "exact_hit"
  | semanticHit => "semantic_hit"
  | miss => "miss"

/-- The response, where it comes from, and why a first answer was refused. -/
structure Served where
  response : Value
  cacheResult : CacheResult
  fallback : Option String := none
  semanticHitScore : Option Decimal := none

namespace Served

/-- The provider was called. -/
def providerCalled (served : Served) : Bool := served.cacheResult = .miss

-- A served response is a dictionary: its check reads an entry of it.
def entries (served : Served) : List (String × Value) :=
  served.response.entries?.getD []

/-- `response.get(key, default)`. -/
def getD (served : Served) (key : String) (default : Value) : Value :=
  Value.getD served.entries key default

/-- The response with the gateway's own entry. -/
def withUrp (served : Served) (urp : List (String × Value)) : Value :=
  .dict (Entries.insert served.entries "urp" (.dict urp))

/-- `response.get("model") == "frontier"` after a call of the provider. -/
def largeModelCalled (served : Served) : Bool :=
  served.providerCalled &&
    (served.getD "model" .none).string? == some "frontier"

end Served

namespace ChatCall

variable (host : Host) (call : ChatCall)

def setup : Except PyException ChatSetup := do
  let mode ← executionMode call.session call.requestedMode
  requireExecutionEnabled call.session none
  let normalized ← normalizeOpenaiRequest host call.request
  let fingerprints ← sourceFingerprints host normalized
  let contract ← contractOf (host.str (normalized.options.getD "contract"
    (.str Contract.semantic.value)))
  .ok { mode, normalized, fingerprints, contract }

/-- `urp_options.get("allow_semantic_cache") is True`. -/
def allowsSemanticCache (setup : ChatSetup) : Bool :=
  (setup.normalized.options.get "allow_semantic_cache").isTrue

def aiRequest (setup : ChatSetup) : AiRequest where
  session := call.session
  mode := setup.mode
  tenant := call.tenant
  nameSpace := call.nameSpace
  kind := .promptRequest
  logicalRef := "openai://chat/completions"
  payload := .dict
    [("request_hash", .str (stableJsonHash setup.normalized.data.toValue)),
      ("messages_count", .int setup.normalized.messages.length),
      ("routing_text", .str (lastUserText host setup.normalized.messages))]
  contract := setup.contract
  metadata := .ofList
    [("source_fingerprints", fingerprintsValue setup.fingerprints)]
  policyContext :=
    let approvalId := setup.normalized.options.get "approval_id"
    .ofList (("allow_semantic_cache", .bool (allowsSemanticCache setup)) ::
      if approvalId.isTruthy then [("approval_id", approvalId)] else [])
  bundle := call.bundle
  bundleName := setup.normalized.options.get "policy_bundle_id"

/-- `int(urp_options.get("max_context_tokens", 4000))`. -/
def maxContextTokens (setup : ChatSetup) : Except PyException Int :=
  intOf host (setup.normalized.options.getD "max_context_tokens" (.int 4000))

/-- The context and the time to live of an admitted request. -/
def admitted (setup : ChatSetup) (admission : Admission) :
    Except PyException Chat := do
  let maxTokens ← maxContextTokens host setup
  let (compiled, compiledMessages) :=
    compileOpenaiMessages host setup.normalized.messages maxTokens
  let ttl ← cacheTtlSeconds host setup.normalized.options
  .ok { call, setup, admission, compiled, compiledMessages, ttl }

end ChatCall

namespace Chat

variable (host : Host) (chat : Chat)

def policy : PolicyDecision := chat.admission.policy

/-- Whether an enforced plan has the action. -/
def performs (action : String) : Bool :=
  chat.setup.mode = .enforce && action ∈ chat.admission.plan.actionNames

def routingText : String := lastUserText host chat.setup.normalized.messages

def cacheKey : String :=
  URPCache.exactKey chat.call.tenant chat.call.nameSpace
    chat.setup.normalized.data.toValue chat.setup.fingerprints

/-- The time to live where it is positive. -/
def positiveTtl : Option ℚ := chat.ttl.filter (0 < ·)

def contextApplied : Bool := chat.performs "context_compile"

/-- The request that the provider gets first. -/
def providerRequest : Object :=
  if chat.contextApplied then
    chat.setup.normalized.data.insert "messages"
      (.list (chat.compiledMessages.map Object.toValue))
  else chat.setup.normalized.data

def exactCacheEnabled : Bool :=
  chat.positiveTtl.isSome && chat.performs "exact_cache_lookup"

def semanticCacheEnabled : Bool :=
  chat.performs "semantic_cache_lookup" &&
    ChatCall.allowsSemanticCache chat.setup && chat.positiveTtl.isSome &&
    chat.policy.contract = .semantic

/-- The model that the provider is asked for first. -/
def firstModel (route : ModelRoute) : Except PyException String :=
  if chat.performs "model_route" then .ok route.model
  else baselineModel host chat.setup.normalized.data chat.policy.modelAllowlist

/-- The verifiers that the decision requires of a response. -/
def verifyRequired (response : Value) : Except PyException Unit :=
  verifyRequiredAiVerifiers host chat.policy.requiredVerifiers
    (verifyChatResponse host response) response chat.setup.fingerprints
    chat.admission.workUnit.id

def event (eventType : String) (details : Object := ∅) : LedgerEvent :=
  aiEvent chat.admission eventType details

def keyDetails : Object := .ofList [("cache_key", .str chat.cacheKey)]

end Chat

section Lookup

variable (host : Host) (chat : Chat)

def recordChat (event : LedgerEvent) : Program Gateway PyException Unit :=
  Program.focus Gateway.worldLens (record host chat.call.session event)

/-- A cached response that fails its check is deleted. -/
def exactLookup : Program Gateway PyException (Option Value) :=
  if chat.exactCacheEnabled then do
    let cached ← Program.focus Gateway.exactLens
      (URPCache.get host chat.cacheKey chat.call.tenant chat.call.nameSpace
        (some chat.setup.fingerprints))
    match cached with
    | .none => return none
    | response =>
        if (verifyChatResponse host response).accepted then
          return some response
        else do
          Program.focus Gateway.exactLens (URPCache.delete chat.cacheKey)
          return none
  else return none

/-- `float(urp_options.get("semantic_cache_threshold", default))`. -/
def semanticThreshold (default : ℚ) : Except PyException (Option Number) :=
  match chat.setup.normalized.options.lookup "semantic_cache_threshold" with
  | some value => floatOf host value
  | none => .ok (some (.finite default))

def semanticLookup : Program Gateway PyException (Option SemanticCacheHit) :=
  if chat.semanticCacheEnabled then do
    let gateway ← Program.get
    let threshold ← Program.lift
      (semanticThreshold host chat gateway.caches.semantic.threshold)
    Program.focus Gateway.semanticLens
      (SemanticCache.lookupHit host chat.call.tenant chat.call.nameSpace
        (chat.routingText host) chat.setup.fingerprints threshold
        (verifyChatResponse host))
  else return none

end Lookup

section Answer

variable (host : Host) (provider : ChatProvider) (chat : Chat)

/-- `provider.chat(request, model)`. -/
def askProvider (request : Object) (model : String) :
    Program Gateway PyException Value := do
  let gateway ← Program.get
  let reply := provider gateway.calls request model
  Program.modify fun g =>
    { g with calls := g.calls ++ [⟨request, model, reply⟩] }
  Program.lift reply

/-- The provider's answer; a first one that is refused falls back. -/
def askWithFallback (route : ModelRoute) :
    Program Gateway PyException (Value × Option String) := do
  let model ← Program.lift (chat.firstModel host route)
  let response ← askProvider provider chat.providerRequest model
  let verification := verifyChatResponse host response
  if verification.accepted then return (response, none)
  else do
    recordChat host chat (chat.event "ai.fallback.invoked" verification.toDict)
    let model ← Program.lift
      (fallbackModel route.fallbackModel chat.policy.modelAllowlist)
    let response ← askProvider provider chat.setup.normalized.data model
    return (response, some verification.reason)

def storeExact (response : Value) : Program Gateway PyException Unit :=
  match chat.positiveTtl with
  | some ttl =>
      if chat.performs "cache_store" then
        Program.focus Gateway.exactLens (putExpiring host ttl {
          key := chat.cacheKey
          tenant := chat.call.tenant
          nameSpace := chat.call.nameSpace
          value := response
          sourceFingerprints := chat.setup.fingerprints
          verifierPassed := true })
      else return ()
  | none => return ()

def storeSemantic (response : Value) : Program Gateway PyException Unit :=
  match chat.positiveTtl with
  | some ttl =>
      if chat.semanticCacheEnabled then do
        let _ ← Program.focus Gateway.semanticLens
          (SemanticCache.store host chat.call.tenant chat.call.nameSpace
            (chat.routingText host) response chat.setup.fingerprints
            (verifyChatResponse host response) ttl)
        return ()
      else return ()
  | none => return ()

/-- A verified answer is stored, another is refused. -/
def acceptAnswer (response : Value) : Program Gateway PyException Unit := do
  let verification := verifyChatResponse host response
  if verification.accepted then do
    Program.lift (chat.verifyRequired host response)
    storeExact host chat response
    storeSemantic host chat response
  else do
    recordChat host chat (chat.event "verifier.failed" verification.toDict)
    Program.raise (verifierFailed "AI verifier failed after fallback"
      chat.admission.workUnit.id verification.toDict)

/-- Accept the answer and record how the request was routed. -/
def settle (route : ModelRoute) (response : Value)
    (fallback : Option String) : Program Gateway PyException Served := do
  acceptAnswer host chat response
  let served : Served := { response, cacheResult := .miss, fallback }
  recordChat host chat (chat.event "cache.exact.miss" chat.keyDetails)
  recordChat host chat (chat.event "ai.model.routed"
    (.ofList [("route", .str route.model),
      ("final_model", served.getD "model" .none),
      ("fallback_used", .bool fallback.isSome),
      ("reason", .str route.reason)]))
  recordFeedback host chat.admission.workUnit route true
  return served

/-- The answer of the provider. -/
def answer (route : ModelRoute) : Program Gateway PyException Served := do
  let (response, fallback) ← askWithFallback host provider chat route
  settle host chat route response fallback

/-- An answer from a cache, or the provider's. -/
def serve : Program Gateway PyException Served := do
  let cached ← exactLookup host chat
  let route ← Program.lift
    (routeModel host chat.policy.modelAllowlist (chat.routingText host))
  match cached with
  | some response => do
      recordChat host chat (chat.event "cache.exact.hit" chat.keyDetails)
      return { response, cacheResult := .exactHit }
  | none => do
      match ← semanticLookup host chat with
      | some hit => do
          recordChat host chat (chat.event "ai.semantic_cache.accepted"
            (.ofList [("source_fingerprints_match", .bool true),
              ("score", .float (.finite hit.score)),
              ("cache_key", .str hit.key)]))
          return {
            response := hit.value
            cacheResult := .semanticHit
            semanticHitScore := some hit.score }
      | none => answer host provider chat route

end Answer

section Finish

variable (host : Host) (chat : Chat) (served : Served)

def computeManifestOf (cacheableUntil : Option String) : ComputeManifest :=
  let options := chat.setup.normalized.options
  { requestHash := stableJsonHash chat.setup.normalized.data.toValue
    tenant := chat.call.tenant
    inputTokens := approximateTokens
      (host.str (chat.setup.normalized.data.getD "messages" (.str "")))
    qualityRequired := options.getD "quality" (.str "standard")
    latencyBudgetMs := options.getD "latency_budget_ms" (.int 0)
    freshnessRequiredSeconds :=
      options.getD "freshness_required_seconds" (.int 0)
    contextTokensBefore := chat.compiled.tokensBefore
    contextTokensAfter := chat.compiled.tokensAfter
    contextApplied := chat.contextApplied
    selectedModel := served.getD "model" (.str "mock")
    mode := chat.setup.mode
    acceptedByVerifier := (verifyChatResponse host served.response).accepted
    fallbackUsed := served.fallback.isSome
    fallbackReason := served.fallback.getD ""
    largeModelCalled := served.largeModelCalled
    cacheableUntil
    estimatedJoulesAvoided := if served.providerCalled then 0 else 1 }

def chatManifest (record : ComputeManifest) (manifestId createdAt : String) :
    Manifest where
  workUnitId := chat.admission.workUnit.id
  tenant := chat.call.tenant
  kind := .promptRequest
  contract := chat.policy.contract
  logicalRef := chat.admission.workUnit.logicalRef
  state := chat.setup.mode.manifestState
  nameSpace := chat.call.nameSpace
  traceId := chat.admission.workUnit.traceId
  policy := chat.policy
  classification := .ofList
    [("ai_task_hint", .str "general"), ("raw_prompt_logged", .bool false)]
  physical := .compute record
    (stableJsonHash chat.setup.normalized.data.toValue) chat.cacheKey
    served.cacheResult.value (served.semanticHitScore.map Decimal.toRat)
  plan := chat.admission.plan
  verification := verifyChatResponse host served.response
  telemetry :=
    let removable : Int := chat.compiled.tokensBefore - chat.compiled.tokensAfter
    .ofList [("mode", .str chat.setup.mode.value),
      ("tokens_removed", .int (if chat.contextApplied then removable else 0)),
      ("tokens_removable", .int removable),
      ("provider_called", .bool served.providerCalled)]
  manifestId := manifestId
  createdAt := createdAt

/-- The compute manifest is checked before the manifest is made. -/
def writeChatManifest : Program World PyException Manifest := do
  let cacheable ← Program.focus World.supplyLens
    (cacheableUntil host chat.setup.mode chat.ttl)
  let record := computeManifestOf host chat served cacheable
  Program.lift (validateComputeManifest record)
  let manifestId ← Program.focus World.supplyLens (host.newId "mf")
  let createdAt ← Program.focus World.supplyLens host.utcNow
  let manifest := chatManifest host chat served record manifestId createdAt
  putManifest host chat.call.session chat.admission manifest
  return manifest

def chatReply (manifest : Manifest) : Value :=
  served.withUrp
    [("work_unit_id", .str chat.admission.workUnit.id),
      ("manifest_id", .str manifest.manifestId),
      ("cache", .str served.cacheResult.value),
      ("route", served.getD "model" (.str "mock")),
      ("fallback_used", .bool served.fallback.isSome),
      ("verifier",
        .str (verifyChatResponse host served.response).verifierId),
      ("mode", .str chat.setup.mode.value),
      ("context_applied", .bool chat.contextApplied),
      ("trace_id", .str chat.admission.workUnit.traceId)]

/-- Verify what is served once more, and write the manifest. -/
def finish : Program Gateway PyException Value := do
  Program.lift (chat.verifyRequired host served.response)
  let manifest ← Program.focus Gateway.worldLens
    (writeChatManifest host chat served)
  return chatReply host chat served manifest

end Finish

/-- What happens before an answer is looked for. -/
def prepareChat (host : Host) (call : ChatCall) :
    Program Gateway PyException Chat := do
  let setup ← Program.lift (call.setup host)
  let admission ← Program.focus Gateway.worldLens
    (intake host (call.aiRequest host setup))
  Program.lift (call.admitted host setup admission)

def handleChatCompletion (host : Host) (provider : ChatProvider)
    (call : ChatCall) : Program Gateway PyException Value := do
  let chat ← prepareChat host call
  let served ← serve host provider chat
  finish host chat served

end Urp
