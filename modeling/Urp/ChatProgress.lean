import Urp.GatewaySteps
import Urp.Progress

/-!
# Chat requests that return

From a healthy world, a request that its decision admits without an approval
is prepared, and a verified response of it gets its manifest.
-/

namespace Urp

open Python Program

section Admission

variable {host : Host} (reliable : host.Reliable)

include reliable

/-- The events and the plan of a decision that asks for no approval. -/
theorem proceeds_admitAi {session : Session} {admission : Admission}
    {mode : Mode}
    (planned : planWorkUnit host admission.workUnit mode admission.bundle
      (some admission.policy) = .ok admission.plan)
    (unapproved : admission.policy.requireApproval = false)
    (admitted : requireTenant session admission.workUnit.tenant = .ok ())
    (tenant : admission.workUnit.tenant ≠ "") {world : World}
    (healthy : world.Healthy) :
    Proceeds 3 (admitAi host session admission) world := by
  have passes : requireAiApproval host admission = ret () := by
    simp only [requireAiApproval, unapproved]
    rfl
  have received : (aiEvent admission "work_unit.received").Recordable
      session := ⟨admitted, tenant, ⟨rfl, rfl⟩⟩
  have evaluated : LedgerEvent.Recordable session
      { aiEvent admission "policy.evaluated" admission.policy.toDict with
        decision := some admission.policy.contract.value } :=
    ⟨admitted, tenant, admission.policy.isPlain_toDict⟩
  unfold admitAi
  rw [passes, ret_bind]
  change Proceeds (1 + (1 + 1)) _ world
  apply proceeds_bind (proceeds_record reliable received healthy)
  intro _ _ healthy _
  apply proceeds_bind (proceeds_record reliable evaluated healthy)
  intro _ _ healthy _
  exact proceeds_storePlanWithAudit reliable planned admitted tenant healthy

end Admission

/-! ## The policies stay -/

section Policies

variable (host : Host) (session : Session)

theorem frames_policies_storePlanWithAudit (plan : Plan) (workUnit : WorkUnit) :
    Frames World.policies (storePlanWithAudit host session plan workUnit) := by
  refine frames_bind ?_ fun _ => beside_policies.record host session _
  refine frames_bind (frames_lift _) fun _ => ?_
  refine frames_bind (frames_lift _) fun planId => ?_
  exact frames_modify fun _ => rfl

theorem frames_policies_admitAi (admission : Admission) :
    Frames World.policies (admitAi host session admission) := by
  refine frames_bind ?_ fun _ => ?_
  · apply frames_ite
    · exact frames_ret _
    · apply frames_ite
      · exact beside_policies.verifyApproval host _ _ _
      · exact frames_raise _
  · refine frames_bind (beside_policies.record host session _) fun _ => ?_
    refine frames_bind (beside_policies.record host session _) fun _ => ?_
    exact frames_policies_storePlanWithAudit host session _ _

end Policies

/-- The world stays healthy under the same policies. -/
structure World.GoesOn (world : World) (drawn : Nat) (later : World) : Prop where
  healthy : later.Healthy
  policies : later.policies = world.policies
  nextId : later.supply.nextId = world.supply.nextId + drawn

theorem World.GoesOn.trans {first second third : World} {early late : Nat}
    (start : first.GoesOn early second) (rest : second.GoesOn late third) :
    first.GoesOn (early + late) third := by
  constructor
  · exact rest.healthy
  · exact rest.policies.trans start.policies
  · rw [rest.nextId, start.nextId, Nat.add_assoc]

/-- What proceeds with the same policies goes on. -/
theorem Proceeds.returns {α : Type} {body : Program World PyException α}
    {drawn : Nat} {world : World} (proceeds : Proceeds drawn body world)
    (framed : Frames World.policies body) :
    Returns body world fun _ later => world.GoesOn drawn later := by
  apply ((Ensures.and proceeds (framed.ensures world)).mono
    (fun _ _ both => both) (fun _ _ both => both.1)).returns.mono
  rintro _ later ⟨⟨healthy, nextId⟩, policies⟩
  exact ⟨healthy, policies, nextId⟩

/-! ## Admissible requests -/

/-- A request that this decision admits without an approval, with a plan of
these actions. -/
structure AiRequest.Admissible (host : Host) (request : AiRequest)
    (bundle : Option PolicyBundle) (policy : PolicyDecision)
    (actions : List String) : Prop where
  tenant : request.tenant ≠ ""
  admitted : requireTenant request.session request.tenant = .ok ()
  evaluates : ∀ traceId id createdAt,
    evaluatePolicy (request.workUnit traceId id createdAt) bundle = .ok policy
  unapproved : policy.requireApproval = false
  plans : ∀ traceId id createdAt, ∃ plan,
    planWorkUnit host (request.workUnit traceId id createdAt) request.mode
        bundle (some policy) = .ok plan ∧
      plan.actionNames = actions

/-- What an admissible request becomes. -/
structure AiRequest.Decided (host : Host) (request : AiRequest)
    (bundle : Option PolicyBundle) (policy : PolicyDecision)
    (actions : List String) (supply : Supply) (admission : Admission) :
    Prop where
  workUnit_eq : ∃ createdAt, admission.workUnit = request.workUnit
    (host.idText "tr" supply.nextId) (host.idText "wu" (supply.nextId + 1))
      createdAt
  bundle_eq : admission.bundle = bundle
  policy_eq : admission.policy = policy
  actions_eq : admission.plan.actionNames = actions

section Intake

variable {host : Host} {request : AiRequest} {bundle : Option PolicyBundle}
  {policy : PolicyDecision} {actions : List String}

theorem AiRequest.Admissible.decideAi
    (admissible : request.Admissible host bundle policy actions)
    {world : World}
    (resolved : governingBundle request world.policies =
      (.ok bundle, world.policies)) :
    ∃ admission later, decideAi host request world = (.ok admission, later) ∧
      later = World.supplyLens.set world
        ⟨world.supply.nextId + 2, world.supply.tick + 1⟩ ∧
      request.Decided host bundle policy actions world.supply admission ∧
      planWorkUnit host admission.workUnit request.mode admission.bundle
        (some admission.policy) = .ok admission.plan := by
  let workUnit := request.workUnit (host.idText "tr" world.supply.nextId)
    (host.idText "wu" (world.supply.nextId + 1))
    (host.isoformat (host.clock world.supply.tick))
  let later := World.supplyLens.set world
    ⟨world.supply.nextId + 2, world.supply.tick + 1⟩
  obtain ⟨plan, planned, same⟩ := admissible.plans
    (host.idText "tr" world.supply.nextId)
    (host.idText "wu" (world.supply.nextId + 1))
    (host.isoformat (host.clock world.supply.tick))
  have made : focus World.supplyLens (newWorkUnit host request) world =
      (.ok workUnit, later) := rfl
  have governed : focus World.policiesLens (governingBundle request) later =
      (.ok bundle, later) := by
    unfold focus
    rw [show World.policiesLens.get later = world.policies from rfl, resolved]
    rfl
  refine ⟨⟨workUnit, bundle, policy, plan⟩, later, ?_, rfl,
    ⟨⟨_, rfl⟩, rfl, rfl, same⟩, planned⟩
  unfold Urp.decideAi
  rw [bind_ok made, bind_ok governed, admissible.evaluates, lift_ok_bind, planned,
    lift_ok_bind]
  rfl

/-- An admissible request is admitted. -/
theorem AiRequest.Admissible.intake (reliable : host.Reliable)
    (admissible : request.Admissible host bundle policy actions)
    {world : World} (healthy : world.Healthy)
    (resolved : governingBundle request world.policies =
      (.ok bundle, world.policies)) :
    Returns (intake host request) world fun admission later =>
      world.GoesOn 5 later ∧
        request.Decided host bundle policy actions world.supply admission := by
  obtain ⟨admission, decided, run, rfl, decision, planned⟩ :=
    admissible.decideAi resolved
  obtain ⟨createdAt, workUnit⟩ := decision.workUnit_eq
  have unapproved : admission.policy.requireApproval = false := by
    rw [decision.policy_eq]
    exact admissible.unapproved
  have admitted : requireTenant request.session admission.workUnit.tenant =
      .ok () := by
    rw [workUnit]
    exact admissible.admitted
  have tenant : admission.workUnit.tenant ≠ "" := by
    rw [workUnit]
    exact admissible.tenant
  let drawn : World := World.supplyLens.set world
    ⟨world.supply.nextId + 2, world.supply.tick + 1⟩
  have stillHealthy : drawn.Healthy := healthy
  have admits := (proceeds_admitAi reliable planned unapproved admitted tenant
    stillHealthy).returns (frames_policies_admitAi host request.session admission)
  have decides : Returns (Urp.decideAi host request) world fun value later =>
      value = admission ∧ later = drawn := ⟨_, _, run, rfl, rfl⟩
  unfold Urp.intake
  apply decides.bind
  rintro _ _ ⟨rfl, rfl⟩
  apply admits.bind
  intro _ later on
  apply returns_ret
  exact ⟨⟨on.healthy, on.policies, on.nextId⟩, decision⟩

end Intake

theorem resolveActivePolicyBundle_unpublished (session : Session)
    (policyName : Option String) :
    resolveActivePolicyBundle session policyName {} = (.ok none, {}) := by
  have none : PolicyBundleStore.activeForWorkUnit session policyName {} =
      (.ok none, {}) := by
    change (if PolicyBundleStore.selectedName session policyName ≠ "" then
      ret none else ret none : Program PolicyFiles PyException _) {} = _
    rw [ite_self]
    rfl
  unfold resolveActivePolicyBundle
  rw [bind_ok none]
  rfl

/-- Before anything is published, no bundle governs. -/
theorem governingBundle_unpublished {request : AiRequest}
    (absent : request.bundle = none)
    (unnamed : request.bundleName.isTruthy = false) :
    governingBundle request {} = (.ok none, {}) := by
  unfold governingBundle
  rw [absent]
  change resolveNamedBundle request.session request.bundleName {} = _
  generalize request.bundleName = name at unnamed
  cases name with
  | str text => exact resolveActivePolicyBundle_unpublished _ _
  | none | bool b | int n | float f | bytes b | list items | dict entries =>
      simp only [resolveNamedBundle, unnamed]
      exact resolveActivePolicyBundle_unpublished _ _

/-! ## Admissible chat requests -/

/-- A chat request that returns from its preparation. -/
structure ChatCall.Admissible (host : Host) (call : ChatCall)
    (bundle : Option PolicyBundle) (setup : ChatSetup) (policy : PolicyDecision)
    (actions : List String) (ttl : Option ℚ) : Prop where
  setup_run : call.setup host = .ok setup
  request : (call.aiRequest host setup).Admissible host bundle policy actions
  tokens : ∃ maxTokens, ChatCall.maxContextTokens host setup = .ok maxTokens
  lives : cacheTtlSeconds host setup.normalized.options = .ok ttl

/-- What an admissible chat request becomes. -/
structure ChatCall.Decided (host : Host) (call : ChatCall)
    (bundle : Option PolicyBundle) (setup : ChatSetup) (policy : PolicyDecision)
    (actions : List String) (ttl : Option ℚ) (supply : Supply) (chat : Chat) :
    Prop where
  call_eq : chat.call = call
  setup_eq : chat.setup = setup
  admission : (call.aiRequest host setup).Decided host bundle policy actions
    supply chat.admission
  ttl_eq : chat.ttl = ttl

/-- The request goes on in a healthy world, with these caches. -/
structure Gateway.GoesOn (gateway : Gateway) (drawn : Nat) (caches : Caches)
    (later : Gateway) : Prop where
  world : gateway.world.GoesOn drawn later.world
  caches_eq : later.caches = caches

theorem Gateway.GoesOn.trans {first second third : Gateway} {early late : Nat}
    {caches stored : Caches} (start : first.GoesOn early caches second)
    (rest : second.GoesOn late stored third) :
    first.GoesOn (early + late) stored third :=
  ⟨start.world.trans rest.world, rest.caches_eq⟩

section Prepare

variable {host : Host} {call : ChatCall} {bundle : Option PolicyBundle}
  {setup : ChatSetup} {policy : PolicyDecision} {actions : List String}
  {ttl : Option ℚ}

theorem ChatCall.Admissible.prepareChat (reliable : host.Reliable)
    (admissible : call.Admissible host bundle setup policy actions ttl)
    {gateway : Gateway} (healthy : gateway.world.Healthy)
    (resolved : governingBundle (call.aiRequest host setup)
      gateway.world.policies = (.ok bundle, gateway.world.policies)) :
    Returns (prepareChat host call) gateway fun chat later =>
      gateway.GoesOn 5 gateway.caches later ∧
        call.Decided host bundle setup policy actions ttl gateway.supply chat := by
  obtain ⟨maxTokens, bounded⟩ := admissible.tokens
  unfold Urp.prepareChat
  rw [admissible.setup_run, lift_ok_bind]
  apply (admissible.request.intake reliable healthy resolved).focus.bind
  rintro admission _ ⟨later, ⟨on, decided⟩, rfl⟩
  refine ⟨{
      call, setup, admission
      compiled := (compileOpenaiMessages host setup.normalized.messages
        maxTokens).1
      compiledMessages := (compileOpenaiMessages host setup.normalized.messages
        maxTokens).2
      ttl }, Gateway.worldLens.set gateway later, ?_, ⟨on, rfl⟩, rfl, rfl,
    decided, rfl⟩
  simp only [ChatCall.admitted, bounded, admissible.lives, bind, Except.bind]
  rfl

end Prepare

/-! ## Forecasts -/

/-- What the arguments and the bundle determine of an admitted request,
whatever identifiers and times it gets. -/
structure Forecast where
  setup : ChatSetup
  policy : PolicyDecision
  actions : List String
  ttl : Option ℚ

def ChatCall.forecast (host : Host) (call : ChatCall)
    (bundle : Option PolicyBundle) : Except PyException Forecast := do
  let setup ← call.setup host
  let policy ← evaluatePolicy ((call.aiRequest host setup).workUnit "" "" "")
    bundle
  let kept ← filterActions policy setup.mode promptActions
  validatePlanActions policy.contract
    (policy.deniedActions.filter (· ∈ kept.map PlanAction.type)) kept
  let _ ← maxContextTokens host setup
  let ttl ← cacheTtlSeconds host setup.normalized.options
  .ok { setup, policy, actions := kept.map PlanAction.type, ttl }

theorem planRequest_run {host : Host} {workUnit : WorkUnit} {mode : Mode}
    {classification : Classification} {policy : PolicyDecision}
    {actions kept : List PlanAction} {expectation : List (String × Value)}
    {fallback : String} (filtered : filterActions policy mode actions = .ok kept)
    (valid : validatePlanActions policy.contract (policy.deniedActions.filter
      (· ∈ kept.map PlanAction.type)) kept = .ok ()) :
    planRequest host workUnit mode classification policy actions expectation
      fallback = .ok (planOf host workUnit mode classification policy kept
        .medium expectation fallback) := by
  unfold planRequest
  rw [filtered]
  simp only [bind, Except.bind]
  rw [valid]

theorem ChatCall.admissible_of_forecast {host : Host} {call : ChatCall}
    {bundle : Option PolicyBundle} {forecast : Forecast}
    (made : call.forecast host bundle = .ok forecast)
    (unapproved : forecast.policy.requireApproval = false)
    (admitted : requireTenant call.session call.tenant = .ok ())
    (tenant : call.tenant ≠ "") :
    call.Admissible host bundle forecast.setup forecast.policy forecast.actions
      forecast.ttl := by
  obtain ⟨setup, ready, made⟩ := except_bind_eq_ok_iff.mp made
  obtain ⟨policy, evaluated, made⟩ := except_bind_eq_ok_iff.mp made
  obtain ⟨kept, filtered, made⟩ := except_bind_eq_ok_iff.mp made
  obtain ⟨_, valid, made⟩ := except_bind_eq_ok_iff.mp made
  obtain ⟨maxTokens, bounded, made⟩ := except_bind_eq_ok_iff.mp made
  obtain ⟨ttl, lives, made⟩ := except_bind_eq_ok_iff.mp made
  cases made
  refine ⟨ready, ⟨tenant, admitted, ?_, unapproved, ?_⟩, ⟨_, bounded⟩, lives⟩
  · intro traceId id createdAt
    rw [← evaluated]
    apply evaluatePolicy_congr
    exact ⟨rfl, rfl, rfl, rfl, rfl, rfl⟩
  · intro traceId id createdAt
    exact ⟨_, planRequest_run filtered valid, rfl⟩

/-! ## Answers and their manifests -/

/-- A request whose events are recorded. -/
structure Chat.Recordable (chat : Chat) : Prop where
  tenant_eq : chat.admission.workUnit.tenant = chat.call.tenant
  tenant : chat.call.tenant ≠ ""
  admitted : requireTenant chat.call.session chat.call.tenant = .ok ()

theorem ChatCall.Decided.recordable {host : Host} {call : ChatCall}
    {bundle : Option PolicyBundle} {setup : ChatSetup} {policy : PolicyDecision}
    {actions : List String} {ttl : Option ℚ} {supply : Supply} {chat : Chat}
    (decided : call.Decided host bundle setup policy actions ttl supply chat)
    (tenant : call.tenant ≠ "")
    (admitted : requireTenant call.session call.tenant = .ok ()) :
    chat.Recordable := by
  obtain ⟨createdAt, made⟩ := decided.admission.workUnit_eq
  constructor
  · rw [made, decided.call_eq]
    rfl
  · rw [decided.call_eq]
    exact tenant
  · rw [decided.call_eq]
    exact admitted

/-- The default verifier accepts what the shape check accepts. -/
theorem verifyRequired_nonEmptyText {host : Host} {chat : Chat}
    {response : Value}
    (required : chat.policy.requiredVerifiers = ["non_empty_text"])
    (accepted : (verifyChatResponse host response).accepted = true) :
    chat.verifyRequired host response = .ok () := by
  have known : unsupportedVerifiers ["non_empty_text", "fallback_available",
      "source_fingerprint_match", "source_consistency", "freshness_check",
      "answer_citation_check"] ["non_empty_text"] = [] := by decide +kernel
  have names : verifierNames ["non_empty_text"] = ["non_empty_text"] := by
    decide +kernel
  simp [Chat.verifyRequired, required, verifyRequiredAiVerifiers, known, names,
    accepted]

theorem acceptAnswer_unenforced {host : Host} {chat : Chat} {response : Value}
    (mode : chat.setup.mode ≠ .enforce)
    (accepted : (verifyChatResponse host response).accepted = true)
    (required : chat.verifyRequired host response = .ok ()) :
    acceptAnswer host chat response = ret () := by
  have idle : ∀ action, chat.performs action = false := by
    intro action
    simp [Chat.performs, mode]
  have unstored : storeExact host chat response = ret () := by
    unfold storeExact
    split <;> simp [idle]
  have unkept : storeSemantic host chat response = ret () := by
    unfold storeSemantic
    split <;> simp [Chat.semanticCacheEnabled, idle]
  simp only [acceptAnswer, accepted, if_true, required, lift_ok_bind, unstored,
    unkept, ret_bind]

/-- The options that the compute manifest takes over have its types. -/
def ChatSetup.isManifestable (setup : ChatSetup) : Bool :=
  let options := setup.normalized.options
  isString (options.getD "quality" (.str "standard")) &&
    isInteger (options.getD "latency_budget_ms" (.int 0)) &&
    isInteger (options.getD "freshness_required_seconds" (.int 0))

theorem validateComputeManifest_of_manifestable {host : Host} {chat : Chat}
    {served : Served} (manifestable : chat.setup.isManifestable = true)
    (model : isString (served.getD "model" (.str "mock")) = true)
    (cacheable : Option String) :
    validateComputeManifest (computeManifestOf host chat served cacheable) =
      .ok () := by
  simp only [ChatSetup.isManifestable, Bool.and_eq_true] at manifestable
  obtain ⟨⟨quality, latency⟩, freshness⟩ := manifestable
  simp [validateComputeManifest, computeManifestOf, validateNamedSchema,
    quality, latency, freshness, model]

section Answers

variable {host : Host} (reliable : host.Reliable) {chat : Chat}
  {gateway : Gateway}

include reliable

theorem Chat.Recordable.record (recordable : chat.Recordable)
    {eventType : String} {details : Object} (plain : IsPlain details.toValue)
    (healthy : gateway.world.Healthy) :
    Returns (recordChat host chat (chat.event eventType details)) gateway
      fun _ later => gateway.GoesOn 1 gateway.caches later := by
  have taken : LedgerEvent.Recordable chat.call.session
      (chat.event eventType details) := by
    constructor
    · change requireTenant _ chat.admission.workUnit.tenant = _
      rw [recordable.tenant_eq]
      exact recordable.admitted
    · change chat.admission.workUnit.tenant ≠ ""
      rw [recordable.tenant_eq]
      exact recordable.tenant
    · exact plain
  apply ((proceeds_record reliable taken healthy).returns
    (beside_policies.record host _ _)).focus.mono
  rintro _ _ ⟨world, on, rfl⟩
  exact ⟨on, rfl⟩

/-- An accepted answer is settled. -/
theorem Chat.Recordable.settle (recordable : chat.Recordable)
    {route : ModelRoute} {response : Value} {fallback : Option String}
    {stored : Caches} (plain : IsPlain
      (Served.getD ⟨response, .miss, fallback, none⟩ "model" .none))
    (accepted : Returns (acceptAnswer host chat response) gateway
      fun _ later => gateway.GoesOn 0 stored later) :
    Returns (settle host chat route response fallback) gateway
      fun served later => served = ⟨response, .miss, fallback, none⟩ ∧
        gateway.GoesOn 2 stored later := by
  unfold Urp.settle
  apply accepted.bind
  intro _ kept keptOn
  apply (recordable.record reliable (isPlain_ofList (by simp))
    keptOn.world.healthy).bind
  intro _ missed missedOn
  apply (recordable.record reliable (isPlain_ofList (by simp [plain]))
    missedOn.world.healthy).bind
  intro _ routed routedOn
  have fed : Returns (recordFeedback host chat.admission.workUnit route true)
      routed fun _ later => routed.GoesOn 0 routed.caches later :=
    ⟨(), _, rfl, ⟨routedOn.world.healthy, rfl, rfl⟩, rfl⟩
  apply fed.bind
  intro _ later laterOn
  have final := ((keptOn.trans missedOn).trans routedOn).trans laterOn
  apply returns_ret
  refine ⟨rfl, final.world, ?_⟩
  rw [laterOn.caches_eq, routedOn.caches_eq, missedOn.caches_eq,
    keptOn.caches_eq]

/-- A first reply that is accepted is the answer. -/
theorem Chat.Recordable.answer (recordable : chat.Recordable)
    {provider : ChatProvider} {route : ModelRoute} {model : String}
    {response : Value} {stored : Caches}
    (chosen : chat.firstModel host route = .ok model)
    (replied : provider gateway.calls chat.providerRequest model = .ok response)
    (verified : (verifyChatResponse host response).accepted = true)
    (plain : IsPlain (Served.getD ⟨response, .miss, none, none⟩ "model" .none))
    (accepted : ∀ calls, Returns (acceptAnswer host chat response)
      { gateway with calls }
      fun _ later => Gateway.GoesOn { gateway with calls } 0 stored later) :
    Returns (answer host provider chat route) gateway
      fun served later => served = ⟨response, .miss, none, none⟩ ∧
        gateway.GoesOn 2 stored later := by
  unfold Urp.answer
  have asked : Returns (askWithFallback host provider chat route) gateway
      fun answer later => answer = (response, none) ∧
        ∃ calls, later = { gateway with calls } := by
    refine ⟨(response, none), _, ?_, rfl, gateway.calls ++
      [⟨chat.providerRequest, model, .ok response⟩], rfl⟩
    unfold askWithFallback
    rw [chosen, lift_ok_bind]
    have run := askProvider_run provider chat.providerRequest model gateway
    rw [replied] at run
    rw [bind_ok run]
    simp only [verified, if_true]
    rfl
  apply asked.bind
  rintro _ _ ⟨rfl, calls, rfl⟩
  apply (recordable.settle reliable plain (accepted calls)).mono
  rintro served later ⟨rfl, on⟩
  exact ⟨rfl, on.world, on.caches_eq⟩

omit reliable in
theorem returns_cacheableUntil (mode : Mode) (ttl : Option ℚ)
    (supply : Supply) :
    Returns (cacheableUntil host mode ttl) supply
      fun _ later => later.nextId = supply.nextId := by
  unfold cacheableUntil
  split
  · split
    · exact ⟨_, _, rfl, rfl⟩
    · exact returns_ret rfl
  · exact returns_ret rfl

/-- A valid manifest is put, with an event. -/
theorem Chat.Recordable.putManifest (recordable : chat.Recordable)
    {manifest : Manifest} {k : Nat} {seconds : ℚ} {world : World}
    (healthy : world.Healthy) (tenant : manifest.tenant = chat.call.tenant)
    (valid : manifest.physical.validate = .ok ())
    (identified : manifest.manifestId = host.idText "mf" k)
    (identifier : validateIdentifier manifest.manifestId "manifest id" "mf_" =
      .ok manifest.manifestId)
    (created : manifest.createdAt = host.isoformat seconds) :
    Returns (putManifest host chat.call.session chat.admission manifest) world
      fun _ later => world.GoesOn 1 later := by
  have admitted : requireTenant chat.call.session manifest.tenant = .ok () := by
    rw [tenant]
    exact recordable.admitted
  have put := FileManifestStore.put_run reliable admitted valid identified
    identifier created world.manifests
  let event : LedgerEvent := { aiEvent chat.admission "manifest.written" with
    manifestId := some manifest.manifestId }
  have taken : event.Recordable chat.call.session := by
    constructor
    · change requireTenant _ chat.admission.workUnit.tenant = _
      rw [recordable.tenant_eq]
      exact recordable.admitted
    · change chat.admission.workUnit.tenant ≠ ""
      rw [recordable.tenant_eq]
      exact recordable.tenant
    · exact ⟨rfl, rfl⟩
  let stored := World.manifestsLens.set world
    (world.manifests.insert manifest.manifestId manifest.reloaded)
  have stillHealthy : stored.Healthy := healthy
  have placed : Returns (focus World.manifestsLens (FileManifestStore.put host
      chat.call.session manifest)) world fun _ later => later = stored := by
    refine ⟨(), stored, ?_, rfl⟩
    unfold focus
    rw [show World.manifestsLens.get world = world.manifests from rfl, put]
  unfold Urp.putManifest
  apply placed.bind
  rintro _ _ rfl
  apply ((proceeds_record reliable taken stillHealthy).returns
    (beside_policies.record host _ event)).mono
  intro _ later on
  exact ⟨on.healthy, on.policies, on.nextId⟩

/-- The manifest of a verified answer is written. -/
theorem Chat.Recordable.finish (recordable : chat.Recordable) {served : Served}
    (healthy : gateway.world.Healthy)
    (verified : chat.verifyRequired host served.response = .ok ())
    (valid : ∀ cacheable, validateComputeManifest
      (computeManifestOf host chat served cacheable) = .ok ())
    (identifier : validateIdentifier (host.idText "mf" gateway.supply.nextId)
      "manifest id" "mf_" = .ok (host.idText "mf" gateway.supply.nextId)) :
    Returns (finish host chat served) gateway fun reply later =>
      gateway.GoesOn 2 gateway.caches later ∧
        ∃ manifest, reply = chatReply host chat served manifest := by
  have wrote : Returns (writeChatManifest host chat served) gateway.world
      fun _ later => gateway.world.GoesOn 2 later := by
    unfold writeChatManifest
    apply (returns_cacheableUntil chat.setup.mode chat.ttl _).focus.bind
    rintro cacheable _ ⟨supply, sameId, rfl⟩
    simp only [valid, lift_ok_bind]
    apply (host.ensures_newId _ "mf").returns.focus.bind
    rintro manifestId _ ⟨_, ⟨named, rfl⟩, rfl⟩
    have same : manifestId = host.idText "mf" gateway.supply.nextId := by
      rw [named]
      exact congrArg (host.idText "mf") sameId
    have dated : Returns host.utcNow ⟨supply.nextId + 1, supply.tick⟩
        fun createdAt later => createdAt =
          host.isoformat (host.clock supply.tick) ∧
            later = ⟨supply.nextId + 1, supply.tick + 1⟩ :=
      ⟨_, _, rfl, rfl, rfl⟩
    apply Returns.bind (Returns.focus dated)
    rintro createdAt _ ⟨_, ⟨created, rfl⟩, rfl⟩
    let manifest := chatManifest host chat served
      (computeManifestOf host chat served cacheable) manifestId createdAt
    have identified : validateIdentifier manifest.manifestId "manifest id"
        "mf_" = .ok manifest.manifestId := by
      change validateIdentifier manifestId _ _ = .ok manifestId
      rw [same]
      exact identifier
    let stamped := World.supplyLens.set gateway.world
      ⟨supply.nextId + 1, supply.tick + 1⟩
    have stillHealthy : stamped.Healthy := healthy
    have put : Returns (Urp.putManifest host chat.call.session chat.admission
        manifest) stamped fun _ later => stamped.GoesOn 1 later :=
      recordable.putManifest reliable stillHealthy rfl (valid cacheable) same
        identified created
    apply put.bind
    intro _ later on
    apply returns_ret
    refine ⟨on.healthy, on.policies, on.nextId.trans ?_⟩
    exact congrArg (· + 2) sameId

  unfold Urp.finish
  rw [verified, lift_ok_bind]
  apply wrote.focus.bind
  rintro manifest _ ⟨world, on, rfl⟩
  exact returns_ret ⟨⟨on, rfl⟩, manifest, rfl⟩

end Answers

end Urp
