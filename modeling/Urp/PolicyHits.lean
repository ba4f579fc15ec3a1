import Urp.ExactProvenance
import Urp.HitProgress

/-!
# Cached answers and policies

Neither key names the bundle that governs a request.  A hit was stored under
the same bundle as long as requests that may share an entry have it in common.
-/

namespace Urp

open Python Program

/-! ## What a request and its policies determine -/

/-- The name and the version under which a bundle is published. -/
def PolicyBundle.label (bundle : PolicyBundle) : String × String :=
  (bundle.name?.getD "default", textOr bundle.version? (String.ofList
    ((PolicyBundleStore.bundleHash bundle).toList.take 16)))

/-- The label of the bundle that a request was admitted under. -/
def Chat.policyLabel (chat : Chat) : Option (String × String) :=
  chat.admission.bundle.map PolicyBundle.label

/-- The bundle that governs the request, and what it determines. -/
def ChatCall.foresee (host : Host) (call : ChatCall) (policies : PolicyFiles) :
    Except PyException (Option PolicyBundle × Forecast) := do
  let setup ← call.setup host
  let bundle ← (governingBundle (call.aiRequest host setup) policies).1
  let forecast ← call.forecast host bundle
  .ok (bundle, forecast)

/-- What a prepared request was foreseen to be. -/
def Chat.forecast (chat : Chat) : Forecast where
  setup := chat.setup
  policy := chat.policy
  actions := chat.admission.plan.actionNames
  ttl := chat.ttl

/-- An enforced plan has the action. -/
def Forecast.performs (forecast : Forecast) (action : String) : Bool :=
  forecast.setup.mode = .enforce && action ∈ forecast.actions

/-- The request reads and writes the semantic cache. -/
def Forecast.usesSemanticCache (forecast : Forecast) : Bool :=
  forecast.performs "semantic_cache_lookup" &&
    ChatCall.allowsSemanticCache forecast.setup &&
    (forecast.ttl.filter (0 < ·)).isSome &&
    forecast.policy.contract = .semantic

/-- The threshold that the options give. -/
def ChatSetup.semanticThreshold (host : Host) (setup : ChatSetup) (default : ℚ) :
    Except PyException (Option Number) :=
  match setup.normalized.options.lookup "semantic_cache_threshold" with
  | some value => floatOf host value
  | none => .ok (some (.finite default))

section Foresight

variable {host : Host}

theorem planWorkUnit_prompt {workUnit : WorkUnit} {mode : Mode}
    {bundle : Option PolicyBundle} {policy : PolicyDecision} {plan : Plan}
    (prompt : workUnit.kind = .promptRequest)
    (planned : planWorkUnit host workUnit mode bundle (some policy) = .ok plan) :
    ∃ kept, filterActions policy mode promptActions = .ok kept ∧
      validatePlanActions policy.contract (policy.deniedActions.filter
        (· ∈ kept.map PlanAction.type)) kept = .ok () ∧
      plan.actionNames = kept.map PlanAction.type := by
  unfold planWorkUnit at planned
  obtain ⟨chosen, same, planned⟩ := except_bind_eq_ok_iff.mp planned
  cases same
  simp only [prompt] at planned
  obtain ⟨kept, filtered, planned⟩ := except_bind_eq_ok_iff.mp planned
  obtain ⟨_, valid, made⟩ := except_bind_eq_ok_iff.mp planned
  cases made
  exact ⟨kept, filtered, valid, rfl⟩

/-- A request is prepared as its arguments and the policies determine. -/
theorem GatewayVisit.Chats.foresee {visit : GatewayVisit} {chat : Chat}
    (chats : visit.Chats host chat) :
    chat.call.foresee host visit.before.world.policies =
      .ok (chat.admission.bundle, chat.forecast) := by
  have prepared := (ensures_prepareChat host chat.call visit.before).of_fst_ok
    chats.prepared
  obtain ⟨maxTokens, bounded, -⟩ :=
    compiledMessages_of_prepared host chats.prepared
  obtain ⟨i, j, createdAt, made, -⟩ := prepared.admitted.workUnit
  have evaluated : evaluatePolicy ((chat.call.aiRequest host chat.setup).workUnit
      "" "" "") chat.admission.bundle = .ok chat.policy := by
    refine Eq.trans ?_ prepared.admitted.policy
    rw [made]
    apply evaluatePolicy_congr
    exact ⟨rfl, rfl, rfl, rfl, rfl, rfl⟩
  have prompt : chat.admission.workUnit.kind = .promptRequest := by
    rw [made]
    rfl
  obtain ⟨kept, filtered, valid, same⟩ :=
    planWorkUnit_prompt prompt prepared.admitted.plan
  change filterActions chat.policy chat.setup.mode promptActions = .ok kept
    at filtered
  change validatePlanActions chat.policy.contract (chat.policy.deniedActions.filter
    (· ∈ kept.map PlanAction.type)) kept = .ok () at valid
  have foreseen : chat.call.forecast host chat.admission.bundle =
      .ok chat.forecast := by
    unfold ChatCall.forecast Chat.forecast
    rw [same]
    simp only [prepared.setup, bind, Except.bind, evaluated, filtered, valid,
      bounded, prepared.ttl]
  unfold ChatCall.foresee
  simp only [prepared.setup, bind, Except.bind, prepared.admitted.bundle,
    foreseen]

end Foresight

/-! ## Entries that two requests may share -/

section Sharing

variable (host : Host)

/-- What an earlier request stores may be alive when a later one looks. -/
structure MayOutlive (ttl : Option ℚ) (early late : Supply) : Prop where
  alive : ∃ seconds stored now, ttl.filter (0 < ·) = some seconds ∧
    early.tick ≤ stored ∧ late.tick ≤ now ∧
    host.clock now < host.clock stored + seconds

/-- The later request may be answered from an entry of the earlier. -/
inductive MayReuse (earlier visit : GatewayVisit) (source call : ChatCall)
    (first second : Forecast) : Prop where
  | exact (stores : first.performs "cache_store" = true)
      (looksUp : second.performs "exact_cache_lookup" = true)
      (outlives : MayOutlive host first.ttl earlier.before.supply
        visit.before.supply)
      (key : URPCache.exactKey source.tenant source.nameSpace
          first.setup.normalized.data.toValue first.setup.fingerprints =
        URPCache.exactKey call.tenant call.nameSpace
          second.setup.normalized.data.toValue second.setup.fingerprints)
  | semantic (stores : first.usesSemanticCache = true)
      (looksUp : second.usesSemanticCache = true)
      (outlives : MayOutlive host first.ttl earlier.before.supply
        visit.before.supply)
      (tenant : source.tenant = call.tenant)
      (nameSpace : source.nameSpace = call.nameSpace)
      (fingerprints : first.setup.fingerprints = second.setup.fingerprints)
      (similar : ∃ given threshold, second.setup.semanticThreshold host
          visit.before.caches.semantic.threshold = .ok given ∧
        unitInterval given = some threshold ∧
        threshold ≤ (semanticSimilarity host
          (normalizeSemanticText host
            (lastUserText host second.setup.normalized.messages))
          (normalizeSemanticText host
            (lastUserText host first.setup.normalized.messages))).toRat)

/-- Bundles of one name and version govern all earlier requests that the
visit's request may share an entry with. -/
def SharesPolicy (past : List GatewayVisit) (visit : GatewayVisit) : Prop :=
  ∀ earlier ∈ past, ∀ source call bundle other first second,
    earlier.input = .chat source → visit.input = .chat call →
    source.foresee host earlier.before.world.policies = .ok (bundle, first) →
    call.foresee host visit.before.world.policies = .ok (other, second) →
    MayReuse host earlier visit source call first second →
      bundle.map PolicyBundle.label = other.map PolicyBundle.label

end Sharing

/-! ## Hits and their sources -/

section Hits

variable (host : Host) (provider : ChatProvider)

/-- A row of the exact cache that answers the request. -/
structure GatewayVisit.ExactRow (visit : GatewayVisit) (chat : Chat)
    (response : Value) (found : CacheEntry) : Prop where
  present : visit.before.caches.exact.lookup host chat.cacheKey =
    some (.ok found)
  value : found.value = response
  live : ∃ now, visit.before.supply.tick ≤ now ∧
    isExpired found.expiresAt (host.clock now) = false

/-- A row of the semantic cache that answers the request. -/
structure GatewayVisit.SemanticRow (visit : GatewayVisit) (chat : Chat)
    (response : Value) (found : SemanticCacheEntry) : Prop where
  present : ∃ key, visit.before.caches.semantic.backend.lookup host key =
    some (.ok found)
  value : found.value = response
  live : ∃ now, visit.before.supply.tick ≤ now ∧
    isExpired found.expiresAt (host.clock now) = false
  tenant : found.tenant = chat.call.tenant
  nameSpace : found.nameSpace = chat.call.nameSpace
  fingerprints : chat.setup.fingerprints = found.sourceFingerprints
  similar : ∃ given threshold, semanticThreshold host chat
      visit.before.caches.semantic.threshold = .ok given ∧
    unitInterval given = some threshold ∧
    threshold ≤ (semanticSimilarity host
      (normalizeSemanticText host (chat.routingText host))
      found.normalizedText).toRat

/-- The earlier visit stored the entry that answers the request. -/
inductive GatewayVisit.HitFrom (visit earlier : GatewayVisit)
    (chat source : Chat) (served : Served) : Prop where
  | exact {entry found : CacheEntry} {tick : Nat}
      (hit : served.cacheResult = .exactHit)
      (row : visit.ExactRow host chat served.response found)
      (chats : earlier.Chats host source)
      (stores : source.StoresExact host entry.value entry tick)
      (reads : earlier.Reads tick)
      (key : entry.key = chat.cacheKey)
      (read : visit.before.caches.exact.readBack host entry = .ok found)
  | semantic {entry found : SemanticCacheEntry} {tick : Nat}
      (hit : served.cacheResult = .semanticHit)
      (row : visit.SemanticRow host chat served.response found)
      (stores : earlier.StoresSemantic host provider source entry tick)
      (reads : earlier.Reads tick)
      (read : visit.before.caches.semantic.backend.readBack host entry =
        .ok found)

/-- The entry that answers the request was stored under the bundle that
governs it, whichever earlier visit stored it. -/
structure GatewayVisit.UnderPolicy (past : List GatewayVisit)
    (visit : GatewayVisit) (chat : Chat) (served : Served) : Prop where
  stored : ∃ earlier ∈ past, ∃ source,
    visit.HitFrom host provider earlier chat source served
  same : ∀ earlier ∈ past, ∀ source,
    visit.HitFrom host provider earlier chat source served →
      source.policyLabel = chat.policyLabel

variable {host provider}

theorem Chat.enabled_iff (chat : Chat) :
    (chat.exactCacheEnabled = true ↔ chat.forecast.performs "exact_cache_lookup" =
      true ∧ chat.positiveTtl.isSome = true) ∧
    (chat.semanticCacheEnabled = chat.forecast.usesSemanticCache) := by
  constructor
  · unfold exactCacheEnabled
    rw [Bool.and_eq_true, and_comm]
    rfl
  · rfl

theorem GatewayVisit.HitFrom.chats {visit earlier : GatewayVisit}
    {chat source : Chat} {served : Served}
    (hitFrom : visit.HitFrom host provider earlier chat source served) :
    earlier.Chats host source := by
  cases hitFrom with
  | exact _ _ chats => exact chats
  | semantic _ _ stores => exact stores.chats

/-- Requests between which an entry went may share it. -/
theorem GatewayVisit.HitFrom.mayReuse {visit earlier : GatewayVisit}
    {chat source : Chat} {served : Served}
    (looksUp : served.cacheResult = .exactHit → chat.exactCacheEnabled = true)
    (searches : served.cacheResult = .semanticHit →
      chat.semanticCacheEnabled = true)
    (hitFrom : visit.HitFrom host provider earlier chat source served) :
    earlier.Chats host source ∧ MayReuse host earlier visit source.call chat.call
      source.forecast chat.forecast := by
  cases hitFrom with
  | exact hit row sourceChats stores reads key read =>
      refine ⟨sourceChats, .exact stores.performed ?_ ?_ ?_⟩
      · exact (chat.enabled_iff.1.mp (looksUp hit)).1
      · obtain ⟨ttl, lives, same⟩ := stores.entry_eq
        obtain ⟨now, after, live⟩ := row.live
        rw [(CacheBackend.readsAs read).expiresAt, same] at live
        exact ⟨ttl, _, now, lives, reads.1, after,
          isExpired_eq_false_iff.mp live _ rfl⟩
      · obtain ⟨ttl, -, same⟩ := stores.entry_eq
        rw [same] at key
        exact key
  | @semantic entry found tick hit row stores reads read =>
      have readsAs := SemanticBackend.readsAs read
      obtain ⟨ttl, lives, same⟩ := stores.stores.entry_eq
      refine ⟨stores.chats, .semantic stores.stores.enabled (searches hit) ?_ ?_
        ?_ ?_ ?_⟩
      · obtain ⟨now, after, live⟩ := row.live
        rw [readsAs.expiresAt, same] at live
        exact ⟨ttl, _, now, lives, reads.1, after,
          isExpired_eq_false_iff.mp live _ rfl⟩
      · rw [← row.tenant, readsAs.tenant, same]
        rfl
      · rw [← row.nameSpace, readsAs.nameSpace, same]
        rfl
      · rw [show chat.forecast.setup.fingerprints = _ from row.fingerprints,
          readsAs.sourceFingerprints, same]
        rfl
      · obtain ⟨given, threshold, asked, bounded, similar⟩ := row.similar
        have text : found.normalizedText =
            normalizeSemanticText host (source.routingText host) := by
          rw [readsAs.normalizedText, same,
            SemanticCache.storedEntry_normalizedText]
        rw [text] at similar
        exact ⟨given, threshold, asked, bounded, similar⟩

/-- Looking into the exact cache leaves the semantic one. -/
theorem frames_semantic_exactLookup (chat : Chat) :
    Frames (fun gateway : Gateway => gateway.caches.semantic)
      (exactLookup host chat) := by
  have inside : ∀ {α : Type} (body : Program CacheState PyException α),
      Frames (fun gateway : Gateway => gateway.caches.semantic)
        (focus Gateway.exactLens body) :=
    fun body => frames_focus fun _ _ => rfl
  apply frames_ite
  · refine frames_bind (inside _) fun cached => ?_
    split
    · exact frames_ret _
    · apply frames_ite
      · exact frames_ret _
      · exact frames_bind (inside _) fun _ => frames_ret _
  · exact frames_ret _

theorem exactRow_of_hit {visit : GatewayVisit} {chat : Chat}
    {admitted found : Gateway} {response : Value}
    (prepared : prepareChat host chat.call visit.before = (.ok chat, admitted))
    (first : exactLookup host chat admitted = (.ok (some response), found)) :
    chat.exactCacheEnabled = true ∧
      ∃ entry, visit.ExactRow host chat response entry := by
  have prepares : visit.before.Shrinks host admitted :=
    (grows_prepareChat host chat.call).of_run prepared
  have caches := (outside_caches.prepareChat host chat.call).of_run prepared
  obtain ⟨enabled, entry, present, live, value⟩ := exactLookup_entry first
  rw [caches] at present
  exact ⟨enabled, entry, present, value, _, prepares.supply.2, live⟩

theorem semanticRow_of_hit {visit : GatewayVisit} {chat : Chat}
    {admitted missed found : Gateway} {hit : SemanticCacheHit}
    (prepared : prepareChat host chat.call visit.before = (.ok chat, admitted))
    (first : exactLookup host chat admitted = (.ok none, missed))
    (second : semanticLookup host chat missed = (.ok (some hit), found)) :
    chat.semanticCacheEnabled = true ∧
      ∃ entry, visit.SemanticRow host chat hit.value entry := by
  have prepares : visit.before.Shrinks host admitted :=
    (grows_prepareChat host chat.call).of_run prepared
  have looks : admitted.Shrinks host missed :=
    (grows_exactLookup host chat).of_run first
  have caches := (outside_caches.prepareChat host chat.call).of_run prepared
  have same : missed.caches.semantic = visit.before.caches.semantic := by
    rw [(frames_semantic_exactLookup chat).of_run first, caches]
  have moved := (prepares.supply.trans looks.supply).2
  obtain ⟨-, enabled, given, threshold, asked, bounded, source⟩ :=
    (ensures_semanticLookup host chat missed).of_ok second hit rfl
  obtain ⟨key, entry, present, tenant, nameSpace, value, live, fingerprints,
    similar⟩ := source.entry
  rw [same] at asked
  change missed.caches.semantic.backend.lookup host key = _ at present
  rw [same] at present
  exact ⟨enabled, entry, ⟨key, present⟩, value, ⟨_, moved, live⟩, tenant,
    nameSpace, fingerprints, given, threshold, asked, bounded, similar⟩

variable {calls : List GatewayCall}

/-- Every hit of a run of chat requests and changes of the policy was stored
under the bundle that governs it, where the requests that may share an entry
with it are governed by that bundle too. -/
theorem hits_underPolicy {start : Gateway} (empty : start.CachesEmpty host)
    (onlyChats : ∀ call, .embedding call ∉ calls) :
    ∀ (past : List GatewayVisit) (visit : GatewayVisit) rest,
      Run.visits (gatewayStep host provider) start calls =
        past ++ visit :: rest →
      SharesPolicy host past visit →
      ∀ call reply result, visit.input = .chat call →
        visit.output = .ok (.response reply) → result ≠ CacheResult.miss →
        replyText reply "cache" = some result.value →
        ∃ chat served manifest, reply = chatReply host chat served manifest ∧
          visit.Chats host chat ∧
          visit.UnderPolicy host provider past chat served := by
  intro past visit rest split shares call reply result input replied cached
    reported
  obtain ⟨sourced, chat, served, manifest, rfl, chats, approved⟩ :=
    approved_of_split empty split input replied
  obtain ⟨-, earlierAsked⟩ := input_mem_of_split split
  obtain ⟨admitted, prepared, origin⟩ := approved.origin
  rw [← approved.call_eq] at prepared
  have named : replyText (chatReply host chat served manifest) "cache" =
      some served.cacheResult.value := replyText_withUrp served rfl
  have hit : served.cacheResult ≠ .miss := by
    intro miss
    rw [named, miss] at reported
    cases result <;> simp [CacheResult.value] at cached reported
  have policies : (served.cacheResult = .exactHit →
        chat.exactCacheEnabled = true) →
      (served.cacheResult = .semanticHit → chat.semanticCacheEnabled = true) →
      ∀ earlier ∈ past, ∀ source,
        visit.HitFrom host provider earlier chat source served →
          source.policyLabel = chat.policyLabel := by
    intro looksUp searches earlier member source hitFrom
    obtain ⟨sourceChats, reuses⟩ := hitFrom.mayReuse looksUp searches
    exact shares earlier member _ _ _ _ _ _ sourceChats.input chats.input
      sourceChats.foresee chats.foresee reuses
  refine ⟨chat, served, manifest, rfl, chats, ?_⟩
  cases origin with
  | answered => exact absurd rfl hit
  | exactHit first =>
      obtain ⟨enabled, found, row⟩ := exactRow_of_hit prepared first
      have exact : CacheResult.exactHit ≠ .semanticHit := by decide
      refine ⟨?_, policies (fun _ => enabled) fun other => (exact other).elim⟩
      obtain ⟨earlier, member, entry, tick, stores, reads, key, read⟩ :=
        sourced.exact _ _ row.present
      cases stores with
      | @chat source sourceChats received stores =>
          exact ⟨earlier, member, source, .exact rfl row sourceChats stores reads
            key read.symm⟩
      | embedding input =>
          have asked := earlierAsked earlier member
          rw [input] at asked
          exact absurd asked (onlyChats _)
  | semanticHit first second =>
      obtain ⟨enabled, found, row⟩ := semanticRow_of_hit prepared first second
      have semantic : CacheResult.semanticHit ≠ .exactHit := by decide
      refine ⟨?_, policies (fun other => (semantic other).elim) fun _ => enabled⟩
      obtain ⟨key, present⟩ := row.present
      obtain ⟨earlier, member, source, entry, tick, stores, reads, read⟩ :=
        sourced.semantic _ _ present
      exact ⟨earlier, member, source, .semantic rfl row stores reads read.symm⟩

end Hits

/-! ## A greeting under two versions -/

/-- A reply that every check accepts. -/
def helloReply : Value :=
  .dict [("model", .str "small"), ("choices", .list
    [.dict [("message", .dict [("content", .str "hello")])]])]

/-- Prompts may use the exact cache, and only these models. -/
def cachingBundle (version : String) (models : List String) : PolicyBundle where
  apiVersion := some "urp.dev/v1"
  kind := some "ReductionPolicy"
  metadata := some { name := some "default-safe", version := some version }
  spec := some {
    defaults := some { contract := some "semantic" }
    rules := some [{
      name := some "cached-prompts"
      matching := some [.kind "prompt_request"]
      contract := some "semantic"
      allow := some {
        transforms := some ["exact_cache_lookup", "model_route", "cache_store"] }
      modelAllowlist := some models }] }

section Greetings

/-- The greeting uses the exact cache under the bundle, and no other. -/
structure Greets (bundle : Option PolicyBundle) (forecast : Forecast) : Prop where
  servable : greetingCall.Servable Host.frozen bundle forecast
  exactOnly : ChatCall.allowsSemanticCache forecast.setup = false
  unnamed : forecast.setup.normalized.options.get "policy_bundle_id" = .none

variable {bundle : Option PolicyBundle} {forecast : Forecast}
  {gateway : Gateway}

theorem exists_greets (computed : Passes (fun forecast : Forecast =>
      forecast.isCached && !ChatCall.allowsSemanticCache forecast.setup &&
        (forecast.setup.normalized.options.get "policy_bundle_id" matches .none))
      (greetingCall.forecast Host.frozen bundle) = true) :
    ∃ forecast, Greets bundle forecast := by
  obtain ⟨forecast, made, checked⟩ := exists_of_passes computed
  simp only [Bool.and_eq_true, Bool.not_eq_true'] at checked
  obtain ⟨⟨cached, exactOnly⟩, unnamed⟩ := checked
  refine ⟨forecast, ⟨made, cached, rfl, by decide, by decide⟩, exactOnly, ?_⟩
  split at unnamed
  · assumption
  · cases unnamed

/-- The entry that the greeting's answer gets. -/
def greetingKey (setup : ChatSetup) : String :=
  URPCache.exactKey greetingCall.tenant greetingCall.nameSpace
    setup.normalized.data.toValue setup.fingerprints

theorem ChatCall.ServedAs.cacheKey_eq {chat : Chat} {ttl : ℚ}
    (servedAs : greetingCall.ServedAs forecast ttl chat) :
    chat.cacheKey = greetingKey forecast.setup := by
  unfold Chat.cacheKey
  rw [servedAs.call_eq, servedAs.setup_eq]
  rfl

/-- A greeting's answer is in the exact cache. -/
def Gateway.HoldsGreeting (gateway : Gateway) (setup : ChatSetup) : Prop :=
  ∃ (chat : Chat) (ttl : ℚ) (tick : Nat), chat.cacheKey = greetingKey setup ∧
    chat.call = greetingCall ∧ chat.setup = setup ∧ 0 < ttl ∧
    gateway.caches.exact = .memory ((∅ : Dict String CacheEntry).insert
      chat.cacheKey (chat.exactEntry Host.frozen helloReply ttl tick))

/-- The first greeting is answered and stored. -/
theorem Greets.miss (greets : Greets bundle forecast)
    (healthy : gateway.world.Healthy) (caches : gateway.caches = {})
    (resolved : governingBundle (greetingCall.aiRequest Host.frozen
      forecast.setup) gateway.world.policies =
        (.ok bundle, gateway.world.policies))
    (identifier : validateIdentifier
      (Host.frozen.idText "mf" (gateway.supply.nextId + 7)) "manifest id" "mf_" =
        .ok (Host.frozen.idText "mf" (gateway.supply.nextId + 7))) :
    Returns (handleChatCompletion Host.frozen (constantProvider helloReply)
      greetingCall) gateway fun _ later =>
        gateway.world.GoesOn 9 later.world ∧
          later.HoldsGreeting forecast.setup := by
  have memory : gateway.caches.exact = .memory ∅ := by rw [caches]
  have plain : IsPlain (Served.getD ⟨helloReply, .miss, none, none⟩ "model"
      .none) := ⟨rfl, rfl⟩
  apply (greets.servable.miss Host.frozen_reliable Host.frozen_lasting healthy
    resolved rfl plain rfl memory (fun _ _ _ => rfl) ?_ identifier).mono
  · rintro response later ⟨chat, ttl, tick, manifest, servedAs, -, on⟩
    refine ⟨on.world, chat, ttl, tick, servedAs.cacheKey_eq, servedAs.call_eq,
      servedAs.setup_eq, Chat.positiveTtl_pos servedAs.cached.lives, ?_⟩
    rw [on.caches_eq]
    rfl
  · intro chat ttl admitted servedAs on
    have disabled : chat.semanticCacheEnabled = false := by
      simp [Chat.semanticCacheEnabled, servedAs.setup_eq, greets.exactOnly]
    rw [semanticLookup_disabled disabled]
    exact returns_ret ⟨rfl, ⟨on.world.healthy, rfl, rfl⟩, rfl⟩

/-- A later greeting is answered from the exact cache. -/
theorem Greets.hit (greets : Greets bundle forecast)
    (healthy : gateway.world.Healthy)
    (holds : gateway.HoldsGreeting forecast.setup)
    (resolved : governingBundle (greetingCall.aiRequest Host.frozen
      forecast.setup) gateway.world.policies =
        (.ok bundle, gateway.world.policies))
    (identifier : validateIdentifier
      (Host.frozen.idText "mf" (gateway.supply.nextId + 6)) "manifest id" "mf_" =
        .ok (Host.frozen.idText "mf" (gateway.supply.nextId + 6))) :
    Returns (handleChatCompletion Host.frozen (constantProvider helloReply)
      greetingCall) gateway fun response _ => ∃ chat manifest,
        response = chatReply Host.frozen chat ⟨helloReply, .exactHit, none, none⟩
          manifest := by
  obtain ⟨source, ttl, tick, key, sourceCall, sourceSetup, positive, memory⟩ :=
    holds
  have accepted : (verifyChatResponse Host.frozen helloReply).accepted = true :=
    rfl
  apply (greets.servable.exactHit Host.frozen_reliable healthy resolved accepted
    rfl ?_ identifier (constantProvider helloReply)).mono
  · rintro response later ⟨chat, ttl, manifest, -, same⟩
    exact ⟨chat, manifest, same⟩
  · intro chat _ admitted servedAs on
    have enabled : chat.exactCacheEnabled = true := by
      simp [Chat.exactCacheEnabled, servedAs.cached.lives,
        servedAs.cached.looksUp]
    have present : admitted.caches.exact.lookup Host.frozen chat.cacheKey =
        some (.ok (source.exactEntry Host.frozen helloReply ttl tick)) := by
      rw [on.caches_eq, memory, servedAs.cacheKey_eq, key]
      simp [CacheBackend.lookup]
    have inside : URPCache.isInScope
        (source.exactEntry Host.frozen helloReply ttl tick) chat.call.tenant
        chat.call.nameSpace (some chat.setup.fingerprints) = true := by
      apply URPCache.isInScope_iff.mpr
      simp [Chat.exactEntry, sourceCall, sourceSetup, servedAs.call_eq,
        servedAs.setup_eq]
    exact exactLookup_found on.world.healthy enabled present inside rfl
      (isExpired_of_lasting Host.frozen_lasting positive _ _) rfl

theorem Greets.setup_run (greets : Greets bundle forecast) :
    greetingCall.setup Host.frozen = .ok forecast.setup := by
  obtain ⟨setup, ready, made⟩ := except_bind_eq_ok_iff.mp greets.servable.made
  obtain ⟨policy, -, made⟩ := except_bind_eq_ok_iff.mp made
  obtain ⟨kept, -, made⟩ := except_bind_eq_ok_iff.mp made
  obtain ⟨_, -, made⟩ := except_bind_eq_ok_iff.mp made
  obtain ⟨maxTokens, -, made⟩ := except_bind_eq_ok_iff.mp made
  obtain ⟨ttl, -, made⟩ := except_bind_eq_ok_iff.mp made
  cases made
  exact ready

/-- The published bundle governs the greeting. -/
theorem Greets.governs (greets : Greets bundle forecast) {files : PolicyFiles}
    {published : PolicyBundle} {version : String}
    (publishes : files.Publishes published version) :
    governingBundle (greetingCall.aiRequest Host.frozen forecast.setup) files =
      (.ok (some published.sorted), files) :=
  publishes.governs rfl rfl greets.unnamed

theorem Greets.bundle_of_foresee (greets : Greets bundle forecast)
    {files : PolicyFiles} {published : PolicyBundle} {version : String}
    (publishes : files.Publishes published version)
    {found : Option PolicyBundle} {other : Forecast}
    (foreseen : greetingCall.foresee Host.frozen files = .ok (found, other)) :
    found = some published.sorted := by
  obtain ⟨setup, ready, foreseen⟩ := except_bind_eq_ok_iff.mp foreseen
  obtain ⟨governing, governed, foreseen⟩ := except_bind_eq_ok_iff.mp foreseen
  obtain ⟨_, -, made⟩ := except_bind_eq_ok_iff.mp foreseen
  rw [greets.setup_run] at ready
  cases ready
  rw [greets.governs publishes] at governed
  cases governed
  cases made
  rfl

theorem Greets.policyLabel_eq (greets : Greets bundle forecast)
    {visit : GatewayVisit} {chat : Chat} {published : PolicyBundle}
    {version : String} (chats : visit.Chats Host.frozen chat)
    (input : visit.input = .chat greetingCall) (before : visit.before = gateway)
    (publishes : gateway.world.policies.Publishes published version) :
    chat.policyLabel = some published.sorted.label := by
  have prepared := (ensures_prepareChat Host.frozen chat.call
    visit.before).of_fst_ok chats.prepared
  have call : chat.call = greetingCall :=
    GatewayCall.chat.inj (chats.input.symm.trans input)
  have setup : chat.setup = forecast.setup := by
    have ready := prepared.setup
    rw [call, greets.setup_run] at ready
    exact (Except.ok.inj ready).symm
  have governed := prepared.admitted.bundle
  rw [call, setup, before, greets.governs publishes] at governed
  unfold Chat.policyLabel
  rw [← Except.ok.inj governed]
  rfl

/-- Publishing a version of the bundle. -/
def publishing (version : String) (models : List String) : GatewayCall :=
  .policy {} (.publish (cachingBundle version models) "system")

theorem publishing_step (gateway : Gateway) (provider : ChatProvider)
    (healthy : gateway.world.Healthy)
    (consistent : gateway.world.policies.Consistent)
    (writable : gateway.world.policies.activeFile ≠ .directory)
    {version : String} {models : List String}
    (valid : isValidBundle (cachingBundle version models) = true)
    (identifier : isIdentifier version = true) :
    let later := (gatewayStep Host.frozen provider gateway
      (publishing version models)).2
    later.world.Healthy ∧
      later.world.policies.Publishes (cachingBundle version models) version ∧
      later.supply.nextId = gateway.supply.nextId + 1 ∧
      later.caches = gateway.caches := by
  have tenant : (cachingBundle version models).tenant ≠ "" := by
    change "system" ≠ ""
    decide
  let state : PolicyState := ⟨gateway.world.policies, gateway.world.ledger⟩
  have stillHealthy : state.ledger.Healthy := healthy
  obtain ⟨record, final, run, laterHealthy, publishes, drawn⟩ :=
    publish_returns Host.frozen_reliable valid rfl rfl identifier tenant "system"
      stillHealthy consistent writable
  have focused : focus Gateway.worldLens (focus World.policyStateLens fun state =>
      policyStep Host.frozen state ({}, .publish (cachingBundle version models)
        "system")) gateway =
      (.ok record, { gateway with world := { gateway.world with
        policies := final.files
        ledger := final.ledger } }) :=
    focus_of_run (focus_of_run run)
  unfold publishing
  rw [gatewayStep_policy]
  simp only [focused]
  exact ⟨laterHealthy, publishes, drawn, trivial⟩

end Greetings

/-- A state in which this bundle is published, with `drawn` identifiers
drawn. -/
structure Gateway.Under (gateway : Gateway) (bundle : PolicyBundle)
    (version : String) (drawn : Nat) : Prop where
  healthy : gateway.world.Healthy
  publishes : gateway.world.policies.Publishes bundle version
  nextId : gateway.supply.nextId = drawn

/-- The gateway that always greets back. -/
abbrev helloStep : Gateway → GatewayCall →
    Except PyException GatewayReply × Gateway :=
  gatewayStep Host.frozen (constantProvider helloReply)

/-- The greeting is stored under the first version. -/
theorem greeting_stored {forecast : Forecast}
    (greets : Greets (some (cachingBundle "1" ["small"]).sorted) forecast) :
    ∃ published stored, (helloStep {} (publishing "1" ["small"])).2 = published ∧
      (helloStep published (.chat greetingCall)).2 = stored ∧
      published.Under (cachingBundle "1" ["small"]) "1" 1 ∧
      stored.Under (cachingBundle "1" ["small"]) "1" 10 ∧
      stored.HoldsGreeting forecast.setup := by
  obtain ⟨published, publishedEq⟩ : ∃ published,
    (helloStep {} (publishing "1" ["small"])).2 = published := ⟨_, rfl⟩
  obtain ⟨healthy, publishes, drawn, caches⟩ := publishing_step {}
    (constantProvider helloReply) ⟨[], by simp, rfl⟩
    PolicyFiles.consistent_empty (nomatch ·)
    (by decide : isValidBundle (cachingBundle "1" ["small"]) = true) (by decide)
  rw [publishedEq] at healthy publishes drawn caches
  have firstId : published.supply.nextId = 1 := drawn
  obtain ⟨answer, stored, run, goes, holds⟩ := greets.miss healthy caches
    (greets.governs publishes) (by rw [firstId]; rfl)
  refine ⟨published, stored, publishedEq, ?_, ⟨healthy, publishes, firstId⟩,
    ⟨goes.healthy, ?_, ?_⟩, holds⟩
  · rw [helloStep, gatewayStep_chat, run]
  · rw [goes.policies]
    exact publishes
  · rw [Gateway.supply, goes.nextId]
    exact congrArg (· + 9) firstId

/-- Under the second version the stored greeting is served. -/
theorem greeting_served {stored : Gateway} {forecast : Forecast}
    (greets : Greets (some (cachingBundle "2" ["frontier"]).sorted) forecast)
    (under : stored.Under (cachingBundle "1" ["small"]) "1" 10)
    (holds : stored.HoldsGreeting forecast.setup) :
    ∃ republished reply,
      (helloStep stored (publishing "2" ["frontier"])).2 = republished ∧
      republished.world.policies.Publishes (cachingBundle "2" ["frontier"]) "2" ∧
      (helloStep republished (.chat greetingCall)).1 = .ok (.response reply) ∧
      replyText reply "cache" = some (CacheResult.value .exactHit) := by
  have writable : stored.world.policies.activeFile ≠ .directory := by
    obtain ⟨versions, file, -⟩ := under.publishes.active
    rw [file]
    exact (nomatch ·)
  obtain ⟨republished, republishedEq⟩ : ∃ republished,
    (helloStep stored (publishing "2" ["frontier"])).2 = republished := ⟨_, rfl⟩
  obtain ⟨healthy, publishes, drawn, caches⟩ := publishing_step stored
    (constantProvider helloReply) under.healthy under.publishes.consistent
    writable
    (by decide : isValidBundle (cachingBundle "2" ["frontier"]) = true)
    (by decide)
  rw [republishedEq] at healthy publishes drawn caches
  rw [under.nextId] at drawn
  have stillHolds : republished.HoldsGreeting forecast.setup := by
    obtain ⟨chat, ttl, tick, key, call, setup, positive, memory⟩ := holds
    refine ⟨chat, ttl, tick, key, call, setup, positive, ?_⟩
    rw [caches]
    exact memory
  obtain ⟨reply, later, run, chat, manifest, same⟩ := greets.hit healthy
    stillHolds (greets.governs publishes) (by rw [drawn]; rfl)
  refine ⟨republished, reply, republishedEq, publishes, ?_, ?_⟩
  · rw [helloStep, gatewayStep_chat, run]
    rfl
  · rw [same]
    exact replyText_withUrp _ rfl

/-- A second greeting is served under the version that the first was stored
under. -/
theorem hits_underPolicy_greetings :
    ∃ (past : List GatewayVisit) (visit : GatewayVisit) (reply : Value)
        (chat : Chat) (served : Served),
      Run.visits helloStep {} [publishing "1" ["small"], .chat greetingCall,
        .chat greetingCall] = past ++ visit :: [] ∧
      visit.output = .ok (.response reply) ∧
      replyText reply "cache" = some (CacheResult.value .exactHit) ∧
      visit.Chats Host.frozen chat ∧
      visit.UnderPolicy Host.frozen (constantProvider helloReply) past chat
        served := by
  obtain ⟨forecast, greets⟩ := exists_greets
    (by decide +kernel : Passes _ (greetingCall.forecast Host.frozen
      (some (cachingBundle "1" ["small"]).sorted)) = true)
  obtain ⟨published, stored, publishedEq, storedEq, early, under, holds⟩ :=
    greeting_stored greets
  obtain ⟨reply, later, run, _, _, same⟩ := greets.hit under.healthy holds
    (greets.governs under.publishes) (by rw [under.nextId]; rfl)
  have replied : (Run.visit helloStep stored (.chat greetingCall)).output =
      .ok (.response reply) := by
    change (helloStep stored (.chat greetingCall)).1 = _
    rw [helloStep, gatewayStep_chat, run]
    rfl
  have reported : replyText reply "cache" = some (CacheResult.value .exactHit) := by
    rw [same]
    exact replyText_withUrp _ rfl
  have split : Run.visits helloStep {} [publishing "1" ["small"],
      .chat greetingCall, .chat greetingCall] =
      [Run.visit helloStep {} (publishing "1" ["small"]),
        Run.visit helloStep published (.chat greetingCall)] ++
      Run.visit helloStep stored (.chat greetingCall) :: [] := by
    simp only [Run.visits, publishedEq, storedEq, List.cons_append,
      List.nil_append]
  have shares : SharesPolicy Host.frozen
      [Run.visit helloStep {} (publishing "1" ["small"]),
        Run.visit helloStep published (.chat greetingCall)]
      (Run.visit helloStep stored (.chat greetingCall)) := by
    rintro earlier member source call bundle other first second sourceInput
      input foreseen foreseenLate -
    cases input
    simp only [List.mem_cons, List.not_mem_nil, or_false] at member
    rcases member with rfl | rfl
    · cases sourceInput
    · cases sourceInput
      rw [Run.visit_before] at foreseen foreseenLate
      rw [greets.bundle_of_foresee early.publishes foreseen,
        greets.bundle_of_foresee under.publishes foreseenLate]
  obtain ⟨chat, served, manifest, -, chats, underPolicy⟩ := hits_underPolicy
    ⟨fun _ => rfl, fun _ => rfl⟩ (by simp [publishing]) _ _ _ split shares
    greetingCall reply .exactHit rfl replied (by decide) reported
  exact ⟨_, _, reply, chat, served, split, replied, reported, chats, underPolicy⟩

/-- A greeting stored under one version is served under the next, whose
allowlist lacks the model that gave it. -/
theorem hits_crossVersions :
    ¬ ∀ calls, (∀ call, GatewayCall.embedding call ∉ calls) →
      ∀ (past : List GatewayVisit) (visit : GatewayVisit) rest,
        Run.visits helloStep {} calls = past ++ visit :: rest →
        ∀ call reply result, visit.input = .chat call →
          visit.output = .ok (.response reply) → result ≠ CacheResult.miss →
          replyText reply "cache" = some result.value →
          ∃ chat served manifest,
            reply = chatReply Host.frozen chat served manifest ∧
            visit.Chats Host.frozen chat ∧
            visit.UnderPolicy Host.frozen (constantProvider helloReply) past chat
              served := by
  intro claim
  obtain ⟨early, greetsEarly⟩ := exists_greets
    (by decide +kernel : Passes _ (greetingCall.forecast Host.frozen
      (some (cachingBundle "1" ["small"]).sorted)) = true)
  obtain ⟨late, greetsLate⟩ := exists_greets
    (by decide +kernel : Passes _ (greetingCall.forecast Host.frozen
      (some (cachingBundle "2" ["frontier"]).sorted)) = true)
  have sameSetup : early.setup = late.setup :=
    Except.ok.inj (greetsEarly.setup_run.symm.trans greetsLate.setup_run)
  obtain ⟨published, stored, publishedEq, storedEq, underEarly, under, holds⟩ :=
    greeting_stored greetsEarly
  rw [sameSetup] at holds
  obtain ⟨republished, reply, republishedEq, publishes, replied, reported⟩ :=
    greeting_served greetsLate under holds
  have onlyChats : ∀ call, GatewayCall.embedding call ∉
      [publishing "1" ["small"], .chat greetingCall,
        publishing "2" ["frontier"], .chat greetingCall] := by
    simp [publishing]
  have split : Run.visits helloStep {} [publishing "1" ["small"],
      .chat greetingCall, publishing "2" ["frontier"], .chat greetingCall] =
      [Run.visit helloStep {} (publishing "1" ["small"]),
        Run.visit helloStep published (.chat greetingCall),
        Run.visit helloStep stored (publishing "2" ["frontier"])] ++
      Run.visit helloStep republished (.chat greetingCall) :: [] := by
    simp only [Run.visits, publishedEq, storedEq, republishedEq,
      List.cons_append, List.nil_append]
  obtain ⟨chat, served, manifest, -, chats, underPolicy⟩ := claim _ onlyChats _ _
    _ split greetingCall reply .exactHit rfl replied (by decide) reported
  obtain ⟨earlier, member, source, hitFrom⟩ := underPolicy.stored
  have labels := underPolicy.same earlier member source hitFrom
  rw [greetsLate.policyLabel_eq chats rfl (Run.visit_before _ _ _) publishes]
    at labels
  have sourceChats := hitFrom.chats
  simp only [List.mem_cons, List.not_mem_nil, or_false] at member
  rcases member with rfl | rfl | rfl
  · have input := sourceChats.input
    cases input
  · rw [greetsEarly.policyLabel_eq sourceChats rfl (Run.visit_before _ _ _)
      underEarly.publishes] at labels
    revert labels
    decide
  · have input := sourceChats.input
    cases input

end Urp
