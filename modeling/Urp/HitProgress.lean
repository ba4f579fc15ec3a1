import Urp.ChatProgress
import Urp.PolicyNaming
import Urp.SemanticRuns

/-!
# Requests that store and requests that hit

While nothing expires, an enforced request stores its accepted answer in the
caches in memory, and a request that finds it there is answered with it.
-/

namespace Urp

open Python Program

/-! ## A clock that stands still -/

/-- Nothing that is kept for a positive time expires. -/
def Host.Lasting (host : Host) : Prop :=
  ∀ early late ttl, 0 < ttl → host.clock late < host.clock early + ttl

/-- The counting host at one instant. -/
def Host.frozen : Host := { Host.counting with clock := fun _ => 0 }

theorem Host.frozen_lasting : Host.frozen.Lasting := by
  intro early late ttl positive
  change (0 : ℚ) < 0 + ttl
  rwa [zero_add]

theorem Host.frozen_reliable : Host.frozen.Reliable :=
  ⟨fun _ => Host.counting_reliable.dateTime 0, Host.counting_reliable.nonempty,
    Host.counting_reliable.alphanumeric, fun _ _ _ _ _ impossible =>
      nomatch impossible⟩

theorem isExpired_of_lasting {host : Host} (lasting : host.Lasting)
    {ttl : ℚ} (positive : 0 < ttl) (early late : Nat) :
    isExpired (some (host.clock early + ttl)) (host.clock late) = false := by
  simp only [isExpired, Option.any_some, decide_eq_false_iff_not, not_le]
  exact lasting early late ttl positive

theorem Chat.positiveTtl_pos {chat : Chat} {ttl : ℚ}
    (lives : chat.positiveTtl = some ttl) : 0 < ttl := by
  obtain ⟨-, positive⟩ := Option.filter_eq_some_iff.mp lives
  simpa using positive

/-! ## The exact cache -/

section Exact

variable {host : Host} {chat : Chat} {gateway : Gateway}

/-- The entry that an approved response gets. -/
def Chat.exactEntry (host : Host) (chat : Chat) (response : Value) (ttl : ℚ)
    (tick : Nat) : CacheEntry where
  key := chat.cacheKey
  tenant := chat.call.tenant
  nameSpace := chat.call.nameSpace
  value := response
  sourceFingerprints := chat.setup.fingerprints
  verifierPassed := true
  expiresAt := some (host.clock tick + ttl)

theorem putExpiring_run (lasting : host.Lasting) {ttl : ℚ} (positive : 0 < ttl)
    {entry : CacheEntry} (passed : entry.verifierPassed = true)
    (tenant : entry.tenant ≠ "") (nameSpace : entry.nameSpace ≠ "")
    (entries : Dict String CacheEntry) (supply : Supply) :
    putExpiring host ttl entry ⟨.memory entries, supply⟩ =
      (.ok (), ⟨.memory (entries.insert entry.key
          { entry with expiresAt := some (host.clock supply.tick + ttl) }),
        ⟨supply.nextId, supply.tick + 2⟩⟩) := by
  have timed : focus CacheState.supplyLens host.now ⟨.memory entries, supply⟩ =
      (.ok (host.clock supply.tick),
        ⟨.memory entries, ⟨supply.nextId, supply.tick + 1⟩⟩) := rfl
  have fresh := isExpired_of_lasting lasting positive supply.tick
    (supply.tick + 1)
  have checked : focus CacheState.supplyLens
      (checkExpired host (some (host.clock supply.tick + ttl)))
        ⟨.memory entries, ⟨supply.nextId, supply.tick + 1⟩⟩ =
      (.ok false, ⟨.memory entries, ⟨supply.nextId, supply.tick + 2⟩⟩) := by
    rw [← fresh]
    rfl
  have named : ¬ (entry.tenant = "" ∨ entry.nameSpace = "") :=
    not_or.mpr ⟨tenant, nameSpace⟩
  unfold putExpiring
  rw [bind_ok timed]
  unfold URPCache.put
  simp only [passed, Bool.true_eq_false, if_false, if_neg named]
  rw [bind_ok checked]
  rfl

/-- The gateway after `ticks` readings of the clock, with these caches. -/
def Gateway.ticked (gateway : Gateway) (ticks : Nat) (caches : Caches) :
    Gateway :=
  { gateway with
    caches
    world := World.supplyLens.set gateway.world
      ⟨gateway.supply.nextId, gateway.supply.tick + ticks⟩ }

/-- Reading the clock leaves the request where it is. -/
theorem Gateway.goesOn_ticked (healthy : gateway.world.Healthy) (ticks : Nat)
    (caches : Caches) : gateway.GoesOn 0 caches (gateway.ticked ticks caches) :=
  ⟨⟨healthy, rfl, rfl⟩, rfl⟩

theorem storeExact_run (lasting : host.Lasting)
    {entries : Dict String CacheEntry}
    (memory : gateway.caches.exact = .memory entries) {ttl : ℚ}
    (lives : chat.positiveTtl = some ttl)
    (performed : chat.performs "cache_store" = true)
    (tenant : chat.call.tenant ≠ "") (nameSpace : chat.call.nameSpace ≠ "")
    (response : Value) :
    storeExact host chat response gateway =
      (.ok (), gateway.ticked 2 { gateway.caches with
        exact := .memory (entries.insert chat.cacheKey
          (chat.exactEntry host response ttl gateway.supply.tick)) }) := by
  have same : Gateway.exactLens.get gateway =
      ⟨.memory entries, gateway.supply⟩ := by
    rw [← memory]
    rfl
  have put := putExpiring_run lasting (Chat.positiveTtl_pos lives)
    (rfl : (chat.exactEntry host response ttl gateway.supply.tick).verifierPassed
      = true) tenant nameSpace entries gateway.supply
  rw [← same] at put
  unfold storeExact
  simp only [lives, performed, if_true]
  exact focus_of_run put

theorem exactLookup_absent
    (absent : gateway.caches.exact.lookup host chat.cacheKey = none) :
    exactLookup host chat gateway = (.ok none, gateway) := by
  unfold exactLookup
  split
  · have run := URPCache.getEntry_run host chat.cacheKey
      (Gateway.exactLens.get gateway)
    rw [show (Gateway.exactLens.get gateway).backend = gateway.caches.exact
      from rfl, absent] at run
    have got : URPCache.get host chat.cacheKey chat.call.tenant
        chat.call.nameSpace (some chat.setup.fingerprints)
          (Gateway.exactLens.get gateway) =
        (.ok .none, Gateway.exactLens.get gateway) := by
      unfold URPCache.get
      rw [bind_ok run]
      rfl
    rw [bind_ok (focus_of_run got)]
    rfl
  · rfl

/-- A live entry in scope is found. -/
theorem exactLookup_found (healthy : gateway.world.Healthy)
    (enabled : chat.exactCacheEnabled = true) {entry : CacheEntry} {expiry : ℚ}
    (present : gateway.caches.exact.lookup host chat.cacheKey =
      some (.ok entry))
    (inside : URPCache.isInScope entry chat.call.tenant chat.call.nameSpace
      (some chat.setup.fingerprints) = true)
    (expires : entry.expiresAt = some expiry)
    (live : isExpired entry.expiresAt (host.clock gateway.supply.tick) = false)
    (accepted : (verifyChatResponse host entry.value).accepted = true) :
    Returns (exactLookup host chat) gateway fun found later =>
      found = some entry.value ∧ gateway.GoesOn 0 gateway.caches later := by
  let s := Gateway.exactLens.get gateway
  have run := URPCache.getEntry_run host chat.cacheKey s
  rw [show s.backend = gateway.caches.exact from rfl, present] at run
  have checked : focus CacheState.supplyLens
      (checkExpired host entry.expiresAt) s =
      (.ok false, { s with supply := ⟨s.supply.nextId, s.supply.tick + 1⟩ }) := by
    rw [← live, expires]
    rfl
  have got : URPCache.get host chat.cacheKey chat.call.tenant
      chat.call.nameSpace (some chat.setup.fingerprints) s =
        (.ok entry.value,
          { s with supply := ⟨s.supply.nextId, s.supply.tick + 1⟩ }) := by
    unfold URPCache.get
    rw [bind_ok run]
    simp only [inside, if_true]
    rw [bind_ok checked]
    rfl
  have dict : entry.value ≠ .none := by
    intro none
    rw [none] at accepted
    cases accepted
  refine ⟨some entry.value, _, ?_, rfl, gateway.goesOn_ticked healthy 1 _⟩
  unfold exactLookup
  simp only [enabled, if_true]
  rw [bind_ok (focus_of_run got)]
  clear got
  generalize entry.value = response at dict accepted ⊢
  cases response with
  | none => exact absurd rfl dict
  | bool | int | float | str | bytes | list | dict =>
      simp only [accepted, if_true]
      rfl

/-- A request that stores nothing finds nothing either. -/
theorem exactLookup_empty
    (empty : ∀ key, gateway.caches.exact.lookup host key = none) :
    exactLookup host chat gateway = (.ok none, gateway) :=
  exactLookup_absent (empty _)

end Exact

/-! ## The semantic cache -/

section Semantic

variable {host : Host} {chat : Chat} {gateway : Gateway}

theorem storeSemantic_disabled (disabled : chat.semanticCacheEnabled = false)
    (response : Value) : storeSemantic host chat response = ret () := by
  unfold storeSemantic
  split
  · simp only [disabled, Bool.false_eq_true, if_false]
    rfl
  · rfl

theorem semanticLookup_disabled
    (disabled : chat.semanticCacheEnabled = false) :
    semanticLookup host chat = ret none := by
  unfold semanticLookup
  simp only [disabled, Bool.false_eq_true, if_false]
  rfl

/-- The entry that an approved response gets. -/
def Chat.semanticEntry (host : Host) (chat : Chat) (response : Value) (ttl : ℚ)
    (tick : Nat) : SemanticCacheEntry :=
  SemanticCache.storedEntry host chat.setup.fingerprints chat.call.tenant
    chat.call.nameSpace (chat.routingText host) response
    (verifyChatResponse host response) ttl tick

theorem SemanticCache.store_run (lasting : host.Lasting) {ttl : ℚ}
    (positive : 0 < ttl) {verification : VerificationResult}
    (accepted : verification.accepted = true) (tenant nameSpace text : String)
    (value : Value) (sourceFingerprints : Finset String)
    (state : SemanticState) :
    let entry := storedEntry host sourceFingerprints tenant nameSpace text value
      verification ttl state.supply.tick
    store host tenant nameSpace text value sourceFingerprints verification ttl
        state =
      (.ok entry.key, ⟨{ state.cache with
          backend := state.cache.backend.insert entry },
        ⟨state.supply.nextId, state.supply.tick + 2⟩⟩) := by
  intro entry
  have timed : focus SemanticState.supplyLens host.now state =
      (.ok (host.clock state.supply.tick),
        { state with supply := ⟨state.supply.nextId, state.supply.tick + 1⟩ }) :=
    rfl
  have fresh := isExpired_of_lasting lasting positive state.supply.tick
    (state.supply.tick + 1)
  have checked : focus SemanticState.supplyLens
      (checkExpired host entry.expiresAt)
        { state with supply := ⟨state.supply.nextId, state.supply.tick + 1⟩ } =
      (.ok false,
        { state with supply := ⟨state.supply.nextId, state.supply.tick + 2⟩ }) := by
    rw [← fresh]
    rfl
  have put : SemanticCache.put host entry
      { state with supply := ⟨state.supply.nextId, state.supply.tick + 1⟩ } =
      (.ok (), ⟨{ state.cache with
          backend := state.cache.backend.insert entry },
        ⟨state.supply.nextId, state.supply.tick + 2⟩⟩) := by
    unfold SemanticCache.put
    simp only [show entry.verification.accepted = true from accepted,
      Bool.true_eq_false, if_false]
    rw [bind_ok checked]
    rfl
  unfold store
  rw [if_neg (not_le.mpr positive), bind_ok timed]
  exact bind_ok put

theorem storeSemantic_run (lasting : host.Lasting) {ttl : ℚ}
    (lives : chat.positiveTtl = some ttl)
    (enabled : chat.semanticCacheEnabled = true) {response : Value}
    (accepted : (verifyChatResponse host response).accepted = true) :
    storeSemantic host chat response gateway =
      (.ok (), gateway.ticked 2 { gateway.caches with
        semantic := { gateway.caches.semantic with
          backend := gateway.caches.semantic.backend.insert
            (chat.semanticEntry host response ttl gateway.supply.tick) } }) := by
  have run := SemanticCache.store_run lasting (Chat.positiveTtl_pos lives)
    accepted chat.call.tenant chat.call.nameSpace (chat.routingText host)
    response chat.setup.fingerprints (Gateway.semanticLens.get gateway)
  unfold storeSemantic
  simp only [lives, enabled, if_true]
  rw [bind_ok (focus_of_run run)]
  rfl

/-- An entry that a query finds. -/
structure SemanticCacheEntry.Matches (host : Host) (tenant nameSpace query : String)
    (sourceFingerprints : Finset String) (threshold : ℚ)
    (entry : SemanticCacheEntry) : Prop where
  tenant : entry.tenant = tenant
  nameSpace : entry.nameSpace = nameSpace
  taskType : entry.taskType = "general"
  fingerprints : sourceFingerprints = entry.sourceFingerprints
  accepted : entry.verification.accepted = true
  similar : threshold ≤ (semanticSimilarity host query entry.normalizedText).toRat

/-- What finding the entry gives. -/
def SemanticCacheEntry.hit (host : Host) (entry : SemanticCacheEntry)
    (query : String) (verification : VerificationResult) : SemanticCacheHit where
  value := entry.value
  key := entry.key
  score := semanticSimilarity host query entry.normalizedText
  verification := verification
  createdAt := entry.createdAt

/-- The only entry is found if it matches. -/
theorem SemanticCache.lookupHit_run {tenant nameSpace text : String}
    {sourceFingerprints : Finset String} {given : Option Number} {threshold : ℚ}
    (bounded : unitInterval given = some threshold)
    {verifier : Value → VerificationResult} {state : SemanticState}
    {rows : Dict String SemanticCacheEntry} {key : String}
    {entry : SemanticCacheEntry} (memory : state.cache.backend = .memory rows)
    (only : rows.entries = [(key, entry)])
    (same : entry.Matches host tenant nameSpace
      (normalizeSemanticText host text) sourceFingerprints threshold)
    (live : isExpired entry.expiresAt (host.clock state.supply.tick) = false)
    (verified : (verifier entry.value).accepted = true) :
    lookupHit host tenant nameSpace text sourceFingerprints given verifier
        state =
      (.ok (some (entry.hit host (normalizeSemanticText host text)
          (verifier entry.value))),
        { state with supply := ⟨state.supply.nextId, state.supply.tick + 1⟩ }) := by
  let ticked : SemanticState :=
    { state with supply := ⟨state.supply.nextId, state.supply.tick + 1⟩ }
  have timed : focus SemanticState.supplyLens host.now state =
      (.ok (host.clock state.supply.tick), ticked) := rfl
  have entries : ticked.cache.backend.iterEntries host tenant nameSpace
      "general" = .ok [entry] := by
    rw [show ticked.cache.backend = .memory rows from memory]
    simp [SemanticBackend.iterEntries, Dict.values, only, same.tenant,
      same.nameSpace, same.taskType]
  have candidate : isCandidate entry sourceFingerprints = true := by
    simp [isCandidate, same.accepted, same.fingerprints]
  have best : better host (normalizeSemanticText host text) threshold none
      entry = some (semanticSimilarity host (normalizeSemanticText host text)
        entry.normalizedText, entry) := by
    simp [better, same.similar]
  have scanned : scan host (normalizeSemanticText host text) sourceFingerprints
      threshold (host.clock state.supply.tick) [entry] none ticked =
        (.ok (some (semanticSimilarity host (normalizeSemanticText host text)
          entry.normalizedText, entry)), ticked) := by
    unfold scan
    simp only [live, candidate, Bool.false_eq_true, if_false, if_true, best]
    rfl
  unfold lookupHit
  simp only [bounded]
  rw [bind_ok timed, get_bind, entries, lift_ok_bind, bind_ok scanned]
  simp only [verified, if_true]
  rfl

theorem semanticLookup_found (healthy : gateway.world.Healthy)
    (enabled : chat.semanticCacheEnabled = true) {given : Option Number}
    {threshold : ℚ}
    (asked : semanticThreshold host chat gateway.caches.semantic.threshold =
      .ok given)
    (bounded : unitInterval given = some threshold)
    {rows : Dict String SemanticCacheEntry} {key : String}
    {entry : SemanticCacheEntry}
    (memory : gateway.caches.semantic.backend = .memory rows)
    (only : rows.entries = [(key, entry)])
    (same : entry.Matches host chat.call.tenant chat.call.nameSpace
      (normalizeSemanticText host (chat.routingText host))
      chat.setup.fingerprints threshold)
    (live : isExpired entry.expiresAt (host.clock gateway.supply.tick) = false)
    (verified : (verifyChatResponse host entry.value).accepted = true) :
    Returns (semanticLookup host chat) gateway fun found later =>
      found = some (entry.hit host
          (normalizeSemanticText host (chat.routingText host))
          (verifyChatResponse host entry.value)) ∧
        gateway.GoesOn 0 gateway.caches later := by
  have run := SemanticCache.lookupHit_run bounded
    (show (Gateway.semanticLens.get gateway).cache.backend = .memory rows
      from memory) only same live verified
  refine ⟨_, _, ?_, rfl, gateway.goesOn_ticked healthy 1 _⟩
  unfold semanticLookup
  simp only [enabled, if_true]
  rw [get_bind, asked, lift_ok_bind]
  exact focus_of_run run

/-- An empty cache finds nothing. -/
theorem semanticLookup_empty (healthy : gateway.world.Healthy)
    {given : Option Number} {threshold : ℚ}
    (asked : semanticThreshold host chat gateway.caches.semantic.threshold =
      .ok given)
    (bounded : unitInterval given = some threshold)
    (memory : gateway.caches.semantic.backend = .memory ∅) :
    Returns (semanticLookup host chat) gateway fun found later =>
      found = none ∧ gateway.GoesOn 0 gateway.caches later := by
  by_cases enabled : chat.semanticCacheEnabled = true
  · have entries : gateway.caches.semantic.backend.iterEntries host
        chat.call.tenant chat.call.nameSpace "general" = .ok [] := by
      rw [memory]
      rfl
    have run : SemanticCache.lookupHit host chat.call.tenant chat.call.nameSpace
        (chat.routingText host) chat.setup.fingerprints given
        (verifyChatResponse host) (Gateway.semanticLens.get gateway) =
          (.ok none, ⟨gateway.caches.semantic,
            ⟨gateway.supply.nextId, gateway.supply.tick + 1⟩⟩) := by
      have timed : focus SemanticState.supplyLens host.now
          (Gateway.semanticLens.get gateway) =
        (.ok (host.clock gateway.supply.tick), ⟨gateway.caches.semantic,
          ⟨gateway.supply.nextId, gateway.supply.tick + 1⟩⟩) := rfl
      unfold SemanticCache.lookupHit
      simp only [bounded]
      rw [bind_ok timed, get_bind, entries, lift_ok_bind]
      rfl
    refine ⟨none, _, ?_, rfl, gateway.goesOn_ticked healthy 1 _⟩
    unfold semanticLookup
    simp only [enabled, if_true]
    rw [get_bind, asked, lift_ok_bind]
    exact focus_of_run run
  · rw [semanticLookup_disabled (by simpa using enabled)]
    exact returns_ret ⟨rfl, ⟨⟨healthy, rfl, rfl⟩, rfl⟩⟩

end Semantic

/-! ## Enforced requests -/

/-- An enforced request that reads and writes the exact cache. -/
structure Chat.Cached (chat : Chat) (ttl : ℚ) : Prop where
  recordable : chat.Recordable
  nameSpace : chat.call.nameSpace ≠ ""
  lives : chat.positiveTtl = some ttl
  looksUp : chat.performs "exact_cache_lookup" = true
  routes : chat.performs "model_route" = true
  stores : chat.performs "cache_store" = true
  verifiers : chat.policy.requiredVerifiers = ["non_empty_text"]
  manifestable : chat.setup.isManifestable = true

/-- The decision and the options of a request that uses the exact cache. -/
def Forecast.isCached (forecast : Forecast) : Bool :=
  !forecast.policy.requireApproval && forecast.setup.mode = .enforce &&
    (forecast.ttl.filter (0 < ·)).isSome &&
    "exact_cache_lookup" ∈ forecast.actions &&
    "model_route" ∈ forecast.actions && "cache_store" ∈ forecast.actions &&
    forecast.policy.requiredVerifiers = ["non_empty_text"] &&
    forecast.setup.isManifestable

/-- A provider with one reply. -/
def constantProvider (reply : Value) : ChatProvider := fun _ _ _ => .ok reply

section Enforced

variable {host : Host} {chat : Chat} {gateway : Gateway} {ttl : ℚ}
  {reply : Value}

theorem Chat.Cached.required (cached : chat.Cached ttl)
    (accepted : (verifyChatResponse host reply).accepted = true) :
    chat.verifyRequired host reply = .ok () :=
  verifyRequired_nonEmptyText cached.verifiers accepted

/-- What an accepted answer leaves in the caches. -/
def Chat.storedCaches (host : Host) (chat : Chat) (response : Value) (ttl : ℚ)
    (tick : Nat) (entries : Dict String CacheEntry) (semantic : SemanticCache) :
    Caches where
  exact := .memory (entries.insert chat.cacheKey
    (chat.exactEntry host response ttl tick))
  semantic :=
    if chat.semanticCacheEnabled then
      { semantic with
        backend := semantic.backend.insert
          (chat.semanticEntry host response ttl (tick + 2)) }
    else semantic

theorem Chat.Cached.acceptAnswer (cached : chat.Cached ttl)
    (lasting : host.Lasting) {entries : Dict String CacheEntry}
    (memory : gateway.caches.exact = .memory entries)
    (healthy : gateway.world.Healthy)
    (accepted : (verifyChatResponse host reply).accepted = true) :
    Returns (acceptAnswer host chat reply) gateway fun _ later =>
      gateway.GoesOn 0 (chat.storedCaches host reply ttl gateway.supply.tick
        entries gateway.caches.semantic) later := by
  have exactRun := storeExact_run lasting memory cached.lives cached.stores
    cached.recordable.tenant cached.nameSpace reply
  unfold Urp.acceptAnswer
  simp only [accepted, if_true]
  rw [cached.required accepted, lift_ok_bind]
  unfold Chat.storedCaches
  by_cases enabled : chat.semanticCacheEnabled = true
  · rw [if_pos enabled]
    have semanticRun := @storeSemantic_run host chat
      (gateway.ticked 2 { gateway.caches with
        exact := .memory (entries.insert chat.cacheKey
          (chat.exactEntry host reply ttl gateway.supply.tick)) })
      lasting ttl cached.lives enabled reply accepted
    exact ⟨(), _, (bind_ok exactRun).trans semanticRun,
      gateway.goesOn_ticked healthy 4 _⟩
  · rw [if_neg enabled, storeSemantic_disabled (by simpa using enabled)]
    exact ⟨(), _, bind_ok exactRun, gateway.goesOn_ticked healthy 2 _⟩

variable (reliable : host.Reliable)

include reliable

/-- What is in neither cache is asked for and stored. -/
theorem Chat.Cached.serve_miss (cached : chat.Cached ttl)
    (lasting : host.Lasting) {entries : Dict String CacheEntry}
    (memory : gateway.caches.exact = .memory entries)
    (accepted : (verifyChatResponse host reply).accepted = true)
    (plain : IsPlain (Served.getD ⟨reply, .miss, none, none⟩ "model" .none))
    (absent : entries.lookup chat.cacheKey = none)
    (searched : Returns (semanticLookup host chat) gateway fun found later =>
      found = none ∧ gateway.GoesOn 0 gateway.caches later) :
    ∃ tick, Returns (serve host (constantProvider reply) chat) gateway
      fun served later => served = ⟨reply, .miss, none, none⟩ ∧
        gateway.GoesOn 2 (chat.storedCaches host reply ttl tick entries
          gateway.caches.semantic) later := by
  obtain ⟨_, missed, second, rfl, on⟩ := searched
  obtain ⟨route, routed⟩ := exists_routeModel host chat.policy.modelAllowlist
    (chat.routingText host)
  have first : exactLookup host chat gateway = (.ok none, gateway) := by
    apply exactLookup_absent
    rw [memory]
    simp [CacheBackend.lookup, absent]
  have chosen : chat.firstModel host route = .ok route.model := by
    unfold Chat.firstModel
    rw [if_pos cached.routes]
  have kept : missed.caches.exact = .memory entries := by
    rw [on.caches_eq, memory]
  have accepts : ∀ calls, Returns (Urp.acceptAnswer host chat reply)
      { missed with calls } fun _ later =>
        Gateway.GoesOn { missed with calls } 0 (chat.storedCaches host reply ttl
          missed.supply.tick entries missed.caches.semantic) later :=
    fun calls => @Chat.Cached.acceptAnswer host chat { missed with calls } ttl
      reply cached lasting entries kept on.world.healthy accepted
  have answers := cached.recordable.answer reliable chosen
    (rfl : constantProvider reply missed.calls chat.providerRequest route.model =
      .ok reply) accepted plain accepts
  refine ⟨missed.supply.tick,
    (answers.of_run (serve_missed host _ chat first second routed)).mono ?_⟩
  rintro served later ⟨same, answered⟩
  refine ⟨same, ?_⟩
  rw [← on.caches_eq]
  have whole := on.trans answered
  exact ⟨whole.world, whole.caches_eq⟩

/-- A response of the exact cache is served. -/
theorem Chat.Cached.serve_exactHit (cached : chat.Cached ttl)
    {provider : ChatProvider}
    (found : Returns (exactLookup host chat) gateway fun found later =>
      found = some reply ∧ gateway.GoesOn 0 gateway.caches later) :
    Returns (serve host provider chat) gateway fun served later =>
      served = ⟨reply, .exactHit, none, none⟩ ∧
        gateway.GoesOn 1 gateway.caches later := by
  obtain ⟨route, routed⟩ := exists_routeModel host chat.policy.modelAllowlist
    (chat.routingText host)
  unfold serve
  apply found.bind
  rintro _ looked ⟨rfl, on⟩
  rw [routed, lift_ok_bind]
  apply (cached.recordable.record reliable (isPlain_ofList (by simp))
    on.world.healthy).bind
  intro _ later recorded
  have whole := on.trans recorded
  exact returns_ret ⟨rfl, whole.world, whole.caches_eq.trans on.caches_eq⟩

/-- A response of the semantic cache is served. -/
theorem Chat.Cached.serve_semanticHit (cached : chat.Cached ttl)
    {provider : ChatProvider} {hit : SemanticCacheHit}
    (missed : Returns (exactLookup host chat) gateway fun found later =>
      found = none ∧ gateway.GoesOn 0 gateway.caches later)
    (found : ∀ looked, gateway.GoesOn 0 gateway.caches looked →
      Returns (semanticLookup host chat) looked fun found later =>
        found = some hit ∧ looked.GoesOn 0 looked.caches later) :
    Returns (serve host provider chat) gateway fun served later =>
      served = ⟨hit.value, .semanticHit, none, some hit.score⟩ ∧
        gateway.GoesOn 1 gateway.caches later := by
  obtain ⟨route, routed⟩ := exists_routeModel host chat.policy.modelAllowlist
    (chat.routingText host)
  unfold serve
  apply missed.bind
  rintro _ looked ⟨rfl, on⟩
  rw [routed, lift_ok_bind]
  apply (found looked on).bind
  rintro _ searched ⟨rfl, searchedOn⟩
  have plain : IsPlain (.float (.finite hit.score)) := ⟨rfl, rfl⟩
  apply (cached.recordable.record reliable (isPlain_ofList (by simp [plain]))
    searchedOn.world.healthy).bind
  intro _ later recorded
  have whole := (on.trans searchedOn).trans recorded
  apply returns_ret
  refine ⟨rfl, whole.world, ?_⟩
  rw [recorded.caches_eq, searchedOn.caches_eq, on.caches_eq]

/-- What is served gets its manifest. -/
theorem Chat.Cached.finish (cached : chat.Cached ttl) {served : Served}
    (healthy : gateway.world.Healthy)
    (accepted : (verifyChatResponse host served.response).accepted = true)
    (model : isString (served.getD "model" (.str "mock")) = true)
    (identifier : validateIdentifier (host.idText "mf" gateway.supply.nextId)
      "manifest id" "mf_" = .ok (host.idText "mf" gateway.supply.nextId)) :
    Returns (finish host chat served) gateway fun reply later =>
      gateway.GoesOn 2 gateway.caches later ∧
        ∃ manifest, reply = chatReply host chat served manifest :=
  cached.recordable.finish reliable healthy (cached.required accepted)
    (validateComputeManifest_of_manifestable cached.manifestable model)
    identifier

end Enforced

/-! ## Whole requests -/

/-- A request of which the bundle makes an enforced one with caches. -/
structure ChatCall.Servable (host : Host) (call : ChatCall)
    (bundle : Option PolicyBundle) (forecast : Forecast) : Prop where
  made : call.forecast host bundle = .ok forecast
  cached : forecast.isCached = true
  admitted : requireTenant call.session call.tenant = .ok ()
  tenant : call.tenant ≠ ""
  nameSpace : call.nameSpace ≠ ""

/-- What the request is prepared as. -/
structure ChatCall.ServedAs (call : ChatCall) (forecast : Forecast) (ttl : ℚ)
    (chat : Chat) : Prop where
  call_eq : chat.call = call
  setup_eq : chat.setup = forecast.setup
  cached : chat.Cached ttl
  actions_eq : chat.admission.plan.actionNames = forecast.actions
  policy_eq : chat.policy = forecast.policy

section Requests

variable {host : Host} (reliable : host.Reliable) {call : ChatCall}
  {bundle : Option PolicyBundle} {forecast : Forecast} {gateway : Gateway}

include reliable

theorem ChatCall.Servable.prepareChat
    (servable : call.Servable host bundle forecast)
    (healthy : gateway.world.Healthy)
    (resolved : governingBundle (call.aiRequest host forecast.setup)
      gateway.world.policies = (.ok bundle, gateway.world.policies)) :
    Returns (prepareChat host call) gateway fun chat later =>
      gateway.GoesOn 5 gateway.caches later ∧
        ∃ ttl, call.ServedAs forecast ttl chat := by
  have checked := servable.cached
  simp only [Forecast.isCached, Bool.and_eq_true, Bool.not_eq_true',
    decide_eq_true_eq] at checked
  obtain ⟨⟨⟨⟨⟨⟨⟨unapproved, enforced⟩, lives⟩, looksUp⟩, routes⟩, stores⟩,
    verifiers⟩, manifestable⟩ := checked
  obtain ⟨ttl, lives⟩ := Option.isSome_iff_exists.mp lives
  have admissible := ChatCall.admissible_of_forecast servable.made unapproved
    servable.admitted servable.tenant
  apply (admissible.prepareChat reliable healthy resolved).mono
  rintro chat later ⟨on, decided⟩
  have performs : ∀ action ∈ forecast.actions,
      chat.performs action = true := by
    intro action member
    simp only [Chat.performs, decided.setup_eq, enforced,
      decided.admission.actions_eq, member, decide_true, Bool.and_self]
  refine ⟨on, ttl, decided.call_eq, decided.setup_eq, ?_,
    decided.admission.actions_eq, decided.admission.policy_eq⟩
  constructor
  · exact decided.recordable servable.tenant servable.admitted
  · rw [decided.call_eq]
    exact servable.nameSpace
  · rw [Chat.positiveTtl, decided.ttl_eq]
    exact lives
  · exact performs _ looksUp
  · exact performs _ routes
  · exact performs _ stores
  · rw [Chat.policy, decided.admission.policy_eq]
    exact verifiers
  · rw [decided.setup_eq]
    exact manifestable

/-- A request that nothing in the caches answers is answered and stored. -/
theorem ChatCall.Servable.miss (servable : call.Servable host bundle forecast)
    (lasting : host.Lasting) (healthy : gateway.world.Healthy)
    (resolved : governingBundle (call.aiRequest host forecast.setup)
      gateway.world.policies = (.ok bundle, gateway.world.policies))
    {reply : Value}
    (accepted : (verifyChatResponse host reply).accepted = true)
    (plain : IsPlain (Served.getD ⟨reply, .miss, none, none⟩ "model" .none))
    (model : isString (Served.getD ⟨reply, .miss, none, none⟩ "model"
      (.str "mock")) = true)
    {entries : Dict String CacheEntry}
    (memory : gateway.caches.exact = .memory entries)
    (absent : ∀ chat : Chat, chat.call = call → chat.setup = forecast.setup →
      entries.lookup chat.cacheKey = none)
    (searched : ∀ chat ttl admitted, call.ServedAs forecast ttl chat →
      gateway.GoesOn 5 gateway.caches admitted →
        Returns (semanticLookup host chat) admitted fun found later =>
          found = none ∧ admitted.GoesOn 0 admitted.caches later)
    (identifier : validateIdentifier
      (host.idText "mf" (gateway.supply.nextId + 7)) "manifest id" "mf_" =
        .ok (host.idText "mf" (gateway.supply.nextId + 7))) :
    Returns (handleChatCompletion host (constantProvider reply) call) gateway
      fun response later => ∃ chat ttl tick manifest,
        call.ServedAs forecast ttl chat ∧
        response = chatReply host chat ⟨reply, .miss, none, none⟩ manifest ∧
        gateway.GoesOn 9 (chat.storedCaches host reply ttl tick entries
          gateway.caches.semantic) later := by
  unfold handleChatCompletion
  apply (servable.prepareChat reliable healthy resolved).bind
  rintro chat admitted ⟨on, ttl, servedAs⟩
  have kept : admitted.caches.exact = .memory entries := by
    rw [on.caches_eq, memory]
  obtain ⟨tick, serves⟩ := servedAs.cached.serve_miss reliable lasting kept
    accepted plain (absent chat servedAs.call_eq servedAs.setup_eq)
    (searched chat ttl admitted servedAs on)
  apply serves.bind
  rintro _ served ⟨rfl, servedOn⟩
  have both := on.trans servedOn
  have nextId : served.supply.nextId = gateway.supply.nextId + 7 :=
    both.world.nextId
  rw [← nextId] at identifier
  apply (servedAs.cached.finish reliable servedOn.world.healthy accepted model
    identifier).mono
  rintro response later ⟨finished, manifest, rfl⟩
  have whole := both.trans finished
  refine ⟨chat, ttl, tick, manifest, servedAs, rfl, whole.world, ?_⟩
  rw [whole.caches_eq, both.caches_eq, on.caches_eq]

/-- A request that an entry of the exact cache answers. -/
theorem ChatCall.Servable.exactHit
    (servable : call.Servable host bundle forecast)
    (healthy : gateway.world.Healthy)
    (resolved : governingBundle (call.aiRequest host forecast.setup)
      gateway.world.policies = (.ok bundle, gateway.world.policies))
    {reply : Value}
    (accepted : (verifyChatResponse host reply).accepted = true)
    (model : isString (Served.getD ⟨reply, .exactHit, none, none⟩ "model"
      (.str "mock")) = true)
    (found : ∀ chat ttl admitted, call.ServedAs forecast ttl chat →
      gateway.GoesOn 5 gateway.caches admitted →
        Returns (exactLookup host chat) admitted fun found later =>
          found = some reply ∧ admitted.GoesOn 0 admitted.caches later)
    (identifier : validateIdentifier
      (host.idText "mf" (gateway.supply.nextId + 6)) "manifest id" "mf_" =
        .ok (host.idText "mf" (gateway.supply.nextId + 6)))
    (provider : ChatProvider) :
    Returns (handleChatCompletion host provider call) gateway
      fun response _ => ∃ chat ttl manifest, call.ServedAs forecast ttl chat ∧
        response = chatReply host chat ⟨reply, .exactHit, none, none⟩
          manifest := by
  unfold handleChatCompletion
  apply (servable.prepareChat reliable healthy resolved).bind
  rintro chat admitted ⟨on, ttl, servedAs⟩
  apply (servedAs.cached.serve_exactHit reliable
    (found chat ttl admitted servedAs on)).bind
  rintro _ served ⟨rfl, servedOn⟩
  have both := on.trans servedOn
  have nextId : served.supply.nextId = gateway.supply.nextId + 6 :=
    both.world.nextId
  rw [← nextId] at identifier
  apply (servedAs.cached.finish reliable servedOn.world.healthy accepted model
    identifier).mono
  rintro response later ⟨-, manifest, rfl⟩
  exact ⟨chat, ttl, manifest, servedAs, rfl⟩

end Requests

/-! ## Published bundles -/

section Published

open PolicyBundleStore

variable {host : Host} {bundle : PolicyBundle} {version : String}

/-- The version of the bundle is the active one under `default-safe`. -/
structure PolicyFiles.Publishes (files : PolicyFiles) (bundle : PolicyBundle)
    (version : String) : Prop where
  consistent : files.Consistent
  active : files.IsActiveVersion "default-safe" version
  record : ∃ record, files.records.lookup ("default-safe", version) =
    some record ∧ record.bundle = bundle.sorted

/-- A valid bundle is published, and becomes the active one. -/
theorem publish_returns (reliable : host.Reliable)
    (valid : isValidBundle bundle = true)
    (named : bundle.name? = some "default-safe")
    (versioned : bundle.version? = some version)
    (identifier : isIdentifier version = true) (tenant : bundle.tenant ≠ "")
    (actor : String) {state : PolicyState} (healthy : state.ledger.Healthy)
    (consistent : state.files.Consistent)
    (writable : state.files.activeFile ≠ .directory) :
    Returns (publish host {} bundle actor) state fun _ later =>
      later.ledger.Healthy ∧ later.files.Publishes bundle version ∧
        later.ledger.supply.nextId = state.ledger.supply.nextId + 1 := by
  obtain ⟨checked, nameChecked, versionChecked⟩ :=
    publish_checks valid versioned identifier
  obtain ⟨versions, readable⟩ : ∃ versions, ∀ records,
      readActive { state.files with records } =
        (.ok versions, { state.files with records }) := by
    unfold readActive
    cases file : state.files.activeFile with
    | absent =>
        refine ⟨∅, fun records => ?_⟩
        rw [get_bind]
        simp only [file]
        rfl
    | file versions =>
        refine ⟨versions, fun records => ?_⟩
        rw [get_bind]
        simp only [file]
        rfl
    | directory => exact absurd file writable
  let record : PolicyRecord :=
    { name := "default-safe"
      version
      publishedAt := host.isoformat (host.clock state.ledger.supply.tick)
      bundle
      bundleHash := bundleHash bundle }
  let records := state.files.records.insert ("default-safe", version)
    { record with bundle := record.bundle.sorted }
  let activated : PolicyFiles :=
    ⟨records, .file (versions.insert "default-safe" version)⟩
  have written : writeRecord record state.files =
      (.ok (), { state.files with records }) := by
    unfold writeRecord makeDirectory
    rfl
  have pointed : writeActive "default-safe" version { state.files with records } =
      (.ok (), activated) := by
    unfold writeActive
    rw [nameChecked, lift_ok_bind, validateIdentifier_of_isIdentifier identifier,
      lift_ok_bind, bind_ok (readable records)]
    rfl
  let drawn : LedgerState :=
    ⟨state.ledger.file, ⟨state.ledger.supply.nextId, state.ledger.supply.tick + 1⟩⟩
  have stillHealthy : drawn.Healthy := healthy
  let event : LedgerEvent :=
    { eventType := "policy.bundle.published"
      tenant := bundle.tenant
      policyBundleId := some "default-safe"
      actor := some actor
      decision := some version
      details := .ofList [("bundle_hash", .str record.bundleHash)] }
  have recordable : event.Recordable {} :=
    ⟨rfl, tenant, isPlain_ofList (by simp)⟩
  obtain ⟨chained, ledger, appended, laterHealthy, supply⟩ :=
    record_readable reliable recordable stillHealthy
  have run : publish host {} bundle actor state =
      (.ok record, ⟨activated, ledger⟩) := by
    have timed : focus PolicyState.ledgerLens (focus LedgerState.supplyLens
        host.utcNow) state = (.ok record.publishedAt, ⟨state.files, drawn⟩) := rfl
    have first : focus PolicyState.filesLens (writeRecord record)
        ⟨state.files, drawn⟩ = (.ok (), ⟨{ state.files with records }, drawn⟩) :=
      focus_of_run written
    have second : focus PolicyState.filesLens (writeActive "default-safe" version)
        ⟨{ state.files with records }, drawn⟩ = (.ok (), ⟨activated, drawn⟩) :=
      focus_of_run pointed
    have third : focus PolicyState.ledgerLens (JSONLLedger.record host {} event)
        ⟨activated, drawn⟩ = (.ok chained, ⟨activated, ledger⟩) :=
      focus_of_run appended
    unfold publish
    simp only [checked, named, Option.getD_some, nameChecked, versionChecked,
      lift_ok_bind]
    rw [bind_ok timed, bind_ok first, bind_ok second, bind_ok third]
    rfl
  have kept := ensures_state_iff.mp (@ensures_publish host {} state consistent
    bundle actor)
  rw [run] at kept
  have stored : activated.records.lookup ("default-safe", version) =
      some { record with bundle := record.bundle.sorted } :=
    Dict.lookup_insert_self _ _ _
  exact ⟨record, _, run, laterHealthy,
    ⟨kept, ⟨_, rfl, Dict.lookup_insert_self _ _ _⟩, _, stored, rfl⟩,
    congrArg Supply.nextId supply⟩

/-- The published bundle governs the requests that name no other. -/
theorem PolicyFiles.Publishes.governs {files : PolicyFiles}
    (publishes : files.Publishes bundle version) {request : AiRequest}
    (given : request.bundle = none) (session : request.session.activePolicy = none)
    (unnamed : request.bundleName = .none) :
    governingBundle request files = (.ok (some bundle.sorted), files) := by
  obtain ⟨record, found, same⟩ := publishes.record
  have loaded := active_of_lookup publishes.consistent publishes.active found
  obtain ⟨versions, file, current⟩ := publishes.active
  have selected : selectedName request.session none = "" := by
    simp [selectedName, textOr, session]
  have present : versions.contains "default-safe" = true := by
    simp [Dict.contains, current]
  have resolved : activeForWorkUnit request.session none files =
      (.ok (some record), files) := by
    unfold activeForWorkUnit
    rw [bind_ok (readActive_of_file file)]
    simp only [selected, ne_eq, not_true, if_false, present, if_true]
    rw [bind_ok loaded]
    rfl
  have active : resolveActivePolicyBundle request.session none files =
      (.ok (some bundle.sorted), files) := by
    unfold resolveActivePolicyBundle
    rw [bind_ok resolved, ← same]
    rfl
  unfold governingBundle
  rw [given, unnamed]
  exact active

end Published

end Urp
