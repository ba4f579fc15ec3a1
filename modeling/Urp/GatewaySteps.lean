import Urp.Dispatch
import Urp.Executions

/-!
# What the steps of a gateway request leave alone

The provider's history changes only when the provider is asked, the caches
only when they are read or written, and the manifests only when one is put.
-/

namespace Urp

open Python Program

section Frames

variable {γ : Type} {project : Gateway → γ}

/-- The view does not read the state directory. -/
def Outside (project : Gateway → γ) : Prop :=
  ∀ gateway world, project { gateway with world } = project gateway

theorem outside_calls : Outside Gateway.calls := fun _ _ => rfl

theorem outside_caches : Outside Gateway.caches := fun _ _ => rfl

theorem Outside.focus {α : Type} (outside : Outside project)
    (body : Program World PyException α) :
    Frames project (focus Gateway.worldLens body) :=
  frames_focus outside

variable (host : Host) (chat : Chat)

theorem Outside.recordChat (outside : Outside project) (event : LedgerEvent) :
    Frames project (recordChat host chat event) :=
  outside.focus _

theorem Outside.prepareChat (outside : Outside project) (call : ChatCall) :
    Frames project (prepareChat host call) := by
  refine frames_bind (frames_lift _) fun setup => ?_
  refine frames_bind (outside.focus _) fun admission => ?_
  exact frames_lift _

theorem Outside.finish (outside : Outside project) (served : Served) :
    Frames project (finish host chat served) := by
  refine frames_bind (frames_lift _) fun _ => ?_
  refine frames_bind (outside.focus _) fun manifest => ?_
  exact frames_ret _

end Frames

/-! ## Views outside the caches -/

section Quiet

variable (host : Host)

theorem within_newWorkUnit (request : AiRequest) :
    Within Supply.Before (newWorkUnit host request) := by
  refine within_bind (host.within_newId _) fun _ => ?_
  refine within_bind (host.within_newId _) fun _ => ?_
  exact within_bind host.within_utcNow fun _ => within_ret _

theorem quiet_policies {α : Type} (body : Program PolicyFiles PyException α) :
    Within World.Quiet (focus World.policiesLens body) :=
  fun world => ⟨rfl, rfl, .refl world.supply⟩

theorem quiet_intake (request : AiRequest) :
    Within World.Quiet (intake host request) := by
  refine within_bind ?_ fun admission => ?_
  · refine within_bind (quiet_supply (within_newWorkUnit host request))
      fun workUnit => ?_
    refine within_bind (quiet_policies _) fun bundle => ?_
    refine within_bind (within_lift _) fun policy => ?_
    exact within_bind (within_lift _) fun plan => within_ret _
  · refine within_bind ?_ fun _ => within_ret _
    refine within_bind ?_ fun _ => ?_
    · apply within_ite
      · exact within_ret _
      · apply within_ite
        · exact quiet_verifyApproval host _ _ _
        · exact within_raise _
    · refine within_bind (quiet_record host request.session _) fun _ => ?_
      refine within_bind (quiet_record host request.session _) fun _ => ?_
      exact quiet_storePlanWithAudit host request.session _ _

end Quiet

section Uncached

variable {γ : Type} {project : Gateway → γ}

/-- The view reads neither a cache nor what quiet steps change. -/
structure Uncached (project : Gateway → γ) : Prop where
  exact : ∀ gateway state,
    project (Gateway.exactLens.set gateway state) = project gateway
  semantic : ∀ gateway state,
    project (Gateway.semanticLens.set gateway state) = project gateway
  feedback : ∀ gateway feedback,
    project { gateway with feedback } = project gateway
  quiet : ∀ gateway world, gateway.world.Quiet world →
    project { gateway with world } = project gateway

def Gateway.manifests (gateway : Gateway) : ManifestFiles :=
  gateway.world.manifests

theorem uncached_calls : Uncached Gateway.calls :=
  ⟨fun _ _ => rfl, fun _ _ => rfl, fun _ _ => rfl, fun _ _ _ => rfl⟩

theorem uncached_manifests : Uncached Gateway.manifests :=
  ⟨fun _ _ => rfl, fun _ _ => rfl, fun _ _ => rfl,
    fun _ _ quiet => quiet.manifests⟩

variable (host : Host) (chat : Chat)

theorem Uncached.prepareChat (uncached : Uncached project) (call : ChatCall) :
    Frames project (prepareChat host call) := by
  refine frames_bind (frames_lift _) fun setup => ?_
  refine frames_bind ?_ fun _ => frames_lift _
  exact fun gateway =>
    uncached.quiet gateway _ (quiet_intake host _ gateway.world)

/-- The view reads neither a cache nor the ledger. -/
structure Unlogged (project : Gateway → γ) : Prop where
  exact : ∀ gateway state,
    project (Gateway.exactLens.set gateway state) = project gateway
  semantic : ∀ gateway state,
    project (Gateway.semanticLens.set gateway state) = project gateway
  feedback : ∀ gateway feedback,
    project { gateway with feedback } = project gateway
  ledger : ∀ gateway ledger, gateway.supply.Before ledger.supply →
    project (Gateway.worldLens.set gateway { gateway.world with ledger }) =
      project gateway

theorem Uncached.unlogged (uncached : Uncached project) : Unlogged project :=
  ⟨uncached.exact, uncached.semantic, uncached.feedback,
    fun gateway _ drawn => uncached.quiet gateway _ ⟨rfl, rfl, drawn⟩⟩

/-- The plans and the manifests. -/
def World.evidence (world : World) : Dict String Plan × ManifestFiles :=
  (world.plans, world.manifests)

def Gateway.evidence (gateway : Gateway) : Dict String Plan × ManifestFiles :=
  gateway.world.evidence

theorem unlogged_evidence : Unlogged Gateway.evidence :=
  ⟨fun _ _ => rfl, fun _ _ => rfl, fun _ _ => rfl, fun _ _ _ => rfl⟩

theorem Unlogged.record (unlogged : Unlogged project) (session : Session)
    (event : LedgerEvent) :
    Frames project (focus Gateway.worldLens (record host session event)) := by
  intro gateway
  have drawn := JSONLLedger.drawn_record host session event
    gateway.world.ledger
  have run : (Urp.record host session event gateway.world).2 =
      { gateway.world with ledger :=
          (JSONLLedger.record host session event gateway.world.ledger).2 } :=
    congrArg Prod.snd (bind_ret_run _ _ _)
  change project (Gateway.worldLens.set gateway
    (Urp.record host session event gateway.world).2) = _
  rw [run]
  exact unlogged.ledger gateway _ drawn

theorem Unlogged.recordChat (unlogged : Unlogged project)
    (event : LedgerEvent) : Frames project (recordChat host chat event) :=
  unlogged.record host _ event

theorem Unlogged.exactLookup (unlogged : Unlogged project) :
    Frames project (exactLookup host chat) := by
  apply frames_ite
  · refine frames_bind (frames_focus unlogged.exact) fun cached => ?_
    split
    · exact frames_ret _
    · apply frames_ite
      · exact frames_ret _
      · refine frames_bind (frames_focus unlogged.exact) fun _ => ?_
        exact frames_ret _
  · exact frames_ret _

theorem Unlogged.semanticLookup (unlogged : Unlogged project) :
    Frames project (semanticLookup host chat) := by
  apply frames_ite
  · refine frames_bind frames_get fun gateway => ?_
    refine frames_bind (frames_lift _) fun threshold => ?_
    exact frames_focus unlogged.semantic
  · exact frames_ret _

theorem Unlogged.storeExact (unlogged : Unlogged project) (response : Value) :
    Frames project (storeExact host chat response) := by
  unfold Urp.storeExact
  split
  · apply frames_ite
    · exact frames_focus unlogged.exact
    · exact frames_ret _
  · exact frames_ret _

theorem Unlogged.storeSemantic (unlogged : Unlogged project)
    (response : Value) : Frames project (storeSemantic host chat response) := by
  unfold Urp.storeSemantic
  split
  · apply frames_ite
    · refine frames_bind (frames_focus unlogged.semantic) fun _ => ?_
      exact frames_ret _
    · exact frames_ret _
  · exact frames_ret _

theorem Unlogged.acceptAnswer (unlogged : Unlogged project)
    (response : Value) : Frames project (acceptAnswer host chat response) := by
  apply frames_ite
  · refine frames_bind (frames_lift _) fun _ => ?_
    refine frames_bind (unlogged.storeExact host chat response) fun _ => ?_
    exact unlogged.storeSemantic host chat response
  · refine frames_bind (unlogged.recordChat host chat _) fun _ => ?_
    exact frames_raise _

theorem Unlogged.recordFeedback (unlogged : Unlogged project)
    (workUnit : WorkUnit) (route : ModelRoute) (passed : Bool) :
    Frames project (recordFeedback host workUnit route passed) := by
  refine frames_bind (fun gateway => ?_) fun _ => ?_
  · exact unlogged.ledger gateway _ (host.within_utcNow gateway.supply)
  exact frames_modify fun gateway => unlogged.feedback gateway _

theorem Unlogged.settle (unlogged : Unlogged project) (route : ModelRoute)
    (response : Value) (fallback : Option String) :
    Frames project (settle host chat route response fallback) := by
  refine frames_bind (unlogged.acceptAnswer host chat _) fun _ => ?_
  refine frames_bind (unlogged.recordChat host chat _) fun _ => ?_
  refine frames_bind (unlogged.recordChat host chat _) fun _ => ?_
  exact frames_bind (unlogged.recordFeedback host _ _ _) fun _ => frames_ret _

end Uncached

/-! ## Admission -/

section Admission

variable (host : Host)

/-- The decision and the plan are those of a new work unit of the request,
under the bundle that governs it. -/
structure Admitted (request : AiRequest) (world : World)
    (admission : Admission) : Prop where
  workUnit : ∃ i j createdAt, admission.workUnit = request.workUnit
    (host.idText "tr" i) (host.idText "wu" j) createdAt ∧
      world.supply.nextId ≤ j
  bundle : (governingBundle request world.policies).1 = .ok admission.bundle
  policy : evaluatePolicy admission.workUnit admission.bundle =
    .ok admission.policy
  plan : planWorkUnit host admission.workUnit request.mode admission.bundle
    (some admission.policy) = .ok admission.plan

theorem ensures_newWorkUnit (request : AiRequest) (supply : Supply) :
    Ensures (newWorkUnit host request) supply
      (fun workUnit later => supply.Before later ∧
        ∃ i j createdAt, workUnit = request.workUnit
          (host.idText "tr" i) (host.idText "wu" j) createdAt ∧
            supply.nextId ≤ j)
      (fun _ _ => False) := by
  unfold newWorkUnit
  rw [ensures_bind]
  apply (host.ensures_newId _ "tr").mono
  · rintro traceId first ⟨rfl, rfl⟩
    rw [ensures_bind]
    apply (host.ensures_newId _ "wu").mono
    · rintro id second ⟨rfl, rfl⟩
      rw [ensures_bind]
      apply (host.ensures_utcNow _).mono
      · rintro createdAt third rfl
        refine ⟨⟨?_, Nat.le_succ _⟩, _, _, createdAt, rfl, Nat.le_succ _⟩
        exact Nat.le_trans (Nat.le_succ _) (Nat.le_succ _)
      · exact fun _ _ impossible => impossible
    · exact fun _ _ impossible => impossible
  · exact fun _ _ impossible => impossible

theorem ensures_decideAi (request : AiRequest) (world : World) :
    Ensures (decideAi host request) world
      (fun admission _ => Admitted host request world admission)
      (fun _ _ => True) := by
  unfold decideAi
  rw [ensures_bind, ensures_focus]
  apply (ensures_newWorkUnit host request world.supply).mono
  · rintro workUnit supply ⟨-, made⟩
    rw [ensures_bind, ensures_focus]
    apply (ensures_self (governingBundle request) world.policies).mono
    · intro bundle policies resolved
      rw [ensures_bind, ensures_lift]
      refine ⟨fun policy evaluated => ?_, fun _ _ => trivial⟩
      rw [ensures_bind, ensures_lift]
      refine ⟨fun plan planned => ?_, fun _ _ => trivial⟩
      exact ⟨made, congrArg Prod.fst resolved, evaluated, planned⟩
    · exact fun _ _ _ => trivial
  · exact fun _ _ impossible => impossible.elim

theorem ensures_intake (request : AiRequest) (world : World) :
    Ensures (intake host request) world
      (fun admission _ => Admitted host request world admission)
      (fun _ _ => True) := by
  unfold intake
  rw [ensures_bind]
  apply (ensures_decideAi host request world).mono
  · intro admission decided admitted
    rw [ensures_bind]
    apply (ensures_self (admitAi host request.session admission) decided).mono
    · exact fun _ _ _ => admitted
    · exact fun _ _ _ => trivial
  · exact fun _ _ _ => trivial

/-- What a request is once it was admitted from this state. -/
structure ChatPrepared (call : ChatCall) (gateway : Gateway) (chat : Chat) :
    Prop where
  call_eq : chat.call = call
  setup : call.setup host = .ok chat.setup
  admitted : Admitted host (call.aiRequest host chat.setup) gateway.world
    chat.admission
  ttl : cacheTtlSeconds host chat.setup.normalized.options = .ok chat.ttl

theorem ensures_prepareChat (call : ChatCall) (gateway : Gateway) :
    Ensures (prepareChat host call) gateway
      (fun chat _ => ChatPrepared host call gateway chat) (fun _ _ => True) := by
  unfold prepareChat
  rw [ensures_bind, ensures_lift]
  refine ⟨fun setup ready => ?_, fun _ _ => trivial⟩
  rw [ensures_bind, ensures_focus]
  apply (ensures_intake host (call.aiRequest host setup) gateway.world).mono
  · intro admission _ admitted
    rw [ensures_lift]
    refine ⟨fun chat made => ?_, fun _ _ => trivial⟩
    obtain ⟨maxTokens, -, made⟩ := except_bind_eq_ok_iff.mp made
    obtain ⟨ttl, bounded, made⟩ := except_bind_eq_ok_iff.mp made
    cases made
    exact ⟨rfl, ready, admitted, bounded⟩
  · exact fun _ _ _ => trivial

/-- The messages of a prepared request are compiled for its budget. -/
theorem compiledMessages_of_prepared {call : ChatCall} {gateway : Gateway}
    {chat : Chat} (prepared : (prepareChat host call gateway).1 = .ok chat) :
    ∃ maxTokens, ChatCall.maxContextTokens host chat.setup = .ok maxTokens ∧
      chat.compiledMessages = (compileOpenaiMessages host
        chat.setup.normalized.messages maxTokens).2 := by
  have run : prepareChat host call gateway =
      (.ok chat, (prepareChat host call gateway).2) := by rw [← prepared]
  obtain ⟨setup, ready, -, run⟩ := bind_eq_ok_iff.mp run
  obtain ⟨admission, admitted, -, run⟩ := bind_eq_ok_iff.mp run
  have made := congrArg Prod.fst run
  obtain ⟨maxTokens, bounded, made⟩ := except_bind_eq_ok_iff.mp made
  obtain ⟨ttl, -, made⟩ := except_bind_eq_ok_iff.mp made
  cases made
  exact ⟨maxTokens, bounded, rfl⟩

end Admission

/-! ## What the provider is asked -/

section Asked

variable (host : Host) (provider : ChatProvider) (chat : Chat)

theorem askProvider_run (request : Object) (model : String)
    (gateway : Gateway) :
    let reply := provider gateway.calls request model
    askProvider provider request model gateway =
      (reply, { gateway with
        calls := gateway.calls ++ [⟨request, model, reply⟩] }) := rfl

def firstCall (model : String) (history : List ProviderCall) : ProviderCall :=
  ⟨chat.providerRequest, model, provider history chat.providerRequest model⟩

def fallbackCall (model : String) (history : List ProviderCall) :
    ProviderCall :=
  let request := chat.setup.normalized.data
  ⟨request, model, provider history request model⟩

/-- The calls that one request makes after `history`. -/
inductive Asked (route : ModelRoute) (history : List ProviderCall) :
    List ProviderCall → Prop where
  | unnamed {error : PyException}
      (failed : chat.firstModel host route = .error error) :
      Asked route history []
  | once {model : String} (chosen : chat.firstModel host route = .ok model) :
      Asked route history [firstCall provider chat model history]
  | twice {model other : String}
      (chosen : chat.firstModel host route = .ok model)
      (fallback : fallbackModel route.fallbackModel
        chat.policy.modelAllowlist = .ok other) :
      Asked route history
        (let first := firstCall provider chat model history
        [first, fallbackCall provider chat other (history ++ [first])])

variable {host provider chat}

theorem Asked.length_le {route : ModelRoute} {history calls : List ProviderCall}
    (asked : Asked host provider chat route history calls) :
    calls.length ≤ 2 := by
  cases asked <;> simp

/-- The last reply is the provider's after all that it was asked before. -/
theorem Asked.last_reply {route : ModelRoute} {history early : List ProviderCall}
    {last : ProviderCall}
    (asked : Asked host provider chat route history (early ++ [last])) :
    last.reply = provider (history ++ early) last.request last.model := by
  generalize whole : early ++ [last] = calls at asked
  cases asked with
  | unnamed failed => simp at whole
  | once chosen =>
      have split : early ++ [last] = [] ++ [_] := whole
      obtain ⟨rfl, same⟩ := List.append_inj' split rfl
      cases same
      simp [firstCall]
  | twice chosen fallback =>
      have split : early ++ [last] = [_] ++ [_] := whole
      obtain ⟨rfl, same⟩ := List.append_inj' split rfl
      cases same
      rfl

variable (host provider chat)

/-- The answer is the reply to the last call. -/
theorem ensures_askWithFallback (route : ModelRoute) (gateway : Gateway) :
    Ensures (askWithFallback host provider chat route) gateway
      (fun answer later => ∃ early last,
        Asked host provider chat route gateway.calls (early ++ [last]) ∧
          last.reply = .ok answer.1 ∧
          later.calls = gateway.calls ++ (early ++ [last]))
      (fun _ later => ∃ asked,
        Asked host provider chat route gateway.calls asked ∧
          later.calls = gateway.calls ++ asked) := by
  unfold askWithFallback
  rw [ensures_bind, ensures_lift]
  refine ⟨fun model chosen => ?_, fun error failed => ?_⟩
  · rw [ensures_bind]
    apply (ensures_self (askProvider provider chat.providerRequest model)
      gateway).mono
    · intro response asked run
      obtain ⟨replied, rfl⟩ := Prod.mk.inj (askProvider_run provider
        chat.providerRequest model gateway ▸ run)
      have once : Asked host provider chat route gateway.calls
          [firstCall provider chat model gateway.calls] := .once chosen
      rw [ensures_ite]
      refine ⟨fun _ => ⟨[], _, once, replied, rfl⟩, fun _ => ?_⟩
      rw [ensures_bind]
      apply ((outside_calls.recordChat host chat _).ensures _).mono
      · intro _ recorded same
        rw [ensures_bind, ensures_lift]
        refine ⟨fun other fallback => ?_, fun _ _ => ⟨_, once, same⟩⟩
        have twice : Asked host provider chat route gateway.calls _ :=
          .twice chosen fallback
        rw [ensures_bind]
        apply (ensures_self (askProvider provider chat.setup.normalized.data
          other) recorded).mono
        · intro again final rerun
          obtain ⟨replied, rfl⟩ := Prod.mk.inj (askProvider_run provider
            chat.setup.normalized.data other recorded ▸ rerun)
          refine ⟨[firstCall provider chat model gateway.calls], _, twice,
            ?_, ?_⟩
          · rw [← replied, same]
            rfl
          · rw [same]
            simp [firstCall, fallbackCall]
        · intro _ final rerun
          obtain ⟨-, rfl⟩ := Prod.mk.inj (askProvider_run provider
            chat.setup.normalized.data other recorded ▸ rerun)
          refine ⟨_, twice, ?_⟩
          rw [same]
          simp [firstCall, fallbackCall]
      · exact fun _ _ same => ⟨_, once, same⟩
    · intro error asked run
      obtain ⟨-, rfl⟩ := Prod.mk.inj (askProvider_run provider
        chat.providerRequest model gateway ▸ run)
      exact ⟨_, .once chosen, rfl⟩
  · exact ⟨[], .unnamed failed, (List.append_nil _).symm⟩

end Asked

/-- The gateway's own entry is read back from its reply. -/
theorem replyText_withUrp (served : Served) {urp : List (String × Value)}
    {key text : String} (found : Entries.lookup urp key = some (.str text)) :
    replyText (served.withUrp urp) key = some text := by
  unfold replyText Served.withUrp
  simp only [Value.entries?, Option.getD_some, Value.get, Value.getD,
    Entries.lookup_insert, if_true, found]
  rfl

/-! ## Where an answer comes from -/

section Serving

variable (host : Host) (provider : ChatProvider) (chat : Chat)

def exactAnswer (response : Value) : Program Gateway PyException Served := do
  recordChat host chat (chat.event "cache.exact.hit" chat.keyDetails)
  return { response, cacheResult := .exactHit }

def semanticAnswer (hit : SemanticCacheHit) :
    Program Gateway PyException Served := do
  recordChat host chat (chat.event "ai.semantic_cache.accepted"
    (.ofList [("source_fingerprints_match", .bool true),
      ("score", .float (.finite hit.score)), ("cache_key", .str hit.key)]))
  return {
    response := hit.value
    cacheResult := .semanticHit
    semanticHitScore := some hit.score }

theorem Unlogged.exactAnswer {γ : Type} {project : Gateway → γ}
    (unlogged : Unlogged project) (response : Value) :
    Frames project (exactAnswer host chat response) :=
  frames_bind (unlogged.recordChat host chat _) fun _ => frames_ret _

theorem Unlogged.semanticAnswer {γ : Type} {project : Gateway → γ}
    (unlogged : Unlogged project) (hit : SemanticCacheHit) :
    Frames project (semanticAnswer host chat hit) :=
  frames_bind (unlogged.recordChat host chat _) fun _ => frames_ret _

/-- The ways in which `serve` ends. -/
inductive Serving (gateway : Gateway) :
    Except PyException Served × Gateway → Prop where
  | exactFailed {error : PyException} {missed : Gateway}
      (first : exactLookup host chat gateway = (.error error, missed)) :
      Serving gateway (.error error, missed)
  | exactHit {response : Value} {found : Gateway}
      (first : exactLookup host chat gateway = (.ok (some response), found)) :
      Serving gateway (exactAnswer host chat response found)
  | semanticFailed {error : PyException} {missed later : Gateway}
      (first : exactLookup host chat gateway = (.ok none, missed))
      (second : semanticLookup host chat missed = (.error error, later)) :
      Serving gateway (.error error, later)
  | semanticHit {hit : SemanticCacheHit} {missed found : Gateway}
      (first : exactLookup host chat gateway = (.ok none, missed))
      (second : semanticLookup host chat missed = (.ok (some hit), found)) :
      Serving gateway (semanticAnswer host chat hit found)
  | missed {missed later : Gateway} {route : ModelRoute}
      (first : exactLookup host chat gateway = (.ok none, missed))
      (second : semanticLookup host chat missed = (.ok none, later))
      (routed : routeModel host chat.policy.modelAllowlist
        (chat.routingText host) = .ok route) :
      Serving gateway (answer host provider chat route later)

/-- Off the enforce mode neither cache is read. -/
theorem lookups_unenforced (mode : chat.setup.mode ≠ .enforce) :
    exactLookup host chat = ret none ∧ semanticLookup host chat = ret none := by
  have idle : ∀ action, chat.performs action = false := by
    intro action
    simp [Chat.performs, mode]
  constructor
  · simp [exactLookup, Chat.exactCacheEnabled, idle]
  · simp [semanticLookup, Chat.semanticCacheEnabled, idle]

theorem serve_missed {gateway missed later : Gateway} {route : ModelRoute}
    (first : exactLookup host chat gateway = (.ok none, missed))
    (second : semanticLookup host chat missed = (.ok none, later))
    (routed : routeModel host chat.policy.modelAllowlist
      (chat.routingText host) = .ok route) :
    serve host provider chat gateway =
      answer host provider chat route later := by
  unfold serve
  rw [bind_ok first, routed, lift_ok_bind]
  exact bind_ok second

theorem serving (gateway : Gateway) :
    Serving host provider chat gateway (serve host provider chat gateway) := by
  obtain ⟨route, routed⟩ :=
    exists_routeModel host chat.policy.modelAllowlist (chat.routingText host)
  unfold serve
  rcases first : exactLookup host chat gateway with ⟨error | cached, missed⟩
  · rw [bind_error first]
    exact .exactFailed first
  · rw [bind_ok first, routed, lift_ok_bind]
    cases cached with
    | some response => exact .exactHit first
    | none =>
        change Serving host provider chat gateway
          ((semanticLookup host chat >>= _) missed)
        rcases second : semanticLookup host chat missed with
          ⟨error | found, later⟩
        · rw [bind_error second]
          exact .semanticFailed first second
        · rw [bind_ok second]
          cases found with
          | some hit => exact .semanticHit first second
          | none => exact .missed first second routed

end Serving

end Urp
