import Urp.ChatEnds
import Urp.Embeddings
import Urp.StoredRows

/-!
# Runs of the gateway

Chat requests, embedding requests and changes of the policy against one state
directory.  Every row of the two caches was stored by an earlier visit.
-/

namespace Urp

open Python Program

/-! ## The machine -/

def World.policyStateLens : Lens World PolicyState where
  get world := ⟨world.policies, world.ledger⟩
  set world state :=
    { world with policies := state.files, ledger := state.ledger }
  get_set _ _ := rfl

inductive GatewayCall where
  | chat (call : ChatCall)
  | embedding (call : EmbeddingCall)
  | policy (session : Session) (command : PolicyCommand)

inductive GatewayReply where
  | response (value : Value)
  | record (record : PolicyRecord)

section Machine

variable (host : Host) (provider : ChatProvider)

def GatewayCall.run : GatewayCall → Program Gateway PyException GatewayReply
  | .chat call => do
      let value ← handleChatCompletion host provider call
      return .response value
  | .embedding call => do
      let value ← handleEmbeddings host call
      return .response value
  | .policy session command => do
      let record ← Program.focus Gateway.worldLens
        (Program.focus World.policyStateLens fun state =>
          policyStep host state (session, command))
      return .record record

def gatewayStep (gateway : Gateway) (call : GatewayCall) :
    Except PyException GatewayReply × Gateway :=
  call.run host provider gateway

abbrev GatewayVisit : Type :=
  Run.Visit Gateway GatewayCall (Except PyException GatewayReply)

theorem gatewayStep_chat (gateway : Gateway) (call : ChatCall) :
    gatewayStep host provider gateway (.chat call) =
      ((handleChatCompletion host provider call gateway).1.map .response,
        (handleChatCompletion host provider call gateway).2) :=
  bind_ret_run _ _ gateway

theorem gatewayStep_embedding (gateway : Gateway) (call : EmbeddingCall) :
    gatewayStep host provider gateway (.embedding call) =
      ((handleEmbeddings host call gateway).1.map .response,
        (handleEmbeddings host call gateway).2) :=
  bind_ret_run _ _ gateway

theorem gatewayStep_policy (gateway : Gateway) (session : Session)
    (command : PolicyCommand) :
    gatewayStep host provider gateway (.policy session command) =
      let body := Program.focus Gateway.worldLens
        (Program.focus World.policyStateLens fun state =>
          policyStep host state (session, command))
      ((body gateway).1.map .record, (body gateway).2) :=
  bind_ret_run _ _ gateway

end Machine

/-! ## Where a stored row comes from -/

section Sources

variable (host : Host) (provider : ChatProvider)

/-- The visit is this prepared chat request. -/
structure GatewayVisit.Chats (visit : GatewayVisit) (chat : Chat) : Prop where
  input : visit.input = .chat chat.call
  prepared : (prepareChat host chat.call visit.before).1 = .ok chat

/-- The last reply that the visit got from the provider. -/
def GatewayVisit.Received (visit : GatewayVisit) (response : Value) : Prop :=
  ∃ early last, visit.after.calls = visit.before.calls ++ (early ++ [last]) ∧
    last.reply = .ok response ∧
    provider (visit.before.calls ++ early) last.request last.model =
      .ok response

/-- The visit stored the entry in the exact cache. -/
inductive GatewayVisit.StoresExact (visit : GatewayVisit) (entry : CacheEntry)
    (tick : Nat) : Prop where
  | chat {chat : Chat} (chats : visit.Chats host chat)
      (received : visit.Received provider entry.value)
      (stores : chat.StoresExact host entry.value entry tick)
  | embedding {call : EmbeddingCall} {setup : EmbeddingSetup}
      (input : visit.input = .embedding call)
      (ready : call.setup host = .ok setup)
      (key : entry.key = URPCache.exactKey call.tenant call.nameSpace
        setup.normalized.toDict setup.fingerprints)

/-- The visit stored the entry in the semantic cache. -/
structure GatewayVisit.StoresSemantic (visit : GatewayVisit) (chat : Chat)
    (entry : SemanticCacheEntry) (tick : Nat) : Prop where
  chats : visit.Chats host chat
  received : visit.Received provider entry.value
  stores : chat.StoresSemantic host entry.value entry tick

/-- A reading of the clock during the visit. -/
def GatewayVisit.Reads (visit : GatewayVisit) (tick : Nat) : Prop :=
  visit.before.supply.tick ≤ tick ∧ tick < visit.after.supply.tick

/-- Every row was stored by an earlier visit. -/
structure Sourced (history : List GatewayVisit) (gateway : Gateway) : Prop where
  exact : ∀ key found,
    gateway.caches.exact.lookup host key = some found →
      ∃ visit ∈ history, ∃ entry tick, visit.StoresExact host provider entry tick ∧
        visit.Reads tick ∧ entry.key = key ∧
        found = gateway.caches.exact.readBack host entry
  semantic : ∀ key found,
    gateway.caches.semantic.backend.lookup host key = some found →
      ∃ visit ∈ history, ∃ chat entry tick,
        visit.StoresSemantic host provider chat entry tick ∧ visit.Reads tick ∧
        found = gateway.caches.semantic.backend.readBack host entry

/-- What a visit may add to the caches. -/
abbrev GatewayVisit.Grows (visit : GatewayVisit) : Prop :=
  visit.before.Grows host (visit.StoresExact host provider)
    (fun entry tick => ∃ chat, visit.StoresSemantic host provider chat entry tick)
    visit.after

/-- Both caches are empty. -/
structure Gateway.CachesEmpty (gateway : Gateway) : Prop where
  exact : ∀ key, gateway.caches.exact.lookup host key = none
  semantic : ∀ key, gateway.caches.semantic.backend.lookup host key = none

variable {host provider}

theorem Sourced.start {gateway : Gateway} (empty : gateway.CachesEmpty host) :
    Sourced host provider [] gateway := by
  constructor
  · intro key found present
    rw [empty.exact key] at present
    cases present
  · intro key found present
    rw [empty.semantic key] at present
    cases present

theorem Sourced.snoc {history : List GatewayVisit} {visit : GatewayVisit}
    (sourced : Sourced host provider history visit.before)
    (grows : visit.Grows host provider) :
    Sourced host provider (history ++ [visit]) visit.after := by
  have old : ∀ {past}, past ∈ history → past ∈ history ++ [visit] :=
    fun member => List.mem_append_left _ member
  have new : visit ∈ history ++ [visit] :=
    List.mem_append_right _ List.mem_cons_self
  constructor
  · intro key found present
    rcases grows.exact key found present with before | ⟨entry, tick, stores,
      low, high, same, read⟩
    · obtain ⟨past, member, entry, tick, stores, reads, same, read⟩ :=
        sourced.exact key found before
      rw [grows.exactKind.readBack_eq] at read
      exact ⟨past, old member, entry, tick, stores, reads, same, read⟩
    · rw [grows.exactKind.readBack_eq] at read
      exact ⟨visit, new, entry, tick, stores, ⟨low, high⟩, same, read⟩
  · intro key found present
    rcases grows.semantic key found present with before | ⟨entry, tick,
      ⟨chat, stores⟩, low, high, same, read⟩
    · obtain ⟨past, member, chat, entry, tick, stores, reads, read⟩ :=
        sourced.semantic key found before
      rw [grows.semanticKind.readBack_eq] at read
      exact ⟨past, old member, chat, entry, tick, stores, reads, read⟩
    · rw [grows.semanticKind.readBack_eq] at read
      exact ⟨visit, new, chat, entry, tick, stores, ⟨low, high⟩, read⟩

end Sources

/-! ## What each call adds -/

section Steps

variable {host : Host} {provider : ChatProvider}

/-- An approved answer of the provider is the last reply of the request. -/
theorem Approved.received {call : ChatCall} {gateway later : Gateway}
    {chat : Chat} {served : Served}
    (approved : Approved host provider call gateway later chat served)
    (miss : served.cacheResult = .miss) :
    ∃ early last, later.calls = gateway.calls ++ (early ++ [last]) ∧
      last.reply = .ok served.response ∧
      provider (gateway.calls ++ early) last.request last.model =
        .ok served.response := by
  obtain ⟨admitted, prepared, origin⟩ := approved.origin
  have same := (outside_calls.prepareChat host call).of_run prepared
  cases origin with
  | exactHit | semanticHit => nomatch miss
  | answered asked replied calls =>
      rw [same] at calls asked
      exact ⟨_, _, calls, replied, asked.last_reply.symm.trans replied⟩

theorem Approved.call_eq {call : ChatCall} {gateway later : Gateway}
    {chat : Chat} {served : Served}
    (approved : Approved host provider call gateway later chat served) :
    chat.call = call := by
  obtain ⟨admitted, prepared, -⟩ := approved.origin
  exact ((ensures_prepareChat host call gateway).of_ok prepared).call_eq

theorem grows_chat (gateway : Gateway) (call : ChatCall) :
    GatewayVisit.Grows host provider
      (Run.visit (gatewayStep host provider) gateway (.chat call)) := by
  have ends := ensures_handleChatCompletion host provider call gateway
  have stepped := gatewayStep_chat host provider gateway call
  rcases run : handleChatCompletion host provider call gateway with
    ⟨result, later⟩
  rw [run] at stepped
  have approves : ∀ chat served,
      Approved host provider call gateway later chat served →
        GatewayVisit.Grows host provider
          (Run.visit (gatewayStep host provider) gateway (.chat call)) := by
    intro chat served approved
    unfold GatewayVisit.Grows Run.visit
    rw [stepped]
    obtain ⟨admitted, prepared, -⟩ := approved.origin
    have chats : GatewayVisit.Chats host ⟨gateway, .chat call,
        result.map .response, later⟩ chat := by
      constructor
      · rw [approved.call_eq]
      · rw [approved.call_eq]
        exact congrArg Prod.fst prepared
    apply Gateway.Grows.mono approved.stores
    · rintro entry tick ⟨miss, stores⟩
      obtain ⟨-, -, ttl, -, rfl⟩ := id stores
      exact .chat chats (approved.received miss) stores
    · rintro entry tick ⟨miss, stores⟩
      obtain ⟨-, -, ttl, -, rfl⟩ := id stores
      exact ⟨chat, chats, approved.received miss, stores⟩
  cases result with
  | ok reply =>
      obtain ⟨chat, served, -, -, approved⟩ := ends.of_ok run
      exact approves chat served approved
  | error error =>
      rcases ends.of_error run with ⟨shrinks, -⟩ | ⟨-, chat, served, approved⟩
      · unfold GatewayVisit.Grows Run.visit
        rw [stepped]
        exact Gateway.Shrinks.grows shrinks
      · exact approves chat served approved

section Embeddings

variable (host)

theorem ensures_prepareEmbedding (call : EmbeddingCall) (gateway : Gateway) :
    Ensures (prepareEmbedding host call) gateway
      (fun embedding later => gateway.Shrinks host later ∧
        embedding.call = call ∧ call.setup host = .ok embedding.setup)
      (fun _ later => gateway.Shrinks host later) := by
  have admits : ∀ request, Within (Gateway.Shrinks host)
      (focus Gateway.worldLens (intake host request)) :=
    fun request => grows_world host (draws_of_quiet (quiet_intake host request))
  have same := refl_of (Gateway.Shrinks host) gateway
  unfold prepareEmbedding
  rw [ensures_bind, ensures_lift]
  refine ⟨fun setup ready => ?_, fun _ _ => same⟩
  rw [ensures_bind]
  apply ((admits _).ensures gateway).mono
  · intro admission later shrinks
    rw [ensures_bind, ensures_lift]
    exact ⟨fun ttl _ => ⟨shrinks, rfl, ready⟩, fun _ _ => shrinks⟩
  · exact fun _ _ shrinks => shrinks

variable (embedding : Embedding) {exactOk : CacheEntry → Nat → Prop}
  {semanticOk : SemanticCacheEntry → Nat → Prop}

theorem grows_recordEmbedding (event : LedgerEvent) :
    Within (Gateway.Grows host exactOk semanticOk)
      (recordEmbedding host embedding event) :=
  grows_world host (draws_of_quiet (quiet_record host _ event))

theorem grows_embeddingLookup :
    Within (Gateway.Grows host exactOk semanticOk)
      (embeddingLookup host embedding) := by
  apply within_ite
  · refine within_bind (grows_get host _ _ _ _) fun cached => ?_
    split
    · exact within_ret _
    · exact within_ret _
  · exact within_ret _

theorem grows_computeVectors :
    Within (Gateway.Grows host exactOk semanticOk)
      (computeVectors host embedding) := by
  apply within_ite
  · exact within_ret _
  · exact within_bind (grows_recordEmbedding host embedding _) fun _ =>
      within_ret _

theorem grows_finishEmbedding (served : Served) :
    Within (Gateway.Grows host exactOk semanticOk)
      (finishEmbedding host embedding served) := by
  refine within_bind (within_lift _) fun vectors => ?_
  refine within_bind (within_lift _) fun _ => ?_
  refine within_bind (grows_world host ?_) fun _ => within_ret _
  refine within_bind (draws_supply (within_cacheableUntil host _ _)) fun _ => ?_
  refine within_bind (within_lift _) fun _ => ?_
  refine within_bind (draws_supply (host.within_newId _)) fun manifestId => ?_
  refine within_bind (draws_supply host.within_utcNow) fun createdAt => ?_
  exact within_bind (draws_putManifest host _ _ _) fun _ => within_ret _

/-- The entry is the one of this embedding request. -/
def Embedding.Keys (entry : CacheEntry) (_ : Nat) : Prop :=
  entry.key = embedding.cacheKey

theorem grows_storeEmbedding (response : Value) :
    Within (Gateway.Grows host embedding.Keys semanticOk)
      (storeEmbedding host embedding response) := by
  unfold storeEmbedding
  split
  · apply within_ite
    · exact grows_putExpiring fun tick => rfl
    · exact within_ret _
  · exact within_ret _

theorem grows_serveEmbedding :
    Within (Gateway.Grows host embedding.Keys semanticOk)
      (serveEmbedding host embedding) := by
  refine within_bind (grows_embeddingLookup host embedding) fun cached => ?_
  split
  · exact within_bind (grows_recordEmbedding host embedding _) fun _ =>
      within_ret _
  · refine within_bind (within_lift _) fun route => ?_
    refine within_bind (grows_computeVectors host embedding) fun computed => ?_
    obtain ⟨response, vectors, fallback⟩ := computed
    simp only
    apply within_ite
    · refine within_bind (within_lift _) fun _ => ?_
      refine within_bind (grows_storeEmbedding host embedding _) fun _ => ?_
      refine within_bind (grows_recordEmbedding host embedding _) fun _ => ?_
      refine within_bind (grows_recordEmbedding host embedding _) fun _ => ?_
      exact within_bind (grows_recordFeedback host _ _ _) fun _ => within_ret _
    · refine within_bind (grows_recordEmbedding host embedding _) fun _ => ?_
      exact within_raise _

/-- An embedding request stores its own entry at most. -/
theorem grows_handleEmbeddings (call : EmbeddingCall) (gateway : Gateway) :
    gateway.Grows host
      (fun entry _ => ∃ setup, call.setup host = .ok setup ∧
        entry.key = URPCache.exactKey call.tenant call.nameSpace
          setup.normalized.toDict setup.fingerprints)
      (fun _ _ => False) (handleEmbeddings host call gateway).2 := by
  apply ensures_state_iff.mp
  unfold handleEmbeddings
  rw [ensures_bind]
  apply (ensures_prepareEmbedding host call gateway).mono
  · rintro embedding prepared ⟨shrinks, rfl, ready⟩
    have serves : Within (Gateway.Grows host embedding.Keys fun _ _ => False)
        (serveEmbedding host embedding >>= finishEmbedding host embedding) :=
      within_bind (grows_serveEmbedding host embedding) fun served =>
        grows_finishEmbedding host embedding served
    apply (serves.ensures prepared).mono
    all_goals
      intro _ later grows
      apply trans_of (Gateway.Grows host _ _) (Gateway.Shrinks.grows shrinks)
      apply Gateway.Grows.mono grows
      · exact fun entry tick key => ⟨embedding.setup, ready, key⟩
      · exact fun _ _ impossible => impossible
  · exact fun _ later shrinks => Gateway.Shrinks.grows shrinks

end Embeddings

theorem grows_embedding (gateway : Gateway) (call : EmbeddingCall) :
    GatewayVisit.Grows host provider
      (Run.visit (gatewayStep host provider) gateway (.embedding call)) := by
  have grows := grows_handleEmbeddings host call gateway
  unfold GatewayVisit.Grows Run.visit
  rw [gatewayStep_embedding]
  apply Gateway.Grows.mono grows
  · rintro entry tick ⟨setup, ready, key⟩
    exact .embedding rfl ready key
  · exact fun _ _ impossible => impossible.elim

/-- The supply is only drawn from. -/
def PolicyState.Drawn (state later : PolicyState) : Prop :=
  state.ledger.supply.Before later.ledger.supply

instance : IsPreorder PolicyState PolicyState.Drawn where
  refl state := .refl state.ledger.supply
  trans _ _ _ := .trans

theorem drawn_policyStep (host : Host) (session : Session)
    (command : PolicyCommand) :
    Within PolicyState.Drawn
      fun state => policyStep host state (session, command) := by
  have files : ∀ {α : Type} (body : Program PolicyFiles PyException α),
      Within PolicyState.Drawn (focus PolicyState.filesLens body) :=
    fun _ state => .refl state.ledger.supply
  have records : ∀ event, Within PolicyState.Drawn (focus PolicyState.ledgerLens
      (JSONLLedger.record host session event)) :=
    fun event => within_focus (JSONLLedger.drawn_record host session event)
      fun _ _ drawn => drawn
  have timed : Within PolicyState.Drawn (focus PolicyState.ledgerLens
      (focus LedgerState.supplyLens host.utcNow)) :=
    within_focus (LedgerState.drawn_focus host.within_utcNow)
      fun _ _ drawn => drawn
  cases command with
  | publish bundle actor =>
      refine within_bind (within_lift _) fun _ => ?_
      refine within_bind (within_lift _) fun name => ?_
      refine within_bind (within_lift _) fun version => ?_
      refine within_bind timed fun publishedAt => ?_
      refine within_bind (files _) fun _ => ?_
      refine within_bind (files _) fun _ => ?_
      exact within_bind (records _) fun _ => within_ret _
  | rollback name version actor =>
      refine within_bind (files _) fun record => ?_
      refine within_bind (files _) fun previous => ?_
      refine within_bind (files _) fun _ => ?_
      exact within_bind (records _) fun _ => within_ret _

theorem grows_policy (gateway : Gateway) (session : Session)
    (command : PolicyCommand) :
    GatewayVisit.Grows host provider
      (Run.visit (gatewayStep host provider) gateway
        (.policy session command)) := by
  unfold GatewayVisit.Grows Run.visit
  rw [gatewayStep_policy]
  refine .of_same ?_ rfl
  exact drawn_policyStep host session command
    ⟨gateway.world.policies, gateway.world.ledger⟩

/-- Every row of a run that starts with empty caches has its source. -/
theorem sourced_run {start : Gateway} (empty : start.CachesEmpty host)
    (calls : List GatewayCall) :
    Sourced host provider (Run.visits (gatewayStep host provider) start calls)
      (Run.final (gatewayStep host provider) start calls) := by
  refine Run.visits_history_induction (.start empty) ?_ calls
  intro history gateway call sourced
  apply sourced.snoc
  cases call with
  | chat call => exact grows_chat gateway call
  | embedding call => exact grows_embedding gateway call
  | policy session command => exact grows_policy gateway session command

end Steps

end Urp
