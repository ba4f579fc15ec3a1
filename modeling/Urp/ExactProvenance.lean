import Urp.GatewayRuns

/-!
# Where an exact hit comes from

An exact hit of a chat request serves what an earlier enforced request with the
same normalized data got from the provider, before that entry expired.
-/

namespace Urp

open Python Program

/-! ## Hits -/

section Hits

variable {host : Host} {provider : ChatProvider}

/-- An exact hit is a live entry under the request's key. -/
theorem exactLookup_entry {chat : Chat} {gateway found : Gateway}
    {response : Value}
    (hit : exactLookup host chat gateway = (.ok (some response), found)) :
    chat.exactCacheEnabled = true ∧
      ∃ entry, gateway.caches.exact.lookup host chat.cacheKey =
          some (.ok entry) ∧
        isExpired entry.expiresAt (host.clock gateway.supply.tick) = false ∧
        entry.value = response := by
  unfold exactLookup at hit
  split at hit
  · rename_i enabled
    obtain ⟨cached, middle, got, hit⟩ := bind_eq_ok_iff.mp hit
    have returned : cached = response ∧ cached ≠ .none := by
      split at hit
      · cases hit
      · rename_i nonNull
        split at hit
        · cases hit
          exact ⟨rfl, nonNull⟩
        · obtain ⟨_, _, -, hit⟩ := bind_eq_ok_iff.mp hit
          cases hit
    obtain ⟨rfl, nonNull⟩ := returned
    have spec := URPCache.get_got host chat.cacheKey chat.call.tenant
      chat.call.nameSpace (some chat.setup.fingerprints)
      (Gateway.exactLens.get gateway)
    rw [run_of_focus got] at spec
    obtain ⟨entry, present, -, live, same⟩ := spec.exists_entry host nonNull
    exact ⟨enabled, entry, present, live, same⟩
  · cases hit

/-- A chat visit that replies was approved. -/
theorem approved_of_replied {visit : GatewayVisit} {call : ChatCall}
    {reply : Value}
    (made : visit = Run.visit (gatewayStep host provider) visit.before
      visit.input)
    (input : visit.input = .chat call)
    (replied : visit.output = .ok (.response reply)) :
    ∃ chat served manifest, reply = chatReply host chat served manifest ∧
      visit.Chats host chat ∧
      Approved host provider call visit.before visit.after chat served := by
  have stepped := gatewayStep_chat host provider visit.before call
  have ends := ensures_handleChatCompletion host provider call visit.before
  rw [input] at made
  have output := congrArg Run.Visit.output made
  have after := congrArg Run.Visit.after made
  simp only [Run.visit, stepped] at output after
  rw [replied] at output
  rcases run : handleChatCompletion host provider call visit.before with
    ⟨_ | value, later⟩
  · rw [run] at output
    cases output
  · rw [run] at output after
    cases output
    obtain ⟨chat, served, manifest, rfl, approved⟩ := ends.of_ok run
    obtain ⟨admitted, prepared, -⟩ := approved.origin
    refine ⟨chat, served, manifest, rfl, ⟨?_, ?_⟩, ?_⟩
    · rw [input, approved.call_eq]
    · rw [approved.call_eq]
      exact congrArg Prod.fst prepared
    · rw [after]
      exact approved

/-- A reply inside a run: where the rows before it come from, and what it was
approved as. -/
theorem approved_of_split {start : Gateway} (empty : start.CachesEmpty host)
    {calls : List GatewayCall} {past rest : List GatewayVisit}
    {visit : GatewayVisit} (split : Run.visits (gatewayStep host provider) start
      calls = past ++ visit :: rest)
    {call : ChatCall} {reply : Value} (input : visit.input = .chat call)
    (replied : visit.output = .ok (.response reply)) :
    Sourced host provider past visit.before ∧
      ∃ chat served manifest, reply = chatReply host chat served manifest ∧
        visit.Chats host chat ∧
        Approved host provider call visit.before visit.after chat served := by
  obtain ⟨early, late, -, rfl, made⟩ := Run.visits_split split
  have before : visit.before = Run.final (gatewayStep host provider) start early :=
    congrArg Run.Visit.before made
  rw [← before] at made
  refine ⟨?_, approved_of_replied made input replied⟩
  rw [before]
  exact sourced_run empty early

theorem input_mem_of_split {start : Gateway} {calls : List GatewayCall}
    {past rest : List GatewayVisit} {visit : GatewayVisit}
    (split : Run.visits (gatewayStep host provider) start calls =
      past ++ visit :: rest) :
    visit.input ∈ calls ∧ ∀ earlier ∈ past, earlier.input ∈ calls := by
  have inputs := @Run.visits_input _ _ _ (gatewayStep host provider) start calls
  rw [split] at inputs
  rw [← inputs]
  constructor
  · simp
  · intro earlier member
    exact List.mem_map_of_mem (List.mem_append_left _ member)

end Hits

/-! ## Requests -/

/-- The request of a call. -/
def GatewayCall.request : GatewayCall → Object
  | .chat call => call.request
  | .embedding call => call.request
  | .policy _ _ => ∅

/-- The texts that the call hashes for its key of the exact cache. -/
inductive GatewayCall.HashesKey (host : Host) : GatewayCall → Bytes → Prop where
  | chat {call : ChatCall} {setup : ChatSetup}
      (ready : call.setup host = .ok setup) :
      HashesKey host (.chat call) (hashedText (.dict
        (URPCache.keyFields call.tenant call.nameSpace
          setup.normalized.data.toValue setup.fingerprints)))
  | embedding {call : EmbeddingCall} {setup : EmbeddingSetup}
      (ready : call.setup host = .ok setup) :
      HashesKey host (.embedding call) (hashedText (.dict
        (URPCache.keyFields call.tenant call.nameSpace setup.normalized.toDict
          setup.fingerprints)))

/-- The entries of `to_dict()`. -/
def NormalizedEmbedding.entries (embedding : NormalizedEmbedding) :
    List (String × Value) :=
  [("model", embedding.model), ("input", embedding.input),
    ("encoding_format", .str embedding.encodingFormat.value),
    ("dimensions", (embedding.dimensions.map Value.int).getD .none),
    ("urp", embedding.urp)]

theorem NormalizedEmbedding.distinct_entries (embedding : NormalizedEmbedding) :
    (embedding.entries.map Prod.fst).Nodup := by
  simp only [entries, List.map_cons, List.map_nil]
  decide

section Requests

variable {host : Host}

theorem ChatCall.isEncodable_setup {call : ChatCall} {setup : ChatSetup}
    (whole : IsEncodable call.request.toValue)
    (ready : call.setup host = .ok setup) :
    IsEncodable setup.normalized.data.toValue := by
  obtain ⟨mode, -, ready⟩ := except_bind_eq_ok_iff.mp ready
  obtain ⟨_, -, ready⟩ := except_bind_eq_ok_iff.mp ready
  obtain ⟨normalized, made, ready⟩ := except_bind_eq_ok_iff.mp ready
  obtain ⟨prints, -, ready⟩ := except_bind_eq_ok_iff.mp ready
  obtain ⟨contract, -, ready⟩ := except_bind_eq_ok_iff.mp ready
  cases ready
  exact isEncodable_normalizeOpenaiRequest host whole made

theorem EmbeddingCall.isEncodable_setup {call : EmbeddingCall}
    {setup : EmbeddingSetup} (whole : IsEncodable call.request.toValue)
    (ready : call.setup host = .ok setup) :
    IsEncodable setup.normalized.toDict := by
  obtain ⟨mode, -, ready⟩ := except_bind_eq_ok_iff.mp ready
  obtain ⟨_, -, ready⟩ := except_bind_eq_ok_iff.mp ready
  obtain ⟨normalized, made, ready⟩ := except_bind_eq_ok_iff.mp ready
  obtain ⟨options, -, ready⟩ := except_bind_eq_ok_iff.mp ready
  obtain ⟨prints, -, ready⟩ := except_bind_eq_ok_iff.mp ready
  cases ready
  obtain ⟨format, -, made⟩ := except_bind_eq_ok_iff.mp made
  obtain ⟨dimensions, -, made⟩ := except_bind_eq_ok_iff.mp made
  cases made
  refine isEncodable_dict_iff.mpr
    ⟨NormalizedEmbedding.distinct_entries _, ?_⟩
  intro entry member
  simp only [List.mem_cons, List.not_mem_nil, or_false] at member
  rcases member with rfl | rfl | rfl | rfl | rfl
  · exact Object.isEncodable_getD whole (isEncodable_str _) _
  · exact Object.isEncodable_getD whole (isEncodable_str _) _
  · exact isEncodable_str _
  · cases dimensions <;> rfl
  · exact Object.isEncodable_getD whole isEncodable_empty _

/-- An embedding request has no messages. -/
theorem NormalizedEmbedding.ne_request (embedding : NormalizedEmbedding)
    {normalized : NormalizedRequest} :
    (encodeJsonValue normalized.data.toValue).sorted ≠
      (encodeJsonValue embedding.toDict).sorted := by
  intro same
  have keys : ((encodeEntries embedding.entries).map Prod.fst).Nodup := by
    rw [keys_encodeEntries]
    exact embedding.distinct_entries
  have ownKeys : ((encodeEntries normalized.data.entries).map Prod.fst).Nodup := by
    rw [keys_encodeEntries]
    exact normalized.data.distinct
  have under := lookup_of_sorted ownKeys keys same "messages"
  rw [lookup_encodeEntries, lookup_encodeEntries] at under
  have messages := normalized.messages_eq
  unfold Dict.lookup at messages
  rw [messages] at under
  cases under

end Requests

/-! ## Provenance -/

section Provenance

variable (host : Host)

/-- The normalized requests agree up to the order of keys.  Byte strings, which
no JSON request has, count as their envelopes. -/
def SameRequest (first second : NormalizedRequest) : Prop :=
  (encodeJsonValue first.data.toValue).sorted =
    (encodeJsonValue second.data.toValue).sorted

theorem SameRequest.of_json {first second : NormalizedRequest}
    (same : SameRequest first second)
    (firstJson : first.data.toValue.isJson = true)
    (secondJson : second.data.toValue.isJson = true) :
    first.data.toValue.sorted = second.data.toValue.sorted := by
  unfold SameRequest at same
  rwa [encodeJsonValue_of_isJson _ firstJson,
    encodeJsonValue_of_isJson _ secondJson] at same

variable (provider : ChatProvider)

/-- The response is what the earlier visit got for the same request, and its
entry was alive when the later visit looked for it. -/
structure GatewayVisit.Reuses (visit earlier : GatewayVisit)
    (chat source : Chat) (response : Value) : Prop where
  chats : earlier.Chats host source
  enforced : source.setup.mode = .enforce
  tenant : source.call.tenant = chat.call.tenant
  nameSpace : source.call.nameSpace = chat.call.nameSpace
  request : SameRequest source.setup.normalized chat.setup.normalized
  received : ∃ reply, earlier.Received provider reply ∧ response.sorted = reply.sorted
  alive : ∃ ttl stored admitted, source.positiveTtl = some ttl ∧
    earlier.Reads stored ∧
    prepareChat host chat.call visit.before = (.ok chat, admitted) ∧
    host.clock admitted.supply.tick < host.clock stored + ttl

variable {host provider} {calls : List GatewayCall}

/-- A row under the key of a chat request was stored by a chat request with the
same normalized data. -/
theorem sameRequest_of_key {visit earlier : GatewayVisit} {chat : Chat}
    (requests : ∀ call ∈ calls, IsEncodable call.request.toValue)
    (collisionFree : Set.InjOn sha256
      {text | ∃ call ∈ calls, call.HashesKey host text})
    (chats : visit.Chats host chat) (asked : visit.input ∈ calls)
    (earlierAsked : earlier.input ∈ calls) {entry : CacheEntry} {tick : Nat}
    (stores : earlier.StoresExact host provider entry tick)
    (key : entry.key = chat.cacheKey) :
    ∃ source, earlier.Chats host source ∧ earlier.Received provider entry.value ∧
      source.StoresExact host entry.value entry tick ∧
      source.call.tenant = chat.call.tenant ∧
      source.call.nameSpace = chat.call.nameSpace ∧
      SameRequest source.setup.normalized chat.setup.normalized := by
  have readies : ∀ {visit : GatewayVisit} {chat : Chat}, visit.Chats host chat →
      chat.call.setup host = .ok chat.setup := by
    intro visit chat chats
    exact ((ensures_prepareChat host chat.call visit.before).of_fst_ok
      chats.prepared).setup
  rw [chats.input] at asked
  have encodable := ChatCall.isEncodable_setup (requests _ asked) (readies chats)
  have own : hashedText (.dict (URPCache.keyFields chat.call.tenant
      chat.call.nameSpace chat.setup.normalized.data.toValue
      chat.setup.fingerprints)) ∈
        {text | ∃ call ∈ calls, call.HashesKey host text} :=
    ⟨_, asked, .chat (readies chats)⟩
  cases stores with
  | @chat source sourceChats received stores =>
      have ready := readies sourceChats
      rw [sourceChats.input] at earlierAsked
      obtain ⟨-, -, ttl, -, same⟩ := id stores
      have text := collisionFree ⟨_, earlierAsked, .chat ready⟩ own (by
        rw [same] at key
        exact key)
      obtain ⟨tenant, nameSpace, request, -⟩ := URPCache.keyFields_injective
        (ChatCall.isEncodable_setup (requests _ earlierAsked) ready) encodable
        text
      exact ⟨source, sourceChats, received, stores, tenant, nameSpace, request⟩
  | @embedding call setup input ready named =>
      rw [input] at earlierAsked
      have text := collisionFree ⟨_, earlierAsked, .embedding ready⟩ own
        (named.symm.trans key)
      obtain ⟨-, -, request, -⟩ := URPCache.keyFields_injective
        (EmbeddingCall.isEncodable_setup (requests _ earlierAsked) ready)
        encodable text
      exact (setup.normalized.ne_request request.symm).elim

/-- Every exact hit of a run reuses what an earlier request got. -/
theorem exactHits_reuse {start : Gateway} (empty : start.CachesEmpty host)
    (replies : ∀ history request model reply,
      provider history request model = .ok reply →
        reply.isJson = true ∧ isEnvelopeFree reply = true)
    (requests : ∀ call ∈ calls, IsEncodable call.request.toValue)
    (collisionFree : Set.InjOn sha256
      {text | ∃ call ∈ calls, call.HashesKey host text}) :
    ∀ (past : List GatewayVisit) (visit : GatewayVisit) rest,
      Run.visits (gatewayStep host provider) start calls =
        past ++ visit :: rest →
      ∀ call reply, visit.input = .chat call →
        visit.output = .ok (.response reply) →
        replyText reply "cache" = some "exact_hit" →
        ∃ earlier ∈ past, ∃ chat source served manifest,
          reply = chatReply host chat served manifest ∧
          visit.Chats host chat ∧
          visit.Reuses host provider earlier chat source served.response := by
  intro past visit rest split call reply input replied reported
  obtain ⟨sourced, chat, served, manifest, rfl, chats, approved⟩ :=
    approved_of_split empty split input replied
  obtain ⟨asked, earlierAsked⟩ := input_mem_of_split split
  obtain ⟨admitted, prepared, origin⟩ := approved.origin
  rw [← approved.call_eq] at prepared
  have named : replyText (chatReply host chat served manifest) "cache" =
      some served.cacheResult.value := replyText_withUrp served rfl
  rw [named] at reported
  have caches := (outside_caches.prepareChat host chat.call).of_run prepared
  cases origin with
  | semanticHit | answered => simp [CacheResult.value] at reported
  | exactHit first =>
      obtain ⟨-, entry, present, live, value⟩ := exactLookup_entry first
      rw [caches] at present
      obtain ⟨earlier, member, stored, tick, stores, reads, key, read⟩ :=
        sourced.exact _ _ present
      obtain ⟨source, sourceChats, received, stores, tenant, nameSpace,
        request⟩ := sameRequest_of_key requests collisionFree chats asked
          (earlierAsked earlier member) stores key
      have readsAs := CacheBackend.readsAs read.symm
      refine ⟨earlier, member, chat, source, _, manifest, rfl, chats,
        sourceChats, ?_, tenant, nameSpace, request, ?_, ?_⟩
      · have performed := stores.performed
        simp only [Chat.performs, Bool.and_eq_true, decide_eq_true_eq]
          at performed
        exact performed.1
      · obtain ⟨_, _, -, -, replied⟩ := id received
        obtain ⟨json, free⟩ := replies _ _ _ _ replied
        refine ⟨stored.value, received, ?_⟩
        rw [← value]
        exact readsAs.value json free
      · obtain ⟨ttl, lives, same⟩ := stores.entry_eq
        refine ⟨ttl, tick, admitted, lives, reads, prepared, ?_⟩
        rw [readsAs.expiresAt, same] at live
        exact isExpired_eq_false_iff.mp live _ rfl

end Provenance

/-- A request that names no model. -/
def greetingCall : ChatCall where
  request := .ofList [("messages", .list
    [.dict [("role", .str "user"), ("content", .str "hi")]])]

/-- Both requests hash the same text for their keys. -/
theorem exactHits_reuse_greetings :
    let host := Host.counting
    let step := gatewayStep host (mockProvider host)
    ∀ (past : List GatewayVisit) (visit : GatewayVisit) rest,
      Run.visits step {} [.chat greetingCall, .chat greetingCall] =
        past ++ visit :: rest →
      ∀ call reply, visit.input = .chat call →
        visit.output = .ok (.response reply) →
        replyText reply "cache" = some "exact_hit" →
        ∃ earlier ∈ past, ∃ chat source served manifest,
          reply = chatReply host chat served manifest ∧
          visit.Chats host chat ∧
          visit.Reuses host (mockProvider host) earlier chat source
            served.response := by
  intro host step
  apply exactHits_reuse
  · exact ⟨fun _ => rfl, fun _ => rfl⟩
  · rintro history request model reply ⟨⟩
    exact ⟨rfl, rfl⟩
  · intro call member
    rcases List.mem_pair.mp member with rfl | rfl <;>
      exact (by decide :
        (encodeJsonValue greetingCall.request.toValue).isJson = true)
  · have keys : ∀ {call : GatewayCall} {text : Bytes},
        call ∈ [GatewayCall.chat greetingCall, .chat greetingCall] →
          call.HashesKey host text →
            ∃ setup, greetingCall.setup host = .ok setup ∧
              text = hashedText (.dict (URPCache.keyFields greetingCall.tenant
                greetingCall.nameSpace setup.normalized.data.toValue
                setup.fingerprints)) := by
      intro call text member hashes
      rcases List.mem_pair.mp member with rfl | rfl <;> cases hashes with
      | chat ready => exact ⟨_, ready, rfl⟩
    rintro first ⟨_, firstMember, firstHashes⟩ second
      ⟨_, secondMember, secondHashes⟩ -
    obtain ⟨setup, ready, rfl⟩ := keys firstMember firstHashes
    obtain ⟨other, again, rfl⟩ := keys secondMember secondHashes
    rw [ready] at again
    cases again
    rfl

end Urp
