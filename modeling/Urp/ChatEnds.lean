import Urp.GatewayCaches

/-!
# How a chat request ends

It is refused and nothing is added, or a response is approved, from a cache or
from the provider, whose manifest is written or whose recording fails.
-/

namespace Urp

open Python Program

section Ends

variable (host : Host) (provider : ChatProvider)

/-- Where a served response comes from. -/
inductive Origin (chat : Chat) (admitted later : Gateway) : Served → Prop where
  | exactHit {response : Value} {found : Gateway}
      (first : exactLookup host chat admitted = (.ok (some response), found)) :
      Origin chat admitted later ⟨response, .exactHit, none, none⟩
  | semanticHit {hit : SemanticCacheHit} {missed found : Gateway}
      (first : exactLookup host chat admitted = (.ok none, missed))
      (second : semanticLookup host chat missed = (.ok (some hit), found)) :
      Origin chat admitted later
        ⟨hit.value, .semanticHit, none, some hit.score⟩
  | answered {route : ModelRoute} {early : List ProviderCall}
      {last : ProviderCall} {response : Value} {fallback : Option String}
      (asked : Asked host provider chat route admitted.calls (early ++ [last]))
      (replied : last.reply = .ok response)
      (calls : later.calls = admitted.calls ++ (early ++ [last])) :
      Origin chat admitted later ⟨response, .miss, fallback, none⟩

/-- Only an answer of the provider is stored. -/
abbrev Gateway.Stores (chat : Chat) (served : Served) :
    Gateway → Gateway → Prop :=
  Gateway.Grows host
    (fun entry tick => served.cacheResult = .miss ∧
      chat.StoresExact host served.response entry tick)
    (fun entry tick => served.cacheResult = .miss ∧
      chat.StoresSemantic host served.response entry tick)

/-- An approved response of the request, and what it left in the caches. -/
structure Approved (call : ChatCall) (gateway later : Gateway) (chat : Chat)
    (served : Served) : Prop where
  origin : ∃ admitted, prepareChat host call gateway = (.ok chat, admitted) ∧
    Origin host provider chat admitted later served
  approved : chat.Approves host served.response
  stores : Gateway.Stores host chat served gateway later

variable {host provider} {chat : Chat} {admitted : Gateway}

theorem Origin.of_calls {served : Served} {middle later : Gateway}
    (origin : Origin host provider chat admitted middle served)
    (same : later.calls = middle.calls) :
    Origin host provider chat admitted later served := by
  cases origin with
  | exactHit first => exact .exactHit first
  | semanticHit first second => exact .semanticHit first second
  | answered asked replied calls =>
      exact .answered asked replied (same.trans calls)

theorem grows_askWithFallback {exactOk : CacheEntry → Nat → Prop}
    {semanticOk : SemanticCacheEntry → Nat → Prop} (route : ModelRoute) :
    Within (Gateway.Grows host exactOk semanticOk)
      (askWithFallback host provider chat route) := by
  have asks : ∀ request model, Within (Gateway.Grows host exactOk semanticOk)
      (askProvider provider request model) := by
    intro request model
    refine within_bind within_get fun gateway => ?_
    refine within_bind (within_modify fun before => ?_) fun _ => within_lift _
    exact .of_same (.refl before.supply) rfl
  refine within_bind (within_lift _) fun model => ?_
  refine within_bind (asks _ _) fun response => ?_
  apply within_ite
  · exact within_ret _
  · refine within_bind (grows_recordChat host chat _) fun _ => ?_
    refine within_bind (within_lift _) fun model => ?_
    exact within_bind (asks _ _) fun response => within_ret _

/-- The provider's answer is approved and stored, or it fails. -/
theorem ensures_answer (route : ModelRoute) :
    Ensures (answer host provider chat route) admitted
      (fun served later =>
        Origin host provider chat admitted later served ∧
        served.cacheResult = .miss ∧
        chat.Approves host served.response ∧
        Gateway.Stores host chat served admitted later)
      (fun error later => admitted.Shrinks host later ∨ ∃ served,
        Origin host provider chat admitted later served ∧
        served.cacheResult = .miss ∧
        chat.Approves host served.response ∧
        Gateway.Stores host chat served admitted later ∧ error.IsOther) := by
  have asks := ((ensures_askWithFallback host provider chat route admitted).and
    ((grows_askWithFallback route).ensures admitted :
      Ensures _ _ (fun _ later => admitted.Shrinks host later) fun _ later =>
        admitted.Shrinks host later))
  unfold answer
  rw [ensures_bind]
  apply asks.mono
  · rintro ⟨response, fallback⟩ answered ⟨⟨early, last, asked, replied, calls⟩,
      shrinks⟩
    let served : Served := ⟨response, .miss, fallback, none⟩
    have origin : Origin host provider chat admitted answered served :=
      .answered asked replied calls
    have stored : ∀ {later}, answered.Grows host (chat.StoresExact host response)
        (chat.StoresSemantic host response) later →
          Gateway.Stores host chat served admitted later := by
      intro later grows
      have wider : Gateway.Stores host chat served answered later :=
        grows.mono (fun _ _ ok => ⟨rfl, ok⟩) (fun _ _ ok => ⟨rfl, ok⟩)
      exact trans_of (Gateway.Stores host chat served)
        (Gateway.Shrinks.grows shrinks) wider
    apply ((ensures_settle route fallback answered).and
      ((uncached_calls.unlogged.settle host chat route response fallback).ensures
        answered)).mono
    · rintro _ later ⟨⟨rfl, approved, grows⟩, same⟩
      exact ⟨origin.of_calls same, rfl, approved, stored grows⟩
    · rintro error later ⟨lost | ⟨approved, grows, other⟩, same⟩
      · exact .inl (trans_of (Gateway.Shrinks host) shrinks lost)
      · exact .inr ⟨served, origin.of_calls same, rfl, approved, stored grows,
          other⟩
  · rintro error later ⟨-, shrinks⟩
    exact .inl shrinks

/-- Nothing but an answer of the provider is stored. -/
theorem Gateway.Stores.shrinks {served : Served} {later : Gateway}
    (stores : Gateway.Stores host chat served admitted later)
    (cached : served.cacheResult ≠ .miss) : admitted.Shrinks host later :=
  Gateway.Grows.mono stores (fun _ _ ok => cached ok.1)
    (fun _ _ ok => cached ok.1)

/-- A cached response is returned only if it passes its check. -/
theorem ensures_exactLookup (host : Host) (chat : Chat) (gateway : Gateway) :
    Ensures (exactLookup host chat) gateway
      (fun found _ => ∀ response, found = some response →
        (verifyChatResponse host response).accepted = true)
      (fun _ _ => True) := by
  have nothing : ∀ response : Value, none = some response →
      (verifyChatResponse host response).accepted = true :=
    fun _ impossible => nomatch impossible
  unfold exactLookup
  rw [ensures_ite]
  refine ⟨fun _ => ?_, fun _ => nothing⟩
  rw [ensures_bind]
  apply (ensures_self _ gateway).mono
  · intro cached later _
    split
    · exact nothing
    · rename_i response
      rw [ensures_ite]
      constructor
      · rintro accepted _ ⟨⟩
        exact accepted
      · intro _
        rw [ensures_bind]
        apply (ensures_self _ later).mono
        · exact fun _ _ _ => nothing
        · exact fun _ _ _ => trivial
  · exact fun _ _ _ => trivial

/-- A semantic hit passed its check, and an entry gave it. -/
theorem ensures_semanticLookup (host : Host) (chat : Chat) (gateway : Gateway) :
    Ensures (semanticLookup host chat) gateway
      (fun found _ => ∀ hit, found = some hit →
        (verifyChatResponse host hit.value).accepted = true ∧
        chat.semanticCacheEnabled = true ∧
        ∃ given threshold, semanticThreshold host chat
            gateway.caches.semantic.threshold = .ok given ∧
          unitInterval given = some threshold ∧
          SemanticCache.Found host
            (normalizeSemanticText host (chat.routingText host))
            chat.setup.fingerprints chat.call.tenant chat.call.nameSpace
            threshold (Gateway.semanticLens.get gateway) hit)
      (fun _ _ => True) := by
  unfold semanticLookup
  rw [ensures_ite]
  refine ⟨fun enabled => ?_, fun _ hit impossible => nomatch impossible⟩
  rw [ensures_bind, ensures_get, ensures_bind, ensures_lift]
  refine ⟨fun given read => ?_, fun _ _ => trivial⟩
  rw [ensures_focus]
  apply (SemanticCache.ensures_lookupHit host chat.setup.fingerprints _ _ _ given
    _ _).mono
  · rintro found _ ⟨-, candidates⟩ hit same
    obtain ⟨accepted, threshold, bounded, entry⟩ := candidates hit same
    exact ⟨accepted, enabled, given, threshold, read, bounded, entry⟩
  · exact fun _ _ _ => trivial

/-- A cached answer passed the check of the response. -/
theorem ensures_serve :
    Ensures (serve host provider chat) admitted
      (fun served later =>
        Origin host provider chat admitted later served ∧
        (verifyChatResponse host served.response).accepted = true ∧
        (served.cacheResult = .miss → chat.Approves host served.response) ∧
        Gateway.Stores host chat served admitted later)
      (fun error later => admitted.Shrinks host later ∨ ∃ served,
        Origin host provider chat admitted later served ∧
        chat.Approves host served.response ∧
        Gateway.Stores host chat served admitted later ∧ error.IsOther) := by
  have lost : ∀ {middle later : Gateway}, admitted.Shrinks host middle →
      middle.Shrinks host later → admitted.Shrinks host later :=
    fun early late => trans_of (Gateway.Shrinks host) early late
  have looks : ∀ {result : Except PyException (Option Value)} {later : Gateway},
      exactLookup host chat admitted = (result, later) →
        admitted.Shrinks host later :=
    fun run => (grows_exactLookup host chat).of_run run
  have searches : ∀ {result : Except PyException (Option SemanticCacheHit)}
      {missed later : Gateway},
      semanticLookup host chat missed = (result, later) →
        missed.Shrinks host later :=
    fun run => (grows_semanticLookup host chat).of_run run
  unfold Ensures
  have ended := serving host provider chat admitted
  generalize serve host provider chat admitted = run at ended
  cases ended with
  | exactFailed first => exact .inl (looks first)
  | semanticFailed first second => exact .inl (lost (looks first)
      (searches second))
  | @exactHit response found first =>
      have accepted := (ensures_exactLookup host chat admitted).of_ok first _ rfl
      have records : Ensures (exactAnswer host chat response) found
          (fun served later => served = ⟨response, .exactHit, none, none⟩ ∧
            found.Shrinks host later)
          (fun _ later => found.Shrinks host later) := by
        unfold exactAnswer
        rw [ensures_bind]
        apply ((grows_recordChat host chat _).ensures found).mono
        · exact fun _ later shrinks => ⟨rfl, shrinks⟩
        · exact fun _ later shrinks => shrinks
      apply records.mono
      · rintro _ later ⟨rfl, shrinks⟩
        exact ⟨.exactHit first, accepted, (nomatch ·),
          Gateway.Shrinks.grows (lost (looks first) shrinks)⟩
      · exact fun _ later shrinks => .inl (lost (looks first) shrinks)
  | @semanticHit hit missed found first second =>
      have accepted := ((ensures_semanticLookup host chat missed).of_ok second _
        rfl).1
      have searched := lost (looks first) (searches second)
      have records : Ensures (semanticAnswer host chat hit) found
          (fun served later =>
            served = ⟨hit.value, .semanticHit, none, some hit.score⟩ ∧
              found.Shrinks host later)
          (fun _ later => found.Shrinks host later) := by
        unfold semanticAnswer
        rw [ensures_bind]
        apply ((grows_recordChat host chat _).ensures found).mono
        · exact fun _ later shrinks => ⟨rfl, shrinks⟩
        · exact fun _ later shrinks => shrinks
      apply records.mono
      · rintro _ later ⟨rfl, shrinks⟩
        exact ⟨.semanticHit first second, accepted, (nomatch ·),
          Gateway.Shrinks.grows (lost searched shrinks)⟩
      · exact fun _ later shrinks => .inl (lost searched shrinks)
  | @missed missed later route first second routed =>
      have searched := lost (looks first) (searches second)
      have calls : later.calls = admitted.calls :=
        ((uncached_calls.unlogged.semanticLookup host chat).of_run second).trans
          ((uncached_calls.unlogged.exactLookup host chat).of_run first)
      have origin : ∀ {served : Served} {final : Gateway},
          Origin host provider chat later final served →
            served.cacheResult = .miss →
              Origin host provider chat admitted final served := by
        intro served final origin miss
        cases origin with
        | exactHit | semanticHit => nomatch miss
        | answered asked replied after =>
            rw [calls] at asked after
            exact .answered asked replied after
      have stores : ∀ {served : Served} {final : Gateway},
          Gateway.Stores host chat served later final →
            Gateway.Stores host chat served admitted final :=
        fun grows => trans_of (Gateway.Stores host chat _)
          (Gateway.Shrinks.grows searched) grows
      apply (ensures_answer route).mono
      · rintro served final ⟨answered, miss, approved, grows⟩
        exact ⟨origin answered miss, approved.accepted, fun _ => approved,
          stores grows⟩
      · rintro error final (refused |
          ⟨served, answered, miss, approved, grows, other⟩)
        · exact .inl (lost searched refused)
        · exact .inr ⟨served, origin answered miss, approved, stores grows,
            other⟩

end Ends

/-! ## Whole requests -/

section Requests

variable (host : Host) (provider : ChatProvider) (chat : Chat)

theorem Unlogged.askWithFallback {γ : Type} {project : Gateway → γ}
    (unlogged : Unlogged project)
    (unasked : ∀ gateway calls, project { gateway with calls } = project gateway)
    (route : ModelRoute) :
    Frames project (askWithFallback host provider chat route) := by
  have asks : ∀ request model,
      Frames project (askProvider provider request model) := by
    intro request model
    refine frames_bind frames_get fun gateway => ?_
    refine frames_bind (frames_modify fun before => unasked before _) fun _ => ?_
    exact frames_lift _
  refine frames_bind (frames_lift _) fun model => ?_
  refine frames_bind (asks _ _) fun response => ?_
  apply frames_ite
  · exact frames_ret _
  · refine frames_bind (unlogged.recordChat host chat _) fun _ => ?_
    refine frames_bind (frames_lift _) fun model => ?_
    exact frames_bind (asks _ _) fun response => frames_ret _

theorem Unlogged.serve {γ : Type} {project : Gateway → γ}
    (unlogged : Unlogged project)
    (unasked : ∀ gateway calls,
      project { gateway with calls } = project gateway) :
    Frames project (serve host provider chat) := by
  refine frames_bind (unlogged.exactLookup host chat) fun cached => ?_
  refine frames_bind (frames_lift _) fun route => ?_
  split
  · exact unlogged.exactAnswer host chat _
  · refine frames_bind (unlogged.semanticLookup host chat) fun found => ?_
    split
    · exact unlogged.semanticAnswer host chat _
    · refine frames_bind (unlogged.askWithFallback host provider chat unasked _)
        fun answered => ?_
      exact unlogged.settle host chat _ _ _

theorem within_cacheableUntil (mode : Mode) (ttl : Option ℚ) :
    Within Supply.Before (cacheableUntil host mode ttl) := by
  unfold cacheableUntil
  split
  · apply within_ite
    · exact within_bind host.within_now fun _ => within_ret _
    · exact within_ret _
  · exact within_ret _

theorem draws_putManifest (session : Session) (admission : Admission)
    (manifest : Manifest) :
    Within World.Draws (putManifest host session admission manifest) := by
  refine within_bind (fun world => .refl world.supply) fun _ => ?_
  exact draws_of_quiet (quiet_record host session _)

theorem draws_writeChatManifest (served : Served) :
    Within World.Draws (writeChatManifest host chat served) := by
  refine within_bind (draws_supply (within_cacheableUntil host _ _)) fun _ => ?_
  refine within_bind (within_lift _) fun _ => ?_
  refine within_bind (draws_supply (host.within_newId _)) fun manifestId => ?_
  refine within_bind (draws_supply host.within_utcNow) fun createdAt => ?_
  refine within_bind (draws_putManifest host _ _ _) fun _ => ?_
  exact within_ret _

/-- A request is refused and nothing is added, or a response was approved. -/
theorem ensures_handleChatCompletion (call : ChatCall) (gateway : Gateway) :
    Ensures (handleChatCompletion host provider call) gateway
      (fun reply later => ∃ chat served manifest,
        reply = chatReply host chat served manifest ∧
        Approved host provider call gateway later chat served)
      (fun error later =>
        gateway.Shrinks host later ∧ later.manifests = gateway.manifests ∨
        error.IsOther ∧ ∃ chat served,
          Approved host provider call gateway later chat served) := by
  unfold handleChatCompletion
  rw [ensures_bind]
  apply (((grows_prepareChat host call).ensures gateway).and
    (((uncached_manifests.prepareChat host call).ensures gateway).and
      (ensures_self (prepareChat host call) gateway))).mono
  · rintro chat admitted ⟨prepares, sameBefore, prepared⟩
    have lost : ∀ {later : Gateway}, admitted.Shrinks host later →
        gateway.Shrinks host later :=
      fun shrinks => trans_of (Gateway.Shrinks host) prepares shrinks
    have approve : ∀ {served : Served} {later : Gateway},
        Origin host provider chat admitted later served →
          chat.Approves host served.response →
            Gateway.Stores host chat served admitted later →
              Approved host provider call gateway later chat served :=
      fun origin approved stores =>
        ⟨⟨admitted, prepared, origin⟩, approved,
          trans_of (Gateway.Stores host chat _)
            (Gateway.Shrinks.grows prepares) stores⟩
    rw [ensures_bind]
    apply (ensures_serve.and ((uncached_manifests.unlogged.serve host provider chat
      fun _ _ => rfl).ensures admitted)).mono
    · rintro served answered ⟨⟨origin, accepted, missed, stores⟩, sameServed⟩
      unfold finish
      rw [ensures_bind, ensures_lift]
      constructor
      · intro _ required
        have approved : chat.Approves host served.response :=
          ⟨accepted, required⟩
        rw [ensures_bind]
        have written : Ensures (focus Gateway.worldLens
            (writeChatManifest host chat served)) answered
            (fun _ later =>
              Approved host provider call gateway later chat served)
            (fun error later => error.IsOther ∧
              Approved host provider call gateway later chat served) := by
          have ended : Within (Gateway.Stores host chat served)
              (focus Gateway.worldLens
                (writeChatManifest host chat served)) :=
            grows_world host (draws_writeChatManifest host chat served)
          have calls : Frames Gateway.calls (focus Gateway.worldLens
              (writeChatManifest host chat served)) :=
            outside_calls.focus _
          apply ((ended.ensures answered).and ((calls.ensures answered).and
            (raises_focus (raises_writeChatManifest host chat served)
              answered))).mono
          · rintro _ later ⟨grows, same, -⟩
            exact approve (origin.of_calls same) approved
              (trans_of (Gateway.Stores host chat served) stores grows)
          · rintro error later ⟨grows, same, other⟩
            exact ⟨other, approve (origin.of_calls same) approved
              (trans_of (Gateway.Stores host chat served) stores grows)⟩
        apply written.mono
        · exact fun manifest later done => ⟨chat, served, manifest, rfl, done⟩
        · exact fun error later failed => .inr ⟨failed.1, chat, served, failed.2⟩
      · intro error refused
        refine .inl ⟨lost (stores.shrinks fun miss => ?_),
          sameServed.trans sameBefore⟩
        have required := (missed miss).required
        rw [refused] at required
        cases required
    · rintro error failed ⟨lostRows | ⟨served, origin, approved, stores, other⟩,
        same⟩
      · exact .inl ⟨lost lostRows, same.trans sameBefore⟩
      · exact .inr ⟨other, chat, served, approve origin approved stores⟩
  · rintro error refused ⟨shrinks, same, -⟩
    exact .inl ⟨shrinks, same⟩

end Requests

end Urp
