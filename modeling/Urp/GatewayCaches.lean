import Urp.SemanticRuns
import Urp.VerifierErrors

/-!
# What a request does to the caches

Rows are lost at most, except that a verified answer of the provider is stored
under the request's own keys.
-/

namespace Urp

open Python Program

/-! ## Growth -/

/-- Every row of a cache is an old one, or was stored as the predicates allow
at a reading of the clock. -/
structure Gateway.Grows (host : Host) (exactOk : CacheEntry → Nat → Prop)
    (semanticOk : SemanticCacheEntry → Nat → Prop) (before after : Gateway) :
    Prop where
  supply : before.supply.Before after.supply
  exactKind : before.caches.exact.SameKind after.caches.exact
  exact : ∀ key found, after.caches.exact.lookup host key = some found →
    before.caches.exact.lookup host key = some found ∨
      ∃ entry tick, exactOk entry tick ∧ before.supply.tick ≤ tick ∧
        tick < after.supply.tick ∧ entry.key = key ∧
        found = before.caches.exact.readBack host entry
  semanticKind : before.caches.semantic.backend.SameKind
    after.caches.semantic.backend
  semantic : ∀ key found,
    after.caches.semantic.backend.lookup host key = some found →
      before.caches.semantic.backend.lookup host key = some found ∨
        ∃ entry tick, semanticOk entry tick ∧ before.supply.tick ≤ tick ∧
          tick < after.supply.tick ∧ entry.key = key ∧
          found = before.caches.semantic.backend.readBack host entry

/-- Rows are lost at most. -/
abbrev Gateway.Shrinks (host : Host) (before after : Gateway) : Prop :=
  before.Grows host (fun _ _ => False) (fun _ _ => False) after

section Grows

variable {host : Host} {exactOk otherExact : CacheEntry → Nat → Prop}
  {semanticOk otherSemantic : SemanticCacheEntry → Nat → Prop}

/-- The same caches after some draws. -/
theorem Gateway.Grows.of_same {before after : Gateway}
    (supply : before.supply.Before after.supply)
    (caches : after.caches = before.caches) :
    before.Grows host exactOk semanticOk after := by
  constructor
  · exact supply
  · rw [caches]
    exact .refl _
  · intro key found present
    rw [caches] at present
    exact .inl present
  · rw [caches]
    exact .refl _
  · intro key found present
    rw [caches] at present
    exact .inl present

theorem Gateway.Grows.mono {before after : Gateway}
    (grows : before.Grows host exactOk semanticOk after)
    (exactMore : ∀ entry tick, exactOk entry tick → otherExact entry tick)
    (semanticMore : ∀ entry tick, semanticOk entry tick →
      otherSemantic entry tick) :
    before.Grows host otherExact otherSemantic after := by
  refine { grows with exact := ?_, semantic := ?_ }
  · intro key found present
    rcases grows.exact key found present with old | ⟨entry, tick, ok, rest⟩
    · exact .inl old
    · exact .inr ⟨entry, tick, exactMore entry tick ok, rest⟩
  · intro key found present
    rcases grows.semantic key found present with old | ⟨entry, tick, ok, rest⟩
    · exact .inl old
    · exact .inr ⟨entry, tick, semanticMore entry tick ok, rest⟩

theorem Gateway.Shrinks.grows {before after : Gateway}
    (shrinks : before.Shrinks host after) :
    before.Grows host exactOk semanticOk after :=
  Grows.mono shrinks (fun _ _ => False.elim) (fun _ _ => False.elim)

instance : IsPreorder Gateway (Gateway.Grows host exactOk semanticOk) where
  refl gateway := .of_same (.refl gateway.supply) rfl
  trans first second third early late := by
    constructor
    · exact early.supply.trans late.supply
    · exact early.exactKind.trans late.exactKind
    · intro key found present
      rcases late.exact key found present with
        old | ⟨entry, tick, ok, low, high, same, read⟩
      · rcases early.exact key found old with
          older | ⟨entry, tick, ok, low, high, rest⟩
        · exact .inl older
        · exact .inr ⟨entry, tick, ok, low,
            Nat.lt_of_lt_of_le high late.supply.2, rest⟩
      · refine .inr ⟨entry, tick, ok, Nat.le_trans early.supply.2 low, high,
          same, ?_⟩
        rw [read, early.exactKind.readBack_eq]
    · exact early.semanticKind.trans late.semanticKind
    · intro key found present
      rcases late.semantic key found present with
        old | ⟨entry, tick, ok, low, high, same, read⟩
      · rcases early.semantic key found old with
          older | ⟨entry, tick, ok, low, high, rest⟩
        · exact .inl older
        · exact .inr ⟨entry, tick, ok, low,
            Nat.lt_of_lt_of_le high late.supply.2, rest⟩
      · refine .inr ⟨entry, tick, ok, Nat.le_trans early.supply.2 low, high,
          same, ?_⟩
        rw [read, early.semanticKind.readBack_eq]

end Grows

/-! ## Steps in the state directory -/

/-- The supply is only drawn from. -/
def World.Draws (world later : World) : Prop :=
  world.supply.Before later.supply

instance : IsPreorder World World.Draws where
  refl world := .refl world.supply
  trans _ _ _ := .trans

section Quiet

variable (host : Host)

theorem grows_world {α : Type} {exactOk : CacheEntry → Nat → Prop}
    {semanticOk : SemanticCacheEntry → Nat → Prop}
    {body : Program World PyException α} (draws : Within World.Draws body) :
    Within (Gateway.Grows host exactOk semanticOk)
      (focus Gateway.worldLens body) :=
  within_focus draws fun _ _ drawn => .of_same drawn rfl

theorem draws_of_quiet {α : Type} {body : Program World PyException α}
    (quiet : Within World.Quiet body) : Within World.Draws body :=
  fun world => (quiet world).supply

theorem draws_supply {α : Type} {body : Program Supply PyException α}
    (drawn : Within Supply.Before body) :
    Within World.Draws (focus World.supplyLens body) :=
  draws_of_quiet (quiet_supply drawn)

end Quiet

/-! ## Lookups -/

section Lookups

variable (host : Host) (chat : Chat) {exactOk : CacheEntry → Nat → Prop}
  {semanticOk : SemanticCacheEntry → Nat → Prop}

theorem grows_recordChat (event : LedgerEvent) :
    Within (Gateway.Grows host exactOk semanticOk)
      (recordChat host chat event) :=
  grows_world host (draws_of_quiet (quiet_record host _ event))

omit chat in
theorem grows_recordFeedback (workUnit : WorkUnit) (route : ModelRoute)
    (passed : Bool) :
    Within (Gateway.Grows host exactOk semanticOk)
      (recordFeedback host workUnit route passed) := by
  refine within_bind ?_ fun _ => within_modify fun later => ?_
  · apply grows_world
    exact draws_supply host.within_utcNow
  · exact .of_same (.refl later.supply) rfl

theorem grows_prepareChat (call : ChatCall) :
    Within (Gateway.Grows host exactOk semanticOk) (prepareChat host call) := by
  refine within_bind (within_lift _) fun setup => ?_
  refine within_bind ?_ fun admission => within_lift _
  exact grows_world host (draws_of_quiet (quiet_intake host _))

/-- The exact cache lost rows at most. -/
theorem Gateway.Grows.of_exact {gateway : Gateway} {state : CacheState}
    (kind : gateway.caches.exact.SameKind state.backend)
    (supply : gateway.supply.Before state.supply)
    (lost : ∀ key found, state.backend.lookup host key = some found →
      gateway.caches.exact.lookup host key = some found) :
    gateway.Grows host exactOk semanticOk
      (Gateway.exactLens.set gateway state) :=
  ⟨supply, kind, fun key found present => .inl (lost key found present),
    .refl _, fun _ _ present => .inl present⟩

theorem CacheBackend.lookup_of_erase {host : Host} {backend : CacheBackend}
    {key other : String} {found : Except PyException CacheEntry}
    (present : (backend.erase key).lookup host other = some found) :
    backend.lookup host other = some found := by
  rw [CacheBackend.lookup_erase] at present
  split at present
  · cases present
  · exact present

theorem grows_get (key tenant nameSpace : String)
    (sourceFingerprints : Option (Finset String)) :
    Within (Gateway.Grows host exactOk semanticOk) (focus Gateway.exactLens
      (URPCache.get host key tenant nameSpace sourceFingerprints)) := by
  intro gateway
  have got := URPCache.get_got host key tenant nameSpace sourceFingerprints
    (Gateway.exactLens.get gateway)
  change gateway.Grows host exactOk semanticOk (Gateway.exactLens.set gateway
    (URPCache.get host key tenant nameSpace sourceFingerprints
      (Gateway.exactLens.get gateway)).2)
  revert got
  generalize (URPCache.get host key tenant nameSpace sourceFingerprints
    (Gateway.exactLens.get gateway)).1 = result
  generalize (URPCache.get host key tenant nameSpace sourceFingerprints
    (Gateway.exactLens.get gateway)).2 = later
  intro got
  have erased : ∀ {state : CacheState},
      state.backend = gateway.caches.exact →
        gateway.caches.exact.SameKind state.backend ∧
          ∀ key found, state.backend.lookup host key = some found →
            gateway.caches.exact.lookup host key = some found := by
    rintro state same
    rw [same]
    exact ⟨.refl _, fun _ _ found => found⟩
  cases got with
  | absent | unreadable | outOfScope =>
      exact .of_exact host (.refl _) (.refl _) fun _ _ found => found
  | expired found inside due same moved drawn =>
      obtain ⟨kind, lost⟩ := erased same
      have erasedKind := kind.trans (CacheBackend.sameKind_erase _ key)
      exact .of_exact host erasedKind drawn fun other found present =>
        lost other found (CacheBackend.lookup_of_erase present)
  | hit found inside live same drawn =>
      obtain ⟨kind, lost⟩ := erased same
      exact .of_exact host kind drawn lost

theorem grows_delete (key : String) :
    Within (Gateway.Grows host exactOk semanticOk)
      (focus Gateway.exactLens (URPCache.delete key)) := by
  intro gateway
  have kind := CacheBackend.sameKind_erase gateway.caches.exact key
  exact .of_exact host kind (.refl gateway.supply) fun _ _ present =>
    CacheBackend.lookup_of_erase present

theorem grows_exactLookup :
    Within (Gateway.Grows host exactOk semanticOk) (exactLookup host chat) := by
  apply within_ite
  · refine within_bind (grows_get host _ _ _ _) fun cached => ?_
    split
    · exact within_ret _
    · apply within_ite
      · exact within_ret _
      · exact within_bind (grows_delete host _) fun _ => within_ret _
  · exact within_ret _

/-- The semantic cache lost rows at most. -/
theorem Gateway.Grows.of_semantic {gateway : Gateway} {state : SemanticState}
    (shrinks : (Gateway.semanticLens.get gateway).Shrinks host state) :
    gateway.Grows host exactOk semanticOk
      (Gateway.semanticLens.set gateway state) :=
  ⟨shrinks.supply, .refl _, fun _ _ present => .inl present, shrinks.kind,
    fun key found present => .inl (shrinks.lookup key found present)⟩

theorem grows_semanticLookup :
    Within (Gateway.Grows host exactOk semanticOk)
      (semanticLookup host chat) := by
  apply within_ite
  · refine within_bind within_get fun gateway => ?_
    refine within_bind (within_lift _) fun threshold => ?_
    intro before
    apply Gateway.Grows.of_semantic
    apply ensures_state_iff.mp
    apply (SemanticCache.ensures_lookupHit host chat.setup.fingerprints _ _ _ _
      _ _).mono
    · exact fun _ _ both => both.1
    · exact fun _ _ shrinks => shrinks
  · exact within_ret _

end Lookups

/-! ## Stores -/

section Stores

variable (host : Host) (chat : Chat) (response : Value)

/-- The response passes its check and the required verifiers. -/
structure Chat.Approves : Prop where
  accepted : (verifyChatResponse host response).accepted = true
  required : chat.verifyRequired host response = .ok ()

/-- The entry of the exact cache for an approved response. -/
structure Chat.StoresExact (entry : CacheEntry) (tick : Nat) : Prop where
  approved : chat.Approves host response
  performed : chat.performs "cache_store" = true
  entry_eq : ∃ ttl, chat.positiveTtl = some ttl ∧ entry = {
    key := chat.cacheKey
    tenant := chat.call.tenant
    nameSpace := chat.call.nameSpace
    value := response
    sourceFingerprints := chat.setup.fingerprints
    verifierPassed := true
    expiresAt := some (host.clock tick + ttl) }

/-- The entry of the semantic cache for an approved response. -/
structure Chat.StoresSemantic (entry : SemanticCacheEntry) (tick : Nat) :
    Prop where
  approved : chat.Approves host response
  enabled : chat.semanticCacheEnabled = true
  entry_eq : ∃ ttl, chat.positiveTtl = some ttl ∧
    entry = SemanticCache.storedEntry host chat.setup.fingerprints
      chat.call.tenant chat.call.nameSpace (chat.routingText host) response
      (verifyChatResponse host response) ttl tick

variable {host chat response}

omit chat response in
theorem ensures_putExpiring (ttl : ℚ) (entry : CacheEntry) (s : CacheState) :
    Ensures (putExpiring host ttl entry) s
      (fun _ later => s.supply.tick < later.supply.tick ∧
        URPCache.Wrote host { entry with
          expiresAt := some (host.clock s.supply.tick + ttl) } s later)
      (fun _ later => later.backend = s.backend ∧
        s.supply.Before later.supply) := by
  let ticked : CacheState :=
    { s with supply := ⟨s.supply.nextId, s.supply.tick + 1⟩ }
  have moved : s.supply.Before ticked.supply := ⟨Nat.le_refl _, Nat.le_succ _⟩
  have timed : Ensures (focus CacheState.supplyLens host.now) s
      (fun now later => now = host.clock s.supply.tick ∧ later = ticked)
      (fun _ _ => False) := ⟨rfl, rfl⟩
  unfold putExpiring
  rw [ensures_bind]
  apply timed.mono
  · rintro now _ ⟨rfl, rfl⟩
    apply (URPCache.ensures_put host _ ticked).mono
    · rintro _ later ⟨-, wrote⟩
      exact ⟨wrote.drawn.2, wrote.kind, moved.trans wrote.drawn, wrote.lookup,
        wrote.owner⟩
    · rintro _ later ⟨-, same, drawn⟩
      exact ⟨same, moved.trans drawn⟩
  · exact fun _ _ impossible => impossible.elim

omit chat response in
/-- An entry is put as it was given, with its expiry. -/
theorem grows_putExpiring {exactOk : CacheEntry → Nat → Prop}
    {semanticOk : SemanticCacheEntry → Nat → Prop} {ttl : ℚ}
    {entry : CacheEntry}
    (ok : ∀ tick,
      exactOk { entry with expiresAt := some (host.clock tick + ttl) } tick) :
    Within (Gateway.Grows host exactOk semanticOk)
      (focus Gateway.exactLens (putExpiring host ttl entry)) := by
  intro gateway
  let grown := fun later : Gateway =>
    gateway.Grows host exactOk semanticOk later
  apply (@ensures_state_iff _ _ _ gateway _ grown).mp
  rw [ensures_focus]
  apply (ensures_putExpiring ttl entry (Gateway.exactLens.get gateway)).mono
  · rintro _ state ⟨moved, wrote⟩
    refine ⟨wrote.drawn, wrote.kind, fun key found present => ?_, .refl _,
      fun _ _ present => .inl present⟩
    have row := (wrote.lookup key).symm.trans present
    split at row
    · rename_i same
      exact .inr ⟨_, gateway.supply.tick, ok _, Nat.le_refl _, moved, same,
        (Option.some.inj row).symm⟩
    · exact .inl row
  · rintro _ state ⟨same, drawn⟩
    apply Gateway.Grows.of_exact host _ drawn
    · rw [same]
      exact fun _ _ found => found
    · rw [same]
      exact .refl _

theorem grows_storeExact (approved : chat.Approves host response)
    {semanticOk : SemanticCacheEntry → Nat → Prop} :
    Within (Gateway.Grows host (chat.StoresExact host response) semanticOk)
      (storeExact host chat response) := by
  unfold storeExact
  split
  · rename_i ttl lives
    by_cases performed : chat.performs "cache_store" = true
    · rw [if_pos performed]
      exact grows_putExpiring fun tick => ⟨approved, performed, ttl, lives, rfl⟩
    · rw [if_neg performed]
      exact within_ret _
  · exact within_ret _

theorem grows_storeSemantic (approved : chat.Approves host response)
    {exactOk : CacheEntry → Nat → Prop} :
    Within (Gateway.Grows host exactOk (chat.StoresSemantic host response))
      (storeSemantic host chat response) := by
  unfold storeSemantic
  split
  · rename_i ttl lives
    by_cases enabled : chat.semanticCacheEnabled = true
    · rw [if_pos enabled]
      refine within_bind ?_ fun _ => within_ret _
      intro gateway
      let grown := fun later : Gateway =>
        gateway.Grows host exactOk (chat.StoresSemantic host response) later
      apply (@ensures_state_iff _ _ _ gateway _ grown).mp
      rw [ensures_focus]
      apply (SemanticCache.ensures_store host chat.setup.fingerprints _ _ _ _ _
        ttl (Gateway.semanticLens.get gateway)).mono
      · rintro _ state ⟨moved, -, wrote⟩
        refine ⟨wrote.supply, .refl _, fun _ _ present => .inl present,
          wrote.kind, fun key found present => ?_⟩
        have row := (wrote.lookup key).symm.trans present
        split at row
        · rename_i same
          refine .inr ⟨_, gateway.supply.tick, ⟨approved, enabled, ttl, lives,
            rfl⟩, Nat.le_refl _, moved, same, ?_⟩
          exact (Option.some.inj row).symm
        · exact .inl row
      · exact fun _ state shrinks => .of_semantic host shrinks
    · rw [if_neg enabled]
      exact within_ret _
  · exact within_ret _

/-- An answer is stored only once it is approved, and what fails after that
is no verifier. -/
theorem ensures_acceptAnswer (gateway : Gateway) :
    let stores := gateway.Grows host (chat.StoresExact host response)
      (chat.StoresSemantic host response)
    Ensures (acceptAnswer host chat response) gateway
      (fun _ later => chat.Approves host response ∧ stores later)
      (fun error later => gateway.Shrinks host later ∨
        chat.Approves host response ∧ stores later ∧ error.IsOther) := by
  intro stores
  unfold acceptAnswer
  rw [ensures_ite]
  constructor
  · intro accepted
    rw [ensures_bind, ensures_lift]
    constructor
    · intro _ required
      have approved : chat.Approves host response := ⟨accepted, required⟩
      rw [ensures_bind]
      apply (((grows_storeExact approved).ensures gateway).and
        (raises_storeExact host chat response gateway)).mono
      · rintro _ middle ⟨first, -⟩
        apply (((grows_storeSemantic approved).ensures middle).and
          (raises_storeSemantic host chat response middle)).mono
        · rintro _ later ⟨second, -⟩
          exact ⟨approved, trans_of (Gateway.Grows host _ _) first second⟩
        · rintro error later ⟨second, other⟩
          exact .inr ⟨approved, trans_of (Gateway.Grows host _ _) first second,
            other⟩
      · rintro error later ⟨first, other⟩
        exact .inr ⟨approved, first, other⟩
    · exact fun _ _ => .inl (refl_of (Gateway.Shrinks host) gateway)
  · intro refused
    rw [ensures_bind]
    apply ((grows_recordChat host chat _).ensures gateway).mono
    · exact fun _ later shrinks => .inl shrinks
    · exact fun _ later shrinks => .inl shrinks

theorem ensures_settle (route : ModelRoute) (fallback : Option String)
    (gateway : Gateway) :
    let stores := gateway.Grows host (chat.StoresExact host response)
      (chat.StoresSemantic host response)
    Ensures (settle host chat route response fallback) gateway
      (fun served later => served = ⟨response, .miss, fallback, none⟩ ∧
        chat.Approves host response ∧ stores later)
      (fun error later => gateway.Shrinks host later ∨
        chat.Approves host response ∧ stores later ∧ error.IsOther) := by
  intro stores
  have recorded : ∀ {α : Type} {body : Program Gateway PyException α},
      Within (Gateway.Grows host (chat.StoresExact host response)
        (chat.StoresSemantic host response)) body →
      Raises PyException.IsOther body → ∀ middle,
        chat.Approves host response → stores middle →
        Ensures body middle
          (fun _ later => chat.Approves host response ∧ stores later)
          (fun error later => gateway.Shrinks host later ∨
            chat.Approves host response ∧ stores later ∧ error.IsOther) := by
    intro α body grows raises middle approved first
    apply ((grows.ensures middle).and (raises middle)).mono
    · rintro _ later ⟨second, -⟩
      exact ⟨approved, trans_of (Gateway.Grows host _ _) first second⟩
    · rintro error later ⟨second, other⟩
      exact .inr ⟨approved, trans_of (Gateway.Grows host _ _) first second,
        other⟩
  unfold settle
  rw [ensures_bind]
  apply (ensures_acceptAnswer gateway).mono
  · rintro _ accepted ⟨approved, first⟩
    rw [ensures_bind]
    apply (recorded (grows_recordChat host chat _) (raises_recordChat host chat _)
      accepted approved first).mono
    · rintro _ missed ⟨-, second⟩
      rw [ensures_bind]
      apply (recorded (grows_recordChat host chat _)
        (raises_recordChat host chat _) missed approved second).mono
      · rintro _ routed ⟨-, third⟩
        rw [ensures_bind]
        apply (recorded (grows_recordFeedback host _ _ _)
          (raises_recordFeedback host _ _ _) routed approved third).mono
        · exact fun _ fed both => ⟨rfl, both⟩
        · exact fun _ _ failed => failed
      · exact fun _ _ failed => failed
    · exact fun _ _ failed => failed
  · exact fun _ _ failed => failed

end Stores

end Urp
