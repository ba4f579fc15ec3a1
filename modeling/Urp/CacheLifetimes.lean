import Mathlib.Tactic.Linarith
import Urp.AnswerTexts
import Urp.CacheBackends
import Urp.PayloadDecoders

/-!
# Lifetimes of stored cache entries

The endpoint `/v1/cache/store` bounds the lifetime of an entry by comparisons
of floats, and a comparison with NaN never holds.  An entry with any other
lifetime is gone a day after its store; one with NaN stays.
-/

namespace Urp

open Python Program

/-! ## Floats -/

/-- `left < right`; `none` is NaN. -/
def floatLt (left right : Option Number) : Bool :=
  match left, right with
  | some p, some q => p.lt q
  | _, _ => false

/-- `left <= right`. -/
def floatLe (left right : Option Number) : Bool :=
  match left, right with
  | some p, some q => !q.lt p
  | _, _ => false

/-- `left + right`; opposite infinities have no sum. -/
def floatAdd (left right : Option Number) : Option Number :=
  match left, right with
  | some (.finite p), some (.finite q) => some (.finite (p + q))
  | some (.infinity sign), some (.infinity other) =>
      if sign = other then some (.infinity sign) else none
  | some (.infinity sign), some _ => some (.infinity sign)
  | some _, some (.infinity sign) => some (.infinity sign)
  | _, _ => none

/-- The `expires_at` that a cache keeps of a float.  No comparison tells NaN or
infinity from `None`, and the table has `NULL` for NaN. -/
def expiryOf (expiry : Option Number) : Option ℚ :=
  match expiry with
  | some (.finite q) => some q
  | _ => none

/-- The checks of the cache see what is kept of a float, as long as it is not
minus infinity. -/
theorem isExpired_expiryOf {expiry : Option Number}
    (above : expiry ≠ some (.infinity true)) (now : ℚ) :
    isExpired (expiryOf expiry) now = floatLe expiry (some (.finite now)) := by
  rcases expiry with _ | q | sign
  · rfl
  · simp [expiryOf, isExpired, floatLe, Number.lt, ← decide_not]
  · cases sign with
    | true => exact absurd rfl above
    | false => rfl

/-! ## The endpoint -/

section Endpoint

variable (host : Host)

/-- `float(payload.get("ttl_seconds", 3600))`. -/
def ttlSeconds (body : Object) : Except PyException (Option Number) :=
  floatOf host (body.getD "ttl_seconds" (.int 3600))

/-- `ttl <= 0 or ttl > 86400`. -/
def isOutOfBounds (ttl : Option Number) : Bool :=
  floatLe ttl (some (.finite 0)) || floatLt (some (.finite 86400)) ttl

/-- `payload.get("namespace", "default")` where a string stands. -/
def bodyNamespace (body : Object) : Except PyException String :=
  match body.getD "namespace" (.str "default") with
  | .str text => .ok text
  | _ => .error .typeError

/-- The entry of the body, except for its expiry. -/
def bodyEntry (body : Object) : Except PyException CacheEntry := do
  let key ← requiredText body.entries "key"
  let tenant ← requiredText body.entries "tenant"
  let nameSpace ← bodyNamespace body
  let sourceFingerprints ←
    fingerprintSet (body.getD "source_fingerprints" (.list []))
  return {
    key, tenant, nameSpace, value := body.get "value", sourceFingerprints
    verifierPassed := true }

/-- `POST /v1/cache/store`. -/
def cacheStore (body : Object) : Program CacheState PyException Object := do
  let specification ← lift (objectField body.entries "verification")
  let verification ← lift
    (verifyCacheValue host (body.get "value") (some specification))
  if verification.accepted = false then
    raise (.urp {
      code := "verifier_failed"
      message := "cache value verification failed"
      details := verification.toDict })
  else do
    let ttl ← lift (ttlSeconds host body)
    if isOutOfBounds ttl then
      raise (.valueError "ttl_seconds must be between 1 and 86400")
    else do
      let entry ← lift (bodyEntry body)
      let now ← focus CacheState.supplyLens host.now
      URPCache.put host { entry with
        expiresAt := expiryOf (floatAdd (some (.finite now)) ttl) }
      return .ofList [("stored", .bool true),
        ("verification", verification.toDict.toValue)]

end Endpoint

/-! ## Accepted stores -/

section Stores

variable {host : Host}

/-- Within the bounds are the numbers up to a day, and NaN. -/
theorem isOutOfBounds_eq_false_iff {ttl : Option Number} :
    isOutOfBounds ttl = false ↔
      ttl = none ∨ ∃ q, ttl = some (.finite q) ∧ 0 < q ∧ q ≤ 86400 := by
  rcases ttl with _ | q | sign
  · simp [isOutOfBounds, floatLe, floatLt]
  · simp [isOutOfBounds, floatLe, floatLt, Number.lt]
  · cases sign <;> simp [isOutOfBounds, floatLe, floatLt, Number.lt]

/-- No verifier accepts a missing value. -/
theorem not_accepted_none {specification : Object}
    {verification : VerificationResult}
    (run : verifyCacheValue host .none (some specification) =
      .ok verification) : verification.accepted = false := by
  unfold verifyCacheValue at run
  simp only [Option.getD_some] at run
  split at run
  · cases run
    rfl
  · cases run
    rfl
  · cases run
    rfl
  · obtain ⟨required, -, run⟩ := except_bind_eq_ok_iff.mp run
    split at run
    · cases run
      rfl
    · rename_i named
      cases run
      simpa [verifyJsonShape] using named
  · cases run
    rfl
  · cases run
    rfl

/-- The entry that a body stores at this time. -/
def storedEntry (entry : CacheEntry) (ttl : Option Number) (storedAt : ℚ) :
    CacheEntry :=
  { entry with expiresAt := expiryOf (floatAdd (some (.finite storedAt)) ttl) }

/-- What a store that is accepted did. -/
structure StoresEntry (host : Host) (body : Object) (s later : CacheState)
    (entry : CacheEntry) (ttl : Option Number) : Prop where
  given : bodyEntry body = .ok entry
  lifetime : ttlSeconds host body = .ok ttl
  bounds : isOutOfBounds ttl = false
  present : body.get "value" ≠ .none
  kind : s.backend.SameKind later.backend
  lookup : later.backend.lookup host entry.key =
    some (later.backend.readBack host
      (storedEntry entry ttl (host.clock s.supply.tick)))

theorem stores_of_accepted {body : Object} {s later : CacheState}
    {reply : Object} (accepted : cacheStore host body s = (.ok reply, later)) :
    ∃ entry ttl, StoresEntry host body s later entry ttl := by
  unfold cacheStore at accepted
  obtain ⟨specification, _, run, accepted⟩ := bind_eq_ok_iff.mp accepted
  obtain ⟨-, rfl⟩ := Prod.mk.inj run
  obtain ⟨verification, _, run, accepted⟩ := bind_eq_ok_iff.mp accepted
  obtain ⟨verified, rfl⟩ := Prod.mk.inj run
  split at accepted
  · cases accepted
  · rename_i passed
    obtain ⟨ttl, _, run, accepted⟩ := bind_eq_ok_iff.mp accepted
    obtain ⟨lifetime, rfl⟩ := Prod.mk.inj run
    split at accepted
    · cases accepted
    · rename_i inside
      obtain ⟨entry, _, run, accepted⟩ := bind_eq_ok_iff.mp accepted
      obtain ⟨given, rfl⟩ := Prod.mk.inj run
      obtain ⟨now, middle, clock, accepted⟩ := bind_eq_ok_iff.mp accepted
      obtain ⟨supply, reading, rfl⟩ := focus_eq_ok_iff.mp clock
      cases reading
      obtain ⟨_, last, put, accepted⟩ := bind_eq_ok_iff.mp accepted
      cases accepted
      have wrote := ((URPCache.ensures_put host _ _).of_ok put).2
      refine ⟨entry, ttl, given, lifetime, by simpa using inside, ?_,
        wrote.kind, ?_⟩
      · intro missing
        rw [missing] at verified
        exact passed (not_accepted_none verified)
      · have own := wrote.lookup entry.key
        rw [if_pos rfl, wrote.kind.readBack_eq] at own
        exact own

end Stores

/-! ## Later calls -/

/-- The host with other readings of its clock. -/
def Host.withClock (host : Host) (clock : Nat → ℚ) : Host := { host with clock }

theorem decodeJsonValue_withClock (host : Host) (clock : Nat → ℚ)
    (value : Value) :
    decodeJsonValue (host.withClock clock) value = decodeJsonValue host value := by
  rw [decodeJsonValue_eq, decodeJsonValue_eq]
  rfl

theorem CacheRow.entry_withClock (host : Host) (clock : Nat → ℚ)
    (row : CacheRow) (key : String) :
    row.entry (host.withClock clock) key = row.entry host key := by
  simp only [CacheRow.entry, decodeJsonValue_withClock]

namespace CacheBackend

theorem lookup_withClock (host : Host) (clock : Nat → ℚ)
    (backend : CacheBackend) (key : String) :
    backend.lookup (host.withClock clock) key = backend.lookup host key := by
  cases backend <;> simp only [lookup, CacheRow.entry_withClock]

theorem readBack_withClock (host : Host) (clock : Nat → ℚ)
    (backend : CacheBackend) (entry : CacheEntry) :
    backend.readBack (host.withClock clock) entry =
      backend.readBack host entry := by
  cases backend <;> simp only [readBack, CacheRow.entry_withClock]

end CacheBackend

/-- The call writes an entry under the key. -/
def CacheCall.Puts (key : String) : CacheCall → Prop
  | .put entry => entry.key = key
  | _ => False

section Calls

variable {host : Host} {key : String} {entry : CacheEntry}
  {s later : CacheState}

/-- The key holds the stored entry or nothing. -/
def Retains (host : Host) (key : String) (entry : CacheEntry) (s : CacheState) :
    Prop :=
  s.backend.lookup host key = none ∨
    s.backend.lookup host key = some (s.backend.readBack host entry)

/-- What the key held is there or gone. -/
structure Drops (host : Host) (key : String) (s later : CacheState) : Prop where
  kind : s.backend.SameKind later.backend
  lookup : later.backend.lookup host key = s.backend.lookup host key ∨
    later.backend.lookup host key = none

theorem drops_of_backend (same : later.backend = s.backend) :
    Drops host key s later :=
  ⟨same ▸ CacheBackend.SameKind.refl _, .inl (by rw [same])⟩

theorem drops_erase {other : String}
    (same : later.backend = s.backend.erase other) : Drops host key s later := by
  constructor
  · rw [same]
    exact s.backend.sameKind_erase other
  · rw [same, CacheBackend.lookup_erase]
    split
    · exact .inr rfl
    · exact .inl rfl

theorem Retains.of_drops (retains : Retains host key entry s)
    (drops : Drops host key s later) : Retains host key entry later := by
  rcases drops.lookup with same | gone
  · rcases retains with missing | present
    · exact .inl (same.trans missing)
    · right
      rw [same, present, drops.kind.readBack_eq]
  · exact .inl gone

theorem drops_purgeExpired :
    Drops host key s (cacheStep host s .purgeExpired).2 := by
  obtain ⟨backend, supply⟩ := s
  cases backend with
  | memory entries =>
      let keep := fun (_ : String) (entry : CacheEntry) =>
        !isExpired entry.expiresAt (host.clock supply.tick)
      refine ⟨trivial, ?_⟩
      change ((entries.filter keep).lookup key).map _ =
          (entries.lookup key).map _ ∨
        ((entries.filter keep).lookup key).map _ = none
      rw [Dict.lookup_filter]
      cases entries.lookup key with
      | none => exact .inl rfl
      | some entry => cases kept : keep key entry <;> simp [kept]
  | sqlite rows =>
      let keep := fun (_ : String) (row : CacheRow) =>
        !isExpired row.expiresAt (host.clock supply.tick)
      refine ⟨trivial, ?_⟩
      change ((rows.filter keep).lookup key).map _ =
          (rows.lookup key).map _ ∨
        ((rows.filter keep).lookup key).map _ = none
      rw [Dict.lookup_filter]
      cases rows.lookup key with
      | none => exact .inl rfl
      | some row => cases kept : keep key row <;> simp [kept]

theorem drops_cacheStep {call : CacheCall} (quiet : ¬ call.Puts key) :
    Drops host key s (cacheStep host s call).2 := by
  cases call with
  | put other =>
      rw [cacheStep_put]
      have put := URPCache.ensures_put host other s
      cases run : URPCache.put host other s with
      | mk result later =>
          cases result with
          | error error => exact drops_of_backend (put.of_error run).2.1
          | ok done =>
              have wrote := (put.of_ok run).2
              refine ⟨wrote.kind, .inl ?_⟩
              have different : other.key ≠ key := quiet
              rw [wrote.lookup key, if_neg different]
  | get other tenant nameSpace sourceFingerprints =>
      rw [cacheStep_get]
      have got := URPCache.get_got host other tenant nameSpace
        sourceFingerprints s
      revert got
      generalize (URPCache.get host other tenant nameSpace
        sourceFingerprints s).1 = result
      generalize (URPCache.get host other tenant nameSpace
        sourceFingerprints s).2 = after
      intro got
      cases got with
      | absent | unreadable | outOfScope => exact drops_of_backend rfl
      | expired found inside due same => exact drops_erase (by rw [same])
      | hit found inside live same => exact drops_of_backend same
  | delete other => exact drops_erase rfl
  | purgeExpired => exact drops_purgeExpired

/-- What a timed call does to the key, whatever its clock reads. -/
theorem drops_timedStep {timed : TimedCall} (quiet : ¬ timed.call.Puts key) :
    Drops host key s (timedStep host s timed).2 := by
  have drops := @drops_cacheStep host key
    { s with supply := { s.supply with tick := timed.tick } } timed.call quiet
  exact ⟨drops.kind, drops.lookup⟩

theorem Retains.run (retains : Retains host key entry s)
    {calls : List TimedCall}
    (quiet : ∀ timed ∈ calls, ¬ timed.call.Puts key) :
    Retains host key entry (Run.final (timedStep host) s calls) ∧
      s.backend.SameKind (Run.final (timedStep host) s calls).backend := by
  induction calls generalizing s with
  | nil => exact ⟨retains, .refl _⟩
  | cons timed rest ih =>
      obtain ⟨first, others⟩ := List.forall_mem_cons.mp quiet
      have drops : Drops host key s (timedStep host s timed).2 :=
        drops_timedStep first
      obtain ⟨held, kind⟩ := ih (retains.of_drops drops) others
      exact ⟨held, drops.kind.trans kind⟩

end Calls

/-- A value that is returned is that of the stored entry, still alive. -/
theorem Retains.of_returned {host : Host} {key : String} {entry : CacheEntry}
    {s : CacheState} (retains : Retains host key entry s) {tick : Nat}
    {tenant nameSpace : String} {sourceFingerprints : Option (Finset String)}
    {value : Value}
    (returned : (timedStep host s
      ⟨tick, .get key tenant nameSpace sourceFingerprints⟩).1 =
        .ok (.value value)) (nonNull : value ≠ .none) :
    ∃ row, s.backend.readBack host entry = .ok row ∧
      isExpired row.expiresAt (host.clock tick) = false := by
  let state : CacheState := { s with supply := { s.supply with tick } }
  change (cacheStep host state _).1 = _ at returned
  rw [cacheStep_get] at returned
  have got := URPCache.get_got host key tenant nameSpace sourceFingerprints
    state
  cases answer : (URPCache.get host key tenant nameSpace sourceFingerprints
      state).1 with
  | error error =>
      rw [answer] at returned
      cases returned
  | ok result =>
      rw [answer] at got returned
      cases returned
      obtain ⟨row, found, -, live, -⟩ :=
        URPCache.Got.exists_entry host got nonNull
      change s.backend.lookup host key = _ at found
      refine ⟨row, ?_, live⟩
      rcases retains with missing | present
      · rw [missing] at found
        cases found
      · rw [present] at found
        exact Option.some.inj found

/-! ## Reading stored values back -/

section Values

variable {host : Host}

/-- The value that a backend reads where it stored this one. -/
def CacheBackend.readValue (host : Host) (backend : CacheBackend)
    (value : Value) : Except PyException Value :=
  match backend with
  | .memory _ => .ok value
  | .sqlite _ => decodeJsonValue host value.sorted

theorem CacheBackend.readBack_eq {entry : CacheEntry}
    (json : entry.value.isJson = true) (passed : entry.verifierPassed = true)
    (backend : CacheBackend) :
    backend.readBack host entry =
      (backend.readValue host entry.value).map fun value =>
        { entry with value } := by
  cases backend with
  | memory entries => rfl
  | sqlite rows =>
      have loaded := Json.loads_dumps .compact entry.value json
      unfold readBack readValue CacheRow.entry CacheEntry.row loadsColumn
      simp only [encodeJsonValue_of_isJson _ json, loaded,
        Json.loads_dumps .compact _
          (isJson_fingerprintsValue entry.sourceFingerprints),
        sorted_fingerprintsValue]
      cases decoded : decodeJsonValue host entry.value.sorted with
      | error error =>
          simp only [bind, Except.bind, decoded]
          rfl
      | ok value =>
          simp only [bind, Except.bind, decoded,
            fingerprintSet_fingerprintsValue, passed]
          rfl

theorem decodeJsonValue_ne_none {value found : Value} (present : value ≠ .none)
    (decoded : decodeJsonValue host value = .ok found) : found ≠ .none := by
  rintro rfl
  cases value with
  | none => exact present rfl
  | bool | int | float | str | bytes => cases decoded
  | list items =>
      obtain ⟨_, -, other⟩ := except_bind_eq_ok_iff.mp decoded
      cases other
  | dict entries =>
      rw [decodeJsonValue] at decoded
      split at decoded
      · split at decoded <;> cases decoded
      · obtain ⟨_, -, other⟩ := except_bind_eq_ok_iff.mp decoded
        cases other

/-- No other value is read back as a missing one. -/
theorem CacheBackend.readValue_ne_none {backend : CacheBackend}
    {value found : Value} (present : value ≠ .none)
    (read : backend.readValue host value = .ok found) : found ≠ .none := by
  cases backend with
  | memory entries =>
      cases read
      exact present
  | sqlite rows =>
      refine decodeJsonValue_ne_none ?_ read
      cases value with
      | none => exact absurd rfl present
      | _ => simp [Value.sorted]

end Values

/-! ## Lifetimes -/

/-- Whatever the calls and the clock after a store, no lookup more than a day
after it returns what it stored, unless another entry was put under its key. -/
def GoneAfterADay (host : Host) (body : Object) (storedAt : ℚ)
    (later : CacheState) : Prop :=
  ∀ key, body.get "key" = .str key → ∀ (clock : Nat → ℚ) (calls : List TimedCall),
    (∀ timed ∈ calls, ¬ timed.call.Puts key) →
      ∀ tick, storedAt + 86400 < clock tick →
        ∀ tenant nameSpace sourceFingerprints value,
          (timedStep (host.withClock clock)
            (Run.final (timedStep (host.withClock clock)) later calls)
            ⟨tick, .get key tenant nameSpace sourceFingerprints⟩).1 =
              .ok (.value value) → value = .none

section Lifetimes

variable {host : Host} {body : Object} {entry : CacheEntry}
  {ttl : Option Number} {s later : CacheState}

theorem key_of_bodyEntry (given : bodyEntry body = .ok entry) :
    body.get "key" = .str entry.key ∧ entry.value = body.get "value" ∧
      entry.verifierPassed = true := by
  obtain ⟨key, named, given⟩ := except_bind_eq_ok_iff.mp given
  obtain ⟨tenant, -, given⟩ := except_bind_eq_ok_iff.mp given
  obtain ⟨nameSpace, -, given⟩ := except_bind_eq_ok_iff.mp given
  obtain ⟨sourceFingerprints, -, given⟩ := except_bind_eq_ok_iff.mp given
  cases given
  refine ⟨?_, rfl, rfl⟩
  unfold requiredText at named
  split at named
  · rename_i text found
    cases named
    change (Entries.lookup body.entries "key").getD .none = _
    rw [found]
    rfl
  · cases named
  · cases named

/-- The value of a JSON body is JSON. -/
theorem Object.isJson_get (json : body.toValue.isJson = true) (key : String) :
    (body.get key).isJson = true := by
  unfold Object.get Object.getD
  cases found : body.lookup key with
  | none => rfl
  | some value =>
      rw [Object.toValue, Value.isJson, Bool.and_eq_true] at json
      have every := (Value.isJsonEntries_iff _).mp json.2
      exact every _ ((body.mem_entries_iff key value).mpr found)

/-- What reading the stored entry gives in a backend of the same kind. -/
theorem StoresEntry.readBack_eq (json : body.toValue.isJson = true)
    (stores : StoresEntry host body s later entry ttl) {backend : CacheBackend}
    (kind : s.backend.SameKind backend) (storedAt : ℚ) :
    backend.readBack host (storedEntry entry ttl storedAt) =
      (s.backend.readValue host (body.get "value")).map fun value =>
        { storedEntry entry ttl storedAt with value } := by
  obtain ⟨-, value, passed⟩ := key_of_bodyEntry stores.given
  have own : (storedEntry entry ttl storedAt).value = body.get "value" := value
  have jsonValue := Object.isJson_get json "value"
  rw [← own] at jsonValue ⊢
  rw [← kind.readBack_eq, CacheBackend.readBack_eq jsonValue passed]

/-- The cache's checks compare the float that the endpoint computed. -/
theorem isExpired_storedEntry (bounds : isOutOfBounds ttl = false)
    (storedAt now : ℚ) :
    isExpired (storedEntry entry ttl storedAt).expiresAt now =
      floatLe (floatAdd (some (.finite storedAt)) ttl)
        (some (.finite now)) := by
  apply isExpired_expiryOf
  rcases isOutOfBounds_eq_false_iff.mp bounds with rfl | ⟨q, rfl, -, -⟩ <;>
    simp [floatAdd]

/-- An entry whose lifetime is NaN is returned at any time, if its value reads
back. -/
theorem not_goneAfterADay (json : body.toValue.isJson = true)
    (stores : StoresEntry host body s later entry none) {found : Value}
    (reads : s.backend.readValue host (body.get "value") = .ok found) :
    ¬ GoneAfterADay host body (host.clock s.supply.tick) later := by
  intro gone
  obtain ⟨key, -, passed⟩ := key_of_bodyEntry stores.given
  let storedAt := host.clock s.supply.tick
  let clock : Nat → ℚ := fun _ => storedAt + 86401
  have late : storedAt + 86400 < clock 0 := by
    change storedAt + 86400 < storedAt + 86401
    linarith
  have nothing := gone entry.key key clock [] (by simp) 0 late entry.tenant
    entry.nameSpace none found
  let row : CacheEntry := { storedEntry entry none storedAt with value := found }
  let state : CacheState := { later with supply := { later.supply with tick := 0 } }
  have present : state.backend.lookup (host.withClock clock) entry.key =
      some (.ok row) := by
    rw [CacheBackend.lookup_withClock]
    change later.backend.lookup host entry.key = _
    rw [stores.lookup, stores.readBack_eq json stores.kind, reads]
    rfl
  have scope : URPCache.isInScope row entry.tenant entry.nameSpace none = true := by
    simp [URPCache.isInScope, row, storedEntry, passed]
  have fresh : isExpired row.expiresAt (clock 0) = false := by
    change isExpired (storedEntry entry none storedAt).expiresAt _ = false
    rw [isExpired_storedEntry stores.bounds]
    rfl
  have returned :=
    URPCache.get_of_live (host.withClock clock) present scope fresh
  have missing : found = .none := by
    apply nothing
    change (cacheStep (host.withClock clock) state _).1 = _
    rw [cacheStep_get, returned]
    rfl
  exact CacheBackend.readValue_ne_none stores.present reads missing

/-- An entry with another lifetime, or whose value does not read back, is not
returned a day after its store. -/
theorem goneAfterADay (json : body.toValue.isJson = true)
    (stores : StoresEntry host body s later entry ttl)
    (passes : ttl ≠ none ∨ ∃ error,
      s.backend.readValue host (body.get "value") = .error error) :
    GoneAfterADay host body (host.clock s.supply.tick) later := by
  intro key named clock calls quiet tick late tenant nameSpace
    sourceFingerprints value returned
  by_contra nonNull
  let storedAt := host.clock s.supply.tick
  let other := host.withClock clock
  obtain ⟨own, -, -⟩ := key_of_bodyEntry stores.given
  obtain rfl : entry.key = key := by
    rw [own] at named
    exact Value.str.inj named
  -- After the calls the key holds the stored entry or nothing.
  have retains : Retains other entry.key (storedEntry entry ttl storedAt) later := by
    right
    rw [CacheBackend.lookup_withClock, CacheBackend.readBack_withClock]
    exact stores.lookup
  obtain ⟨held, kind⟩ := retains.run quiet
  obtain ⟨row, present, live⟩ := held.of_returned returned nonNull
  rw [CacheBackend.readBack_withClock,
    stores.readBack_eq json (stores.kind.trans kind)] at present
  cases reads : s.backend.readValue host (body.get "value") with
  | error error =>
      rw [reads] at present
      cases present
  | ok value =>
      rw [reads] at present
      cases present
      rcases passes with number | ⟨error, unreadable⟩
      · change isExpired (storedEntry entry ttl storedAt).expiresAt
          (clock tick) = false at live
        rw [isExpired_storedEntry stores.bounds] at live
        rcases isOutOfBounds_eq_false_iff.mp stores.bounds with
          nan | ⟨q, rfl, -, day⟩
        · exact number nan
        · have early : clock tick < storedAt + q := by
            simpa [floatLe, floatAdd, Number.lt] using live
          linarith
      · rw [reads] at unreadable
        cases unreadable

/-- A stored entry is gone after a day exactly when its lifetime is no NaN or
its value cannot be read back. -/
theorem goneAfterADay_iff (json : body.toValue.isJson = true) {reply : Object}
    (accepted : cacheStore host body s = (.ok reply, later)) :
    GoneAfterADay host body (host.clock s.supply.tick) later ↔
      ttlSeconds host body ≠ .ok none ∨ ∃ error,
        s.backend.readValue host (body.get "value") = .error error := by
  obtain ⟨entry, ttl, stores⟩ := stores_of_accepted accepted
  have lifetime := stores.lifetime
  constructor
  · intro gone
    rw [or_iff_not_imp_left, not_not]
    intro nan
    rw [nan] at lifetime
    cases lifetime
    cases reads : s.backend.readValue host (body.get "value") with
    | error error => exact ⟨error, rfl⟩
    | ok found => exact absurd gone (not_goneAfterADay json stores reads)
  · intro passes
    apply goneAfterADay json stores
    rcases passes with number | unreadable
    · left
      rintro rfl
      exact number lifetime
    · exact .inr unreadable

end Lifetimes

/-- A JSON body with this lifetime. -/
def sampleStore (ttl : Value) : Object :=
  .ofList [("key", .str "k"), ("tenant", .str "acme"), ("value", .str "hi"),
    ("verification", .dict [("type", .str "non_empty_text")]),
    ("ttl_seconds", ttl)]

/-- The clock of a host that stops. -/
def stoppedHost : Host := Host.counting.withClock fun _ => 0

/-- `float(True)` is one second. -/
theorem goneAfterADay_iff_second :
    ∃ reply later,
      cacheStore stoppedHost (sampleStore (.bool true)) ⟨.sqlite ∅, {}⟩ =
        (.ok reply, later) ∧
      GoneAfterADay stoppedHost (sampleStore (.bool true)) 0 later := by
  have accepted : (cacheStore stoppedHost (sampleStore (.bool true))
      ⟨.sqlite ∅, {}⟩).1.isOk = true := by decide +kernel
  rcases run : cacheStore stoppedHost (sampleStore (.bool true))
    ⟨.sqlite ∅, {}⟩ with ⟨error | reply, later⟩
  · rw [run] at accepted
    cases accepted
  · refine ⟨reply, later, rfl, (goneAfterADay_iff (by decide) run).mpr (.inl ?_)⟩
    exact fun nan => nomatch nan

/-- NaN passes both bounds, and its entry is returned after any time. -/
theorem not_goneAfterADay_nan :
    ∃ reply later,
      cacheStore stoppedHost (sampleStore (.float .nan)) ⟨.sqlite ∅, {}⟩ =
        (.ok reply, later) ∧
      ¬ GoneAfterADay stoppedHost (sampleStore (.float .nan)) 0 later := by
  have accepted : ∃ reply later, cacheStore stoppedHost
      (sampleStore (.float .nan)) ⟨.sqlite ∅, {}⟩ = (.ok reply, later) :=
    ⟨_, _, rfl⟩
  obtain ⟨reply, later, run⟩ := accepted
  obtain ⟨entry, ttl, stores⟩ := stores_of_accepted run
  have nan : ttlSeconds stoppedHost (sampleStore (.float .nan)) = .ok none := rfl
  rw [stores.lifetime] at nan
  cases nan
  have reads : CacheBackend.readValue stoppedHost (.sqlite ∅)
      ((sampleStore (.float .nan)).get "value") = .ok (.str "hi") := rfl
  exact ⟨reply, later, run, not_goneAfterADay (by decide) stores reads⟩

end Urp
