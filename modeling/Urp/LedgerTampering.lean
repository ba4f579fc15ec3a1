import Urp.LedgerRuns

/-!
# Tamper evidence

The hash of a ledger event covers every field but itself, so that without
collisions the last hash of a verified chain fixes the whole chain.
-/

namespace Urp

open Python

namespace LedgerEvent

def unhashed (event : LedgerEvent) : LedgerEvent :=
  { event with eventHash := none }

/-- The bytes that the event's hash is taken of. -/
def hashedBytes (event : LedgerEvent) : Bytes :=
  utf8 (Json.dumps .compact event.unhashed.toDict)

theorem optionalText_injective {left right : Option String}
    (same : optionalText left = optionalText right) : left = right := by
  cases left <;> cases right <;> cases same <;> rfl

/-- The sorted dictionary shows every field. -/
theorem canonical_of_sorted {left right : LedgerEvent}
    (same : left.toDict.sorted = right.toDict.sorted) :
    left.canonical = right.canonical := by
  have entries := Value.dict.inj same
  have field : ∀ key,
      (Value.get left.fields key).sorted =
        (Value.get right.fields key).sorted := by
    intro key
    rw [← get_sorted left.distinct_fields, ← get_sorted right.distinct_fields,
      entries]
  have text : ∀ {key : String} {mine other : Option String},
      Value.get left.fields key = optionalText mine →
      Value.get right.fields key = optionalText other → mine = other := by
    intro key mine other here there
    have equal := field key
    rw [here, there, sorted_optionalText, sorted_optionalText] at equal
    exact optionalText_injective equal
  have required : ∀ {key mine other : String},
      Value.get left.fields key = .str mine →
      Value.get right.fields key = .str other → mine = other := by
    intro key mine other here there
    have equal := field key
    rw [here, there] at equal
    exact Value.str.inj equal
  have details : left.details.sorted = right.details.sorted := by
    have equal := Value.dict.inj (field "details")
    unfold Object.sorted
    simpa using equal
  have eventId : left.eventId = right.eventId :=
    @required "event_id" _ _ rfl rfl
  have eventType : left.eventType = right.eventType :=
    @required "event_type" _ _ rfl rfl
  have tenant : left.tenant = right.tenant := @required "tenant" _ _ rfl rfl
  have createdAt : left.createdAt = right.createdAt :=
    @required "created_at" _ _ rfl rfl
  have workUnitId : left.workUnitId = right.workUnitId :=
    @text "work_unit_id" _ _ rfl rfl
  have manifestId : left.manifestId = right.manifestId :=
    @text "manifest_id" _ _ rfl rfl
  have policyBundleId : left.policyBundleId = right.policyBundleId :=
    @text "policy_bundle_id" _ _ rfl rfl
  have actor : left.actor = right.actor := @text "actor" _ _ rfl rfl
  have decision : left.decision = right.decision := @text "decision" _ _ rfl rfl
  have traceId : left.traceId = right.traceId := @text "trace_id" _ _ rfl rfl
  have prevHash : left.prevHash = right.prevHash :=
    @text "prev_hash" _ _ rfl rfl
  have eventHash : left.eventHash = right.eventHash :=
    @text "event_hash" _ _ rfl rfl
  unfold canonical
  rw [LedgerEvent.mk.injEq]
  exact ⟨eventType, tenant, workUnitId, manifestId, policyBundleId, actor,
    decision, details, traceId, prevHash, eventId, createdAt, eventHash⟩

theorem hashedBytes_canonical (event : LedgerEvent) :
    event.canonical.hashedBytes = event.hashedBytes := by
  have same := sorted_toDict_canonical event.unhashed
  simp only [unhashed, canonical] at same
  simp only [hashedBytes, Json.dumps, unhashed, canonical, same]

/-- Equal hashed bytes come from equal events. -/
theorem canonical_of_hashedBytes {left right : LedgerEvent}
    (json : left.details.toValue.isJson = true)
    (otherJson : right.details.toValue.isJson = true)
    (bytes : left.hashedBytes = right.hashedBytes)
    (hashes : left.eventHash = right.eventHash) :
    left.canonical = right.canonical := by
  have texts := utf8_injective bytes
  have loaded := Json.loads_dumps .compact left.unhashed.toDict
    (@isJson_toDict left.unhashed json)
  rw [texts, Json.loads_dumps .compact right.unhashed.toDict
    (@isJson_toDict right.unhashed otherJson)] at loaded
  have equal := canonical_of_sorted (Option.some.inj loaded).symm
  calc left.canonical
      = { left.unhashed.canonical with eventHash := left.eventHash } := rfl
    _ = { right.unhashed.canonical with eventHash := right.eventHash } := by
        rw [equal, hashes]
    _ = right.canonical := rfl

end LedgerEvent

/-! ## Chains -/

namespace JSONLLedger

theorem eventHash_of_isChain {previous : Option String}
    {events : List LedgerEvent} (chain : isChain previous events = true)
    {event : LedgerEvent} (member : event ∈ events) :
    event.eventHash = some (sha256 event.hashedBytes) := by
  induction events generalizing previous with
  | nil => cases member
  | cons head rest ih =>
      simp only [isChain, Bool.and_eq_true, beq_iff_eq] at chain
      rcases List.mem_cons.mp member with rfl | later
      · exact chain.1.2
      · exact ih chain.2 later

/-- A chain that ends in an event is a chain that the event names. -/
theorem isChain_snoc {previous : Option String} {early : List LedgerEvent}
    {event : LedgerEvent}
    (chain : isChain previous (early ++ [event]) = true) :
    isChain previous early = true ∧
      event.prevHash = (early.getLast?.elim previous LedgerEvent.eventHash) := by
  induction early generalizing previous with
  | nil =>
      simp only [List.nil_append, isChain, Bool.and_eq_true, beq_iff_eq] at chain
      exact ⟨rfl, chain.1.1⟩
  | cons head rest ih =>
      simp only [List.cons_append, isChain, Bool.and_eq_true, beq_iff_eq]
        at chain ⊢
      obtain ⟨tail, named⟩ := ih chain.2
      refine ⟨⟨chain.1, tail⟩, ?_⟩
      rw [named, List.getLast?_cons]
      cases rest.getLast? <;> rfl

end JSONLLedger

/-- SHA-256 has no collision among the bytes that these events hash. -/
def HashesApart (events : List LedgerEvent) : Prop :=
  ∀ event ∈ events, ∀ other ∈ events,
    sha256 event.hashedBytes = sha256 other.hashedBytes →
      event.hashedBytes = other.hashedBytes

/-- Two verified ledgers of JSON events with one last hash hold the same
events, up to the order of the keys of their details. -/
theorem ledger_tamperEvident (left right : List LedgerEvent)
    (plain : ∀ event ∈ left ++ right, event.details.toValue.isJson = true)
    (collisionFree : HashesApart (left ++ right))
    (leftChain : JSONLLedger.isChain none left = true)
    (rightChain : JSONLLedger.isChain none right = true)
    (lastHashes : lastHash left = lastHash right) :
    left.length = right.length ∧
      left.map LedgerEvent.canonical = right.map LedgerEvent.canonical := by
  suffices same : left.map LedgerEvent.canonical =
      right.map LedgerEvent.canonical by
    exact ⟨by simpa using congrArg List.length same, same⟩
  -- Backwards from the last events, whose hashes agree.
  induction left using List.reverseRecOn generalizing right with
  | nil =>
      rcases List.eq_nil_or_concat right with rfl | ⟨late, last, rfl⟩
      · rfl
      · rw [List.concat_eq_append] at rightChain lastHashes
        have hashed := JSONLLedger.eventHash_of_isChain rightChain
          (List.mem_append_right late List.mem_cons_self)
        simp [lastHash, hashed] at lastHashes
  | append_singleton early event ih =>
      have hashed := JSONLLedger.eventHash_of_isChain leftChain
        (List.mem_append_right early List.mem_cons_self)
      rcases List.eq_nil_or_concat right with rfl | ⟨late, last, rfl⟩
      · simp [lastHash, hashed] at lastHashes
      · rw [List.concat_eq_append] at *
        have otherHashed := JSONLLedger.eventHash_of_isChain rightChain
          (List.mem_append_right late List.mem_cons_self)
        have hashes : event.eventHash = last.eventHash := by
          simpa [lastHash] using lastHashes
        have here : event ∈ (early ++ [event]) ++ (late ++ [last]) := by simp
        have there : last ∈ (early ++ [event]) ++ (late ++ [last]) := by simp
        have digests : sha256 event.hashedBytes = sha256 last.hashedBytes := by
          simpa [hashed, otherHashed] using hashes
        have bytes := collisionFree event here last there digests
        have same := LedgerEvent.canonical_of_hashedBytes (plain event here)
          (plain last there) bytes hashes
        obtain ⟨earlyChain, named⟩ := JSONLLedger.isChain_snoc leftChain
        obtain ⟨lateChain, otherNamed⟩ := JSONLLedger.isChain_snoc rightChain
        have previous : event.prevHash = last.prevHash := by
          change event.canonical.prevHash = last.canonical.prevHash
          rw [same]
        have member : ∀ found ∈ early ++ late,
            found ∈ (early ++ [event]) ++ (late ++ [last]) := by
          intro found member
          rcases List.mem_append.mp member with old | new
          · simp [old]
          · simp [new]
        have earlier := ih late (fun found at_ => plain found (member found at_))
          (fun found at_ other also => collisionFree found (member found at_)
            other (member other also)) earlyChain lateChain (by
              rw [named, otherNamed] at previous
              unfold lastHash
              revert previous
              cases early.getLast? <;> cases late.getLast? <;> exact id)
        rw [List.map_append, List.map_append, earlier, List.map_singleton,
          List.map_singleton, same]

def sampleChain : List LedgerEvent :=
  chainEvents none [sampleEvent "acme" "evt_1"]

/-- The ledger with one event, and the same with its details in key order. -/
theorem ledger_tamperEvident_sample :
    sampleChain.length = (sampleChain.map LedgerEvent.canonical).length ∧
      sampleChain.map LedgerEvent.canonical =
        (sampleChain.map LedgerEvent.canonical).map LedgerEvent.canonical := by
  have bytes : ∀ event ∈ sampleChain ++ sampleChain.map LedgerEvent.canonical,
      event.hashedBytes =
        ((sampleEvent "acme" "evt_1").withChainHash none).hashedBytes := by
    intro event member
    simp only [sampleChain, chainEvents, List.map_cons, List.map_nil,
      List.cons_append, List.nil_append, List.mem_cons, List.not_mem_nil,
      or_false] at member
    rcases member with rfl | rfl
    · rfl
    · exact LedgerEvent.hashedBytes_canonical _
  apply ledger_tamperEvident
  · intro event member
    simp only [sampleChain, chainEvents, List.map_cons, List.map_nil,
      List.cons_append, List.nil_append, List.mem_cons, List.not_mem_nil,
      or_false] at member
    rcases member with rfl | rfl <;> decide +kernel
  · intro event member other also _
    rw [bytes event member, bytes other also]
  · simp [sampleChain, chainEvents, JSONLLedger.isChain,
      LedgerEvent.withChainHash]
  · exact isChain_canonical (linked_chainEvents none _)
  · simp [lastHash, sampleChain, chainEvents, LedgerEvent.canonical]

end Urp
