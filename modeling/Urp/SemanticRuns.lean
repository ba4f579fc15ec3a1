import Urp.CacheRuns
import Urp.SemanticCache

/-!
# Runs of the semantic cache

What one call does to a semantic cache, seen through
`SemanticBackend.lookup`, and where a hit comes from.
-/

namespace Urp

open Python Program

namespace SemanticBackend

/-- The entry under a key, as a scan reads it. -/
def lookup (host : Host) (backend : SemanticBackend) (key : String) :
    Option (Except PyException SemanticCacheEntry) :=
  match backend with
  | .memory entries => (entries.lookup key).map .ok
  | .sqlite rows => (rows.lookup key).map fun row => row.entry host key

/-- What reading an entry gives once it is stored. -/
def readBack (host : Host) (backend : SemanticBackend)
    (entry : SemanticCacheEntry) : Except PyException SemanticCacheEntry :=
  match backend with
  | .memory _ => .ok entry
  | .sqlite _ => entry.row.entry host entry.key

/-- The two backends are of one kind. -/
def SameKind : SemanticBackend → SemanticBackend → Prop
  | .memory _, .memory _ => True
  | .sqlite _, .sqlite _ => True
  | _, _ => False

theorem SameKind.refl (backend : SemanticBackend) :
    backend.SameKind backend := by
  cases backend <;> trivial

theorem SameKind.trans {first second third : SemanticBackend}
    (early : first.SameKind second) (late : second.SameKind third) :
    first.SameKind third := by
  cases first <;> cases second <;> cases third <;> trivial

theorem SameKind.readBack_eq {host : Host} {backend other : SemanticBackend}
    (same : backend.SameKind other) (entry : SemanticCacheEntry) :
    backend.readBack host entry = other.readBack host entry := by
  cases backend <;> cases other <;> first | rfl | cases same

theorem sameKind_erase (backend : SemanticBackend) (key : String) :
    backend.SameKind (backend.erase key) := by
  cases backend <;> trivial

theorem sameKind_insert (backend : SemanticBackend)
    (entry : SemanticCacheEntry) : backend.SameKind (backend.insert entry) := by
  cases backend <;> trivial

theorem lookup_erase (host : Host) (backend : SemanticBackend)
    (key other : String) :
    (backend.erase key).lookup host other =
      if key = other then none else backend.lookup host other := by
  cases backend <;> simp only [erase, lookup, Dict.lookup_erase] <;>
    split <;> rfl

theorem lookup_insert (host : Host) (backend : SemanticBackend)
    (entry : SemanticCacheEntry) (key : String) :
    (backend.insert entry).lookup host key =
      if entry.key = key then some (backend.readBack host entry)
      else backend.lookup host key := by
  cases backend with
  | memory entries =>
      simp only [insert, lookup, readBack, Dict.lookup_insert]
      split <;> rfl
  | sqlite rows =>
      simp only [insert, lookup, readBack, Dict.lookup_insert]
      split
      · rename_i same
        rw [← same]
        rfl
      · rfl

/-- A row's key and own columns are read back as they are. -/
theorem entry_of_row {host : Host} {row : SemanticCacheRow} {key : String}
    {entry : SemanticCacheEntry} (read : row.entry host key = .ok entry) :
    entry.key = key ∧ entry.tenant = row.tenant ∧
      entry.nameSpace = row.nameSpace ∧
      entry.normalizedText = row.normalizedText ∧
      entry.taskType = row.taskType ∧ entry.expiresAt = row.expiresAt := by
  obtain ⟨_, -, read⟩ := except_bind_eq_ok_iff.mp read
  obtain ⟨_, -, read⟩ := except_bind_eq_ok_iff.mp read
  obtain ⟨_, -, read⟩ := except_bind_eq_ok_iff.mp read
  obtain ⟨_, -, read⟩ := except_bind_eq_ok_iff.mp read
  obtain ⟨_, -, read⟩ := except_bind_eq_ok_iff.mp read
  obtain ⟨_, -, read⟩ := except_bind_eq_ok_iff.mp read
  cases read
  exact ⟨rfl, rfl, rfl, rfl, rfl, rfl⟩

/-- A scanned entry stands under a key. -/
theorem exists_lookup_of_mem {host : Host} {backend : SemanticBackend}
    {tenant nameSpace taskType : String} {entries : List SemanticCacheEntry}
    (read : backend.iterEntries host tenant nameSpace taskType = .ok entries)
    {entry : SemanticCacheEntry} (member : entry ∈ entries) :
    ∃ key, backend.lookup host key = some (.ok entry) ∧
      entry.tenant = tenant ∧ entry.nameSpace = nameSpace := by
  cases backend with
  | memory stored =>
      cases read
      obtain ⟨present, inside⟩ := List.mem_filter.mp member
      obtain ⟨key, found⟩ := (Dict.mem_values_iff stored entry).mp present
      simp only [Bool.and_eq_true, beq_iff_eq] at inside
      exact ⟨key, by simp [lookup, found], inside.1.1, inside.1.2⟩
  | sqlite rows =>
      obtain ⟨⟨key, row⟩, present, found⟩ := exists_of_mem_mapM read member
      obtain ⟨stored, inside⟩ := List.mem_filter.mp present
      have present := (Dict.mem_entries_iff rows key row).mp stored
      simp only [Bool.and_eq_true, beq_iff_eq] at inside
      obtain ⟨-, tenantSame, nameSpaceSame, -⟩ := entry_of_row found
      refine ⟨key, ?_, tenantSame.trans inside.1.1,
        nameSpaceSame.trans inside.1.2⟩
      simp [lookup, present, found]

end SemanticBackend

/-! ## What one call does -/

section Calls

variable (host : Host)

/-- Rows are lost at most. -/
structure SemanticState.Shrinks (before after : SemanticState) : Prop where
  kind : before.cache.backend.SameKind after.cache.backend
  supply : before.supply.Before after.supply
  lookup : ∀ key found, after.cache.backend.lookup host key = some found →
    before.cache.backend.lookup host key = some found

instance : IsPreorder SemanticState (SemanticState.Shrinks host) where
  refl _ := ⟨.refl _, .refl _, fun _ _ found => found⟩
  trans _ _ _ early late :=
    ⟨early.kind.trans late.kind, early.supply.trans late.supply,
      fun key found present => early.lookup key found
        (late.lookup key found present)⟩

namespace SemanticCache

theorem shrinks_delete (key : String) :
    Within (SemanticState.Shrinks host) (delete key) := by
  apply within_modify
  intro state
  refine ⟨SemanticBackend.sameKind_erase _ _, .refl _, ?_⟩
  intro other found present
  change (state.cache.backend.erase key).lookup host other = _ at present
  rw [SemanticBackend.lookup_erase] at present
  split at present
  · cases present
  · exact present

variable (query : String) (sourceFingerprints : Finset String)
  (threshold now : ℚ)

/-- What a scan may find. -/
structure Candidate (entries : List SemanticCacheEntry) (score : Decimal)
    (entry : SemanticCacheEntry) : Prop where
  member : entry ∈ entries
  live : isExpired entry.expiresAt now = false
  fingerprints : sourceFingerprints = entry.sourceFingerprints
  score_eq : score = semanticSimilarity host query entry.normalizedText
  similar : threshold ≤ score.toRat

theorem ensures_scan (entries all : List SemanticCacheEntry)
    (best : Option (Decimal × SemanticCacheEntry))
    (listed : ∀ entry ∈ entries, entry ∈ all)
    (start : ∀ score entry, best = some (score, entry) →
      Candidate host query sourceFingerprints threshold now all score entry)
    (s : SemanticState) :
    Ensures (scan host query sourceFingerprints threshold now entries best) s
      (fun found later => s.Shrinks host later ∧
        ∀ score entry, found = some (score, entry) →
          Candidate host query sourceFingerprints threshold now all score entry)
      (fun _ _ => False) := by
  induction entries generalizing best s with
  | nil => exact ⟨refl_of (SemanticState.Shrinks host) s, start⟩
  | cons entry rest ih =>
      have later : ∀ other ∈ rest, other ∈ all := fun other member =>
        listed other (List.mem_cons_of_mem _ member)
      have candidate : isExpired entry.expiresAt now = false →
          isCandidate entry sourceFingerprints = true →
          ∀ score other, better host query threshold best entry =
            some (score, other) →
              Candidate host query sourceFingerprints threshold now all score
                other := by
        intro live counts score other chosen
        simp only [isCandidate, Bool.and_eq_true, beq_iff_eq] at counts
        simp only [better] at chosen
        split at chosen
        · rename_i wins
          cases chosen
          exact ⟨listed _ List.mem_cons_self, live, counts.1, rfl, wins.1⟩
        · exact start score other chosen
      unfold scan
      rw [ensures_ite]
      constructor
      · intro due
        have dropped := shrinks_delete host entry.key s
        rw [ensures_bind]
        change Ensures (scan host query sourceFingerprints threshold now rest
          best) (delete entry.key s).2 _ _
        apply (ih best later start _).mono
        · rintro found final ⟨shrinks, chosen⟩
          exact ⟨trans_of (SemanticState.Shrinks host) dropped shrinks, chosen⟩
        · exact fun _ _ impossible => impossible
      · intro live
        rw [ensures_ite]
        constructor
        · intro counts
          exact ih _ later (candidate (by simpa using live) counts) s
        · exact fun _ => ih best later start s

/-- What a hit was found as. -/
structure Found (tenant nameSpace : String) (threshold : ℚ)
    (before : SemanticState) (hit : SemanticCacheHit) : Prop where
  entry : ∃ key entry,
    before.cache.backend.lookup host key = some (.ok entry) ∧
      entry.tenant = tenant ∧ entry.nameSpace = nameSpace ∧
      entry.value = hit.value ∧
      isExpired entry.expiresAt (host.clock before.supply.tick) = false ∧
      sourceFingerprints = entry.sourceFingerprints ∧
      threshold ≤ (semanticSimilarity host query entry.normalizedText).toRat

theorem ensures_lookupHit (tenant nameSpace text : String)
    (given : Option Number) (verifier : Value → VerificationResult)
    (s : SemanticState) :
    Ensures (lookupHit host tenant nameSpace text sourceFingerprints given
        verifier) s
      (fun found later => s.Shrinks host later ∧ ∀ hit, found = some hit →
        (verifier hit.value).accepted = true ∧
          ∃ threshold, unitInterval given = some threshold ∧
            Found host (normalizeSemanticText host text) sourceFingerprints
              tenant nameSpace threshold s hit)
      (fun _ later => s.Shrinks host later) := by
  unfold lookupHit
  split
  · exact refl_of (SemanticState.Shrinks host) s
  · rename_i threshold bounded
    simp only
    rw [ensures_bind]
    have timed : Ensures (focus SemanticState.supplyLens host.now) s
        (fun now later => now = host.clock s.supply.tick ∧
          later = { s with supply := ⟨s.supply.nextId, s.supply.tick + 1⟩ })
        (fun _ _ => False) := ⟨rfl, rfl⟩
    apply timed.mono
    · rintro now _ ⟨rfl, rfl⟩
      let ticked : SemanticState :=
        { s with supply := ⟨s.supply.nextId, s.supply.tick + 1⟩ }
      have moved : s.Shrinks host ticked :=
        ⟨.refl _, ⟨Nat.le_refl _, Nat.le_succ _⟩, fun _ _ found => found⟩
      rw [ensures_bind, ensures_get, ensures_bind, ensures_lift]
      refine ⟨fun entries read => ?_, fun _ _ => moved⟩
      rw [ensures_bind]
      apply (ensures_scan host (normalizeSemanticText host text)
        sourceFingerprints threshold (host.clock s.supply.tick) entries entries
        none (fun _ member => member) (by simp) ticked).mono
      · rintro best scanned ⟨shrinks, candidates⟩
        have lost := trans_of (SemanticState.Shrinks host) moved shrinks
        cases best with
        | none => exact ⟨lost, by simp⟩
        | some chosen =>
            obtain ⟨score, entry⟩ := chosen
            simp only
            rw [ensures_ite]
            constructor
            · intro verified
              refine ⟨lost, ?_⟩
              rintro hit ⟨⟩
              have candidate := candidates score entry rfl
              obtain ⟨key, found, tenantSame, nameSpaceSame⟩ :=
                SemanticBackend.exists_lookup_of_mem read candidate.member
              refine ⟨verified, threshold, bounded, ⟨key, entry, found,
                tenantSame, nameSpaceSame, rfl, candidate.live,
                candidate.fingerprints, ?_⟩⟩
              rw [← candidate.score_eq]
              exact candidate.similar
            · intro refused
              rw [ensures_bind]
              have dropped := shrinks_delete host entry.key scanned
              change SemanticState.Shrinks host s (delete entry.key scanned).2 ∧ _
              exact ⟨trans_of (SemanticState.Shrinks host) lost dropped,
                by simp⟩
      · exact fun _ _ impossible => impossible.elim
    · exact fun _ _ impossible => impossible.elim

/-- The entry that `store` puts at a reading of the clock. -/
def storedEntry (tenant nameSpace text : String) (value : Value)
    (verification : VerificationResult) (ttlSeconds : ℚ) (tick : Nat) :
    SemanticCacheEntry :=
  let normalized := normalizeSemanticText host text
  { key := entryKey tenant nameSpace normalized sourceFingerprints "general"
    tenant, nameSpace, normalizedText := normalized, value
    sourceFingerprints, verification
    createdAt := host.clock tick
    expiresAt := some (host.clock tick + ttlSeconds) }

theorem storedEntry_normalizedText (tenant nameSpace text : String)
    (value : Value) (verification : VerificationResult) (ttlSeconds : ℚ)
    (tick : Nat) :
    (storedEntry host sourceFingerprints tenant nameSpace text value
      verification ttlSeconds tick).normalizedText =
        normalizeSemanticText host text := by
  simp only [storedEntry]

/-- The entry stands under its key, and nothing else changed. -/
structure Wrote (entry : SemanticCacheEntry) (before after : SemanticState) :
    Prop where
  kind : before.cache.backend.SameKind after.cache.backend
  supply : before.supply.Before after.supply
  lookup : ∀ key, after.cache.backend.lookup host key =
    if entry.key = key then some (before.cache.backend.readBack host entry)
    else before.cache.backend.lookup host key

theorem ensures_store (tenant nameSpace text : String) (value : Value)
    (verification : VerificationResult) (ttlSeconds : ℚ) (s : SemanticState) :
    Ensures (store host tenant nameSpace text value sourceFingerprints
        verification ttlSeconds) s
      (fun _ later => s.supply.tick < later.supply.tick ∧
        verification.accepted = true ∧
        Wrote host (storedEntry host sourceFingerprints tenant nameSpace text
          value verification ttlSeconds s.supply.tick) s later)
      (fun _ later => s.Shrinks host later) := by
  unfold store
  rw [ensures_ite]
  constructor
  · exact fun _ => refl_of (SemanticState.Shrinks host) s
  · intro positive
    let entry := storedEntry host sourceFingerprints tenant nameSpace text value
      verification ttlSeconds s.supply.tick
    let ticked : SemanticState :=
      { s with supply := ⟨s.supply.nextId, s.supply.tick + 1⟩ }
    have moved : s.Shrinks host ticked :=
      ⟨.refl _, ⟨Nat.le_refl _, Nat.le_succ _⟩, fun _ _ found => found⟩
    have puts : Ensures (put host entry) ticked
        (fun _ later => verification.accepted = true ∧
          ticked.supply.Before later.supply ∧
          later.cache.backend = s.cache.backend.insert entry)
        (fun _ later => ticked.Shrinks host later) := by
      unfold put
      rw [ensures_ite]
      constructor
      · exact fun _ => refl_of (SemanticState.Shrinks host) ticked
      · intro verified
        rw [ensures_bind]
        have checked : Ensures (focus SemanticState.supplyLens
            (checkExpired host entry.expiresAt)) ticked
            (fun _ later => ticked.Shrinks host later ∧
              later.cache.backend = s.cache.backend)
            (fun _ _ => False) := by
          rw [ensures_focus]
          apply (ensures_checkExpired host entry.expiresAt _).mono
          · rintro expired supply ⟨-, drawn, -⟩
            exact ⟨⟨.refl _, drawn, fun _ _ found => found⟩, rfl⟩
          · exact fun _ _ impossible => impossible
        apply checked.mono
        · rintro expired later ⟨shrinks, same⟩
          rw [ensures_ite]
          refine ⟨fun _ => shrinks, fun _ => ?_⟩
          refine ⟨by simpa [entry, storedEntry] using verified, shrinks.supply,
            ?_⟩
          rw [← same]
          rfl
        · exact fun _ _ impossible => impossible.elim
    have timed : Ensures (focus SemanticState.supplyLens host.now) s
        (fun now later => now = host.clock s.supply.tick ∧ later = ticked)
        (fun _ _ => False) := ⟨rfl, rfl⟩
    rw [ensures_bind]
    apply timed.mono
    · rintro now _ ⟨rfl, rfl⟩
      rw [ensures_bind]
      apply puts.mono
      · rintro _ later ⟨verified, drawn, inserted⟩
        refine ⟨drawn.2, verified, ?_, moved.supply.trans drawn, ?_⟩
        · rw [inserted]
          exact SemanticBackend.sameKind_insert _ _
        · intro key
          rw [inserted, SemanticBackend.lookup_insert]
      · exact fun _ later shrinks =>
          trans_of (SemanticState.Shrinks host) moved shrinks
    · exact fun _ _ impossible => impossible.elim

end SemanticCache

end Calls

end Urp
