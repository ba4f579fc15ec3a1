import Urp.AiRequests
import Urp.Library.ArgMax
import Urp.SemanticRuns

/-!
# Semantic lookups

`lookup_hit` with all its arguments.  A hit is the best of the entries that
may answer, and what a lookup removes is expired, or is the best entry that
its verifier refused.
-/

namespace Urp

open Python Program ArgMax

/-! ## The lookup -/

/-- `_default_value_verifier`. -/
def defaultValueVerifier (host : Host) (value : Value) : VerificationResult :=
  match value with
  | .dict _ =>
      match assistantContent value with
      | none =>
          { accepted := false
            verifierId := "semantic_cache_shape@1"
            reason := "missing_chat_completion_content" }
      | some content => verifyNonEmptyText (host.str content)
  | value => verifyNonEmptyText (host.str value)

/-- The arguments of `lookup_hit`. -/
structure SemanticQuery where
  tenant : String
  nameSpace : String
  text : String
  sourceFingerprints : Finset String
  taskType : String := "general"
  threshold : Option PyFloat := none
  verifier : Option (Value → VerificationResult) := none

namespace SemanticQuery

variable (host : Host) (query : SemanticQuery)

/-- The threshold to apply, if it is a number from zero to one. -/
def resolvedThreshold (cache : SemanticCache) : Option ℚ :=
  unitInterval (match query.threshold with
    | none => some (.finite cache.threshold)
    | some given => given.number?)

/-- The verification of a value by the given verifier. -/
def verify (value : Value) : VerificationResult :=
  (query.verifier.getD (defaultValueVerifier host)) value

end SemanticQuery

namespace SemanticCache

variable (host : Host)

/-- `lookup_hit`. -/
def lookupHitOf (query : SemanticQuery) :
    Program SemanticState PyException (Option SemanticCacheHit) := do
  let state ← Program.get
  match query.resolvedThreshold state.cache with
  | none =>
      Program.raise (.valueError
        "semantic cache threshold must be between 0 and 1")
  | some threshold => do
      let text := normalizeSemanticText host query.text
      let now ← Program.focus SemanticState.supplyLens host.now
      let entries ← Program.lift (state.cache.backend.iterEntries host
        query.tenant query.nameSpace query.taskType)
      match ← scan host text query.sourceFingerprints threshold now entries
          none with
      | none => return none
      | some (score, entry) =>
          let verification := query.verify host entry.value
          if verification.accepted then
            return some {
              value := entry.value, key := entry.key, score, verification
              createdAt := entry.createdAt }
          else do
            delete entry.key
            return none

/-- The gateway's lookups are lookups for tasks of the type `general`. -/
theorem lookupHit_eq (tenant nameSpace text : String)
    (sourceFingerprints : Finset String) (given : PyFloat)
    (verifier : Value → VerificationResult) :
    lookupHit host tenant nameSpace text sourceFingerprints given.number?
        verifier =
      lookupHitOf host {
        tenant, nameSpace, text, sourceFingerprints, threshold := some given
        verifier := some verifier } := by
  funext state
  unfold lookupHit lookupHitOf
  rw [get_bind]
  simp only [SemanticQuery.resolvedThreshold]
  cases unitInterval given.number? <;> rfl

end SemanticCache

/-! ## Stored entries -/

namespace SemanticBackend

variable {host : Host} {backend : SemanticBackend}

/-- Each entry stands under its own key. -/
def Keyed (host : Host) (backend : SemanticBackend) : Prop :=
  ∀ key entry, backend.lookup host key = some (.ok entry) → entry.key = key

theorem keyed_empty : (memory ∅).Keyed host :=
  fun _ _ found => (nomatch found)

theorem keyed_sqlite (rows : Dict String SemanticCacheRow) :
    (sqlite rows).Keyed host := by
  intro key entry found
  obtain ⟨row, -, read⟩ := Option.map_eq_some_iff.mp found
  exact (entry_of_row read).1

theorem keyed_insert (keyed : backend.Keyed host) (entry : SemanticCacheEntry) :
    (backend.insert entry).Keyed host := by
  cases backend with
  | sqlite rows => exact keyed_sqlite _
  | memory entries =>
      intro key other found
      rw [lookup_insert] at found
      split at found
      · rename_i same
        cases found
        exact same
      · exact keyed key other found

/-- A scope's entries are the readable ones that stand in it. -/
theorem mem_iterEntries_iff (keyed : backend.Keyed host)
    {tenant nameSpace taskType : String} {entries : List SemanticCacheEntry}
    (read : backend.iterEntries host tenant nameSpace taskType = .ok entries)
    (entry : SemanticCacheEntry) :
    entry ∈ entries ↔ backend.lookup host entry.key = some (.ok entry) ∧
      entry.tenant = tenant ∧ entry.nameSpace = nameSpace ∧
        entry.taskType = taskType := by
  cases backend with
  | memory stored =>
      cases read
      simp only [List.mem_filter, Bool.and_eq_true, beq_iff_eq, and_assoc]
      apply and_congr_left'
      rw [Dict.mem_values_iff]
      constructor
      · rintro ⟨key, found⟩
        have same : entry.key = key := keyed key entry (by simp [lookup, found])
        simp [lookup, same, found]
      · intro found
        obtain ⟨other, found, same⟩ := Option.map_eq_some_iff.mp found
        cases same
        exact ⟨_, found⟩
  | sqlite rows =>
      constructor
      · intro member
        obtain ⟨⟨key, row⟩, present, found⟩ := exists_of_mem_mapM read member
        obtain ⟨stored, inside⟩ := List.mem_filter.mp present
        have held := (Dict.mem_entries_iff rows key row).mp stored
        obtain ⟨rfl, tenantSame, nameSpaceSame, -, taskSame, -⟩ :=
          entry_of_row found
        simp only [Bool.and_eq_true, beq_iff_eq] at inside
        refine ⟨?_, tenantSame.trans inside.1.1, nameSpaceSame.trans inside.1.2,
          taskSame.trans inside.2⟩
        simp [lookup, held, found]
      · rintro ⟨found, tenantSame, nameSpaceSame, taskSame⟩
        obtain ⟨row, held, found⟩ := Option.map_eq_some_iff.mp found
        obtain ⟨-, rowTenant, rowNameSpace, -, rowTask, -⟩ :=
          entry_of_row found
        have inside : (entry.key, row) ∈ rows.entries.filter fun item =>
            item.2.tenant == tenant && item.2.nameSpace == nameSpace &&
              item.2.taskType == taskType := by
          apply List.mem_filter.mpr
          refine ⟨(Dict.mem_entries_iff rows _ _).mpr held, ?_⟩
          simp [← rowTenant, ← rowNameSpace, ← rowTask, tenantSame,
            nameSpaceSame, taskSame]
        obtain ⟨result, present, same⟩ := exists_mem_of_mapM read inside
        rw [found] at same
        cases same
        exact present

end SemanticBackend

/-! ## The scan -/

section Lookup

variable {host : Host} {query : SemanticQuery}

namespace SemanticQuery

variable (host query)

/-- The similarity of an entry to the query. -/
def similarity (entry : SemanticCacheEntry) : Decimal :=
  semanticSimilarity host (normalizeSemanticText host query.text)
    entry.normalizedText

def score (entry : SemanticCacheEntry) : ℚ := (query.similarity host entry).toRat

/-- The entry of the scope may answer. -/
def mayAnswer (now : ℚ) (entry : SemanticCacheEntry) : Bool :=
  !isExpired entry.expiresAt now &&
    SemanticCache.isCandidate entry query.sourceFingerprints

end SemanticQuery

def SemanticCacheEntry.isDue (now : ℚ) (entry : SemanticCacheEntry) : Bool :=
  isExpired entry.expiresAt now

/-- Erase the entries' keys. -/
def eraseAll (backend : SemanticBackend) (entries : List SemanticCacheEntry) :
    SemanticBackend :=
  entries.foldl (fun backend entry => backend.erase entry.key) backend

theorem better_eq (threshold : ℚ) (best : Option SemanticCacheEntry)
    (entry : SemanticCacheEntry) :
    SemanticCache.better host (normalizeSemanticText host query.text) threshold
        (best.map fun other => (query.similarity host other, other)) entry =
      (keepBetter (query.score host) threshold best entry).map
        fun other => (query.similarity host other, other) := by
  unfold SemanticCache.better keepBetter
  rw [apply_ite (Option.map _)]
  cases best <;> rfl

/-- The scan erases what is expired and keeps the best of the rest. -/
theorem scan_eq (threshold now : ℚ) (entries : List SemanticCacheEntry)
    (best : Option SemanticCacheEntry) (state : SemanticState) :
    SemanticCache.scan host (normalizeSemanticText host query.text)
        query.sourceFingerprints threshold now entries
        (best.map fun other => (query.similarity host other, other)) state =
      (.ok (((entries.filter (query.mayAnswer now)).foldl
          (keepBetter (query.score host) threshold) best).map
            fun other => (query.similarity host other, other)),
        state.update fun backend => eraseAll backend
          (entries.filter (SemanticCacheEntry.isDue now))) := by
  induction entries generalizing best state with
  | nil => rfl
  | cons entry rest ih =>
      unfold SemanticCache.scan
      by_cases expired : isExpired entry.expiresAt now = true
      · have passes : query.mayAnswer now entry = false := by
          simp [SemanticQuery.mayAnswer, expired]
        rw [if_pos expired, List.filter_cons_of_neg (by simp [passes]),
          @List.filter_cons_of_pos _ (SemanticCacheEntry.isDue now) _ _ expired]
        exact ih best _
      · have live := Bool.eq_false_iff.mpr expired
        rw [if_neg expired,
          @List.filter_cons_of_neg _ (SemanticCacheEntry.isDue now) _ _ expired]
        by_cases counts :
            SemanticCache.isCandidate entry query.sourceFingerprints = true
        · have answers : query.mayAnswer now entry = true := by
            simp [SemanticQuery.mayAnswer, live, counts]
          rw [if_pos counts, List.filter_cons_of_pos answers, better_eq]
          exact ih _ state
        · have silent : ¬ query.mayAnswer now entry = true := by
            simp [SemanticQuery.mayAnswer, live, counts]
          rw [if_neg counts, List.filter_cons_of_neg silent]
          exact ih best state

/-- The answer to a query from the best entry. -/
def SemanticQuery.hit (host : Host) (query : SemanticQuery)
    (entry : SemanticCacheEntry) : SemanticCacheHit where
  value := entry.value
  key := entry.key
  score := query.similarity host entry
  verification := query.verify host entry.value
  createdAt := entry.createdAt

/-- The best entry of a scope that may answer. -/
def SemanticQuery.bestOf (host : Host) (query : SemanticQuery)
    (threshold now : ℚ) (entries : List SemanticCacheEntry) :
    Option SemanticCacheEntry :=
  (entries.filter (query.mayAnswer now)).foldl
    (keepBetter (query.score host) threshold) none

/-- The outcomes of a lookup, by its best entry. -/
inductive Answered (host : Host) (query : SemanticQuery)
    (before after : SemanticBackend) (now : ℚ)
    (entries : List SemanticCacheEntry) :
    Option SemanticCacheEntry → Option SemanticCacheHit → Prop where
  | missed
      (removed : after =
        eraseAll before (entries.filter (SemanticCacheEntry.isDue now))) :
      Answered host query before after now entries none none
  | hit {entry : SemanticCacheEntry}
      (accepted : (query.verify host entry.value).accepted = true)
      (removed : after =
        eraseAll before (entries.filter (SemanticCacheEntry.isDue now))) :
      Answered host query before after now entries (some entry)
        (some (query.hit host entry))
  | refused {entry : SemanticCacheEntry}
      (rejected : (query.verify host entry.value).accepted = false)
      (removed : after = eraseAll before
        (entries.filter (SemanticCacheEntry.isDue now) ++ [entry])) :
      Answered host query before after now entries (some entry) none

theorem ensures_lookupHitOf (state : SemanticState) :
    let now := host.clock state.supply.tick
    Ensures (SemanticCache.lookupHitOf host query) state
      (fun found later => ∃ threshold entries,
        query.resolvedThreshold state.cache = some threshold ∧
          state.cache.backend.iterEntries host query.tenant query.nameSpace
            query.taskType = .ok entries ∧
          Answered host query state.cache.backend later.cache.backend now
            entries (query.bestOf host threshold now entries) found)
      (fun _ later => later.cache.backend = state.cache.backend) := by
  intro now
  unfold SemanticCache.lookupHitOf
  rw [ensures_bind, ensures_get]
  cases bounded : query.resolvedThreshold state.cache with
  | none => exact rfl
  | some threshold =>
      simp only
      rw [ensures_bind]
      let ticked : SemanticState :=
        { state with supply := ⟨state.supply.nextId, state.supply.tick + 1⟩ }
      have timed : Ensures (focus SemanticState.supplyLens host.now) state
          (fun reading later => reading = now ∧ later = ticked)
          (fun _ _ => False) := ⟨rfl, rfl⟩
      apply timed.mono
      · rintro _ _ ⟨rfl, rfl⟩
        rw [ensures_bind, ensures_lift]
        refine ⟨fun entries read => ?_, fun _ _ => rfl⟩
        have scanned := @scan_eq host query threshold now entries none ticked
        change SemanticCache.scan host _ _ _ _ _ none _ =
          (.ok ((query.bestOf host threshold now entries).map _), _) at scanned
        rw [ensures_bind, ensures_of_run scanned]
        cases chosen : query.bestOf host threshold now entries with
        | none =>
            refine ⟨threshold, entries, rfl, read, ?_⟩
            rw [chosen]
            exact .missed rfl
        | some entry =>
            simp only [Option.map_some]
            rw [ensures_ite]
            constructor
            · intro accepted
              refine ⟨threshold, entries, rfl, read, ?_⟩
              rw [chosen]
              exact .hit accepted rfl
            · intro rejected
              refine ⟨threshold, entries, rfl, read, ?_⟩
              rw [chosen]
              refine .refused (Bool.eq_false_iff.mpr rejected) ?_
              rw [eraseAll, List.foldl_append]
              rfl
      · exact fun _ _ impossible => impossible.elim

/-! ## Sound and minimal -/

/-- The entry stands in the scope and may answer. -/
structure SemanticQuery.Eligible (query : SemanticQuery) (now : ℚ)
    (entry : SemanticCacheEntry) : Prop where
  tenant : entry.tenant = query.tenant
  nameSpace : entry.nameSpace = query.nameSpace
  taskType : entry.taskType = query.taskType
  live : ∀ expiry, entry.expiresAt = some expiry → now < expiry
  fingerprints : entry.sourceFingerprints = query.sourceFingerprints
  accepted : entry.verification.accepted = true

/-- The entry stands in the scope. -/
def SemanticQuery.InScope (query : SemanticQuery) (entry : SemanticCacheEntry) :
    Prop :=
  entry.tenant = query.tenant ∧ entry.nameSpace = query.nameSpace ∧
    entry.taskType = query.taskType

/-- The stored entry is the best that may answer. -/
structure SemanticQuery.Best (host : Host) (query : SemanticQuery)
    (cache : SemanticCache) (now : ℚ) (entry : SemanticCacheEntry) : Prop where
  stored : cache.backend.lookup host entry.key = some (.ok entry)
  eligible : query.Eligible now entry
  reached : ∃ threshold, query.resolvedThreshold cache = some threshold ∧
    threshold ≤ query.score host entry
  highest : ∀ key other, cache.backend.lookup host key = some (.ok other) →
    query.Eligible now other → query.score host other ≤ query.score host entry

/-- The hit is the best entry, which the verifier accepts. -/
def SemanticQuery.Sound (host : Host) (query : SemanticQuery)
    (cache : SemanticCache) (now : ℚ) (hit : SemanticCacheHit) : Prop :=
  ∃ entry, query.Best host cache now entry ∧ hit = query.hit host entry ∧
    (query.verify host hit.value).accepted = true

/-- What the lookup removes: expired entries of the scope, and at most one
other, the best one, whose value the verifier refused. -/
structure SemanticQuery.Minimal (host : Host) (query : SemanticQuery)
    (cache : SemanticCache) (now : ℚ) (later : SemanticBackend)
    (result : Except PyException (Option SemanticCacheHit))
    (removed : List SemanticCacheEntry) : Prop where
  erased : later = eraseAll cache.backend removed
  each : ∀ entry ∈ removed,
    cache.backend.lookup host entry.key = some (.ok entry) ∧
      query.InScope entry ∧
      ((∃ expiry, entry.expiresAt = some expiry ∧ expiry ≤ now) ∨
        query.Best host cache now entry ∧
          (query.verify host entry.value).accepted = false ∧
          result = .ok none)
  single : (removed.filter fun entry => !entry.isDue now).length ≤ 1
  others : ∀ key found, cache.backend.lookup host key = some found →
    (∀ entry, found = .ok entry → ¬ query.InScope entry) →
      later.lookup host key = some found

theorem eligible_iff {now : ℚ} {entry : SemanticCacheEntry} :
    query.Eligible now entry ↔
      query.InScope entry ∧ query.mayAnswer now entry = true := by
  simp only [SemanticQuery.mayAnswer, SemanticCache.isCandidate,
    Bool.and_eq_true, Bool.not_eq_true', isExpired_eq_false_iff, beq_iff_eq]
  constructor
  · intro eligible
    exact ⟨⟨eligible.tenant, eligible.nameSpace, eligible.taskType⟩,
      eligible.live, eligible.fingerprints.symm, eligible.accepted⟩
  · rintro ⟨⟨tenant, nameSpace, taskType⟩, live, fingerprints, accepted⟩
    exact ⟨tenant, nameSpace, taskType, live, fingerprints.symm, accepted⟩

theorem lookup_eraseAll (backend : SemanticBackend)
    (removed : List SemanticCacheEntry) {key : String}
    (kept : ∀ entry ∈ removed, entry.key ≠ key) :
    (eraseAll backend removed).lookup host key = backend.lookup host key := by
  induction removed generalizing backend with
  | nil => rfl
  | cons entry rest ih =>
      have other := kept entry List.mem_cons_self
      change (eraseAll (backend.erase entry.key) rest).lookup host key = _
      rw [ih _ fun later member => kept later (List.mem_cons_of_mem _ member),
        SemanticBackend.lookup_erase, if_neg other]

theorem best_of_bestOf {cache : SemanticCache} {threshold now : ℚ}
    {entries : List SemanticCacheEntry} {entry : SemanticCacheEntry}
    (keyed : cache.backend.Keyed host)
    (bounded : query.resolvedThreshold cache = some threshold)
    (read : cache.backend.iterEntries host query.tenant query.nameSpace
      query.taskType = .ok entries)
    (chosen : query.bestOf host threshold now entries = some entry) :
    query.Best host cache now entry := by
  have listed := SemanticBackend.mem_iterEntries_iff keyed read
  have nothing : IsBest (query.score host) threshold [] none :=
    fun other member => nomatch member
  have best := isBest_foldl (entries.filter (query.mayAnswer now)) nothing
  change IsBest _ _ (entries.filter (query.mayAnswer now))
    (query.bestOf host threshold now entries) at best
  rw [chosen] at best
  obtain ⟨member, reached, highest⟩ := best
  obtain ⟨member, answers⟩ := List.mem_filter.mp member
  obtain ⟨stored, scope⟩ := (listed entry).mp member
  refine ⟨stored, eligible_iff.mpr ⟨scope, answers⟩,
    ⟨threshold, bounded, reached⟩, ?_⟩
  intro key other found eligible
  obtain ⟨inside, passes⟩ := eligible_iff.mp eligible
  have same : other.key = key := keyed key other found
  apply highest other
  apply List.mem_filter.mpr
  exact ⟨(listed other).mpr ⟨same ▸ found, inside⟩, passes⟩

/-- The removed entries are known when a lookup is answered. -/
theorem exists_removed {before after : SemanticBackend} {now : ℚ}
    {entries : List SemanticCacheEntry} {best : Option SemanticCacheEntry}
    {found : Option SemanticCacheHit}
    (answered : Answered host query before after now entries best found) :
    ∃ refused : List SemanticCacheEntry, refused.length ≤ 1 ∧
      after = eraseAll before
        (entries.filter (SemanticCacheEntry.isDue now) ++ refused) ∧
      ∀ entry ∈ refused, best = some entry ∧ found = none ∧
        (query.verify host entry.value).accepted = false := by
  cases answered with
  | missed removed | hit _ removed =>
      refine ⟨[], Nat.zero_le 1, ?_, fun entry member => nomatch member⟩
      rw [List.append_nil]
      exact removed
  | @refused entry rejected removed =>
      refine ⟨[entry], Nat.le_refl 1, removed, ?_⟩
      intro other member
      have same := List.mem_singleton.mp member
      subst same
      exact ⟨rfl, rfl, rejected⟩

theorem semanticLookup_sound_minimal (query : SemanticQuery)
    {state later : SemanticState}
    {result : Except PyException (Option SemanticCacheHit)}
    (keyed : state.cache.backend.Keyed host)
    (run : SemanticCache.lookupHitOf host query state = (result, later)) :
    (∀ hit, result = .ok (some hit) →
        query.Sound host state.cache (host.clock state.supply.tick) hit) ∧
      ∃ removed, query.Minimal host state.cache
        (host.clock state.supply.tick) later.cache.backend result removed := by
  let now := host.clock state.supply.tick
  cases result with
  | error error =>
      have same := (ensures_lookupHitOf state).of_error run
      refine ⟨fun _ impossible => (nomatch impossible), [], ?_⟩
      constructor
      · exact same
      · exact fun entry member => nomatch member
      · exact Nat.zero_le 1
      · intro key found present _
        rw [same]
        exact present
  | ok found =>
      obtain ⟨threshold, entries, bounded, read, answered⟩ :=
        (ensures_lookupHitOf state).of_ok run
      have listed := SemanticBackend.mem_iterEntries_iff keyed read
      constructor
      · rintro hit ⟨⟩
        generalize chosen : query.bestOf host threshold now entries = best
          at answered
        cases answered with
        | hit accepted _ =>
            exact ⟨_, best_of_bestOf keyed bounded read chosen, rfl, accepted⟩
      · obtain ⟨refused, single, erased, each⟩ := exists_removed answered
        have due : ∀ entry ∈ entries.filter (SemanticCacheEntry.isDue now),
            entry ∈ entries ∧ ∃ expiry, entry.expiresAt = some expiry ∧
              expiry ≤ now := by
          intro entry member
          obtain ⟨member, expired⟩ := List.mem_filter.mp member
          obtain ⟨expiry, dated, past⟩ := (Option.any_eq_true _ _).mp expired
          exact ⟨member, expiry, dated, of_decide_eq_true past⟩
        have refusedBest : ∀ entry ∈ refused,
            query.Best host state.cache now entry := by
          intro entry member
          exact best_of_bestOf keyed bounded read (each entry member).1
        have split : ∀ {entry}, entry ∈
            entries.filter (SemanticCacheEntry.isDue now) ++ refused →
              entry ∈ entries.filter (SemanticCacheEntry.isDue now) ∨
                entry ∈ refused := List.mem_append.mp
        have inside : ∀ entry ∈
            entries.filter (SemanticCacheEntry.isDue now) ++ refused,
            state.cache.backend.lookup host entry.key = some (.ok entry) ∧
              query.InScope entry := by
          intro entry member
          rcases split member with member | member
          · exact (listed entry).mp (due entry member).1
          · have best := refusedBest entry member
            exact ⟨best.stored, (eligible_iff.mp best.eligible).1⟩
        refine ⟨_, erased, ?_, ?_, ?_⟩
        · intro entry member
          refine ⟨(inside entry member).1, (inside entry member).2, ?_⟩
          rcases split member with member | member
          · exact .inl (due entry member).2
          · obtain ⟨-, missed, rejected⟩ := each entry member
            exact .inr ⟨refusedBest entry member, rejected, by rw [missed]⟩
        · have none : (entries.filter (SemanticCacheEntry.isDue now)).filter
              (fun entry => !entry.isDue now) = [] := by
            rw [List.filter_filter, List.filter_eq_nil_iff]
            intro entry _
            simp
          rw [List.filter_append, none, List.nil_append]
          exact le_trans (List.length_filter_le _ _) single
        · intro key found present outside
          rw [erased, lookup_eraseAll]
          · exact present
          · intro entry member same
            obtain ⟨stored, scope⟩ := inside entry member
            rw [same, present] at stored
            exact outside entry (Option.some.inj stored) scope

end Lookup

/-- An entry that expires when the clock shows 5. -/
def sampleSemanticEntry : SemanticCacheEntry where
  key := "k"
  tenant := "acme"
  nameSpace := "default"
  normalizedText := "greet me"
  value := .str "hello"
  sourceFingerprints := ∅
  verification := { accepted := true, verifierId := "v", reason := "" }
  createdAt := 0
  expiresAt := some 5

def sampleSemanticState : SemanticState :=
  { cache := { backend := (SemanticBackend.memory ∅).insert sampleSemanticEntry } }

def sampleSemanticQuery : SemanticQuery where
  tenant := "acme"
  nameSpace := "default"
  text := "greet me"
  sourceFingerprints := ∅

theorem semanticLookup_sound_minimal_sample :
    ∃ hit, (SemanticCache.lookupHitOf Host.counting sampleSemanticQuery
        sampleSemanticState).1 = .ok (some hit) ∧
      sampleSemanticQuery.Sound Host.counting sampleSemanticState.cache 0 hit := by
  have keyed : sampleSemanticState.cache.backend.Keyed Host.counting :=
    SemanticBackend.keyed_insert SemanticBackend.keyed_empty sampleSemanticEntry
  rcases run : SemanticCache.lookupHitOf Host.counting sampleSemanticQuery
    sampleSemanticState with ⟨result, later⟩
  have answered : Passes Option.isSome
      (SemanticCache.lookupHitOf Host.counting sampleSemanticQuery
        sampleSemanticState).1 = true := by
    decide +kernel
  rw [run] at answered
  obtain ⟨found, rfl, some⟩ := exists_of_passes answered
  obtain ⟨hit, rfl⟩ := Option.isSome_iff_exists.mp some
  exact ⟨hit, rfl,
    (semanticLookup_sound_minimal sampleSemanticQuery keyed run).1 hit rfl⟩

end Urp
