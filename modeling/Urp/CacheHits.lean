import Mathlib.Data.Nat.Cast.Order.Basic
import Mathlib.Data.Nat.Cast.Order.Ring
import Mathlib.Order.Monotone.Defs
import Mathlib.Tactic.NormNum
import Urp.CacheRuns

/-!
# Exact-cache hits

A lookup in an in-memory cache returns a value exactly when the last put
under its key that succeeded stored it in the lookup's scope, no deletion
followed, and its expiry is still to come.
-/

namespace Urp

open Python Program

namespace CacheRun

/-- The call put this entry and succeeded. -/
def Stored (visit : CacheVisit) (entry : CacheEntry) : Prop :=
  visit.input = .put entry ∧ visit.output = .ok .done

/-- After the call, what the key held before is gone by request. -/
def Replaces (visit : CacheVisit) (key : String) : Prop :=
  visit.input = .delete key ∨ ∃ entry, entry.key = key ∧ Stored visit entry

/-- The most recent successful put under the entry's key put this entry, and
the key was not deleted since. -/
def Standing (history : List CacheVisit) (entry : CacheEntry) : Prop :=
  ∃ past visit since, history = past ++ visit :: since ∧ Stored visit entry ∧
    ∀ later ∈ since, ¬ Replaces later entry.key

theorem standing_of_stored {history : List CacheVisit} {visit : CacheVisit}
    {entry : CacheEntry} (stored : Stored visit entry) :
    Standing (history ++ [visit]) entry :=
  ⟨history, visit, [], rfl, stored, by simp⟩

theorem Standing.snoc {history : List CacheVisit} {entry : CacheEntry}
    (standing : Standing history entry) {visit : CacheVisit}
    (kept : ¬ Replaces visit entry.key) : Standing (history ++ [visit]) entry := by
  obtain ⟨past, put, since, rfl, stored, quiet⟩ := standing
  refine ⟨past, put, since ++ [visit], by simp, stored, ?_⟩
  rw [List.forall_mem_append, List.forall_mem_singleton]
  exact ⟨quiet, kept⟩

/-- An entry that stands after a call was put by it or stood before. -/
theorem Standing.of_snoc {history : List CacheVisit} {entry : CacheEntry}
    {visit : CacheVisit} (standing : Standing (history ++ [visit]) entry) :
    Stored visit entry ∨
      (Standing history entry ∧ ¬ Replaces visit entry.key) := by
  obtain ⟨past, put, since, split, stored, quiet⟩ := standing
  rcases List.eq_nil_or_concat since with rfl | ⟨front, last, rfl⟩
  · have same := List.append_inj_right' split rfl
    rw [List.singleton_inj.mp same]
    exact .inl stored
  · rw [List.concat_eq_append, ← List.cons_append, ← List.append_assoc] at split
    have heads := List.append_inj_left' split rfl
    have lasts := List.singleton_inj.mp (List.append_inj_right' split rfl)
    refine .inr ⟨⟨past, put, front, heads, stored, ?_⟩, ?_⟩
    · intro later member
      exact quiet later (by simp [member])
    · rw [lasts]
      exact quiet last (by simp)

section Invariant

variable (host : Host)

/-- The cache holds entries that stand, and every entry that stands unless
its expiry has come. -/
structure Tracks (history : List CacheVisit) (s : CacheState) : Prop where
  memory : ∃ entries, s.backend = .memory entries
  found : ∀ key entry, s.backend.lookup host key = some (.ok entry) →
    entry.key = key ∧ entry.verifierPassed = true ∧ Standing history entry
  kept : ∀ entry, Standing history entry →
    s.backend.lookup host entry.key = some (.ok entry) ∨
      ∃ tick < s.supply.tick,
        isExpired entry.expiresAt (host.clock tick) = true

variable {host} {history : List CacheVisit} {s : CacheState}

theorem tracks_start (supply : Supply) :
    Tracks host [] ⟨.memory ∅, supply⟩ := by
  constructor
  · exact ⟨∅, rfl⟩
  · intro key entry found
    simp [CacheBackend.lookup] at found
  · rintro entry ⟨past, visit, since, split, -, -⟩
    simp at split

/-- A call that stores nothing and drops an entry only by request or once it
has expired. -/
theorem Tracks.snoc_of_drops (tracks : Tracks host history s)
    {visit : CacheVisit} (unstored : ∀ entry, ¬ Stored visit entry)
    {later : CacheState} (kind : s.backend.SameKind later.backend)
    (drawn : s.supply.Before later.supply)
    (drops : ∀ key,
      (later.backend.lookup host key = s.backend.lookup host key ∧
        ¬ Replaces visit key) ∨
      (later.backend.lookup host key = none ∧ (¬ Replaces visit key →
        ∀ entry, s.backend.lookup host key = some (.ok entry) →
          ∃ tick < later.supply.tick,
            isExpired entry.expiresAt (host.clock tick) = true))) :
    Tracks host (history ++ [visit]) later := by
  constructor
  · exact kind.memory tracks.memory
  · intro key entry present
    rcases drops key with ⟨same, quiet⟩ | ⟨gone, -⟩
    · rw [same] at present
      obtain ⟨named, passed, standing⟩ := tracks.found key entry present
      exact ⟨named, passed, standing.snoc (named ▸ quiet)⟩
    · rw [gone] at present
      cases present
  · intro entry standing
    rcases standing.of_snoc with stored | ⟨stood, quiet⟩
    · exact (unstored entry stored).elim
    · rcases tracks.kept entry stood with present | ⟨tick, past, due⟩
      · rcases drops entry.key with ⟨same, -⟩ | ⟨gone, expired⟩
        · rw [same]
          exact .inl present
        · exact .inr (expired quiet entry present)
      · exact .inr ⟨tick, Nat.lt_of_lt_of_le past drawn.2, due⟩

/-- A call that leaves the entries alone. -/
theorem Tracks.snoc_of_same (tracks : Tracks host history s)
    {visit : CacheVisit} (unstored : ∀ entry, ¬ Stored visit entry)
    (undeleted : ∀ key, visit.input ≠ .delete key) {later : CacheState}
    (same : later.backend = s.backend) (drawn : s.supply.Before later.supply) :
    Tracks host (history ++ [visit]) later := by
  apply tracks.snoc_of_drops unstored
  · rw [same]
    exact .refl _
  · exact drawn
  · intro key
    refine .inl ⟨by rw [same], ?_⟩
    rintro (deleted | ⟨entry, -, stored⟩)
    · exact undeleted key deleted
    · exact unstored entry stored

/-- A put that succeeds. -/
theorem Tracks.snoc_of_stores (tracks : Tracks host history s)
    {visit : CacheVisit} {entry : CacheEntry} (stored : Stored visit entry)
    (passed : entry.verifierPassed = true) {later : CacheState}
    (wrote : URPCache.Wrote host entry s later) :
    Tracks host (history ++ [visit]) later := by
  obtain ⟨entries, memory⟩ := tracks.memory
  have readBack : s.backend.readBack host entry = .ok entry := by
    rw [memory]
    rfl
  have onlyEntry : ∀ key, Replaces visit key → key = entry.key := by
    rintro key (deleted | ⟨other, rfl, input, -⟩)
    · rw [stored.1] at deleted
      cases deleted
    · rw [stored.1] at input
      cases input
      rfl
  have lookup := wrote.lookup
  rw [readBack] at lookup
  constructor
  · exact wrote.kind.memory tracks.memory
  · intro key found present
    rw [lookup key] at present
    split at present
    · cases present
      rename_i same
      exact ⟨same, passed, standing_of_stored stored⟩
    · rename_i different
      obtain ⟨named, foundPassed, standing⟩ := tracks.found key found present
      refine ⟨named, foundPassed, standing.snoc fun replaced => different ?_⟩
      rw [← onlyEntry _ replaced, named]
  · intro found standing
    rw [lookup found.key]
    rcases standing.of_snoc with storedFound | ⟨stood, kept⟩
    · have same : CacheCall.put found = .put entry :=
        storedFound.1.symm.trans stored.1
      cases same
      exact .inl (if_pos rfl)
    · have different : ¬ entry.key = found.key := by
        intro same
        exact kept (.inr ⟨entry, same, stored⟩)
      rw [if_neg different]
      rcases tracks.kept found stood with present | ⟨tick, past, due⟩
      · exact .inl present
      · exact .inr ⟨tick, Nat.lt_of_lt_of_le past wrote.drawn.2, due⟩

/-- What every call keeps. -/
theorem Tracks.step (tracks : Tracks host history s) (call : CacheCall) :
    Tracks host (history ++ [Run.visit (cacheStep host) s call])
      (cacheStep host s call).2 := by
  cases call with
  | put entry =>
      have stepped := cacheStep_put host s entry
      have spec := URPCache.ensures_put host entry s
      cases run : URPCache.put host entry s with
      | mk result later =>
          rw [run] at stepped
          cases result with
          | ok value =>
              obtain ⟨accepts, wrote⟩ := spec.of_ok run
              have stored : Stored (Run.visit (cacheStep host) s (.put entry))
                  entry := ⟨rfl, by simp only [Run.visit, stepped]; rfl⟩
              exact tracks.snoc_of_stores stored accepts.passed (by rwa [stepped])
          | error error =>
              obtain ⟨-, same, drawn⟩ := spec.of_error run
              have unstored : ∀ other, ¬ Stored
                  (Run.visit (cacheStep host) s (.put entry)) other := by
                rintro other ⟨-, output⟩
                simp only [Run.visit, stepped] at output
                cases output
              rw [stepped]
              refine tracks.snoc_of_same unstored ?_ same drawn
              intro key deleted
              cases deleted
  | get key tenant nameSpace sourceFingerprints =>
      have unstored : ∀ entry, ¬ Stored (Run.visit (cacheStep host) s
          (.get key tenant nameSpace sourceFingerprints)) entry := by
        rintro entry ⟨input, -⟩
        cases input
      have undeleted : ∀ other, CacheCall.get key tenant nameSpace
          sourceFingerprints ≠ .delete other := by
        intro other deleted
        cases deleted
      have got := URPCache.get_got host key tenant nameSpace sourceFingerprints s
      rw [cacheStep_get]
      revert got
      generalize (URPCache.get host key tenant nameSpace sourceFingerprints s).1
        = result
      generalize (URPCache.get host key tenant nameSpace sourceFingerprints s).2
        = later
      intro got
      cases got with
      | absent | unreadable | outOfScope =>
          exact tracks.snoc_of_same unstored undeleted rfl (.refl _)
      | hit found inside live same drawn =>
          exact tracks.snoc_of_same unstored undeleted same drawn
      | expired found inside due same moved drawn =>
          apply tracks.snoc_of_drops unstored
          · rw [same]
            exact CacheBackend.sameKind_erase _ _
          · exact drawn
          · intro other
            simp only [CacheBackend.lookup_erase, same]
            split
            · rename_i hit
              refine .inr ⟨rfl, fun _ entry present => ⟨_, moved, ?_⟩⟩
              rw [← hit, found] at present
              cases present
              exact due
            · refine .inl ⟨rfl, ?_⟩
              rintro (deleted | ⟨entry, -, stored⟩)
              · cases deleted
              · exact unstored entry stored
  | delete key =>
      have unstored : ∀ entry, ¬ Stored
          (Run.visit (cacheStep host) s (.delete key)) entry := by
        rintro entry ⟨input, -⟩
        cases input
      apply tracks.snoc_of_drops unstored
      · exact CacheBackend.sameKind_erase _ _
      · exact .refl _
      · intro other
        change ((s.backend.erase key).lookup host other = _ ∧ _) ∨
          ((s.backend.erase key).lookup host other = none ∧ _)
        rw [CacheBackend.lookup_erase]
        split
        · rename_i same
          rw [← same]
          exact .inr ⟨rfl, fun kept => (kept (.inl rfl)).elim⟩
        · rename_i different
          refine .inl ⟨rfl, ?_⟩
          rintro (deleted | ⟨entry, -, stored⟩)
          · cases deleted
            exact different rfl
          · exact unstored entry stored
  | purgeExpired =>
      have unstored : ∀ entry, ¬ Stored
          (Run.visit (cacheStep host) s .purgeExpired) entry := by
        rintro entry ⟨input, -⟩
        cases input
      obtain ⟨entries, memory⟩ := tracks.memory
      obtain ⟨backend, supply⟩ := s
      cases memory
      apply tracks.snoc_of_drops unstored
      · trivial
      · exact ⟨Nat.le_refl _, Nat.le_succ _⟩
      · intro key
        have quiet : ¬ Replaces
            (Run.visit (cacheStep host) ⟨.memory entries, supply⟩ .purgeExpired)
            key := by
          rintro (deleted | ⟨entry, -, stored⟩)
          · cases deleted
          · exact unstored entry stored
        rcases URPCache.lookup_purgeExpired host entries supply key with
          same | ⟨gone, due⟩
        · exact .inl ⟨same, quiet⟩
        · exact .inr ⟨gone, fun _ entry present =>
            ⟨supply.tick, Nat.lt_succ_self _, due entry present⟩⟩

theorem tracks_run (supply : Supply) (calls : List CacheCall) :
    Tracks host
      (Run.visits (cacheStep host) ⟨.memory ∅, supply⟩ calls)
      (Run.final (cacheStep host) ⟨.memory ∅, supply⟩ calls) :=
  Run.visits_history_induction (tracks_start supply)
    (fun _ _ call tracks => tracks.step call) calls

end Invariant

end CacheRun

/-! ## The characterisation -/

section Characterisation

open CacheRun

/-- The cache of a run of calls that starts empty in memory. -/
def cacheAfter (host : Host) (supply : Supply) (calls : List CacheCall) :
    CacheState :=
  Run.final (cacheStep host) ⟨.memory ∅, supply⟩ calls

def cacheHistory (host : Host) (supply : Supply) (calls : List CacheCall) :
    List CacheVisit :=
  Run.visits (cacheStep host) ⟨.memory ∅, supply⟩ calls

/-- The entry is in the scope of a lookup. -/
structure CacheEntry.Fits (entry : CacheEntry) (key tenant nameSpace : String)
    (sourceFingerprints : Finset String) : Prop where
  key : entry.key = key
  tenant : entry.tenant = tenant
  nameSpace : entry.nameSpace = nameSpace
  sourceFingerprints : entry.sourceFingerprints = sourceFingerprints

theorem isExpired_of_le {expiresAt : Option ℚ} {early late : ℚ}
    (order : early ≤ late) (due : isExpired expiresAt early = true) :
    isExpired expiresAt late = true := by
  cases expiresAt with
  | none => cases due
  | some expiry =>
      simp only [isExpired, Option.any_some, decide_eq_true_eq] at due ⊢
      exact le_trans due order

theorem exactCache_hit_iff (host : Host) (forward : Monotone host.clock)
    (supply : Supply) (calls : List CacheCall) :
    (∀ key tenant nameSpace sourceFingerprints value, value ≠ .none →
      ((URPCache.get host key tenant nameSpace (some sourceFingerprints)
          (cacheAfter host supply calls)).1 = .ok value ↔
        ∃ entry, Standing (cacheHistory host supply calls) entry ∧
          entry.Fits key tenant nameSpace sourceFingerprints ∧
          entry.value = value ∧
          ∀ expiry ∈ entry.expiresAt,
            host.clock (cacheAfter host supply calls).supply.tick < expiry)) ∧
    (∀ entry error later,
      URPCache.put host entry (cacheAfter host supply calls) =
        (.error error, later) →
      later.backend = (cacheAfter host supply calls).backend) := by
  have tracks : Tracks host (cacheHistory host supply calls)
      (cacheAfter host supply calls) := tracks_run supply calls
  constructor
  · intro key tenant nameSpace sourceFingerprints value nonNull
    have got := URPCache.get_got host key tenant nameSpace
      (some sourceFingerprints) (cacheAfter host supply calls)
    constructor
    · intro returned
      rw [returned] at got
      obtain ⟨entry, present, inside, live, same⟩ :=
        got.exists_entry host nonNull
      obtain ⟨named, -, standing⟩ := tracks.found key entry present
      obtain ⟨ofTenant, ofNameSpace, ofSources, -⟩ :=
        URPCache.isInScope_iff.mp inside
      exact ⟨entry, standing, ⟨named, ofTenant, ofNameSpace, ofSources⟩, same,
        isExpired_eq_false_iff.mp live⟩
    · rintro ⟨entry, standing, ⟨rfl, rfl, rfl, rfl⟩, rfl, live⟩
      have fresh := isExpired_eq_false_iff.mpr live
      -- An entry that was dropped had expired at an earlier reading.
      have present : (cacheAfter host supply calls).backend.lookup host
          entry.key = some (.ok entry) := by
        rcases tracks.kept entry standing with present | ⟨tick, past, due⟩
        · exact present
        · rw [isExpired_of_le (forward (Nat.le_of_lt past)) due] at fresh
          cases fresh
      obtain ⟨-, passed, -⟩ := tracks.found entry.key entry present
      exact URPCache.get_of_live host present
        (URPCache.isInScope_iff.mpr ⟨rfl, rfl, rfl, passed⟩) fresh
  · intro entry error later raised
    exact ((URPCache.ensures_put host entry _).of_error raised).2.1

def sampleCacheEntry : CacheEntry where
  key := "k"
  tenant := "acme"
  nameSpace := "docs"
  value := .str "answer"
  verifierPassed := true
  expiresAt := some 10

theorem exactCache_hit_sample :
    (URPCache.get Host.counting "k" "acme" "docs" (some ∅)
      (cacheAfter Host.counting {} [.put sampleCacheEntry])).1 =
        .ok (.str "answer") := by
  have forward : Monotone Host.counting.clock := by
    intro early late order
    exact Nat.cast_le.mpr order
  have stored : Stored (Run.visit (cacheStep Host.counting) ⟨.memory ∅, {}⟩
      (.put sampleCacheEntry)) sampleCacheEntry := ⟨rfl, rfl⟩
  apply ((exactCache_hit_iff Host.counting forward {}
    [.put sampleCacheEntry]).1 "k" "acme" "docs" ∅ (.str "answer") nofun).mpr
  refine ⟨sampleCacheEntry, ⟨[], _, [], rfl, stored, by simp⟩, ⟨rfl, rfl, rfl, rfl⟩,
    rfl, ?_⟩
  intro expiry member
  cases member
  exact (by norm_num : ((1 : ℕ) : ℚ) < 10)

end Characterisation

end Urp
