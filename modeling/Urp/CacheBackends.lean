import Urp.Library.DictAlike
import Urp.PayloadEncoding

/-!
# The two backends of the exact cache

Every sequence of calls, made at the same times, has the same results on the
entries in memory and on the rows of the table.
-/

namespace Urp

open Python Program

/-! ## Runs at given times -/

/-- A call with the clock reading that it starts from. -/
structure TimedCall where
  tick : Nat
  call : CacheCall

def timedStep (host : Host) (s : CacheState) (timed : TimedCall) :
    Except PyException CacheReply × CacheState :=
  cacheStep host { s with supply := { s.supply with tick := timed.tick } }
    timed.call

/-- The reply as Python compares it: dictionaries have no order. -/
def CacheReply.unordered : CacheReply → CacheReply
  | .value found => .value found.sorted
  | reply => reply

/-- What the calls of a run return or raise. -/
def results (host : Host) (s : CacheState) (calls : List TimedCall) :
    List (Except PyException CacheReply) :=
  (Run.visits (timedStep host) s calls).map fun visit =>
    visit.output.map CacheReply.unordered

/-- A put writes JSON in which no dictionary is itself a byte envelope. -/
def CacheCall.PutsJson : CacheCall → Prop
  | .put entry => entry.value.isJson = true ∧ isEnvelopeFree entry.value = true
  | _ => True

/-! ## The relation -/

/-- The row holds the entry, which passed the checks of `put`. -/
structure CacheEntry.StoredAs (entry : CacheEntry) (row : CacheRow) : Prop where
  row : ∃ createdAt, row = entry.row createdAt
  passed : entry.verifierPassed = true
  whole : IsEncodable entry.value
  free : isEnvelopeFree entry.value = true

theorem CacheEntry.StoredAs.expiresAt {entry : CacheEntry} {row : CacheRow}
    (stored : entry.StoredAs row) : row.expiresAt = entry.expiresAt := by
  obtain ⟨createdAt, rfl⟩ := stored.row
  rfl

/-- The first cache holds the entries that the second holds as rows. -/
structure CacheState.Tabulated (memory table : CacheState) : Prop where
  entries : ∃ entries rows, memory.backend = .memory entries ∧
    table.backend = .sqlite rows ∧
    Dict.Alike CacheEntry.StoredAs entries rows

variable {host : Host} {memory table : CacheState}

namespace CacheState.Tabulated

/-- Neither the identifiers nor the clock readings that were drawn matter. -/
theorem of_backends (related : memory.Tabulated table)
    {later after : CacheState} (first : later.backend = memory.backend)
    (second : after.backend = table.backend) : later.Tabulated after := by
  obtain ⟨entries, rows, own, other, alike⟩ := related.entries
  exact ⟨entries, rows, first.trans own, second.trans other, alike⟩

theorem erase (related : memory.Tabulated table) (key : String)
    {later after : CacheState}
    (first : later.backend = memory.backend.erase key)
    (second : after.backend = table.backend.erase key) :
    later.Tabulated after := by
  obtain ⟨entries, rows, own, other, alike⟩ := related.entries
  refine ⟨entries.erase key, rows.erase key, ?_, ?_, alike.erase key⟩
  · rw [first, own]
    rfl
  · rw [second, other]
    rfl

/-- Both caches miss, or they read entries that differ in the order of the
keys in their values. -/
theorem lookup (related : memory.Tabulated table) (key : String) :
    (memory.backend.lookup host key = none ∧
      table.backend.lookup host key = none) ∨
    ∃ entry, memory.backend.lookup host key = some (.ok entry) ∧
      entry.verifierPassed = true ∧
      table.backend.lookup host key = some (.ok { entry with
        key, value := entry.value.sorted, verifierPassed := true }) := by
  obtain ⟨entries, rows, own, other, alike⟩ := related.entries
  rw [own, other]
  rcases alike.lookup key with ⟨missing, absent⟩ | ⟨entry, row, found, held,
    stored⟩
  · left
    simp [CacheBackend.lookup, missing, absent]
  · right
    obtain ⟨createdAt, rfl⟩ := stored.row
    refine ⟨entry, ?_, stored.passed, ?_⟩
    · simp [CacheBackend.lookup, found]
    · simp only [CacheBackend.lookup, held, Option.map_some]
      rw [entry_row host stored.whole stored.free]

end CacheState.Tabulated

/-! ## One call -/

/-- What an entry that is present answers. -/
theorem URPCache.get_run {s : CacheState} {key tenant nameSpace : String}
    {sourceFingerprints : Option (Finset String)} {entry : CacheEntry}
    (found : s.backend.lookup host key = some (.ok entry)) :
    ∃ later : CacheState, later.backend = s.backend ∧
      get host key tenant nameSpace sourceFingerprints s =
        if isInScope entry tenant nameSpace sourceFingerprints then
          if isExpired entry.expiresAt (host.clock s.supply.tick) then
            (.ok .none, { later with backend := later.backend.erase key })
          else (.ok entry.value, later)
        else (.ok .none, s) := by
  have entryRun := getEntry_run host key s
  rw [found] at entryRun
  unfold get
  rw [bind_ok entryRun]
  by_cases inside : isInScope entry tenant nameSpace sourceFingerprints = true
  · simp only [inside, if_true]
    obtain ⟨expired, later, run, result, same, -, -⟩ :=
      (ensures_focus_checkExpired host entry.expiresAt s).returns
    rw [bind_ok run, ← result]
    refine ⟨later, same, ?_⟩
    cases expired <;> rfl
  · exact ⟨s, rfl, by simp only [inside]; rfl⟩

/-- The checks of a put, and then its write. -/
theorem URPCache.put_run (host : Host) (entry : CacheEntry) (s : CacheState) :
    ∃ later : CacheState, later.backend = s.backend ∧
      put host entry s =
        if entry.verifierPassed = false then
          (.error (.valueError
            "cache entries must have verifier_passed=True"), s)
        else if entry.tenant = "" ∨ entry.nameSpace = "" then
          (.error (.valueError "cache entries require tenant and namespace"), s)
        else if isExpired entry.expiresAt (host.clock s.supply.tick) then
          (.error (.valueError "cache entry is already expired"), later)
        else write host entry later := by
  obtain ⟨expired, later, run, result, same, -, -⟩ :=
    (ensures_focus_checkExpired host entry.expiresAt s).returns
  refine ⟨later, same, ?_⟩
  unfold put
  split
  · rfl
  · split
    · rfl
    · rw [bind_ok run, ← result]
      cases expired <;> rfl

/-- The same result, up to the order of keys, and related caches. -/
structure SameStep (left right : Except PyException CacheReply × CacheState) :
    Prop where
  result : left.1.map CacheReply.unordered = right.1.map CacheReply.unordered
  related : left.2.Tabulated right.2

section Calls

variable (related : memory.Tabulated table)

include related

theorem sameStep_delete (key : String) :
    SameStep (cacheStep host memory (.delete key))
      (cacheStep host table (.delete key)) :=
  ⟨rfl, related.erase key rfl rfl⟩

variable (time : memory.supply.tick = table.supply.tick)

include time

theorem sameStep_get (key tenant nameSpace : String)
    (sourceFingerprints : Option (Finset String)) :
    SameStep
      (cacheStep host memory (.get key tenant nameSpace sourceFingerprints))
      (cacheStep host table (.get key tenant nameSpace sourceFingerprints)) := by
  rw [cacheStep_get, cacheStep_get]
  rcases related.lookup key with ⟨missing, absent⟩ | ⟨entry, found, passed,
    held⟩
  · have first := URPCache.getEntry_run host key memory
    have second := URPCache.getEntry_run host key table
    rw [missing] at first
    rw [absent] at second
    unfold URPCache.get
    rw [bind_ok first, bind_ok second]
    exact ⟨rfl, related⟩
  · obtain ⟨later, same, first⟩ := URPCache.get_run found
    obtain ⟨after, alike, second⟩ := URPCache.get_run held
    rw [first, second]
    have scope : ∀ row : CacheEntry, row = { entry with
        key, value := entry.value.sorted, verifierPassed := true } →
          URPCache.isInScope row tenant nameSpace sourceFingerprints =
            URPCache.isInScope entry tenant nameSpace sourceFingerprints := by
      rintro row rfl
      simp [URPCache.isInScope, passed]
    rw [scope _ rfl, time]
    split
    · split
      · refine ⟨rfl, related.erase key ?_ ?_⟩
        · rw [same]
        · rw [alike]
      · refine ⟨?_, related.of_backends same alike⟩
        simp only [Except.map, CacheReply.unordered, Value.sorted_sorted]
    · exact ⟨rfl, related⟩

theorem sameStep_purgeExpired :
    SameStep (cacheStep host memory .purgeExpired)
      (cacheStep host table .purgeExpired) := by
  obtain ⟨entries, rows, own, other, alike⟩ := related.entries
  obtain ⟨backend, supply⟩ := memory
  obtain ⟨backend', supply'⟩ := table
  subst own other
  let keepEntry := fun (_ : String) (entry : CacheEntry) =>
    !isExpired entry.expiresAt (host.clock supply.tick)
  let keepRow := fun (_ : String) (row : CacheRow) =>
    !isExpired row.expiresAt (host.clock supply'.tick)
  have kept : Dict.Alike CacheEntry.StoredAs (entries.filter keepEntry)
      (rows.filter keepRow) := by
    apply alike.filter
    intro _ entry row stored
    have same : supply.tick = supply'.tick := time
    simp only [keepEntry, keepRow, stored.expiresAt, same]
  have first : cacheStep host ⟨.memory entries, supply⟩ .purgeExpired =
      (.ok (.count (entries.entries.length -
          (entries.filter keepEntry).entries.length)),
        ⟨.memory (entries.filter keepEntry),
          { supply with tick := supply.tick + 1 }⟩) := rfl
  have second : cacheStep host ⟨.sqlite rows, supply'⟩ .purgeExpired =
      (.ok (.count (rows.entries.length -
          (rows.filter keepRow).entries.length)),
        ⟨.sqlite (rows.filter keepRow),
          { supply' with tick := supply'.tick + 1 }⟩) := rfl
  rw [first, second]
  refine ⟨?_, ⟨_, _, rfl, rfl, kept⟩⟩
  rw [alike.length_eq, kept.length_eq]

theorem sameStep_put {entry : CacheEntry}
    (json : (CacheCall.put entry).PutsJson) :
    SameStep (cacheStep host memory (.put entry))
      (cacheStep host table (.put entry)) := by
  rw [cacheStep_put, cacheStep_put]
  obtain ⟨later, same, first⟩ := URPCache.put_run host entry memory
  obtain ⟨after, alike, second⟩ := URPCache.put_run host entry table
  rw [first, second, time]
  split
  · exact ⟨rfl, related⟩
  · rename_i passed
    split
    · exact ⟨rfl, related⟩
    · split
      · exact ⟨rfl, related.of_backends same alike⟩
      · obtain ⟨entries, rows, own, other, held⟩ := related.entries
        obtain ⟨backend, supply⟩ := later
        obtain ⟨backend', supply'⟩ := after
        obtain rfl : backend = .memory entries := same.trans own
        obtain rfl : backend' = .sqlite rows := alike.trans other
        have stored : entry.StoredAs (entry.row (host.clock supply'.tick)) :=
          ⟨⟨_, rfl⟩, by simpa using passed, isEncodable_of_isJson json.1,
            json.2⟩
        exact ⟨rfl, ⟨_, _, rfl, rfl, held.insert entry.key stored⟩⟩

end Calls

/-- A call that starts from the same clock reading has the same result. -/
theorem sameStep_timed (related : memory.Tabulated table) {timed : TimedCall}
    (json : timed.call.PutsJson) :
    SameStep (timedStep host memory timed) (timedStep host table timed) := by
  obtain ⟨tick, call⟩ := timed
  have aligned : CacheState.Tabulated
      { memory with supply := { memory.supply with tick } }
      { table with supply := { table.supply with tick } } :=
    related.of_backends rfl rfl
  cases call with
  | put entry => exact sameStep_put aligned rfl json
  | get key tenant nameSpace sourceFingerprints =>
      exact sameStep_get aligned rfl key tenant nameSpace sourceFingerprints
  | delete key => exact sameStep_delete aligned key
  | purgeExpired => exact sameStep_purgeExpired aligned rfl

/-! ## Runs -/

theorem results_eq (related : memory.Tabulated table) {calls : List TimedCall}
    (json : ∀ timed ∈ calls, timed.call.PutsJson) :
    results host memory calls = results host table calls := by
  induction calls generalizing memory table with
  | nil => rfl
  | cons timed rest ih =>
      obtain ⟨first, others⟩ := List.forall_mem_cons.mp json
      have step : SameStep (timedStep host memory timed)
          (timedStep host table timed) := sameStep_timed related first
      have later := ih step.related others
      unfold results at later ⊢
      simp only [Run.visits, List.map_cons, Run.visit]
      rw [step.result, later]

/-- From the empty cache, every sequence of calls that puts JSON without
envelopes has the same results on both backends. -/
theorem backends_agree (supply other : Supply) {calls : List TimedCall}
    (json : ∀ timed ∈ calls, timed.call.PutsJson) :
    results host ⟨.memory ∅, supply⟩ calls =
      results host ⟨.sqlite ∅, other⟩ calls :=
  results_eq ⟨_, _, rfl, rfl, Dict.alike_empty⟩ json

def sampleEntry (expiresAt : Option ℚ) : CacheEntry where
  key := "k"
  tenant := "acme"
  nameSpace := "default"
  value := .dict [("b", .int 1), ("a", .none)]
  verifierPassed := true
  expiresAt := expiresAt

theorem backends_agree_sample :
    results Host.counting ⟨.memory ∅, {}⟩
        [⟨0, .put (sampleEntry (some 5))⟩, ⟨3, .get "k" "acme" "default" none⟩,
          ⟨9, .purgeExpired⟩] =
      results Host.counting ⟨.sqlite ∅, {}⟩
        [⟨0, .put (sampleEntry (some 5))⟩, ⟨3, .get "k" "acme" "default" none⟩,
          ⟨9, .purgeExpired⟩] := by
  apply backends_agree
  intro timed member
  simp only [List.mem_cons, List.not_mem_nil, or_false] at member
  rcases member with rfl | rfl | rfl
  · exact ⟨rfl, rfl⟩
  · trivial
  · trivial

end Urp
