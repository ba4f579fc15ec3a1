import Urp.Cache
import Urp.Library.Run

/-!
# Runs of the exact cache

What one call does to a cache, seen through `CacheBackend.lookup`, which
forgets which of the two backends holds the entries.
-/

namespace Urp

open Python Program

namespace CacheBackend

/-- The entry under a key, as `_get_entry` reads it. -/
def lookup (host : Host) (backend : CacheBackend) (key : String) :
    Option (Except PyException CacheEntry) :=
  match backend with
  | .memory entries => (entries.lookup key).map .ok
  | .sqlite rows => (rows.lookup key).map fun row => row.entry host key

/-- What reading an entry gives once it is stored. -/
def readBack (host : Host) (backend : CacheBackend) (entry : CacheEntry) :
    Except PyException CacheEntry :=
  match backend with
  | .memory _ => .ok entry
  | .sqlite _ => (entry.row 0).entry host entry.key

/-- The tenant of the row under a key. -/
def owner (backend : CacheBackend) (key : String) : Option String :=
  match backend with
  | .memory entries => (entries.lookup key).map CacheEntry.tenant
  | .sqlite rows => (rows.lookup key).map CacheRow.tenant

/-- The two backends are of one kind. -/
def SameKind : CacheBackend → CacheBackend → Prop
  | .memory _, .memory _ => True
  | .sqlite _, .sqlite _ => True
  | _, _ => False

theorem SameKind.refl (backend : CacheBackend) : backend.SameKind backend := by
  cases backend <;> trivial

theorem SameKind.trans {first second third : CacheBackend}
    (early : first.SameKind second) (late : second.SameKind third) :
    first.SameKind third := by
  cases first <;> cases second <;> cases third <;> trivial

theorem SameKind.memory {backend later : CacheBackend}
    (kind : backend.SameKind later) (memory : ∃ entries, backend = .memory entries) :
    ∃ entries, later = .memory entries := by
  obtain ⟨_, rfl⟩ := memory
  cases later with
  | memory entries => exact ⟨entries, rfl⟩
  | sqlite rows => exact kind.elim

theorem SameKind.readBack_eq {host : Host} {backend other : CacheBackend}
    (same : backend.SameKind other) (entry : CacheEntry) :
    backend.readBack host entry = other.readBack host entry := by
  cases backend <;> cases other <;> first | rfl | cases same

theorem lookup_erase (host : Host) (backend : CacheBackend)
    (key other : String) :
    (backend.erase key).lookup host other =
      if key = other then none else backend.lookup host other := by
  cases backend <;> simp only [erase, lookup, Dict.lookup_erase] <;>
    split <;> rfl

theorem owner_erase (backend : CacheBackend) (key other : String) :
    (backend.erase key).owner other =
      if key = other then none else backend.owner other := by
  cases backend <;> simp only [erase, owner, Dict.lookup_erase] <;>
    split <;> rfl

/-- Reading an entry back keeps its tenant. -/
theorem tenant_readBack {host : Host} {backend : CacheBackend}
    {entry found : CacheEntry}
    (read : backend.readBack host entry = .ok found) :
    found.tenant = entry.tenant := by
  cases backend with
  | memory entries =>
      cases read
      rfl
  | sqlite rows =>
      obtain ⟨_, -, read⟩ := except_bind_eq_ok_iff.mp read
      obtain ⟨_, -, read⟩ := except_bind_eq_ok_iff.mp read
      obtain ⟨_, -, read⟩ := except_bind_eq_ok_iff.mp read
      obtain ⟨_, -, read⟩ := except_bind_eq_ok_iff.mp read
      cases read
      rfl

theorem lookup_eq_none_iff {host : Host} {backend : CacheBackend}
    {key : String} :
    backend.lookup host key = none ↔ backend.owner key = none := by
  cases backend <;> simp [lookup, owner]

theorem sameKind_erase (backend : CacheBackend) (key : String) :
    backend.SameKind (backend.erase key) := by
  cases backend <;> trivial

end CacheBackend

/-! ## What one call does -/

section Calls

variable (host : Host)

theorem isExpired_eq_false_iff {expiresAt : Option ℚ} {now : ℚ} :
    isExpired expiresAt now = false ↔ ∀ expiry ∈ expiresAt, now < expiry := by
  cases expiresAt <;> simp [isExpired]

theorem URPCache.isInScope_iff {entry : CacheEntry}
    {tenant nameSpace : String} {sourceFingerprints : Finset String} :
    isInScope entry tenant nameSpace (some sourceFingerprints) = true ↔
      entry.tenant = tenant ∧ entry.nameSpace = nameSpace ∧
        entry.sourceFingerprints = sourceFingerprints ∧
        entry.verifierPassed = true := by
  simp [isInScope, and_assoc]

theorem URPCache.tenant_of_isInScope {entry : CacheEntry}
    {tenant nameSpace : String} {sourceFingerprints : Option (Finset String)}
    (inside : isInScope entry tenant nameSpace sourceFingerprints = true) :
    entry.tenant = tenant := by
  simp only [isInScope, Bool.and_eq_true, beq_iff_eq] at inside
  exact inside.1.1.1

theorem ensures_checkExpired (expiresAt : Option ℚ) (supply : Supply) :
    Ensures (checkExpired host expiresAt) supply
      (fun expired later =>
        expired = isExpired expiresAt (host.clock supply.tick) ∧
          supply.Before later ∧
          (expired = true → supply.tick < later.tick))
      (fun _ _ => False) := by
  cases expiresAt with
  | none => exact ⟨rfl, Supply.Before.refl _, nofun⟩
  | some expiry =>
      exact ⟨rfl, ⟨Nat.le_refl _, Nat.le_succ _⟩, fun _ => Nat.lt_succ_self _⟩

namespace URPCache

/-- The check under a cache's own state. -/
theorem ensures_focus_checkExpired (expiresAt : Option ℚ) (s : CacheState) :
    Ensures (focus CacheState.supplyLens (checkExpired host expiresAt)) s
      (fun expired later =>
        expired = isExpired expiresAt (host.clock s.supply.tick) ∧
          later.backend = s.backend ∧ s.supply.Before later.supply ∧
          (expired = true → s.supply.tick < later.supply.tick))
      (fun _ _ => False) := by
  rw [ensures_focus]
  apply (ensures_checkExpired host expiresAt s.supply).mono
  · rintro expired later ⟨result, drawn, moved⟩
    exact ⟨result, rfl, drawn, moved⟩
  · exact fun _ _ impossible => impossible

/-- The entry is the one under its key, and nothing else changed. -/
structure Wrote (entry : CacheEntry) (before after : CacheState) : Prop where
  kind : before.backend.SameKind after.backend
  drawn : before.supply.Before after.supply
  lookup : ∀ key, after.backend.lookup host key =
    if entry.key = key then some (before.backend.readBack host entry)
    else before.backend.lookup host key
  owner : ∀ key, after.backend.owner key =
    if entry.key = key then some entry.tenant else before.backend.owner key

theorem ensures_write (entry : CacheEntry) (s : CacheState) :
    Ensures (write host entry) s (fun _ later => Wrote host entry s later)
      (fun _ _ => False) := by
  unfold write
  rw [ensures_bind, ensures_get]
  obtain ⟨backend, supply⟩ := s
  cases backend with
  | memory entries =>
      refine ⟨trivial, Supply.Before.refl _, fun key => ?_, fun key => ?_⟩
      · simp only [CacheBackend.lookup, CacheBackend.readBack,
          Dict.lookup_insert]
        split <;> rfl
      · simp only [CacheBackend.owner, Dict.lookup_insert]
        split <;> rfl
  | sqlite rows =>
      rw [ensures_bind, ensures_focus]
      apply (host.ensures_now supply).mono
      · rintro createdAt later ⟨-, rfl⟩
        refine ⟨trivial, ⟨Nat.le_refl _, Nat.le_succ _⟩, fun key => ?_,
          fun key => ?_⟩
        · simp only [CacheBackend.lookup, CacheBackend.readBack,
            Dict.lookup_insert]
          split
          · rename_i same
            rw [← same]
            rfl
          · rfl
        · simp only [CacheBackend.owner, Dict.lookup_insert]
          split <;> rfl
      · exact fun _ _ impossible => impossible

/-- What `put` checks. -/
structure Accepts (entry : CacheEntry) (now : ℚ) : Prop where
  passed : entry.verifierPassed = true
  tenant : entry.tenant ≠ ""
  nameSpace : entry.nameSpace ≠ ""
  live : isExpired entry.expiresAt now = false

/-- A put stores the entry, or it raises and the cache is as before. -/
theorem ensures_put (entry : CacheEntry) (s : CacheState) :
    Ensures (put host entry) s
      (fun _ later => Accepts entry (host.clock s.supply.tick) ∧
        Wrote host entry s later)
      (fun _ later => ¬ Accepts entry (host.clock s.supply.tick) ∧
        later.backend = s.backend ∧ s.supply.Before later.supply) := by
  unfold put
  rw [ensures_ite]
  constructor
  · intro failed
    exact ⟨fun accepts => by simp [accepts.passed] at failed, rfl, .refl _⟩
  · intro passed
    rw [ensures_ite]
    constructor
    · rintro (empty | empty)
      · exact ⟨fun accepts => accepts.tenant empty, rfl, .refl _⟩
      · exact ⟨fun accepts => accepts.nameSpace empty, rfl, .refl _⟩
    · intro named
      rw [not_or] at named
      rw [ensures_bind]
      apply (ensures_focus_checkExpired host entry.expiresAt s).mono
      · rintro expired middle ⟨result, same, drawn, -⟩
        rw [ensures_ite]
        constructor
        · intro due
          refine ⟨fun accepts => ?_, same, drawn⟩
          have live := accepts.live
          rw [← result, due] at live
          cases live
        · intro fresh
          apply (ensures_write host entry middle).mono
          · intro _ later wrote
            refine ⟨⟨by simpa using passed, named.1, named.2, ?_⟩, ?_⟩
            · rw [← result]
              simpa using fresh
            · exact ⟨same ▸ wrote.kind, drawn.trans wrote.drawn,
                same ▸ wrote.lookup, same ▸ wrote.owner⟩
          · exact fun _ _ impossible => impossible.elim
      · exact fun _ _ impossible => impossible.elim

theorem getEntry_run (key : String) (s : CacheState) :
    getEntry host key s = match s.backend.lookup host key with
      | none => (.ok none, s)
      | some (.ok entry) => (.ok (some entry), s)
      | some (.error error) => (.error error, s) := by
  unfold getEntry
  rw [get_bind]
  obtain ⟨backend, supply⟩ := s
  cases backend with
  | memory entries =>
      simp only [CacheBackend.lookup]
      cases entries.lookup key <;> rfl
  | sqlite rows =>
      simp only [CacheBackend.lookup]
      cases rows.lookup key with
      | none => rfl
      | some row =>
          simp only [Option.map_some]
          cases row.entry host key <;> rfl

/-- What a call of `get` finds out, and what it leaves. -/
inductive Got (key tenant nameSpace : String)
    (sourceFingerprints : Option (Finset String)) (s : CacheState) :
    Except PyException Value → CacheState → Prop where
  | absent (missing : s.backend.lookup host key = none) :
      Got key tenant nameSpace sourceFingerprints s (.ok .none) s
  | unreadable {error : PyException}
      (found : s.backend.lookup host key = some (.error error)) :
      Got key tenant nameSpace sourceFingerprints s (.error error) s
  | outOfScope {entry : CacheEntry}
      (found : s.backend.lookup host key = some (.ok entry))
      (outside : isInScope entry tenant nameSpace sourceFingerprints = false) :
      Got key tenant nameSpace sourceFingerprints s (.ok .none) s
  | expired {entry : CacheEntry} {middle : CacheState}
      (found : s.backend.lookup host key = some (.ok entry))
      (inside : isInScope entry tenant nameSpace sourceFingerprints = true)
      (due : isExpired entry.expiresAt (host.clock s.supply.tick) = true)
      (same : middle.backend = s.backend)
      (moved : s.supply.tick < middle.supply.tick)
      (drawn : s.supply.Before middle.supply) :
      Got key tenant nameSpace sourceFingerprints s (.ok .none)
        { middle with backend := middle.backend.erase key }
  | hit {entry : CacheEntry} {later : CacheState}
      (found : s.backend.lookup host key = some (.ok entry))
      (inside : isInScope entry tenant nameSpace sourceFingerprints = true)
      (live : isExpired entry.expiresAt (host.clock s.supply.tick) = false)
      (same : later.backend = s.backend)
      (drawn : s.supply.Before later.supply) :
      Got key tenant nameSpace sourceFingerprints s (.ok entry.value) later

theorem get_got (key tenant nameSpace : String)
    (sourceFingerprints : Option (Finset String)) (s : CacheState) :
    Got host key tenant nameSpace sourceFingerprints s
      (get host key tenant nameSpace sourceFingerprints s).1
      (get host key tenant nameSpace sourceFingerprints s).2 := by
  have entryRun := getEntry_run host key s
  unfold get
  cases found : s.backend.lookup host key with
  | none =>
      rw [found] at entryRun
      rw [bind_ok entryRun]
      exact .absent found
  | some read =>
      cases read with
      | error error =>
          rw [found] at entryRun
          rw [bind_error entryRun]
          exact .unreadable found
      | ok entry =>
          rw [found] at entryRun
          rw [bind_ok entryRun]
          by_cases inside :
              isInScope entry tenant nameSpace sourceFingerprints = true
          · simp only [inside, if_true]
            have checked := ensures_focus_checkExpired host entry.expiresAt s
            cases run : focus CacheState.supplyLens
                (checkExpired host entry.expiresAt) s with
            | mk result middle =>
                cases result with
                | error error => exact (checked.of_error run).elim
                | ok expired =>
                    obtain ⟨result, same, drawn, moved⟩ := checked.of_ok run
                    rw [bind_ok run]
                    cases expired with
                    | true =>
                        exact .expired found inside result.symm same
                          (moved rfl) drawn
                    | false =>
                        exact .hit found inside result.symm same drawn
          · have outside :
                isInScope entry tenant nameSpace sourceFingerprints = false := by
              simpa using inside
            simp only [outside, Bool.false_eq_true, if_false]
            exact .outOfScope found outside

/-- Two caches with the same row at the same time answer alike, and both drop
the row or neither does. -/
theorem Got.deterministic {key tenant nameSpace : String}
    {sourceFingerprints : Option (Finset String)}
    {s t later after : CacheState} {left right : Except PyException Value}
    (first : Got host key tenant nameSpace sourceFingerprints s left later)
    (second : Got host key tenant nameSpace sourceFingerprints t right after)
    (row : s.backend.lookup host key = t.backend.lookup host key)
    (time : s.supply.tick = t.supply.tick) :
    left = right ∧
      ((later.backend = s.backend ∧ after.backend = t.backend) ∨
        (later.backend = s.backend.erase key ∧
          after.backend = t.backend.erase key)) := by
  cases first <;> cases second <;> simp_all

/-- A value that is returned is that of a live entry in scope. -/
theorem Got.exists_entry {key tenant nameSpace : String}
    {sourceFingerprints : Option (Finset String)} {s later : CacheState}
    {value : Value}
    (got : Got host key tenant nameSpace sourceFingerprints s (.ok value) later)
    (nonNull : value ≠ .none) :
    ∃ entry, s.backend.lookup host key = some (.ok entry) ∧
      isInScope entry tenant nameSpace sourceFingerprints = true ∧
      isExpired entry.expiresAt (host.clock s.supply.tick) = false ∧
      entry.value = value := by
  cases got with
  | absent | outOfScope | expired => exact (nonNull rfl).elim
  | hit found inside live => exact ⟨_, found, inside, live, rfl⟩

theorem get_of_live {key tenant nameSpace : String}
    {sourceFingerprints : Option (Finset String)} {s : CacheState}
    {entry : CacheEntry}
    (present : s.backend.lookup host key = some (.ok entry))
    (scope : isInScope entry tenant nameSpace sourceFingerprints = true)
    (fresh : isExpired entry.expiresAt (host.clock s.supply.tick) = false) :
    (get host key tenant nameSpace sourceFingerprints s).1 = .ok entry.value := by
  have got := get_got host key tenant nameSpace sourceFingerprints s
  revert got
  generalize (get host key tenant nameSpace sourceFingerprints s).1 = result
  generalize (get host key tenant nameSpace sourceFingerprints s).2 = later
  intro got
  cases got with
  | absent missing | unreadable missing =>
      rw [present] at missing
      cases missing
  | outOfScope found outside =>
      rw [present] at found
      cases found
      rw [scope] at outside
      cases outside
  | expired found inside due =>
      rw [present] at found
      cases found
      rw [fresh] at due
      cases due
  | hit found =>
      rw [present] at found
      cases found
      rfl

/-- Purging drops expired entries only. -/
theorem lookup_purgeExpired (entries : Dict String CacheEntry)
    (supply : Supply) (key : String) :
    let before := CacheBackend.memory entries
    let after := (purgeExpired host ⟨before, supply⟩).2.backend
    after.lookup host key = before.lookup host key ∨
      (after.lookup host key = none ∧
        ∀ entry, before.lookup host key = some (.ok entry) →
          isExpired entry.expiresAt (host.clock supply.tick) = true) := by
  intro before after
  have purged : after.lookup host key = ((entries.lookup key).filter
      fun entry => !isExpired entry.expiresAt (host.clock supply.tick)).map
        .ok := by
    rw [← Dict.lookup_filter entries fun _ entry =>
      !isExpired entry.expiresAt (host.clock supply.tick)]
    rfl
  rw [purged]
  cases present : entries.lookup key with
  | none => exact .inl (by simp [before, CacheBackend.lookup, present])
  | some entry =>
      cases due : isExpired entry.expiresAt (host.clock supply.tick) with
      | false =>
          exact .inl (by simp [before, CacheBackend.lookup, present, due])
      | true =>
          refine .inr ⟨by simp [due], fun other found => ?_⟩
          simp only [before, CacheBackend.lookup, present, Option.map_some,
            Option.some.injEq, Except.ok.injEq] at found
          rw [← found]
          exact due

end URPCache

end Calls

/-! ## Runs -/

inductive CacheCall where
  | put (entry : CacheEntry)
  | get (key tenant nameSpace : String)
      (sourceFingerprints : Option (Finset String))
  | delete (key : String)
  | purgeExpired

inductive CacheReply where
  | done
  | value (value : Value)
  | count (size : Nat)

def CacheCall.run (host : Host) :
    CacheCall → Program CacheState PyException CacheReply
  | .put entry => do
      URPCache.put host entry
      return .done
  | .get key tenant nameSpace sourceFingerprints => do
      let value ← URPCache.get host key tenant nameSpace sourceFingerprints
      return .value value
  | .delete key => do
      URPCache.delete key
      return .done
  | .purgeExpired => do
      let size ← URPCache.purgeExpired host
      return .count size

def cacheStep (host : Host) (s : CacheState) (call : CacheCall) :
    Except PyException CacheReply × CacheState := call.run host s

abbrev CacheVisit := Run.Visit CacheState CacheCall (Except PyException CacheReply)

theorem cacheStep_get (host : Host) (s : CacheState)
    (key tenant nameSpace : String)
    (sourceFingerprints : Option (Finset String)) :
    cacheStep host s (.get key tenant nameSpace sourceFingerprints) =
      ((URPCache.get host key tenant nameSpace sourceFingerprints s).1.map .value,
        (URPCache.get host key tenant nameSpace sourceFingerprints s).2) :=
  bind_ret_run _ _ s

theorem cacheStep_put (host : Host) (s : CacheState) (entry : CacheEntry) :
    cacheStep host s (.put entry) =
      ((URPCache.put host entry s).1.map fun _ => .done,
        (URPCache.put host entry s).2) :=
  bind_ret_run _ _ s

end Urp
