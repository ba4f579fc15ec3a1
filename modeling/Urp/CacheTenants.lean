import Urp.CacheRuns

/-!
# Exact-cache tenants

Two runs of one cache, with and without the puts of the other tenants.  The
rows of the table are keyed by the caller's key alone, so that the two runs
agree for a tenant as long as nobody else replaces one of its rows.
-/

namespace Urp

open Python Program

/-- A use of the cache through `put` or `get`, from a clock reading on. -/
inductive CacheUse where
  | put (tick : Nat) (entry : CacheEntry)
  | get (tick : Nat) (key tenant nameSpace : String)
      (sourceFingerprints : Option (Finset String))

namespace CacheUse

def tick : CacheUse → Nat
  | put tick _ => tick
  | get tick .. => tick

def call : CacheUse → CacheCall
  | put _ entry => .put entry
  | get _ key tenant nameSpace sourceFingerprints =>
      .get key tenant nameSpace sourceFingerprints

/-- Not a put of another tenant. -/
def remains (owner : String) : CacheUse → Bool
  | put _ entry => entry.tenant == owner
  | get .. => true

/-- A lookup of the tenant. -/
def isGetOf (owner : String) : CacheUse → Bool
  | put .. => false
  | get _ _ tenant .. => tenant == owner

end CacheUse

def useStep (host : Host) (s : CacheState) (use : CacheUse) :
    Except PyException CacheReply × CacheState :=
  cacheStep host { s with supply := { s.supply with tick := use.tick } } use.call

/-- The results of the tenant's lookups in a run. -/
def lookups (host : Host) (owner : String) (s : CacheState)
    (uses : List CacheUse) : List (Except PyException CacheReply) :=
  ((Run.visits (useStep host) s uses).filter fun visit =>
    visit.input.isGetOf owner).map Run.Visit.output

theorem lookups_cons (host : Host) (owner : String) (s : CacheState)
    (use : CacheUse) (rest : List CacheUse) :
    lookups host owner s (use :: rest) =
      (if use.isGetOf owner then [(useStep host s use).1] else []) ++
        lookups host owner (useStep host s use).2 rest := by
  simp only [lookups, Run.visits, Run.visit, List.filter_cons]
  split <;> rfl

/-- Removing the other tenants' puts changes none of the tenant's results. -/
def Undisturbed (host : Host) (owner : String) (s : CacheState)
    (uses : List CacheUse) : Prop :=
  lookups host owner s uses =
    lookups host owner s (uses.filter (CacheUse.remains owner))

/-- A put of another tenant is refused, or it replaces no row of the tenant
and its own row can be read. -/
def Respects (host : Host) (owner : String) (s : CacheState) :
    CacheUse → Prop
  | .put tick entry =>
      entry.tenant = owner ∨ ¬ URPCache.Accepts entry (host.clock tick) ∨
        (s.backend.owner entry.key ≠ some owner ∧
          ∃ found, s.backend.readBack host entry = .ok found)
  | .get .. => True

section Simulation

variable (host : Host) (owner : String)

/-- The second cache holds the owner's rows of the first and no others. -/
structure Simulates (full own : CacheState) : Prop where
  kind : full.backend.SameKind own.backend
  ours : ∀ key tenant, own.backend.owner key = some tenant → tenant = owner
  rows : ∀ key,
    (full.backend.lookup host key = own.backend.lookup host key ∧
      full.backend.owner key = own.backend.owner key) ∨
    (own.backend.owner key = none ∧ ∃ found,
      full.backend.lookup host key = some (.ok found) ∧ found.tenant ≠ owner)

variable {host owner} {full own : CacheState}

/-- Both caches lose the row under one key, or neither changes. -/
theorem Simulates.of_drop (related : Simulates host owner full own)
    {later after : CacheState} (key : String)
    (dropped : (later.backend = full.backend ∧ after.backend = own.backend) ∨
      (later.backend = full.backend.erase key ∧
        after.backend = own.backend.erase key)) :
    Simulates host owner later after := by
  rcases dropped with ⟨same, alike⟩ | ⟨erased, alike⟩
  · constructor
    · rw [same, alike]
      exact related.kind
    · rw [alike]
      exact related.ours
    · rw [same, alike]
      exact related.rows
  · constructor
    · rw [erased, alike]
      have kind := related.kind
      revert kind
      cases full.backend <;> cases own.backend <;> exact id
    · intro other tenant
      rw [alike, CacheBackend.owner_erase]
      split
      · nofun
      · exact related.ours other tenant
    · intro other
      rw [erased, alike]
      simp only [CacheBackend.lookup_erase, CacheBackend.owner_erase]
      split
      · exact .inl ⟨rfl, rfl⟩
      · exact related.rows other

/-- The second cache may lose a row that it does not hold. -/
theorem Simulates.of_foreign_drop (related : Simulates host owner full own)
    {later : CacheState} {key : String}
    (missing : own.backend.owner key = none)
    (dropped : later.backend = full.backend.erase key) :
    Simulates host owner later own := by
  constructor
  · rw [dropped]
    have kind := related.kind
    revert kind
    cases full.backend <;> cases own.backend <;> exact id
  · exact related.ours
  · intro other
    rw [dropped]
    simp only [CacheBackend.lookup_erase, CacheBackend.owner_erase]
    split
    · rename_i same
      rw [← same]
      exact .inl ⟨(CacheBackend.lookup_eq_none_iff.mpr missing).symm,
        missing.symm⟩
    · exact related.rows other

/-- A lookup in both caches at one time. -/
theorem Simulates.of_got (related : Simulates host owner full own)
    (time : full.supply.tick = own.supply.tick) {key tenant nameSpace : String}
    {sourceFingerprints : Option (Finset String)} {later after : CacheState}
    {left right : Except PyException Value}
    (first : URPCache.Got host key tenant nameSpace sourceFingerprints full
      left later)
    (second : URPCache.Got host key tenant nameSpace sourceFingerprints own
      right after) :
    Simulates host owner later after ∧ (tenant = owner → left = right) := by
  rcases related.rows key with ⟨row, -⟩ | ⟨missing, found, present, foreign⟩
  · obtain ⟨same, dropped⟩ := first.deterministic host second row time
    exact ⟨related.of_drop key dropped, fun _ => same⟩
  · have absent : own.backend.lookup host key = none :=
      CacheBackend.lookup_eq_none_iff.mpr missing
    obtain ⟨rfl, rfl⟩ : right = .ok .none ∧ after = own := by
      cases second <;> simp_all
    cases first with
    | absent none | unreadable none =>
        rw [present] at none
        cases none
    | outOfScope => exact ⟨related, fun _ => rfl⟩
    | expired _ inside due same =>
        refine ⟨related.of_foreign_drop missing ?_, fun _ => rfl⟩
        exact congrArg (CacheBackend.erase · key) same
    | hit read inside live same =>
        refine ⟨related.of_drop key (.inl ⟨same, rfl⟩), fun ofOwner => ?_⟩
        rw [present] at read
        cases read
        exact (foreign
          ((URPCache.tenant_of_isInScope inside).trans ofOwner)).elim

/-- A put of the owner in both caches at one time. -/
theorem Simulates.put (related : Simulates host owner full own)
    (time : full.supply.tick = own.supply.tick) {entry : CacheEntry}
    (ofOwner : entry.tenant = owner) :
    Simulates host owner (URPCache.put host entry full).2
      (URPCache.put host entry own).2 := by
  have first := URPCache.ensures_put host entry full
  have second := URPCache.ensures_put host entry own
  rcases left : URPCache.put host entry full with ⟨_ | _, later⟩ <;>
    rcases right : URPCache.put host entry own with ⟨_ | _, after⟩
  · obtain ⟨-, same, -⟩ := first.of_error left
    obtain ⟨-, alike, -⟩ := second.of_error right
    exact related.of_drop entry.key (.inl ⟨same, alike⟩)
  · obtain ⟨refused, -⟩ := first.of_error left
    exact (refused (time ▸ (second.of_ok right).1)).elim
  · obtain ⟨refused, -⟩ := second.of_error right
    exact (refused (time ▸ (first.of_ok left).1)).elim
  · obtain ⟨-, wrote⟩ := first.of_ok left
    obtain ⟨-, written⟩ := second.of_ok right
    constructor
    · have kind := related.kind
      have before := wrote.kind
      have after := written.kind
      revert kind before after
      cases full.backend <;> cases own.backend <;> cases later.backend <;>
        cases after.backend <;> simp [CacheBackend.SameKind]
    · intro key tenant
      rw [written.owner]
      split
      · rintro ⟨⟩
        exact ofOwner
      · exact related.ours key tenant
    · intro key
      rw [wrote.lookup, wrote.owner, written.lookup, written.owner,
        related.kind.readBack_eq]
      split
      · exact .inl ⟨rfl, rfl⟩
      · exact related.rows key

/-- A put of another tenant in the first cache only. -/
theorem Simulates.foreign_put (related : Simulates host owner full own)
    {entry : CacheEntry} (foreign : entry.tenant ≠ owner)
    (respects : Respects host owner full (.put full.supply.tick entry)) :
    Simulates host owner (URPCache.put host entry full).2 own := by
  have spec := URPCache.ensures_put host entry full
  rcases run : URPCache.put host entry full with ⟨_ | _, later⟩
  · obtain ⟨-, same, -⟩ := spec.of_error run
    exact related.of_drop entry.key (.inl ⟨same, rfl⟩)
  · obtain ⟨accepts, wrote⟩ := spec.of_ok run
    rcases respects with ofOwner | refused | ⟨untouched, found, read⟩
    · exact (foreign ofOwner).elim
    · exact (refused accepts).elim
    · have missing : own.backend.owner entry.key = none := by
        cases holder : own.backend.owner entry.key with
        | none => rfl
        | some tenant =>
            have ofOwner := related.ours _ _ holder
            rcases related.rows entry.key with ⟨-, same⟩ | ⟨missing, -⟩
            · rw [same, holder, ofOwner] at untouched
              exact (untouched rfl).elim
            · rw [missing] at holder
              cases holder
      constructor
      · have kind := related.kind
        have before := wrote.kind
        revert kind before
        cases full.backend <;> cases own.backend <;> cases later.backend <;>
          simp [CacheBackend.SameKind]
      · exact related.ours
      · intro key
        rw [wrote.lookup, wrote.owner]
        split
        · rename_i same
          rw [← same]
          refine .inr ⟨missing, found, by rw [read], ?_⟩
          rw [CacheBackend.tenant_readBack read]
          exact foreign
        · exact related.rows key

/-- The same reading of the clock in both caches. -/
theorem Simulates.at_tick (related : Simulates host owner full own)
    (tick : Nat) :
    Simulates host owner
      { full with supply := { full.supply with tick } }
      { own with supply := { own.supply with tick } } :=
  ⟨related.kind, related.ours, related.rows⟩

/-- A use in the run with every put, and in the other run if it remains. -/
theorem Simulates.step (related : Simulates host owner full own)
    (use : CacheUse) (respects : Respects host owner full use) :
    if use.remains owner then
      Simulates host owner (useStep host full use).2 (useStep host own use).2 ∧
        (use.isGetOf owner = true →
          (useStep host full use).1 = (useStep host own use).1)
    else Simulates host owner (useStep host full use).2 own := by
  have timed := related.at_tick use.tick
  cases use with
  | put tick entry =>
      simp only [useStep, CacheUse.call, cacheStep_put, CacheUse.remains,
        beq_iff_eq]
      split
      · rename_i ofOwner
        exact ⟨timed.put rfl ofOwner, nofun⟩
      · rename_i foreign
        have same : Simulates host owner
            { full with supply := { full.supply with tick } } own :=
          ⟨related.kind, related.ours, related.rows⟩
        exact same.foreign_put foreign respects
  | get tick key tenant nameSpace sourceFingerprints =>
      simp only [useStep, CacheUse.call, cacheStep_get, CacheUse.remains,
        if_true]
      obtain ⟨next, answers⟩ := timed.of_got rfl
        (URPCache.get_got host key tenant nameSpace sourceFingerprints _)
        (URPCache.get_got host key tenant nameSpace sourceFingerprints _)
      refine ⟨next, fun ofOwner => ?_⟩
      have same : tenant = owner := by
        simpa [CacheUse.isGetOf] using ofOwner
      exact congrArg (Except.map CacheReply.value) (answers same)

theorem Simulates.lookups_eq (related : Simulates host owner full own)
    {uses : List CacheUse}
    (respects : ∀ visit ∈ Run.visits (useStep host) full uses,
      Respects host owner visit.before visit.input) :
    lookups host owner full uses =
      lookups host owner own (uses.filter (CacheUse.remains owner)) := by
  induction uses generalizing full own with
  | nil => rfl
  | cons use rest ih =>
      have step := related.step use (respects _ List.mem_cons_self)
      have later : ∀ visit ∈ Run.visits (useStep host)
          (useStep host full use).2 rest,
          Respects host owner visit.before visit.input :=
        fun visit member => respects visit (List.mem_cons_of_mem _ member)
      cases remains : use.remains owner with
      | true =>
          rw [remains] at step
          obtain ⟨next, answers⟩ := step
          rw [List.filter_cons_of_pos remains, lookups_cons, lookups_cons,
            ih next later]
          split
          · rename_i ofOwner
            rw [answers ofOwner]
          · rfl
      | false =>
          rw [remains] at step
          have other : use.isGetOf owner = false := by
            cases use with
            | put => rfl
            | get => cases remains
          rw [List.filter_cons_of_neg (by simp [remains]), lookups_cons, other,
            ih step later]
          rfl

end Simulation

/-- Noninterference in every run in which each put respects the owner. -/
theorem cacheTenants_undisturbed (host : Host) (owner : String)
    (backend : CacheBackend)
    (empty : backend = .memory ∅ ∨ backend = .sqlite ∅) (supply : Supply)
    (uses : List CacheUse)
    (respects : ∀ visit ∈ Run.visits (useStep host) ⟨backend, supply⟩ uses,
      Respects host owner visit.before visit.input) :
    Undisturbed host owner ⟨backend, supply⟩ uses := by
  have start : Simulates host owner ⟨backend, supply⟩ ⟨backend, supply⟩ := by
    constructor
    · exact .refl _
    · intro key tenant present
      rcases empty with rfl | rfl <;> simp [CacheBackend.owner] at present
    · exact fun key => .inl ⟨rfl, rfl⟩
  exact start.lookups_eq respects

def sampleRow (tenant value : String) : CacheEntry where
  key := "k"
  tenant
  nameSpace := "docs"
  value := .str value
  verifierPassed := true

/-- The texts that the lookups returned. -/
def replyTexts (replies : List (Except PyException CacheReply)) :
    List (Option String) :=
  replies.map fun
    | .ok (.value value) => value.string?
    | _ => none

theorem cacheTenants_undisturbed_sample :
    Undisturbed Host.counting "acme" ⟨.sqlite ∅, {}⟩
      [.put 0 (sampleRow "globex" "other"), .put 1 (sampleRow "acme" "answer"),
        .get 2 "k" "acme" "docs" (some ∅)] := by
  apply cacheTenants_undisturbed _ _ _ (.inr rfl)
  intro visit member
  simp only [Run.visits, List.mem_cons, List.not_mem_nil, or_false] at member
  rcases member with rfl | rfl | rfl
  · have free : (CacheBackend.sqlite ∅).owner "k" ≠ some "acme" := by
      intro owned
      cases owned
    refine .inr (.inr ⟨free, ?_⟩)
    have readable : ((CacheBackend.sqlite ∅).readBack Host.counting
        (sampleRow "globex" "other")).isOk = true := by decide +kernel
    revert readable
    change ((CacheBackend.sqlite ∅).readBack Host.counting _).isOk = true →
      ∃ found, (CacheBackend.sqlite ∅).readBack Host.counting _ = .ok found
    cases (CacheBackend.sqlite ∅).readBack Host.counting
      (sampleRow "globex" "other") with
    | error error =>
        intro readable
        cases readable
    | ok found => exact fun _ => ⟨found, rfl⟩
  · exact .inl rfl
  · trivial

/-- Another tenant's put under the same key replaces the row. -/
theorem cacheTenants_disturbed :
    ¬ Undisturbed Host.counting "acme" ⟨.sqlite ∅, {}⟩
      [.put 0 (sampleRow "acme" "answer"), .put 1 (sampleRow "globex" "other"),
        .get 2 "k" "acme" "docs" (some ∅)] := by
  intro undisturbed
  have texts := congrArg replyTexts undisturbed
  revert texts
  decide +kernel

end Urp
