import Urp.PolicyAtomicity

/-!
# Published versions

The ledger keeps every publish, and the record file of a version only the
last.  A version that is published again with another bundle, whether or not
that publish returns, leaves an event whose bundle can no longer be had.
-/

namespace Urp

open Python Program PolicyBundleStore

/-- The event says that a bundle of this hash was published as a version. -/
structure LedgerEvent.Publishes (event : LedgerEvent)
    (name version hash : String) : Prop where
  eventType : event.eventType = "policy.bundle.published"
  name : event.policyBundleId = some name
  version : event.decision = some version
  hash : event.details.get "bundle_hash" = .str hash

/-- The ledger reads, and every bundle that it says was published can be had
under its version. -/
def PolicyState.Immutable (host : Host) (state : PolicyState) : Prop :=
  ∃ events, (JSONLLedger.readUnlocked host state.ledger).1 = .ok events ∧
    ∀ event ∈ events, ∀ name version hash,
      event.Publishes name version hash →
        ∃ record, PolicyBundleStore.get name version state.files =
            (.ok record, state.files) ∧
          bundleHash record.bundle = hash

/-- A visit of a run of publishes and rollbacks. -/
abbrev PolicyVisit :=
  Run.Visit PolicyState (Session × PolicyCommand)
    (Except PyException PolicyRecord)

/-- The visit returned from a publish of the bundle. -/
def Published (v : PolicyVisit) (bundle : PolicyBundle) : Prop :=
  v.output.isOk = true ∧ ∃ session actor,
    v.input = (session, .publish bundle actor)

/-- A publish that passes its checks has the bundle of every earlier publish
of the same version. -/
def KeepsVersions (past : List PolicyVisit) (v : PolicyVisit) : Prop :=
  ∀ session bundle actor, v.input = (session, .publish bundle actor) →
    v.before.files.Admits bundle →
      ∀ w ∈ past, ∀ earlier, Published w earlier →
        publishedName earlier = publishedName bundle →
          publishedVersion earlier = publishedVersion bundle →
            bundleHash earlier = bundleHash bundle

/-- Some visit returned from publishing a bundle of this hash as the
version. -/
def WasPublished (history : List PolicyVisit) (name version hash : String) :
    Prop :=
  ∃ v ∈ history, ∃ bundle, Published v bundle ∧ name = publishedName bundle ∧
    version = publishedVersion bundle ∧ hash = bundleHash bundle

/-! ## What the ledger says -/

theorem LedgerEvent.publishes_canonical {event : LedgerEvent}
    {name version hash : String} :
    event.canonical.Publishes name version hash ↔
      event.Publishes name version hash := by
  have details : event.canonical.details.get "bundle_hash" =
      (event.details.get "bundle_hash").sorted :=
    get_sorted event.details.distinct "bundle_hash"
  have text : (event.details.get "bundle_hash").sorted = .str hash ↔
      event.details.get "bundle_hash" = .str hash := by
    cases event.details.get "bundle_hash" <;> simp [Value.sorted]
  constructor
  · intro publishes
    exact ⟨publishes.eventType, publishes.name, publishes.version,
      text.mp (details.symm.trans publishes.hash)⟩
  · intro publishes
    exact ⟨publishes.eventType, publishes.name, publishes.version,
      details.trans (text.mpr publishes.hash)⟩

theorem publishes_publishedEvent {host : Host} {bundle : PolicyBundle}
    {actor : String} {supply : Supply} {previous : Option String}
    {name version hash : String} :
    (((publishedEvent bundle actor).stamped host supply).withChainHash
        previous).Publishes name version hash ↔
      name = publishedName bundle ∧ version = publishedVersion bundle ∧
        hash = bundleHash bundle := by
  constructor
  · intro publishes
    refine ⟨?_, ?_, ?_⟩
    · exact (Option.some.inj publishes.name).symm
    · exact (Option.some.inj publishes.version).symm
    · have stored : (Value.str (bundleHash bundle)) = .str hash :=
        publishes.hash
      cases stored
      rfl
  · rintro ⟨rfl, rfl, rfl⟩
    exact ⟨rfl, rfl, rfl, rfl⟩

/-! ## What a command does -/

/-- A command overwrites one record and may publish it, or keeps them all. -/
inductive PolicyEffect (v : PolicyVisit) : Prop where
  | writes (bundle : PolicyBundle) (added : List LedgerEvent)
      (publish : ∃ session actor, v.input = (session, .publish bundle actor))
      (admits : v.before.files.Admits bundle)
      (records : ∃ record : PolicyRecord,
        bundleHash record.bundle = bundleHash bundle ∧
          v.after.files.records = v.before.files.records.insert
            (publishedName bundle, publishedVersion bundle) record)
      (file : v.after.ledger.file = v.before.ledger.file ++ ledgerFile added)
      (readable : ∀ event ∈ added, event.Readable)
      (published : ∀ name version hash,
        (∃ event ∈ added, event.Publishes name version hash) ↔
          v.output.isOk = true ∧ name = publishedName bundle ∧
            version = publishedVersion bundle ∧ hash = bundleHash bundle)
  | keeps (added : List LedgerEvent)
      (unpublished : ∀ bundle, (∃ session actor,
        v.input = (session, .publish bundle actor)) →
          ¬ v.before.files.Admits bundle ∧ v.output.isOk = false)
      (records : v.after.files.records = v.before.files.records)
      (file : v.after.ledger.file = v.before.ledger.file ++ ledgerFile added)
      (readable : ∀ event ∈ added, event.Readable)
      (silent : ∀ event ∈ added, ∀ name version hash,
        ¬ event.Publishes name version hash)

theorem records_pointed (files : PolicyFiles) (name version : String) :
    (files.pointed name version).records = files.records := by
  unfold PolicyFiles.pointed
  cases files.activeFile <;> rfl

section Effects

variable {host : Host} (reliable : host.Reliable)

include reliable

theorem policyEffect_publish (state : PolicyState) (session : Session)
    (bundle : PolicyBundle) (actor : String) :
    PolicyEffect
      (Run.visit (policyStep host) state (session, .publish bundle actor)) := by
  have exits := @ensures_publish_run host session state reliable bundle actor
  have stored : ∃ record : PolicyRecord,
      bundleHash record.bundle = bundleHash bundle ∧
        ((state.files.stored
          (publishedRecord host state.ledger.supply bundle)).pointed
            (publishedName bundle) (publishedVersion bundle)).records =
          state.files.records.insert
            (publishedName bundle, publishedVersion bundle) record :=
    ⟨_, bundleHash_sorted bundle, records_pointed _ _ _⟩
  rcases run : publish host session bundle actor state with
    ⟨error | record, later⟩
  · have visit : Run.visit (policyStep host) state
        (session, .publish bundle actor) =
        ⟨state, (session, .publish bundle actor), .error error, later⟩ := by
      simp only [Run.visit, policyStep, run]
    rw [visit]
    obtain ⟨file, ⟨unadmitted, files⟩ | ⟨admits, -, files⟩⟩ :=
      exits.of_error run
    · refine .keeps [] ?_ (by rw [files]) ?_ (by simp) (by simp)
      · rintro other ⟨_, _, same⟩
        cases same
        exact ⟨unadmitted, rfl⟩
      · rw [ledgerFile_nil, List.append_nil]
        exact file
    · refine .writes bundle [] ⟨_, _, rfl⟩ admits ?_ ?_ (by simp) ?_
      · rw [files]
        exact stored
      · rw [ledgerFile_nil, List.append_nil]
        exact file
      · intro name version hash
        constructor
        · rintro ⟨event, member, -⟩
          cases member
        · rintro ⟨returned, -⟩
          cases returned
  · have visit : Run.visit (policyStep host) state
        (session, .publish bundle actor) =
        ⟨state, (session, .publish bundle actor), .ok record, later⟩ := by
      simp only [Run.visit, policyStep, run]
    rw [visit]
    obtain ⟨admits, -, files, supply, previous, file⟩ := exits.of_ok run
    rw [← ledgerFile_singleton] at file
    refine .writes bundle [_] ⟨_, _, rfl⟩ admits ?_ file ?_ ?_
    · rw [files]
      exact stored
    · intro event member
      rw [List.mem_singleton.mp member]
      exact readable_stamped reliable rfl supply previous
    · intro name version hash
      simp only [List.mem_singleton, exists_eq_left, publishes_publishedEvent]
      exact ⟨fun same => ⟨rfl, same⟩, fun both => both.2⟩

theorem policyEffect_rollback (state : PolicyState) (session : Session)
    (name version actor : String) :
    PolicyEffect (Run.visit (policyStep host) state
      (session, .rollback name version actor)) := by
  have exits :=
    @ensures_rollback_run host session state reliable name version actor
  have notPublish : ∀ (output : Except PyException PolicyRecord) bundle,
      (∃ other actor', (session, PolicyCommand.rollback name version actor) =
        (other, .publish bundle actor')) →
      ¬ state.files.Admits bundle ∧ output.isOk = false := by
    rintro output bundle ⟨_, _, same⟩
    cases same
  rcases run : rollback host session name version actor state with
    ⟨error | record, later⟩
  · have visit : Run.visit (policyStep host) state
        (session, .rollback name version actor) =
        ⟨state, (session, .rollback name version actor), .error error,
          later⟩ := by
      simp only [Run.visit, policyStep, run]
    rw [visit]
    obtain ⟨file, files⟩ := exits.of_error run
    refine .keeps [] (notPublish _) ?_ ?_ (by simp) (by simp)
    · rcases files with ⟨files, -⟩ | ⟨-, files, -⟩
      · rw [files]
      · rw [files]
        exact records_pointed _ _ _
    · rw [ledgerFile_nil, List.append_nil]
      exact file
  · have visit : Run.visit (policyStep host) state
        (session, .rollback name version actor) =
        ⟨state, (session, .rollback name version actor), .ok record,
          later⟩ := by
      simp only [Run.visit, policyStep, run]
    rw [visit]
    obtain ⟨-, files, stored, -, -, supply, before, previous, file⟩ :=
      exits.of_ok run
    rw [← ledgerFile_singleton] at file
    refine .keeps [_] (notPublish _) ?_ file ?_ ?_
    · rw [files]
      exact records_pointed _ _ _
    · intro event member
      rw [List.mem_singleton.mp member]
      refine readable_stamped reliable ?_ supply previous
      cases before <;> rfl
    · intro event member name version hash publishes
      rw [List.mem_singleton.mp member] at publishes
      have other : "policy.bundle.rolled_back" = "policy.bundle.published" :=
        publishes.eventType
      exact absurd other (by decide)

/-- A command, run from a state, has one of the effects. -/
theorem exists_policyVisit (state : PolicyState)
    (command : Session × PolicyCommand) :
    ∃ v, v = Run.visit (policyStep host) state command ∧ v.before = state ∧
      v.after = (policyStep host state command).2 ∧ PolicyEffect v := by
  refine ⟨_, rfl, rfl, rfl, ?_⟩
  obtain ⟨session, command⟩ := command
  cases command with
  | publish bundle actor =>
      exact policyEffect_publish reliable state session bundle actor
  | rollback name version actor =>
      exact policyEffect_rollback reliable state session name version actor

end Effects

/-! ## The ledger of a run -/

/-- The ledger tells what the visits published. -/
structure Journal (history : List PolicyVisit) (state : PolicyState) : Prop where
  consistent : state.files.Consistent
  named : ∀ name version hash, WasPublished history name version hash →
    isIdentifier name = true ∧ isIdentifier version = true
  told : ∃ events, state.ledger.file = ledgerFile events ∧
    (∀ event ∈ events, event.Readable) ∧
    ∀ name version hash, (∃ event ∈ events, event.Publishes name version hash) ↔
      WasPublished history name version hash

/-- The record of every published version is that of the published bundle. -/
def Kept (history : List PolicyVisit) (files : PolicyFiles) : Prop :=
  ∀ name version hash, WasPublished history name version hash →
    ∃ record, files.records.lookup (name, version) = some record ∧
      bundleHash record.bundle = hash

theorem wasPublished_append_singleton {history : List PolicyVisit}
    {v : PolicyVisit} {name version hash : String} :
    WasPublished (history ++ [v]) name version hash ↔
      WasPublished history name version hash ∨
        ∃ bundle, Published v bundle ∧ name = publishedName bundle ∧
          version = publishedVersion bundle ∧ hash = bundleHash bundle := by
  simp [WasPublished, or_and_right, exists_or]

theorem publishes_append {events added : List LedgerEvent}
    {name version hash : String} :
    (∃ event ∈ events ++ added, event.Publishes name version hash) ↔
      (∃ event ∈ events, event.Publishes name version hash) ∨
        ∃ event ∈ added, event.Publishes name version hash := by
  simp [or_and_right, exists_or]

theorem journal_empty (supply : Supply) :
    Journal [] { ledger := { supply } } := by
  refine ⟨PolicyFiles.consistent_empty, ?_, [], rfl, by simp, ?_⟩
  · rintro name version hash ⟨v, member, -⟩
    cases member
  · intro name version hash
    simp [WasPublished]

/-- A step extends the journal. -/
theorem journal_step {host : Host} (reliable : host.Reliable)
    {history : List PolicyVisit} {state : PolicyState}
    (journal : Journal history state) (command : Session × PolicyCommand) :
    Journal (history ++ [Run.visit (policyStep host) state command])
      (policyStep host state command).2 := by
  have consistent :=
    @consistent_policyStep host state journal.consistent command
  obtain ⟨events, file, readable, told⟩ := journal.told
  obtain ⟨v, eq, before, after, effect⟩ :=
    exists_policyVisit reliable state command
  rw [← eq]
  rw [← after] at consistent ⊢
  cases effect with
  | writes bundle added publish admits records grown addedReadable published =>
      have now : ∀ name version hash,
          (∃ other, Published v other ∧ name = publishedName other ∧
            version = publishedVersion other ∧ hash = bundleHash other) ↔
          v.output.isOk = true ∧ name = publishedName bundle ∧
            version = publishedVersion bundle ∧ hash = bundleHash bundle := by
        intro name version hash
        constructor
        · rintro ⟨other, ⟨returned, session, actor, input⟩, same⟩
          obtain ⟨_, _, again⟩ := publish
          rw [input] at again
          cases again
          exact ⟨returned, same⟩
        · rintro ⟨returned, same⟩
          exact ⟨bundle, ⟨returned, publish⟩, same⟩
      refine ⟨consistent, ?_, events ++ added, ?_, ?_, ?_⟩
      · intro name version hash was
        rw [wasPublished_append_singleton, now] at was
        rcases was with earlier | ⟨-, rfl, rfl, -⟩
        · exact journal.named name version hash earlier
        · exact ⟨admits.nameValid, admits.versionValid⟩
      · rw [grown, before, file, ledgerFile_append_list]
      · rw [List.forall_mem_append]
        exact ⟨readable, addedReadable⟩
      · intro name version hash
        rw [publishes_append, told, published, wasPublished_append_singleton,
          now]
  | keeps added unpublished records grown addedReadable silent =>
      have never : ∀ bundle, ¬ Published v bundle := by
        rintro bundle ⟨returned, publish⟩
        rw [(unpublished bundle publish).2] at returned
        cases returned
      have same : ∀ name version hash,
          WasPublished (history ++ [v]) name version hash ↔
            WasPublished history name version hash := by
        intro name version hash
        rw [wasPublished_append_singleton]
        refine or_iff_left ?_
        rintro ⟨bundle, published, -⟩
        exact never bundle published
      refine ⟨consistent, ?_, events ++ added, ?_, ?_, ?_⟩
      · intro name version hash was
        exact journal.named name version hash
          ((same name version hash).mp was)
      · rw [grown, before, file, ledgerFile_append_list]
      · rw [List.forall_mem_append]
        exact ⟨readable, addedReadable⟩
      · intro name version hash
        rw [publishes_append, told, same]
        refine or_iff_left ?_
        rintro ⟨event, member, publishes⟩
        exact silent event member name version hash publishes

/-- With such a ledger, the versions are immutable exactly when their records
are kept. -/
theorem immutable_iff_kept (host : Host) {history : List PolicyVisit}
    {state : PolicyState} (journal : Journal history state) :
    state.Immutable host ↔ Kept history state.files := by
  obtain ⟨events, file, readable, told⟩ := journal.told
  have read := readUnlocked_ledgerFile host readable state.ledger.supply
  rw [← file] at read
  have reads : (JSONLLedger.readUnlocked host state.ledger).1 =
      .ok (events.map LedgerEvent.canonical) := congrArg Prod.fst read
  constructor
  · rintro ⟨rows, rowsRead, immutable⟩ name version hash was
    obtain rfl := Except.ok.inj (rowsRead.symm.trans reads)
    obtain ⟨event, member, publishes⟩ := (told name version hash).mpr was
    obtain ⟨record, got, same⟩ := immutable event.canonical
      (List.mem_map_of_mem member) name version hash
      (LedgerEvent.publishes_canonical.mpr publishes)
    have exits := @ensures_get state.files name version
    exact ⟨record, (exits.of_ok got).2.2.2, same⟩
  · intro kept
    refine ⟨_, reads, ?_⟩
    intro row member name version hash publishes
    obtain ⟨event, eventMember, rfl⟩ := List.mem_map.mp member
    have was := (told name version hash).mp
      ⟨event, eventMember, LedgerEvent.publishes_canonical.mp publishes⟩
    obtain ⟨record, found, same⟩ := kept name version hash was
    obtain ⟨nameValid, versionValid⟩ := journal.named name version hash was
    exact ⟨record, get_of_lookup journal.consistent nameValid versionValid
      found, same⟩

/-! ## Runs -/

/-- A step from a state that keeps its versions keeps them exactly if it
publishes no other bundle under one of them. -/
theorem kept_step_iff {host : Host} (reliable : host.Reliable)
    {history : List PolicyVisit} {state : PolicyState}
    (kept : Kept history state.files) (command : Session × PolicyCommand) :
    Kept (history ++ [Run.visit (policyStep host) state command])
        (policyStep host state command).2.files ↔
      KeepsVersions history (Run.visit (policyStep host) state command) := by
  obtain ⟨v, eq, before, after, effect⟩ :=
    exists_policyVisit reliable state command
  rw [← eq]
  rw [← after]
  cases effect with
  | writes bundle added publish admits records grown readable published =>
      obtain ⟨session, actor, input⟩ := publish
      obtain ⟨record, recordHash, written⟩ := records
      rw [before] at written
      have now : v.after.files.records.lookup
          (publishedName bundle, publishedVersion bundle) = some record := by
        rw [written, Dict.lookup_insert_self]
      constructor
      · intro keptAfter session' other actor' same _ w past earlier published'
          sameName sameVersion
        rw [input] at same
        cases same
        obtain ⟨found, lookup, hash⟩ := keptAfter _ _ _
          (wasPublished_append_singleton.mpr
            (.inl ⟨w, past, earlier, published', rfl, rfl, rfl⟩))
        rw [sameName, sameVersion, now] at lookup
        cases lookup
        exact hash.symm.trans recordHash
      · intro keeps name version hash was
        rw [wasPublished_append_singleton] at was
        rcases was with was | ⟨other, ⟨-, _, _, again⟩, rfl, rfl, rfl⟩
        · by_cases same : (name, version) =
              (publishedName bundle, publishedVersion bundle)
          · obtain ⟨rfl, rfl⟩ := Prod.mk.inj same
            obtain ⟨w, past, earlier, published', sameName, sameVersion,
              rfl⟩ := was
            exact ⟨record, now, recordHash.trans (keeps session bundle actor
              input admits w past earlier published' sameName.symm
              sameVersion.symm).symm⟩
          · obtain ⟨found, lookup, hashed⟩ := kept name version hash was
            refine ⟨found, ?_, hashed⟩
            rw [written, Dict.lookup_insert_ne _ _ (Ne.symm same), lookup]
        · rw [input] at again
          cases again
          exact ⟨record, now, recordHash⟩
  | keeps added unpublished records grown readable silent =>
      rw [before] at records
      constructor
      · intro _ session bundle actor input admits
        exact absurd admits (unpublished bundle ⟨session, actor, input⟩).1
      · intro _ name version hash was
        rw [wasPublished_append_singleton] at was
        rcases was with earlier | ⟨bundle, ⟨returned, publish⟩, -⟩
        · rw [records]
          exact kept name version hash earlier
        · rw [(unpublished bundle publish).2] at returned
          cases returned

/-- The versions are immutable throughout a run of publishes and rollbacks
exactly if no publish that passes its checks has another bundle than an
earlier publish of its version. -/
theorem immutable_iff {host : Host} (reliable : host.Reliable) (supply : Supply)
    (commands : List (Session × PolicyCommand)) :
    Run.Each (fun _ v => v.after.Immutable host)
        (Run.visits (policyStep host) { ledger := { supply } } commands) ↔
      Run.Each KeepsVersions
        (Run.visits (policyStep host) { ledger := { supply } } commands) := by
  let good : List PolicyVisit → PolicyState → Prop :=
    fun history state => Journal history state ∧ Kept history state.files
  apply @Run.each_iff_of_step _ _ _ (policyStep host) _ good
  · refine ⟨journal_empty supply, ?_⟩
    rintro name version hash ⟨v, member, -⟩
    cases member
  · rintro history state command ⟨journal, kept⟩
    have after := journal_step reliable journal command
    exact (immutable_iff_kept host after).trans
      (kept_step_iff reliable kept command)
  · rintro history state command ⟨journal, kept⟩ keeps
    exact ⟨journal_step reliable journal command,
      (kept_step_iff reliable kept command).mpr keeps⟩

/-! ## A version published twice -/

theorem returns_of_completes {host : Host} (reliable : host.Reliable)
    {session : Session} {state : PolicyState} {bundle : PolicyBundle}
    (admits : state.files.Admits bundle)
    (completes : state.Completes host session bundle) (actor : String) :
    (Run.visit (policyStep host) state
      (session, .publish bundle actor)).output.isOk = true := by
  have exits := @ensures_publish_run host session state reliable bundle actor
  rcases run : publish host session bundle actor state with
    ⟨error | record, later⟩
  · obtain ⟨-, ⟨unadmitted, -⟩ | ⟨-, incomplete, -⟩⟩ := exits.of_error run
    · exact absurd admits unadmitted
    · exact absurd completes incomplete
  · simp only [Run.visit, policyStep, run]
    rfl

/-- Two publishes of one version with different bundles leave the first event
without its bundle. -/
theorem republished_not_immutable {host : Host} (reliable : host.Reliable)
    {session : Session} {supply : Supply} {bundle other : PolicyBundle}
    (admits : PolicyFiles.Admits {} bundle)
    (completes : PolicyState.Completes host session { ledger := { supply } }
      bundle)
    (otherAdmits : ∀ files : PolicyFiles, files.Admits other)
    (sameName : publishedName bundle = publishedName other)
    (sameVersion : publishedVersion bundle = publishedVersion other)
    (differ : bundleHash bundle ≠ bundleHash other) (actor : String) :
    ¬ Run.Each (fun _ v => v.after.Immutable host)
      (Run.visits (policyStep host) { ledger := { supply } }
        [(session, .publish bundle actor),
          (session, .publish other actor)]) := by
  intro immutable
  let start : PolicyState := { ledger := { supply } }
  let first : Session × PolicyCommand := (session, .publish bundle actor)
  let second : Session × PolicyCommand := (session, .publish other actor)
  let next := (policyStep host start first).2
  let v := Run.visit (policyStep host) start first
  have returned : v.output.isOk = true :=
    returns_of_completes reliable admits completes actor
  have none : Kept [] start.files := by
    rintro name version hash ⟨w, member, -⟩
    cases member
  have kept : Kept ([] ++ [v]) next.files := by
    refine (kept_step_iff reliable none first).mpr ?_
    intro _ _ _ _ _ w member
    cases member
  have journal : Journal ([] ++ [v]) next :=
    journal_step reliable (journal_empty supply) first
  have after := journal_step reliable journal second
  have overwritten : PolicyState.Immutable host (policyStep host next second).2 :=
    immutable [v] (Run.visit (policyStep host) next second) [] rfl
  have keeps := (kept_step_iff reliable kept second).mp
    ((immutable_iff_kept host after).mp overwritten)
  exact differ (keeps session other actor rfl (otherAdmits _) v
    List.mem_cons_self bundle ⟨returned, session, actor, rfl⟩ sameName
    sameVersion)

/-- A publish of acme's bundle and a return to it. -/
def acmeCommands : List (Session × PolicyCommand) :=
  [({}, .publish (tenantBundle (some "acme")) "ops"),
    ({}, .rollback "default-safe" "1" "ops"),
    ({}, .publish (tenantBundle (some "acme")) "ops")]

theorem immutable_acme :
    Host.counting.Reliable ∧
      Run.Each (fun _ v => v.after.Immutable Host.counting)
        (Run.visits (policyStep Host.counting) {} acmeCommands) := by
  refine ⟨Host.counting_reliable, ?_⟩
  refine (immutable_iff Host.counting_reliable {} acmeCommands).mpr ?_
  have one : ∀ command ∈ acmeCommands, ∀ session bundle actor,
      command = (session, .publish bundle actor) →
        bundle = tenantBundle (some "acme") := by
    intro command member session bundle actor publish
    simp only [acmeCommands, List.mem_cons, List.not_mem_nil, or_false]
      at member
    rcases member with rfl | rfl | rfl <;> cases publish <;> rfl
  intro past v rest split session bundle actor input _ w member earlier
    published _ _
  obtain ⟨-, otherSession, otherActor, otherInput⟩ := published
  have visited : ∀ u ∈ past ++ v :: rest, u.input ∈ acmeCommands := by
    intro u inHistory
    rw [← split] at inHistory
    exact (Run.visit_of_mem inHistory).1
  rw [one _ (visited v (by simp)) session bundle actor input,
    one _ (visited w (by simp [member])) otherSession earlier otherActor
      otherInput]

theorem bundleHash_tenantBundle_ne :
    bundleHash (tenantBundle (some "acme")) ≠
      bundleHash (tenantBundle none) := by
  decide +kernel

/-- A publish under a version that acme's bundle has replaces its record. -/
theorem overwritten_not_immutable :
    ¬ Run.Each (fun _ v => v.after.Immutable Host.counting)
      (Run.visits (policyStep Host.counting) {}
        [({}, .publish (tenantBundle (some "acme")) "ops"),
          ({}, .publish (tenantBundle none) "ops")]) := by
  have completes : PolicyState.Completes Host.counting {} {}
      (tenantBundle (some "acme")) :=
    ⟨by decide, fun directory => (nomatch directory), rfl, by decide,
      completes_acme.takes.readable⟩
  have name : ∀ tenant, publishedName (tenantBundle tenant) =
      "default-safe" := by
    intro tenant
    rfl
  have version : ∀ tenant, publishedVersion (tenantBundle tenant) = "1" := by
    intro tenant
    simp [publishedVersion, tenantBundle, PolicyBundle.version?, textOr]
  have admits : ∀ (files : PolicyFiles) tenant,
      isValidBundle (tenantBundle tenant) = true →
        files.Admits (tenantBundle tenant) := by
    intro files tenant valid
    refine ⟨valid, ?_, ?_, ?_⟩
    · rw [name]
      decide
    · rw [version]
      decide
    · intro same
      rw [name] at same
      exact absurd same (by decide)
  apply republished_not_immutable Host.counting_reliable _ completes
  · exact fun files => admits files _ (by decide)
  · rw [name, name]
  · rw [version, version]
  · exact bundleHash_tenantBundle_ne
  · exact admits {} _ (by decide)

end Urp
