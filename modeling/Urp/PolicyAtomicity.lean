import Urp.PolicyNaming
import Urp.Recording

/-!
# Policy changes as one step

A publish or a rollback writes its files and appends to the ledger one after
the other.  The main theorem says exactly when a command does either all of
this or nothing.
-/

namespace Urp

open Python Program

/-! ## What the files take -/

namespace PolicyFiles

/-- A directory for the name can be made: the name is not that of the file of
active versions, or nothing but a directory is there. -/
def Houses (files : PolicyFiles) (name : String) : Prop :=
  name = "active.json" → ∀ versions, files.activeFile ≠ .file versions

/-- The files after the directory was made and the record written. -/
def stored (files : PolicyFiles) (record : PolicyRecord) : PolicyFiles where
  records := files.records.insert (record.name, record.version)
    { record with bundle := record.bundle.sorted }
  activeFile :=
    if record.name = "active.json" then .directory else files.activeFile

/-- The files after the version was made the active one, if it can be. -/
def pointed (files : PolicyFiles) (name version : String) : PolicyFiles :=
  match files.activeFile with
  | .absent => { files with
      activeFile := .file (Dict.insert ∅ name version) }
  | .file versions => { files with
      activeFile := .file (versions.insert name version) }
  | .directory => files

theorem pointed_eq_self_iff {files : PolicyFiles} {name version : String} :
    files.pointed name version = files ↔
      files.activeFile = .directory ∨ files.IsActiveVersion name version := by
  obtain ⟨records, file⟩ := files
  cases file with
  | absent => simp [pointed, IsActiveVersion]
  | file versions =>
      simp [pointed, IsActiveVersion, Dict.insert_eq_self_iff]
  | directory => simp [pointed]

theorem isActiveVersion_pointed {files : PolicyFiles} (name version : String)
    (writable : files.activeFile ≠ .directory) :
    (files.pointed name version).IsActiveVersion name version := by
  unfold pointed
  cases file : files.activeFile with
  | absent => exact ⟨_, rfl, Dict.lookup_insert_self _ _ _⟩
  | file versions => exact ⟨_, rfl, Dict.lookup_insert_self _ _ _⟩
  | directory => exact absurd file writable

end PolicyFiles

namespace PolicyBundleStore

open PolicyFiles

theorem ensures_writeRecord_run (record : PolicyRecord) (files : PolicyFiles) :
    Ensures (writeRecord record) files
      (fun _ later => files.Houses record.name ∧ later = files.stored record)
      (fun _ later => ¬ files.Houses record.name ∧ later = files) := by
  unfold writeRecord makeDirectory Houses stored
  simp only [ensures_bind, Program.ensures_get]
  by_cases named : record.name = "active.json"
  · simp only [named, if_true]
    cases file : files.activeFile with
    | absent => simp
    | file versions => simp
    | directory => simp
  · simp [named]

theorem ensures_writeActive_run {name version : String}
    (nameValid : isIdentifier name = true)
    (versionValid : isIdentifier version = true) (files : PolicyFiles) :
    Ensures (writeActive name version) files
      (fun _ later => files.activeFile ≠ .directory ∧
        later = files.pointed name version)
      (fun _ later => files.activeFile = .directory ∧ later = files) := by
  unfold writeActive readActive pointed
  simp only [validateIdentifier_of_isIdentifier nameValid,
    validateIdentifier_of_isIdentifier versionValid, lift_ok_bind,
    ensures_bind, Program.ensures_get]
  cases file : files.activeFile with
  | absent => simp
  | file versions => simp
  | directory => simp

end PolicyBundleStore

/-! ## Commands -/

namespace PolicyBundleStore

def publishedName (bundle : PolicyBundle) : String :=
  bundle.name?.getD "default"

def publishedVersion (bundle : PolicyBundle) : String :=
  textOr bundle.version?
    (String.ofList ((bundleHash bundle).toList.take 16))

def publishedRecord (host : Host) (supply : Supply) (bundle : PolicyBundle) :
    PolicyRecord where
  name := publishedName bundle
  version := publishedVersion bundle
  publishedAt := host.isoformat (host.clock supply.tick)
  bundle := bundle
  bundleHash := bundleHash bundle

end PolicyBundleStore

open PolicyBundleStore PolicyFiles

/-- The event of a publish, before it is stamped. -/
def publishedEvent (bundle : PolicyBundle) (actor : String) : LedgerEvent where
  eventType := "policy.bundle.published"
  tenant := bundle.tenant
  policyBundleId := some (publishedName bundle)
  actor := some actor
  decision := some (publishedVersion bundle)
  details := .ofList [("bundle_hash", .str (bundleHash bundle))]

/-- The event of a rollback of this bundle, before it is stamped. -/
def rolledBackEvent (bundle : PolicyBundle) (name version actor : String)
    (previous : Option String) : LedgerEvent where
  eventType := "policy.bundle.rolled_back"
  tenant := bundle.tenant
  policyBundleId := some name
  actor := some actor
  decision := some version
  details := .ofList [("previous_version", optionalText previous)]

/-- The record is retrieved intact. -/
structure PolicyFiles.Retrieves (files : PolicyFiles) (name version : String)
    (record : PolicyRecord) : Prop where
  nameValid : isIdentifier name = true
  versionValid : isIdentifier version = true
  found : files.records.lookup (name, version) = some record
  intact : bundleHash record.bundle = record.bundleHash

/-- Publishing the bundle writes something. -/
structure PolicyFiles.Admits (files : PolicyFiles) (bundle : PolicyBundle) :
    Prop where
  valid : isValidBundle bundle = true
  nameValid : isIdentifier (publishedName bundle) = true
  versionValid : isIdentifier (publishedVersion bundle) = true
  houses : files.Houses (publishedName bundle)

/-- Every write of publishing the bundle succeeds. -/
structure PolicyState.Completes (host : Host) (session : Session)
    (state : PolicyState) (bundle : PolicyBundle) : Prop where
  elsewhere : publishedName bundle ≠ "active.json"
  writable : state.files.activeFile ≠ .directory
  takes : state.ledger.Takes host session bundle.tenant

/-- What is written is there already. -/
structure PolicyFiles.Stands (files : PolicyFiles) (record : PolicyRecord) :
    Prop where
  stored : files.records.lookup (record.name, record.version) =
    some { record with bundle := record.bundle.sorted }
  pointed : files.activeFile = .directory ∨
    files.IsActiveVersion record.name record.version

theorem PolicyFiles.stands_iff {files : PolicyFiles} {record : PolicyRecord}
    (houses : files.Houses record.name) :
    (files.stored record).pointed record.name record.version = files ↔
      files.Stands record := by
  obtain ⟨records, file⟩ := files
  have stands : PolicyFiles.Stands ⟨records, file⟩ record ↔
      records.insert (record.name, record.version)
          { record with bundle := record.bundle.sorted } = records ∧
        (file = .directory ∨
          IsActiveVersion ⟨records, file⟩ record.name record.version) := by
    rw [Dict.insert_eq_self_iff]
    exact ⟨fun stands => ⟨stands.stored, stands.pointed⟩,
      fun both => ⟨both.1, both.2⟩⟩
  rw [stands]
  by_cases named : record.name = "active.json"
  · cases file with
    | absent => simp [stored, pointed, named, IsActiveVersion]
    | file versions => exact absurd rfl (houses named versions)
    | directory => simp [stored, pointed, named]
  · cases file with
    | absent => simp [stored, pointed, named, IsActiveVersion]
    | file versions =>
        simp [stored, pointed, named, IsActiveVersion, Dict.insert_eq_self_iff]
    | directory => simp [stored, pointed, named]

namespace PolicyCommand

def name : PolicyCommand → String
  | publish bundle _ => publishedName bundle
  | rollback name _ _ => name

def version : PolicyCommand → String
  | publish bundle _ => publishedVersion bundle
  | rollback _ version _ => version

def actor : PolicyCommand → String
  | publish _ actor => actor
  | rollback _ _ actor => actor

def eventType : PolicyCommand → String
  | publish _ _ => "policy.bundle.published"
  | rollback _ _ _ => "policy.bundle.rolled_back"

/-- The bundle that becomes the active one. -/
def bundle? (files : PolicyFiles) : PolicyCommand → Option PolicyBundle
  | publish bundle _ => some bundle
  | rollback name version _ =>
      (files.records.lookup (name, version)).map PolicyRecord.bundle

/-- The event reports the command. -/
structure Audited (command : PolicyCommand) (files : PolicyFiles)
    (event : LedgerEvent) : Prop where
  eventType : event.eventType = command.eventType
  tenant : some event.tenant = (command.bundle? files).map PolicyBundle.tenant
  policyBundleId : event.policyBundleId = some command.name
  decision : event.decision = some command.version
  actor : event.actor = some command.actor

/-- A command that returns has made its version the active one and appended
one event that reports it; a command that raises has changed nothing. -/
def Atomic (host : Host) (session : Session) (state : PolicyState)
    (command : PolicyCommand) : Prop :=
  Ensures (fun state => policyStep host state (session, command)) state
    (fun _ later =>
      later.files.IsActiveVersion command.name command.version ∧
        ∃ event, command.Audited state.files event ∧
          later.ledger.file =
            state.ledger.file ++ utf8 (event.line ++ ['\n']))
    (fun _ later => later.files = state.files ∧
      later.ledger.file = state.ledger.file)

/-- Nothing is written, or everything is, or all of it is there already. -/
def Settles (host : Host) (session : Session) (state : PolicyState) :
    PolicyCommand → Prop
  | publish bundle _ => state.files.Admits bundle →
      state.Completes host session bundle ∨
        state.files.Stands (publishedRecord host state.ledger.supply bundle)
  | rollback name version _ => ∀ record,
      state.files.Retrieves name version record →
        state.files.activeFile ≠ .directory →
          state.ledger.Takes host session record.bundle.tenant ∨
            state.files.IsActiveVersion name version

end PolicyCommand

section Runs

variable {host : Host} {session : Session} {state : PolicyState}

theorem not_isIdentifier_of_refused {value label : String}
    {error : PyException}
    (refused : validateIdentifier value label = .error error) :
    ¬ isIdentifier value = true := by
  intro identifier
  rw [validateIdentifier_of_isIdentifier identifier] at refused
  cases refused

theorem ensures_publish_run (reliable : host.Reliable) (bundle : PolicyBundle)
    (actor : String) :
    Ensures (publish host session bundle actor) state
      (fun _ later => state.files.Admits bundle ∧
        state.Completes host session bundle ∧
        later.files = (state.files.stored
          (publishedRecord host state.ledger.supply bundle)).pointed
            (publishedName bundle) (publishedVersion bundle) ∧
        ∃ supply previous,
          later.ledger.file = state.ledger.file ++
            utf8 ((((publishedEvent bundle actor).stamped host
              supply).withChainHash previous).line ++ ['\n']))
      (fun _ later => later.ledger.file = state.ledger.file ∧
        (¬ state.files.Admits bundle ∧ later.files = state.files ∨
          state.files.Admits bundle ∧ ¬ state.Completes host session bundle ∧
            later.files = (state.files.stored
              (publishedRecord host state.ledger.supply bundle)).pointed
                (publishedName bundle) (publishedVersion bundle))) := by
  let record := publishedRecord host state.ledger.supply bundle
  let drawn : Supply := { state.ledger.supply with
    tick := state.ledger.supply.tick + 1 }
  unfold publish
  rw [ensures_bind, ensures_lift]
  refine ⟨fun _ checked => ?_, fun error refused => ?_⟩
  swap
  · refine ⟨rfl, .inl ⟨fun admits => ?_, rfl⟩⟩
    simp [validatePolicyBundle, validateNamedSchema, admits.valid] at refused
  have valid : isValidBundle bundle = true := by
    simpa [validatePolicyBundle, validateNamedSchema] using checked
  rw [ensures_bind, ensures_lift]
  refine ⟨fun name nameChecked => ?_, fun error refused => ?_⟩
  swap
  · exact ⟨rfl, .inl ⟨fun admits =>
      not_isIdentifier_of_refused refused admits.nameValid, rfl⟩⟩
  obtain ⟨rfl, nameValid⟩ := validateIdentifier_eq_ok nameChecked
  rw [ensures_bind, ensures_lift]
  refine ⟨fun version versionChecked => ?_, fun error refused => ?_⟩
  swap
  · exact ⟨rfl, .inl ⟨fun admits =>
      not_isIdentifier_of_refused refused admits.versionValid, rfl⟩⟩
  obtain ⟨rfl, versionValid⟩ := validateIdentifier_eq_ok versionChecked
  rw [ensures_bind, ensures_focus, ensures_focus]
  apply (ensures_of_run (rfl : host.utcNow state.ledger.supply =
    (.ok record.publishedAt, drawn))).mpr
  rw [ensures_bind, ensures_focus]
  apply (ensures_writeRecord_run record state.files).mono
  swap
  · rintro error _ ⟨unhoused, rfl⟩
    exact ⟨rfl, .inl ⟨fun admits => unhoused admits.houses, rfl⟩⟩
  rintro _ _ ⟨houses, rfl⟩
  have admits : state.files.Admits bundle :=
    ⟨valid, nameValid, versionValid, houses⟩
  rw [ensures_bind, ensures_focus]
  apply (ensures_writeActive_run nameValid versionValid
    (state.files.stored record)).mono
  swap
  · rintro error _ ⟨directory, rfl⟩
    refine ⟨rfl, .inr ⟨admits, fun completes => ?_,
      (pointed_eq_self_iff.mpr (.inl directory)).symm⟩⟩
    have elsewhere : record.name ≠ "active.json" := completes.elsewhere
    simp only [stored, elsewhere, if_false] at directory
    exact completes.writable directory
  rintro _ _ ⟨writable, rfl⟩
  have elsewhere : record.name ≠ "active.json" := by
    intro named
    simp [stored, named] at writable
  have free : state.files.activeFile ≠ .directory := by
    simpa [stored, elsewhere] using writable
  rw [ensures_bind, ensures_focus]
  apply (ensures_record reliable rfl { state.ledger with supply := drawn }).mono
  · rintro recorded later ⟨takes, ⟨previous, rfl⟩, file⟩
    exact ⟨admits, ⟨elsewhere, free, (takes_supply _ _).mp takes⟩, rfl, drawn,
      previous, file⟩
  · rintro error later ⟨untaken, file⟩
    exact ⟨file, .inr ⟨admits,
      fun completes => untaken ((takes_supply _ _).mpr completes.takes), rfl⟩⟩

theorem ensures_get_run (name version : String) (files : PolicyFiles) :
    Ensures (PolicyBundleStore.get name version) files
      (fun record later => later = files ∧
        files.Retrieves name version record)
      (fun _ later => later = files ∧
        ∀ record, ¬ files.Retrieves name version record) := by
  unfold PolicyBundleStore.get
  rw [ensures_bind, ensures_lift]
  refine ⟨fun _ nameChecked => ?_, fun error refused => ⟨rfl, fun _ found =>
    not_isIdentifier_of_refused refused found.nameValid⟩⟩
  rw [ensures_bind, ensures_lift]
  refine ⟨fun _ versionChecked => ?_, fun error refused => ⟨rfl, fun _ found =>
    not_isIdentifier_of_refused refused found.versionValid⟩⟩
  have nameValid := (validateIdentifier_eq_ok nameChecked).2
  have versionValid := (validateIdentifier_eq_ok versionChecked).2
  rw [ensures_bind, Program.ensures_get]
  cases looked : files.records.lookup (name, version) with
  | none =>
      refine ⟨rfl, fun record found => ?_⟩
      rw [found.found] at looked
      cases looked
  | some record =>
      simp only [ensures_ite, pure_eq_ret, ensures_ret, ensures_raise,
        true_and]
      constructor
      · exact fun intact => ⟨nameValid, versionValid, looked, intact⟩
      · intro broken other found
        have same := found.found
        rw [looked, Option.some.injEq] at same
        subst same
        exact broken found.intact

theorem ensures_readActive_run (files : PolicyFiles) :
    Ensures readActive files (fun _ later => later = files)
      (fun _ later => later = files ∧ files.activeFile = .directory) := by
  unfold readActive
  simp only [ensures_bind, Program.ensures_get]
  cases file : files.activeFile with
  | absent => simp
  | file versions => simp
  | directory => simp

theorem ensures_rollback_run (reliable : host.Reliable)
    (name version actor : String) :
    Ensures (rollback host session name version actor) state
      (fun _ later =>
        state.files.activeFile ≠ .directory ∧
        later.files = state.files.pointed name version ∧
        ∃ record, state.files.Retrieves name version record ∧
          state.ledger.Takes host session record.bundle.tenant ∧
          ∃ supply before previous,
            later.ledger.file = state.ledger.file ++
              utf8 ((((rolledBackEvent record.bundle name version actor
                before).stamped host supply).withChainHash previous).line ++
                  ['\n']))
      (fun _ later => later.ledger.file = state.ledger.file ∧
        (later.files = state.files ∧
            (state.files.activeFile = .directory ∨
              ∀ record, ¬ state.files.Retrieves name version record) ∨
          state.files.activeFile ≠ .directory ∧
            later.files = state.files.pointed name version ∧
            ∃ record, state.files.Retrieves name version record ∧
              ¬ state.ledger.Takes host session record.bundle.tenant)) := by
  unfold rollback
  rw [ensures_bind, ensures_focus]
  apply (ensures_get_run name version state.files).mono
  swap
  · rintro error _ ⟨rfl, missing⟩
    exact ⟨rfl, .inl ⟨rfl, .inr missing⟩⟩
  rintro record _ ⟨rfl, found⟩
  rw [ensures_bind, ensures_focus]
  apply (ensures_readActive_run state.files).mono
  swap
  · rintro error _ ⟨rfl, directory⟩
    exact ⟨rfl, .inl ⟨rfl, .inl directory⟩⟩
  rintro previous _ rfl
  rw [ensures_bind, ensures_focus]
  apply (ensures_writeActive_run found.nameValid found.versionValid
    state.files).mono
  swap
  · rintro error _ ⟨directory, rfl⟩
    exact ⟨rfl, .inl ⟨rfl, .inl directory⟩⟩
  rintro _ _ ⟨writable, rfl⟩
  rw [ensures_bind, ensures_focus]
  apply (ensures_record reliable _ state.ledger).mono
  · rintro recorded later ⟨takes, ⟨chain, rfl⟩, file⟩
    exact ⟨writable, rfl, record, found, takes, _, _, chain, file⟩
  · rintro error later ⟨untaken, file⟩
    exact ⟨file, .inr ⟨writable, rfl, record, found, untaken⟩⟩
  · cases previous.lookup name <;> rfl

theorem atomic_publish_iff (reliable : host.Reliable) (bundle : PolicyBundle)
    (actor : String) :
    (PolicyCommand.publish bundle actor).Atomic host session state ↔
      (PolicyCommand.publish bundle actor).Settles host session state := by
  have exits := @ensures_publish_run host session state reliable bundle actor
  rcases run : publish host session bundle actor state with
    ⟨error | record, later⟩
  · refine (ensures_of_raise run).trans ?_
    obtain ⟨ledger, unwritten | ⟨admits, incomplete, files⟩⟩ :=
      exits.of_error run
    · exact ⟨fun _ admits => absurd admits unwritten.1,
        fun _ => ⟨unwritten.2, ledger⟩⟩
    · have stands := @stands_iff state.files
        (publishedRecord host state.ledger.supply bundle) admits.houses
      rw [files]
      constructor
      · exact fun same _ => .inr (stands.mp same.1)
      · intro settles
        rcases settles admits with completes | standing
        · exact absurd completes incomplete
        · exact ⟨stands.mpr standing, ledger⟩
  · obtain ⟨-, completes, files, supply, previous, file⟩ := exits.of_ok run
    refine (ensures_of_run run).trans ?_
    refine ⟨fun _ _ => .inl completes, fun _ => ⟨?_, _,
      ⟨rfl, rfl, rfl, rfl, rfl⟩, file⟩⟩
    rw [files]
    apply isActiveVersion_pointed
    have elsewhere : (publishedRecord host state.ledger.supply bundle).name ≠
      "active.json" := completes.elsewhere
    rw [stored, if_neg elsewhere]
    exact completes.writable

theorem atomic_rollback_iff (reliable : host.Reliable)
    (name version actor : String) :
    (PolicyCommand.rollback name version actor).Atomic host session state ↔
      (PolicyCommand.rollback name version actor).Settles host session state := by
  have exits := @ensures_rollback_run host session state reliable name version
    actor
  rcases run : rollback host session name version actor state with
    ⟨error | record, later⟩
  · refine (ensures_of_raise run).trans ?_
    obtain ⟨ledger, unwritten | ⟨writable, files, record, found, untaken⟩⟩ :=
      exits.of_error run
    · refine ⟨fun _ record found writable => ?_,
        fun _ => ⟨unwritten.1, ledger⟩⟩
      rcases unwritten.2 with directory | missing
      · exact absurd directory writable
      · exact absurd found (missing record)
    · have pointed := @pointed_eq_self_iff state.files name version
      rw [files]
      constructor
      · intro same other again _
        exact .inr ((pointed.mp same.1).resolve_left writable)
      · intro settles
        rcases settles record found writable with takes | active
        · exact absurd takes untaken
        · exact ⟨pointed.mpr (.inr active), ledger⟩
  · obtain ⟨writable, files, record, found, takes, supply, previous, chain,
      file⟩ := exits.of_ok run
    refine (ensures_of_run run).trans ?_
    constructor
    · intro _ other again _
      have same := again.found
      rw [found.found, Option.some.injEq] at same
      subst same
      exact .inl takes
    · intro _
      refine ⟨?_, _, ⟨rfl, ?_, rfl, rfl, rfl⟩, file⟩
      · rw [files]
        exact isActiveVersion_pointed _ _ writable
      · simp [PolicyCommand.bundle?, found.found, LedgerEvent.withChainHash,
          rolledBackEvent, LedgerEvent.stamped]

/-- A publish or a rollback does all of its writes or none exactly if the
ledger and the file of active versions take theirs, or nothing is new. -/
theorem policyChange_atomic_iff (reliable : host.Reliable)
    (command : PolicyCommand) :
    command.Atomic host session state ↔ command.Settles host session state := by
  cases command with
  | publish bundle actor => exact atomic_publish_iff reliable bundle actor
  | rollback name version actor =>
      exact atomic_rollback_iff reliable name version actor

end Runs

/-! ## A principal of another tenant -/

/-- A valid bundle of the tenant. -/
def tenantBundle (tenant : Option String) : PolicyBundle where
  apiVersion := some "urp.dev/v1"
  kind := some "ReductionPolicy"
  metadata := some { name := some "default-safe", version := some "1", tenant }
  spec := some {
    defaults := some { contract := some "exact_bytes" }
    rules := some [] }

def acmeSession : Session := { currentTenant := some "acme" }

theorem completes_acme : PolicyState.Completes Host.counting acmeSession {}
    (tenantBundle (some "acme")) := by
  have readable : LedgerState.LastReadable Host.counting ⟨ledgerFile [], {}⟩ := by
    unfold LedgerState.LastReadable
    rw [lastEventUnlocked_nil]
    rfl
  exact ⟨by decide, fun directory => (nomatch directory), rfl, by decide,
    readable⟩

/-- A publish under the principal of the bundle's tenant is atomic. -/
theorem policyChange_atomic_acme :
    PolicyState.Completes Host.counting acmeSession {}
        (tenantBundle (some "acme")) ∧
      (PolicyCommand.publish (tenantBundle (some "acme")) "ops").Atomic
        Host.counting acmeSession {} := by
  refine ⟨completes_acme, ?_⟩
  rw [policyChange_atomic_iff Host.counting_reliable]
  exact fun _ => .inl completes_acme

/-- A bundle that names no tenant belongs to `system`; under a principal of
another tenant it becomes active without an event. -/
theorem unownedBundle_not_atomic :
    ¬ (PolicyCommand.publish (tenantBundle none) "ops").Atomic
      Host.counting acmeSession {} := by
  rw [atomic_publish_iff Host.counting_reliable]
  intro settles
  have admits : PolicyFiles.Admits {} (tenantBundle none) :=
    ⟨by decide, by decide, by decide, fun named => absurd named (by decide)⟩
  rcases settles admits with completes | stands
  · have admitted := completes.takes.admitted
    cases admitted
  · obtain ⟨⟨⟩⟩ | ⟨versions, file, -⟩ := stands.pointed
    cases file

end Urp
