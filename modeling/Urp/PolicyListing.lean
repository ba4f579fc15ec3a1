import Urp.Library.Latest
import Urp.PolicyVersions

/-!
# Published bundles

What can be had from the policy store after a run of publishes, by name and
version, in the list, and as the active version of a name.  Names and versions
become names of files next to the store's own; the main theorem says which of
them it bears.
-/

namespace Urp

open Python Program PolicyBundleStore Latest

namespace PolicyBundleStore

def recordFileName (version : String) : String := version ++ ".json"

/-- The files `*/*.json`, sorted by their paths. -/
def recordFiles (files : PolicyFiles) :
    List ((String × String) × PolicyRecord) :=
  files.records.entries.insertionSort fun left right =>
    left.1.1 < right.1.1 ∨ left.1.1 = right.1.1 ∧
      recordFileName left.1.2 ≤ recordFileName right.1.2

def loadRecord (entry : (String × String) × PolicyRecord) :
    Program PolicyFiles PyException PolicyRecord :=
  if bundleHash entry.2.bundle = entry.2.bundleHash then
    return entry.2
  else
    Program.raise (.valueError
      ("policy bundle integrity check failed: policies/" ++ entry.1.1 ++ "/" ++
        recordFileName entry.1.2))

/-- `list`. -/
def list : Program PolicyFiles PyException (List PolicyRecord) := do
  let files ← Program.get
  let paths := (recordFiles files).filter fun entry =>
    recordFileName entry.1.2 ≠ "active.json"
  Program.forEach paths loadRecord

end PolicyBundleStore

/-! ## Publishes -/

structure PolicyPublish where
  session : Session
  bundle : PolicyBundle
  actor : String

namespace PolicyPublish

def name (p : PolicyPublish) : String := publishedName p.bundle

def version (p : PolicyPublish) : String := publishedVersion p.bundle

def key (p : PolicyPublish) : String × String := (p.name, p.version)

def command (p : PolicyPublish) : Session × PolicyCommand :=
  (p.session, .publish p.bundle p.actor)

/-- The record holds the bundle under its name and version, as it reads
back. -/
structure Keeps (p : PolicyPublish) (record : PolicyRecord) : Prop where
  name : record.name = p.name
  version : record.version = p.version
  bundle : record.bundle = p.bundle.sorted

/-- The name and the version are identifiers and no names of the store's own,
and the principal, if there is one, is that of the bundle. -/
structure Fits (p : PolicyPublish) : Prop where
  nameValid : isIdentifier p.name = true
  versionValid : isIdentifier p.version = true
  nameFree : p.name ≠ "active.json"
  versionFree : p.version ≠ "active"
  admitted : requireTenant p.session p.bundle.tenant = .ok ()

end PolicyPublish

def publishStep (host : Host) (state : PolicyState) (p : PolicyPublish) :
    Except PyException PolicyRecord × PolicyState :=
  policyStep host state p.command

/-- A visit of a run of publishes. -/
abbrev PublishVisit :=
  Run.Visit PolicyState PolicyPublish (Except PyException PolicyRecord)

/-- The files after publishes into a fresh store. -/
def publishedFiles (host : Host) (supply : Supply)
    (publishes : List PolicyPublish) : PolicyFiles :=
  (Run.final (publishStep host) { ledger := { supply } } publishes).files

/-- Every publish returns, the last bundle of each name and version can be
had, each of them is listed once and nothing else is, and the last version of
each name is the active one. -/
structure Serves (host : Host) (supply : Supply)
    (publishes : List PolicyPublish) : Prop where
  succeeds : ∀ v ∈ Run.visits (publishStep host) { ledger := { supply } }
    publishes, v.output.isOk = true
  gets : ∀ p, LastBy PolicyPublish.key publishes p →
    let files := publishedFiles host supply publishes
    ∃ record, get p.name p.version files = (.ok record, files) ∧ p.Keeps record
  lists :
    let files := publishedFiles host supply publishes
    ∃ records, list files = (.ok records, files) ∧
      (records.map fun record => (record.name, record.version)).Nodup ∧
      ∀ record, record ∈ records ↔
        ∃ p ∈ publishes, get p.name p.version files = (.ok record, files)
  activates : ∀ p, LastBy PolicyPublish.name publishes p →
    let files := publishedFiles host supply publishes
    ∃ record, active p.name files = (.ok record, files) ∧ p.Keeps record

/-! ## Lists -/

theorem recordFileName_eq_active_iff {version : String} :
    recordFileName version = "active.json" ↔ version = "active" := by
  constructor
  · intro same
    have texts := congrArg String.toList same
    rw [recordFileName, String.toList_append] at texts
    have split : "active.json".toList = "active".toList ++ ".json".toList := rfl
    rw [split] at texts
    exact String.toList_inj.mp (List.append_cancel_right texts)
  · rintro rfl
    rfl

section Listing

variable {files : PolicyFiles}

/-- The records that are listed. -/
def PolicyFiles.listed (files : PolicyFiles) : List PolicyRecord :=
  ((recordFiles files).filter fun entry =>
    recordFileName entry.1.2 ≠ "active.json").map Prod.snd

theorem mem_recordFiles {key : String × String} {record : PolicyRecord} :
    (key, record) ∈ recordFiles files ↔
      files.records.lookup key = some record := by
  rw [← Dict.mem_entries_iff]
  exact (List.perm_insertionSort _ _).mem_iff

/-- An intact store lists its records. -/
theorem list_run (consistent : files.Consistent) :
    list files = (.ok files.listed, files) := by
  unfold list
  rw [get_bind, @forEach_ret _ _ _ _ _ _ Prod.snd]
  · rfl
  · rintro ⟨key, record⟩ member
    have found := mem_recordFiles.mp (List.mem_of_mem_filter member)
    rw [loadRecord, if_pos (consistent.intact key record found)]
    rfl

/-- Every record is listed but those of a version with the name of the file of
active versions. -/
theorem mem_listed {record : PolicyRecord} :
    record ∈ files.listed ↔ ∃ name version, version ≠ "active" ∧
      files.records.lookup (name, version) = some record := by
  simp only [PolicyFiles.listed, List.mem_map, List.mem_filter, ne_eq,
    decide_not, Bool.not_eq_true', decide_eq_false_iff_not,
    recordFileName_eq_active_iff]
  constructor
  · rintro ⟨⟨⟨name, version⟩, _⟩, ⟨member, other⟩, rfl⟩
    exact ⟨name, version, other, mem_recordFiles.mp member⟩
  · rintro ⟨name, version, other, found⟩
    exact ⟨((name, version), record), ⟨mem_recordFiles.mpr found, other⟩, rfl⟩

/-- A record is filed under its name and version. -/
def PolicyFiles.Filed (files : PolicyFiles) : Prop :=
  ∀ key record, files.records.lookup key = some record →
    key = (record.name, record.version)

/-- No two records of one name and version are listed. -/
theorem nodup_listed (filed : files.Filed) :
    (files.listed.map fun record => (record.name, record.version)).Nodup := by
  have keys : files.listed.map (fun record => (record.name, record.version)) =
      ((recordFiles files).filter fun entry =>
        recordFileName entry.1.2 ≠ "active.json").map Prod.fst := by
    rw [PolicyFiles.listed, List.map_map]
    apply List.map_congr_left
    rintro ⟨key, record⟩ member
    exact (filed key record
      (mem_recordFiles.mp (List.mem_of_mem_filter member))).symm
  rw [keys]
  apply List.Nodup.sublist (List.filter_sublist.map Prod.fst)
  exact (((List.perm_insertionSort _ _).map Prod.fst).nodup_iff).mpr
    files.records.distinct

end Listing

/-! ## One publish -/

/-- What the store holds after the publishes. -/
structure KeepsPublishes (publishes : List PolicyPublish)
    (state : PolicyState) : Prop where
  stored : ∀ p, LastBy PolicyPublish.key publishes p → ∃ record,
    state.files.records.lookup p.key = some record ∧ p.Keeps record
  published : ∀ key record, state.files.records.lookup key = some record →
    ∃ p ∈ publishes, p.key = key
  pointed : ∀ p, LastBy PolicyPublish.name publishes p →
    state.files.IsActiveVersion p.name p.version
  writable : state.files.activeFile ≠ .directory
  recorded : ∃ events, state.ledger.file = ledgerFile events ∧
    ∀ event ∈ events, event.Readable

theorem keepsPublishes_empty (supply : Supply) :
    KeepsPublishes [] { ledger := { supply } } := by
  constructor
  · exact fun p is => absurd is not_lastBy_nil
  · intro key record found
    cases found
  · exact fun p is => absurd is not_lastBy_nil
  · intro directory
    cases directory
  · exact ⟨[], rfl, by simp⟩

section Steps

variable {host : Host} {state : PolicyState} {p : PolicyPublish}
variable {publishes : List PolicyPublish}

theorem tenant_ne_empty {bundle : PolicyBundle}
    (valid : isValidBundle bundle = true) : bundle.tenant ≠ "" := by
  simp only [isValidBundle, Bool.and_eq_true] at valid
  have described := valid.1.2
  unfold PolicyBundle.tenant
  cases written : bundle.metadata with
  | none => decide
  | some metadata =>
      rw [written] at described
      simp only [Option.any_some, isValidMetadata, Bool.and_eq_true]
        at described
      have named := described.1.2
      cases owner : metadata.tenant with
      | none => simp [owner]
      | some tenant =>
          rw [owner] at named
          simpa [owner] using named

/-- A publish that fits returns. -/
theorem KeepsPublishes.completes (holds : KeepsPublishes publishes state)
    (valid : isValidBundle p.bundle = true) (fits : p.Fits) :
    state.files.Admits p.bundle ∧ state.Completes host p.session p.bundle := by
  obtain ⟨events, file, readable⟩ := holds.recorded
  have last : state.ledger.LastReadable host := by
    have read := lastEventUnlocked_ledgerFile host readable state.ledger.supply
    rw [← file] at read
    unfold LedgerState.LastReadable
    rw [read]
    rfl
  exact ⟨⟨valid, fits.nameValid, fits.versionValid,
    fun named => absurd named fits.nameFree⟩, fits.nameFree, holds.writable,
    fits.admitted, tenant_ne_empty valid, last⟩

/-- Another name keeps its active version. -/
theorem isActiveVersion_pointed_ne {files : PolicyFiles}
    {name version other active : String} (apart : name ≠ other)
    (before : files.IsActiveVersion other active) :
    (files.pointed name version).IsActiveVersion other active := by
  obtain ⟨versions, file, found⟩ := before
  unfold PolicyFiles.pointed
  rw [file]
  exact ⟨_, rfl, (Dict.lookup_insert_ne _ _ apart).trans found⟩

theorem activeFile_pointed {files : PolicyFiles} {name version : String}
    (writable : files.activeFile ≠ .directory) :
    (files.pointed name version).activeFile ≠ .directory := by
  obtain ⟨versions, file, -⟩ := PolicyFiles.isActiveVersion_pointed name version
    writable
  rw [file]
  exact fun directory => ActiveFile.noConfusion directory

/-- What a publish that fits leaves. -/
theorem KeepsPublishes.later (holds : KeepsPublishes publishes state)
    (fits : p.Fits)
    {later : PolicyState} {supply : Supply} {added : LedgerEvent}
    (files : later.files = (state.files.stored
      (publishedRecord host supply p.bundle)).pointed p.name p.version)
    (readable : added.Readable)
    (file : later.ledger.file = state.ledger.file ++ ledgerFile [added]) :
    KeepsPublishes (publishes ++ [p]) later := by
  let record := publishedRecord host supply p.bundle
  have free : (state.files.stored record).activeFile = state.files.activeFile :=
    if_neg fits.nameFree
  have writable : (state.files.stored record).activeFile ≠ .directory := by
    rw [free]
    exact holds.writable
  have records : later.files.records = state.files.records.insert p.key
      { record with bundle := p.bundle.sorted } := by
    rw [files, records_pointed]
    rfl
  constructor
  · intro q is
    rw [records]
    rcases lastBy_append_singleton_iff.mp is with rfl | ⟨apart, earlier⟩
    · exact ⟨_, Dict.lookup_insert_self _ _ _, ⟨rfl, rfl, rfl⟩⟩
    · rw [Dict.lookup_insert_ne _ _ apart]
      exact holds.stored q earlier
  · intro key held found
    rw [records, Dict.lookup_insert] at found
    split at found
    · rename_i same
      exact ⟨p, by simp, same⟩
    · obtain ⟨q, member, same⟩ := holds.published key held found
      exact ⟨q, List.mem_append_left _ member, same⟩
  · intro q is
    rw [files]
    rcases lastBy_append_singleton_iff.mp is with rfl | ⟨apart, earlier⟩
    · exact PolicyFiles.isActiveVersion_pointed _ _ writable
    · apply isActiveVersion_pointed_ne apart
      obtain ⟨versions, active, found⟩ := holds.pointed q earlier
      exact ⟨versions, free.trans active, found⟩
  · rw [files]
    exact activeFile_pointed writable
  · obtain ⟨events, before, each⟩ := holds.recorded
    refine ⟨events ++ [added], ?_, ?_⟩
    · rw [file, before, ledgerFile_append_list]
    · rw [List.forall_mem_append, List.forall_mem_singleton]
      exact ⟨each, readable⟩

/-- A publish that fits returns. -/
theorem KeepsPublishes.step (reliable : host.Reliable)
    (holds : KeepsPublishes publishes state)
    (valid : isValidBundle p.bundle = true) (fits : p.Fits) :
    (publishStep host state p).1.isOk = true ∧
      KeepsPublishes (publishes ++ [p]) (publishStep host state p).2 := by
  obtain ⟨admits, completes⟩ :=
    @KeepsPublishes.completes host _ _ _ holds valid fits
  have exits := @ensures_publish_run host p.session state reliable p.bundle
    p.actor
  cases run : publish host p.session p.bundle p.actor state with
  | mk result later =>
      have step : publishStep host state p = (result, later) := run
      rw [step]
      cases result with
      | error error =>
          obtain ⟨-, ⟨unadmitted, -⟩ | ⟨-, incomplete, -⟩⟩ := exits.of_error run
          · exact absurd admits unadmitted
          · exact absurd completes incomplete
      | ok record =>
          obtain ⟨-, -, files, supply, previous, file⟩ := exits.of_ok run
          rw [← ledgerFile_singleton] at file
          exact ⟨rfl, holds.later fits files
            (readable_stamped reliable rfl supply previous) file⟩

/-- Whatever becomes of a publish, records are filed under their names. -/
theorem filed_step (reliable : host.Reliable) (filed : state.files.Filed) :
    (publishStep host state p).2.files.Filed := by
  have written : (((state.files.stored
      (publishedRecord host state.ledger.supply p.bundle)).pointed
        (publishedName p.bundle) (publishedVersion p.bundle))).Filed := by
    intro key record found
    rw [records_pointed, PolicyFiles.stored, Dict.lookup_insert] at found
    split at found
    · rename_i same
      cases found
      exact same.symm
    · exact filed key record found
  apply (@ensures_state_iff _ _ _ _ (publish host p.session p.bundle p.actor)
    fun later => later.files.Filed).mp
  apply (@ensures_publish_run host p.session state reliable p.bundle
    p.actor).mono
  · rintro record later ⟨-, -, files, -⟩
    rw [files]
    exact written
  · rintro error later ⟨-, ⟨-, files⟩ | ⟨-, -, files⟩⟩
    · rw [files]
      exact filed
    · rw [files]
      exact written

end Steps

/-! ## Runs of publishes -/

section Runs

variable {host : Host} {supply : Supply} {publishes : List PolicyPublish}

theorem consistent_publishedFiles :
    (publishedFiles host supply publishes).Consistent := by
  apply @Run.final_induction _ _ _ (publishStep host)
    (fun state => state.files.Consistent)
  · exact PolicyFiles.consistent_empty
  · exact fun state p _ before => consistent_policyStep before p.command

theorem filed_publishedFiles (reliable : host.Reliable) :
    (publishedFiles host supply publishes).Filed := by
  apply @Run.final_induction _ _ _ (publishStep host)
    (fun state => state.files.Filed)
  · intro key record found
    cases found
  · exact fun state p _ before => filed_step reliable before

/-- A run of publishes that fit. -/
theorem keepsPublishes_run (reliable : host.Reliable)
    (valid : ∀ p ∈ publishes, isValidBundle p.bundle = true)
    (fits : ∀ p ∈ publishes, p.Fits) :
    (∀ v ∈ Run.visits (publishStep host) { ledger := { supply } } publishes,
        v.output.isOk = true) ∧
      KeepsPublishes publishes
        (Run.final (publishStep host) { ledger := { supply } } publishes) := by
  let good := fun p : PolicyPublish => isValidBundle p.bundle = true ∧ p.Fits
  let holds := fun (history : List PublishVisit) (state : PolicyState) =>
    (∀ v ∈ history, good v.input) →
      (∀ v ∈ history, v.output.isOk = true) ∧
        KeepsPublishes (history.map Run.Visit.input) state
  have whole := @Run.visits_history_induction _ _ _ (publishStep host) holds
    { ledger := { supply } } ?_ ?_ publishes
  · rw [← @Run.visits_input _ _ _ (publishStep host) { ledger := { supply } }
      publishes] at valid fits
    have each := whole fun v member =>
      ⟨valid _ (List.mem_map_of_mem member), fits _ (List.mem_map_of_mem member)⟩
    rw [Run.visits_input] at each
    exact each
  · intro _
    exact ⟨by simp, keepsPublishes_empty supply⟩
  · intro history state p before all
    obtain ⟨returned, held⟩ := before fun v member =>
      all v (List.mem_append_left _ member)
    have now : good p := all (Run.visit (publishStep host) state p) (by simp)
    obtain ⟨ok, after⟩ := held.step reliable now.1 now.2
    rw [List.map_append]
    refine ⟨?_, after⟩
    rw [List.forall_mem_append, List.forall_mem_singleton]
    exact ⟨returned, ok⟩

theorem KeepsPublishes.get_run {state : PolicyState}
    (holds : KeepsPublishes publishes state)
    (consistent : state.files.Consistent) {p : PolicyPublish} (fits : p.Fits)
    (is : LastBy PolicyPublish.key publishes p) :
    ∃ record, get p.name p.version state.files = (.ok record, state.files) ∧
      p.Keeps record := by
  obtain ⟨record, found, keeps⟩ := holds.stored p is
  exact ⟨record, get_of_lookup consistent fits.nameValid fits.versionValid
    found, keeps⟩

theorem serves_of_fits (reliable : host.Reliable)
    (valid : ∀ p ∈ publishes, isValidBundle p.bundle = true)
    (fits : ∀ p ∈ publishes, p.Fits) : Serves host supply publishes := by
  obtain ⟨returned, holds⟩ :=
    @keepsPublishes_run host supply publishes reliable valid fits
  have consistent := @consistent_publishedFiles host supply publishes
  have filed := @filed_publishedFiles host supply publishes reliable
  constructor
  · exact returned
  · intro p is
    exact holds.get_run consistent (fits p is.mem) is
  · refine ⟨_, list_run consistent, nodup_listed filed, fun record => ?_⟩
    rw [mem_listed]
    constructor
    · rintro ⟨name, version, -, found⟩
      obtain ⟨p, member, same⟩ := holds.published _ _ found
      rw [← same] at found
      exact ⟨p, member, get_of_lookup consistent (fits p member).nameValid
        (fits p member).versionValid found⟩
    · rintro ⟨p, member, got⟩
      obtain ⟨-, found⟩ := (ensures_get_run _ _ _).of_ok got
      exact ⟨_, _, (fits p member).versionFree, found.found⟩
  · intro p is
    have refines : ∀ one two : PolicyPublish, one.key = two.key →
        one.name = two.name := fun _ _ same => congrArg Prod.fst same
    obtain ⟨record, found, keeps⟩ := holds.stored p (is.finer refines)
    exact ⟨record, active_of_lookup consistent (holds.pointed p is) found, keeps⟩

/-- A publish that returns is admitted and completes. -/
theorem admits_of_returned (reliable : host.Reliable) {v : PublishVisit}
    (visited : v ∈ Run.visits (publishStep host) { ledger := { supply } }
      publishes) (ok : v.output.isOk = true) :
    v.before.files.Admits v.input.bundle ∧
      v.before.Completes host v.input.session v.input.bundle := by
  have exits := @ensures_publish_run host v.input.session v.before reliable
    v.input.bundle v.input.actor
  rw [(Run.visit_of_mem visited).2] at ok
  cases run : publish host v.input.session v.input.bundle v.input.actor
      v.before with
  | mk result later =>
      have output : (publishStep host v.before v.input).1 = result :=
        congrArg Prod.fst run
      cases result with
      | error error =>
          rw [Run.visit, output] at ok
          cases ok
      | ok record =>
          obtain ⟨admits, completes, -⟩ := exits.of_ok run
          exact ⟨admits, completes⟩

theorem fits_of_serves (reliable : host.Reliable)
    (serves : Serves host supply publishes) {p : PolicyPublish}
    (member : p ∈ publishes) : p.Fits := by
  obtain ⟨v, visited, rfl⟩ := @Run.exists_visit _ _ _ (publishStep host)
    { ledger := { supply } } _ _ member
  obtain ⟨admits, completes⟩ :=
    admits_of_returned reliable visited (serves.succeeds v visited)
  refine ⟨admits.nameValid, admits.versionValid, completes.elsewhere, ?_,
    completes.takes.admitted⟩
  -- What is listed has another version.
  obtain ⟨last, is, same⟩ := @exists_lastBy _ _ PolicyPublish.key _ _ member
  obtain ⟨record, got, keeps⟩ := serves.gets last is
  obtain ⟨records, listing, -, members⟩ := serves.lists
  have whole := (list_run (consistent_publishedFiles)).symm.trans listing
  obtain rfl := Except.ok.inj (congrArg Prod.fst whole)
  obtain ⟨name, version, other, found⟩ :=
    mem_listed.mp ((members record).mpr ⟨last, is.mem, got⟩)
  have filed := filed_publishedFiles reliable _ _ found
  have versions : version = last.version :=
    (congrArg Prod.snd filed).trans keeps.version
  have lastVersion : last.version = v.input.version := congrArg Prod.snd same
  rw [← lastVersion, ← versions]
  exact other

/-- After every run of publishes of valid bundles into a fresh store it serves
them exactly if every name and version is an identifier, no name is
`active.json`, no version is `active`, and no principal is another tenant's. -/
theorem serves_iff (reliable : host.Reliable) (supply : Supply)
    (valid : ∀ p ∈ publishes, isValidBundle p.bundle = true) :
    Serves host supply publishes ↔ ∀ p ∈ publishes, p.Fits :=
  ⟨fun serves _ member => fits_of_serves reliable serves member,
    serves_of_fits reliable valid⟩

/-- A valid bundle of this name and version. -/
def namedBundle (name version : String) : PolicyBundle where
  apiVersion := some "urp.dev/v1"
  kind := some "ReductionPolicy"
  metadata := some { name := some name, version := some version }
  spec := some {
    defaults := some { contract := some "exact_bytes" }
    rules := some [] }

def publishOf (name version : String) : PolicyPublish :=
  ⟨{}, namedBundle name version, "ops"⟩

/-- Two versions of one name, and another name. -/
theorem serves_two_names :
    Serves Host.counting {}
        [publishOf "edge" "1", publishOf "edge" "2", publishOf "active" "1"] ↔
      ∀ p ∈ [publishOf "edge" "1", publishOf "edge" "2", publishOf "active" "1"],
        p.Fits := by
  apply serves_iff Host.counting_reliable
  intro p member
  simp only [List.mem_cons, List.not_mem_nil, or_false] at member
  rcases member with rfl | rfl | rfl <;> decide

/-- The version `active` is published and not listed; under the name
`active.json` nothing is published. -/
theorem storeNames_not_served :
    isValidBundle (namedBundle "edge" "active") = true ∧
      ¬ Serves Host.counting {} [publishOf "edge" "active"] ∧
      isValidBundle (namedBundle "active.json" "1") = true ∧
      ¬ Serves Host.counting {} [publishOf "active.json" "1"] := by
  refine ⟨by decide, fun serves => ?_, by decide, fun serves => ?_⟩
  · have fits := fits_of_serves Host.counting_reliable serves List.mem_cons_self
    exact fits.versionFree (by simp [publishOf, namedBundle,
      PolicyPublish.version, publishedVersion, PolicyBundle.version?, textOr])
  · have fits := fits_of_serves Host.counting_reliable serves List.mem_cons_self
    exact fits.nameFree rfl

end Runs

end Urp
